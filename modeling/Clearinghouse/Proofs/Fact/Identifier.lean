import Clearinghouse.Fact.Identifier
import Clearinghouse.Proofs.Text.Cutting
import Clearinghouse.Proofs.Text.Trimmed

/-!
# The form of a Software Heritage id

A text is kept as an id if it has the form `swh:<version>:<kind>:<hash>` once the blanks around
it are off, and kept in that trimmed form. The kind and the hash are ASCII. The version may be
written in the decimal digits of any script, and this is the only point at which more is kept
than the ids with a version in ASCII digits (`SoftwareHeritageId.keepsExactly_isDigit_iff`).

1. A text is taken apart in one way, since the version ends where the digits end
   (`Parts.version_eq_of_toText_eq`).
2. The checker takes a text for an id exactly if it is put together from parts (`isId_iff`), so
   parsing keeps exactly these texts (`parse_eq_ok_iff`).
3. For a class of decimal digits the checker is exact at a text unless that is an id with
   another digit in its version (`keepsExactly_iff`).
-/

namespace Clearinghouse

open Text

namespace SoftwareHeritageId

/-- The parts of an id whose version is written in digits of the class `digit`. -/
structure Parts (digit : Char → Bool) where
  version : String
  kind : String
  hash : String
  version_ne_empty : version ≠ ""
  digit_of_mem_version : ∀ c ∈ version.toList, digit c
  kind_mem : kind ∈ ["cnt", "dir", "rev", "rel", "snp"]
  length_hash : hash.length = 40
  hex_of_mem_hash : ∀ c ∈ hash.toList, '0' ≤ c ∧ c ≤ '9' ∨ 'a' ≤ c ∧ c ≤ 'f'

namespace Parts

variable {digit digit' : Char → Bool}

/-- The id that the parts make. -/
def toText (p : Parts digit) : String :=
  "swh:" ++ p.version ++ ":" ++ p.kind ++ ":" ++ p.hash

/-- What follows the version in the id. -/
def object (p : Parts digit) : List Char := ':' :: (p.kind.toList ++ ':' :: p.hash.toList)

theorem toList_toText (p : Parts digit) :
    p.toText.toList = ['s', 'w', 'h', ':'] ++ (p.version.toList ++ p.object) := by
  simp [toText, object]

theorem toText_ne_empty (p : Parts digit) : p.toText ≠ "" := by
  intro h
  have hchars := p.toList_toText
  rw [h] at hchars
  cases hchars

/-- The same parts, when all digits of the version are of another class too. -/
def withDigits (p : Parts digit) (h : ∀ c ∈ p.version.toList, digit' c) : Parts digit' :=
  { p with digit_of_mem_version := h }

@[simp] theorem toText_withDigits (p : Parts digit) (h : ∀ c ∈ p.version.toList, digit' c) :
    (p.withDigits h).toText = p.toText := rfl

/-- Parts with digits of a class have digits of a larger class. -/
theorem exists_of_imp (h : ∀ c, digit c → digit' c) (p : Parts digit) :
    ∃ q : Parts digit', q.version = p.version ∧ q.toText = p.toText :=
  ⟨p.withDigits fun c hc => h c (p.digit_of_mem_version c hc), rfl, p.toText_withDigits _⟩

/-! ## Taking apart -/

/-- The digits end at the colon behind the version. -/
theorem takeWhile_version (p : Parts isDecimalDigit) :
    (p.version.toList ++ p.object).takeWhile isDecimalDigit = p.version.toList := by
  have hcolon : ¬ isDecimalDigit ':' := by decide
  rw [object, List.takeWhile_append_of_pos p.digit_of_mem_version,
    List.takeWhile_cons_of_neg hcolon, List.append_nil]

theorem dropWhile_version (p : Parts isDecimalDigit) :
    (p.version.toList ++ p.object).dropWhile isDecimalDigit = p.object := by
  have hcolon : ¬ isDecimalDigit ':' := by decide
  rw [object, List.dropWhile_append_of_pos p.digit_of_mem_version,
    List.dropWhile_cons_of_neg hcolon]

/-- An id has one version. -/
theorem version_eq_of_toText_eq {p q : Parts isDecimalDigit} (h : p.toText = q.toText) :
    p.version = q.version := by
  have hchars := congrArg String.toList h
  rw [toList_toText, toList_toText, List.append_cancel_left_eq] at hchars
  have hversion := congrArg (List.takeWhile isDecimalDigit) hchars
  rw [takeWhile_version, takeWhile_version] at hversion
  exact String.toList_injective hversion

end Parts

/-! ## What the checker takes for an id -/

theorem isHexDigit_iff {c : Char} :
    isHexDigit c = true ↔ '0' ≤ c ∧ c ≤ '9' ∨ 'a' ≤ c ∧ c ≤ 'f' := by
  simp [isHexDigit]

theorem toList_mem_objectKinds_iff {kind : String} :
    kind.toList ∈ objectKinds ↔ kind ∈ ["cnt", "dir", "rev", "rel", "snp"] := by
  have hkinds : objectKinds = ["cnt", "dir", "rev", "rel", "snp"].map String.toList := by decide
  rw [hkinds, List.mem_map_of_injective fun _ _ h => String.toList_injective h]

/-- An object is one of the kinds and forty hexadecimal digits, with a colon before each. -/
theorem isObject_iff {cs : List Char} :
    isObject cs = true ↔ ∃ kind ∈ objectKinds, ∃ hash : List Char,
      cs = ':' :: (kind ++ ':' :: hash) ∧ hash.length = 40 ∧ ∀ c ∈ hash, isHexDigit c := by
  constructor
  · intro h
    unfold isObject at h
    split at h
    · rename_i a b c hash
      simp only [Bool.and_eq_true, List.contains_iff_mem, beq_iff_eq, List.all_eq_true] at h
      exact ⟨[a, b, c], h.1.1, hash, rfl, h.1.2, h.2⟩
    · cases h
  · rintro ⟨kind, hkind, hash, rfl, hlength, hhex⟩
    have hthree : ∀ k ∈ objectKinds, k.length = 3 := by decide
    obtain ⟨a, b, c, rfl⟩ := List.length_eq_three.1 (hthree kind hkind)
    simp only [List.cons_append, List.nil_append, isObject, Bool.and_eq_true,
      List.contains_iff_mem, beq_iff_eq, List.all_eq_true]
    exact ⟨⟨hkind, hlength⟩, hhex⟩

theorem Parts.isObject_object {digit : Char → Bool} (p : Parts digit) : isObject p.object = true :=
  isObject_iff.2 ⟨p.kind.toList, toList_mem_objectKinds_iff.2 p.kind_mem, p.hash.toList, rfl,
    p.length_hash, fun c hc => isHexDigit_iff.2 (p.hex_of_mem_hash c hc)⟩

/-- What the checker asks of the characters makes them parts. -/
theorem exists_parts {digit : Char → Bool} {version kind hash : List Char} (hne : version ≠ [])
    (hdigit : ∀ c ∈ version, digit c) (hkind : kind ∈ objectKinds) (hlength : hash.length = 40)
    (hhex : ∀ c ∈ hash, isHexDigit c) :
    ∃ p : Parts digit, p.version.toList = version ∧ p.object = ':' :: (kind ++ ':' :: hash) := by
  refine ⟨{
    version := .ofList version
    kind := .ofList kind
    hash := .ofList hash
    version_ne_empty := by simpa [String.ext_iff] using hne
    digit_of_mem_version := by rwa [String.toList_ofList]
    kind_mem := toList_mem_objectKinds_iff.1 (by rwa [String.toList_ofList])
    length_hash := by rwa [String.length_ofList]
    hex_of_mem_hash := ?_ }, ?_, ?_⟩
  · intro c hc
    rw [String.toList_ofList] at hc
    exact isHexDigit_iff.1 (hhex c hc)
  · exact String.toList_ofList
  · simp [Parts.object]

/-- The checker accepts what is put together from parts, with digits of any script. -/
theorem isId_iff {s : String} :
    isId s.toList = true ↔ ∃ p : Parts isDecimalDigit, p.toText = s := by
  constructor
  · intro h
    unfold isId at h
    split at h
    · cases h
    · rename_i rest hrest
      simp only [Bool.and_eq_true, Bool.not_eq_true', List.isEmpty_eq_false_iff] at h
      obtain ⟨hversion, hobject⟩ := h
      obtain ⟨kind, hkind, hash, hdrop, hlength, hhex⟩ := isObject_iff.1 hobject
      obtain ⟨p, hp, hp'⟩ := exists_parts hversion (fun c hc => List.mem_takeWhile_imp hc) hkind
        hlength hhex
      refine ⟨p, String.toList_injective ?_⟩
      rw [p.toList_toText, hp, hp', ← hdrop, List.takeWhile_append_dropWhile,
        stripStart?_eq_some_iff.1 hrest]
  · rintro ⟨p, rfl⟩
    have hstrip := stripStart?_eq_some_iff.2 p.toList_toText
    have hne : p.version.toList ≠ [] := fun h =>
      p.version_ne_empty (String.toList_injective (by simpa using h))
    simp only [isId, hstrip, p.takeWhile_version, p.dropWhile_version, p.isObject_object,
      Bool.and_true, Bool.not_eq_true', List.isEmpty_eq_false_iff]
    exact hne

/-! ## What is kept -/

theorem parse_eq_ok_iff {s : String} {id : SoftwareHeritageId} :
    parse s = .ok id ↔
      id.text = trim s ∧ ∃ p : Parts isDecimalDigit, p.toText = trim s := by
  rw [← isId_iff, parse]
  constructor
  · intro h
    split at h
    · rename_i hid
      cases h
      exact ⟨rfl, hid⟩
    · cases h
  · rintro ⟨htext, hid⟩
    obtain ⟨text⟩ := id
    rw [if_pos hid, ← htext]

/-- A kept text is an id itself. -/
theorem parse_text {s : String} {id : SoftwareHeritageId} (h : parse s = .ok id) :
    parse id.text = .ok id := by
  obtain ⟨htext, hparts⟩ := parse_eq_ok_iff.1 h
  rw [parse_eq_ok_iff, htext, trimmed_trim]
  exact ⟨rfl, hparts⟩

/-- Of the text `s` an id is kept exactly if the trimmed text is one with a version in digits of
the class `digit`. It is the trimmed text that is kept, and it is accepted again unchanged. -/
structure KeepsExactly (digit : Char → Bool) (s : String) : Prop where
  accepts_iff : (∃ id, parse s = .ok id) ↔ ∃ p : Parts digit, p.toText = trim s
  text_eq : ∀ id, parse s = .ok id → id.text = trim s
  parse_text : ∀ id, parse s = .ok id → parse id.text = .ok id

/-- For a class of decimal digits the checker is exact at the texts that have their version in
these digits, and at those that are no ids in any digits. -/
theorem keepsExactly_iff {digit : Char → Bool} (hdigit : ∀ c, digit c → isDecimalDigit c)
    (s : String) :
    KeepsExactly digit s ↔
      ∀ p : Parts isDecimalDigit, p.toText = trim s → ∀ c ∈ p.version.toList, digit c := by
  constructor
  · intro h p hp
    obtain ⟨q, hq⟩ := h.accepts_iff.1 ⟨⟨trim s⟩, parse_eq_ok_iff.2 ⟨rfl, p, hp⟩⟩
    obtain ⟨q', hversion, htext⟩ := q.exists_of_imp hdigit
    -- both are parts of one text, in the larger class, so they have one version
    have hone : p.version = q'.version :=
      Parts.version_eq_of_toText_eq (hp.trans (htext.trans hq).symm)
    rw [hone, hversion]
    exact q.digit_of_mem_version
  · intro h
    refine ⟨⟨?_, ?_⟩, fun id hid => (parse_eq_ok_iff.1 hid).1, fun id hid => parse_text hid⟩
    · rintro ⟨id, hid⟩
      obtain ⟨-, p, hp⟩ := parse_eq_ok_iff.1 hid
      exact ⟨p.withDigits (h p hp), (p.toText_withDigits _).trans hp⟩
    · rintro ⟨p, hp⟩
      obtain ⟨q, -, htext⟩ := p.exists_of_imp hdigit
      exact ⟨⟨trim s⟩, parse_eq_ok_iff.2 ⟨rfl, q, htext.trans hp⟩⟩

/-- The checker is exact for the decimal digits of all scripts. For the ASCII digits it is exact
except at ids that have another digit in their version: these are kept too. -/
theorem keepsExactly_isDigit_iff (s : String) :
    KeepsExactly isDecimalDigit s ∧
      (KeepsExactly Char.isDigit s ↔
        ∀ p : Parts isDecimalDigit, p.toText = trim s → ∀ c ∈ p.version.toList, c.isDigit) :=
  ⟨(keepsExactly_iff (fun _ hc => hc) s).2 fun p _ => p.digit_of_mem_version,
    keepsExactly_iff (fun _ hc => isDecimalDigit_of_isDigit hc) s⟩

/-- The parts of an id of version one, with the digit in full width. -/
def fullWidth : Parts isDecimalDigit where
  version := "１"
  kind := "rel"
  hash := "22ece559cc7cc2364edc5e5593d63ae8bd229f9f"
  version_ne_empty := by decide
  digit_of_mem_version := List.all_eq_true.1 (by decide)
  kind_mem := by decide
  length_hash := by decide
  hex_of_mem_hash := fun c hc => isHexDigit_iff.1 (List.all_eq_true.1 (by decide) c hc)

/-- The full-width one is no ASCII digit, but the id with this version is kept. -/
theorem not_keepsExactly_fullWidth :
    ¬ KeepsExactly Char.isDigit "swh:１:rel:22ece559cc7cc2364edc5e5593d63ae8bd229f9f" := by
  intro h
  have hdigits := (keepsExactly_iff (fun _ hc => isDecimalDigit_of_isDigit hc) _).1 h fullWidth
    (by decide)
  exact absurd (hdigits '１' (by decide)) (by decide)

end SoftwareHeritageId

end Clearinghouse
