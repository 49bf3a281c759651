import Clearinghouse.Proofs.Coordinate.Purl
import Clearinghouse.Proofs.Selector.Parsing

/-!
# Selectors written like coordinates

A text without a star can be read as a coordinate and as a selector. Reading the coordinate
decodes its fields, folds their letter case and drops what does not identify a package; reading
the selector only trims them. So the selector takes the coordinate exactly if the text writes the
fields of the coordinate as they are (`takes_of_parse_iff`). That nothing else can happen is seen
from the weight of what follows the type.
-/

namespace Clearinghouse

open Text PackageUrl

/-! ## Patterns without a star -/

theorem Pattern.takes_ofChars_iff {cs : List Char} (hstar : '*' ∉ cs) {s : String} :
    (Pattern.ofChars cs).takes s = true ↔ trim (.ofList cs) = s := by
  have hnone : '*' ∉ trimChars cs := fun hmem => hstar (mem_of_mem_trimChars hmem)
  have hexact : Pattern.ofChars cs = .exactly (.ofList (trimChars cs)) := by
    unfold ofChars ofTrimmed
    rw [if_neg]
    · split
      · rename_i start hrev
        have hmem : '*' ∈ (trimChars cs).reverse := hrev ▸ List.mem_cons_self
        exact absurd (List.mem_reverse.1 hmem) hnone
      · rfl
    · intro h
      rw [beq_iff_eq] at h
      rw [h] at hnone
      exact hnone List.mem_cons_self
  rw [hexact, takes_exactly, trim, String.toList_ofList]

namespace CoordinateSelector

/-! ## Fields -/

/-- The fields are written in `rest`, the name behind the last slash and the version behind the
last `@`. -/
structure Writes (rest : List Char) (ns name version : String) : Prop where
  name_slash : '/' ∉ name.toList
  version_at : '@' ∉ version.toList
  eq_or : ns = "" ∧ rest = name.toList ++ '@' :: version.toList ∨
    rest = ns.toList ++ '/' :: name.toList ++ '@' :: version.toList

/-- The fields of `c` are these texts, trimmed. -/
structure Trims (ns name version : String) (c : Coordinate) : Prop where
  ns : trim ns = c.ns
  name : trim name = c.name
  version : trim version = c.version

theorem exists_writes {rest : List Char} (h : '@' ∈ rest) :
    ∃ ns name version, Writes rest ns name version := by
  cases hversion : cutLast? (· == '@') rest with
  | none => exact absurd h (cutLast?_eq_none_iff.1 hversion)
  | some cut =>
    obtain ⟨path, version⟩ := cut
    obtain ⟨hrest, hat⟩ := cutLast?_eq_some_iff.1 hversion
    cases hname : cutLast? (· == '/') path with
    | none =>
      have hslash := cutLast?_eq_none_iff.1 hname
      exact ⟨"", .ofList path, .ofList version, by simpa using hslash, by simpa using hat,
        .inl ⟨rfl, by simpa using hrest⟩⟩
    | some cut =>
      obtain ⟨hpath, hslash⟩ := cutLast?_eq_some_iff.1 hname
      exact ⟨.ofList cut.1, .ofList cut.2, .ofList version, by simpa using hslash,
        by simpa using hat, .inr (by simpa [hpath] using hrest)⟩

section

variable {rest : List Char} {ns name version : String} (h : Writes rest ns name version)
include h

theorem Writes.fieldPatterns (hstar : '*' ∉ rest) :
    fieldPatterns rest =
      (.ofChars ns.toList, .ofChars name.toList, .ofChars version.toList) := by
  rcases h.eq_or with ⟨rfl, heq⟩ | heq
  · have hname : trimChars name.toList ≠ ['*'] := by
      intro htrim
      have hmem : '*' ∈ name.toList := mem_of_mem_trimChars (htrim ▸ List.mem_cons_self)
      rw [heq] at hstar
      exact hstar (List.mem_append_left _ hmem)
    rw [heq, fieldPatterns_append _ h.version_at, pathPatterns_of_not_mem h.name_slash,
      if_neg hname]
    rfl
  · rw [heq, fieldPatterns_append _ h.version_at, pathPatterns_append _ h.name_slash]

/-- Without a star the fields are taken that are written, but for the blanks around them. -/
theorem Writes.takes_iff (hstar : '*' ∉ rest) {q : CoordinateSelector}
    (hq : CoordinateSelector.fieldPatterns rest = (q.ns, q.name, q.version)) (c : Coordinate) :
    q.takes c = true ↔ q.type.takes c.packageType = true ∧ Trims ns name version c := by
  rw [h.fieldPatterns hstar, Prod.mk.injEq, Prod.mk.injEq] at hq
  obtain ⟨hns, hname, hversion⟩ : '*' ∉ ns.toList ∧ '*' ∉ name.toList ∧ '*' ∉ version.toList := by
    rcases h.eq_or with ⟨rfl, heq⟩ | heq <;> simp [heq] at hstar <;> simp [hstar]
  rw [takes, ← hq.1, ← hq.2.1, ← hq.2.2]
  simp only [Bool.and_eq_true, Pattern.takes_ofChars_iff hns, Pattern.takes_ofChars_iff hname,
    Pattern.takes_ofChars_iff hversion, String.ofList_toList]
  constructor
  · rintro ⟨⟨⟨htype, hns⟩, hname⟩, hversion⟩
    exact ⟨htype, hns, hname, hversion⟩
  · rintro ⟨htype, htrims⟩
    exact ⟨⟨⟨htype, htrims.ns⟩, htrims.name⟩, htrims.version⟩

end

theorem writes_iff {rest : List Char} {ns name version : String} (hversion : version ≠ "") :
    Writes rest ns name version ↔
      '/' ∉ name.toList ∧ '@' ∉ version.toList ∧
        (rest = fieldText ns name version ∨ ns = "" ∧ rest = '/' :: fieldText ns name version) := by
  have heq : (ns = "" ∧ rest = name.toList ++ '@' :: version.toList ∨
      rest = ns.toList ++ '/' :: name.toList ++ '@' :: version.toList) ↔
      (rest = fieldText ns name version ∨ ns = "" ∧ rest = '/' :: fieldText ns name version) := by
    by_cases hns : ns = "" <;> simp [fieldText, nsText, versionText, hns, hversion]
  exact ⟨fun h => ⟨h.name_slash, h.version_at, heq.1 h.eq_or⟩,
    fun h => ⟨h.1, h.2.1, heq.2 h.2.2⟩⟩

section

variable {ns name version : String} {c : Coordinate} (h : Trims ns name version c)
include h

theorem Trims.version_ne_empty (hversion : c.version ≠ "") : version ≠ "" := by
  rintro rfl
  exact hversion h.version.symm

/-- Trimming the fields does not change their weight, unless it empties the namespace. -/
theorem Trims.weight_fieldText (hversion : c.version ≠ "") :
    weight (fieldText ns name version) ≤ weight (fieldText c.ns c.name c.version) + 1 ∧
      (c.ns ≠ "" ∨ ns = "" →
        weight (fieldText ns name version) = weight (fieldText c.ns c.name c.version)) := by
  have hmark : charWeight '/' = 1 := rfl
  have hns := weight_trim ns
  have hname := weight_trim name
  have hv := weight_trim version
  rw [h.ns] at hns
  rw [h.name] at hname
  rw [h.version] at hv
  simp only [fieldText, nsText, versionText, if_neg hversion, if_neg (h.version_ne_empty hversion),
    weight_append, weight_cons]
  by_cases hempty : ns = ""
  · have hcns : c.ns = "" := by
      rw [← h.ns, hempty]
      rfl
    rw [if_pos hempty, if_pos hcns]
    omega
  · rw [if_neg hempty, weight_append, weight_cons, weight_nil]
    by_cases hcns : c.ns = ""
    · rw [if_pos hcns, weight_nil]
      rw [hcns, String.toList_empty, weight_nil] at hns
      refine ⟨by omega, fun hor => ?_⟩
      exact absurd hor (by simp [hcns, hempty])
    · rw [if_neg hcns, weight_append, weight_cons, weight_nil]
      omega

end

/-! ## The type -/

theorem cut_typed {type : List Char} (hcolon : ':' ∉ type) (hslash : '/' ∉ type) {mark : Char}
    (hmark : endsType mark = true) (rest : List Char) :
    cutFirst? endsType (type ++ mark :: rest) = some (type, rest) := by
  refine cutFirst?_append (fun c hc => ?_) hmark rest
  rw [endsType, Bool.or_eq_false_iff]
  refine ⟨beq_false_of_ne ?_, beq_false_of_ne ?_⟩
  · rintro rfl
    exact hcolon hc
  · rintro rfl
    exact hslash hc

theorem dropWhile_slash_append {t : List Char} (ht : t ≠ []) (hslash : '/' ∉ t)
    (more : List Char) : (t ++ more).dropWhile (· == '/') = t ++ more := by
  refine dropWhile_eq_self fun c hc => beq_false_of_ne ?_
  rintro rfl
  rw [List.head?_append_of_ne_nil _ ht] at hc
  exact hslash (List.mem_of_head? hc)

section

variable {type behind t rest : List Char} (hword : isWord ['.', '+', '-'] type = true) (ht : t ≠ [])
include hword ht

/-- In the short form the type of the selector ends at a slash or at the colon, and the
coordinate is read as if the colon were a slash. -/
theorem cut_behind_short {short more : List Char} (hcolon : ':' ∉ short)
    (hbehind : (short ++ '/' :: more).dropWhile (· == '/') = type ++ '/' :: behind)
    (hcut : cutFirst? endsType (short ++ ':' :: more) = some (t, rest)) :
    t = type ∧ ('@' ∈ behind → '@' ∈ rest) ∧
      (rest = behind ∨ weight behind + 2 ≤ weight rest) := by
  have hslash' := slash_not_mem_of_isWord hword
  cases hfirst : cutFirst? (· == '/') short with
  | none =>
    have hnone : '/' ∉ short := by
      intro hmem
      have := cutFirst?_eq_none_iff.1 hfirst _ hmem
      cases this
    rw [cut_typed hcolon hnone (by decide), Option.some.injEq, Prod.mk.injEq] at hcut
    obtain ⟨rfl, rfl⟩ := hcut
    rw [dropWhile_slash_append ht hnone] at hbehind
    obtain ⟨rfl, rfl⟩ := eq_of_first_cut hbehind hnone hslash'
    exact ⟨rfl, id, .inl rfl⟩
  | some cut =>
    obtain ⟨front, inner⟩ := cut
    obtain ⟨rfl, hfront⟩ := cutFirst?_eq_some_iff.1 hfirst
    rw [List.append_assoc, List.cons_append,
      cut_typed (fun hmem => hcolon (List.mem_append_left _ hmem)) hfront (by decide),
      Option.some.injEq, Prod.mk.injEq] at hcut
    obtain ⟨rfl, rfl⟩ := hcut
    rw [List.append_assoc, List.cons_append, dropWhile_slash_append ht hfront] at hbehind
    obtain ⟨rfl, rfl⟩ := eq_of_first_cut hbehind hfront hslash'
    refine ⟨rfl, fun hmem => ?_, .inr ?_⟩
    · simpa using hmem
    · -- the colon that the selector keeps is a slash in the coordinate
      have hcolonWeight : charWeight ':' = 3 := rfl
      have hslashWeight : charWeight '/' = 1 := rfl
      simp only [weight_append, weight_cons]
      omega

/-- Both readings cut at the same place behind the type. In the short form the coordinate may
have a slash where the selector has a colon. -/
theorem cut_behind {s : String} {path : List Char} (hpath : Coordinate.purlPath? s = some path)
    (hbehind : path.dropWhile (· == '/') = type ++ '/' :: behind)
    (hcut : cutFirst? endsType (body (trimChars s.toList)) = some (t, rest)) :
    t = type ∧ ('@' ∈ behind → '@' ∈ rest) ∧
      (rest = behind ∨ weight behind + 2 ≤ weight rest) := by
  obtain ⟨mark, hmark, hbody, hends⟩ := eq_of_cutFirst? hcut
  have hslash : '/' ∉ t := fun hmem => absurd (hends _ hmem) (by decide)
  unfold Coordinate.purlPath? at hpath
  cases hstrip : stripStart? ['p', 'k', 'g', ':'] (trimChars s.toList) with
  | some full =>
    rw [hstrip] at hpath
    obtain rfl : full = path := Option.some.inj hpath
    rw [body, hstrip, Option.getD_some] at hcut hbody
    rw [hbody, dropWhile_slash_append ht hslash] at hbehind
    have hcolon := not_mem_of_isWord hword (c := ':') (by decide) (by decide)
    rw [hbody, hbehind, cut_typed hcolon (slash_not_mem_of_isWord hword) (by decide),
      Option.some.injEq, Prod.mk.injEq] at hcut
    rw [hcut.1, hcut.2]
    exact ⟨rfl, id, .inl rfl⟩
  | none =>
    rw [hstrip] at hpath
    obtain ⟨⟨short, more⟩, hshort, rfl⟩ := Option.map_eq_some_iff.1 hpath
    obtain ⟨hcs, hcolon⟩ := cutFirst?_eq_some_iff.1 hshort
    rw [body, hstrip, Option.getD_none, hcs] at hcut
    exact cut_behind_short hword ht hcolon hbehind hcut

end

theorem ofText?_word {type : List Char} (hword : isWord ['.', '+', '-'] type = true) :
    PackageType.ofText? (.ofList type) = PackageType.ofText? (lowerAscii (.ofList type)) := by
  have hascii {cs : List Char} (h : isWord ['.', '+', '-'] cs = true) :
      ∀ c ∈ cs, c.toNat < 128 := by
    intro c hc
    by_contra hlarge
    refine not_mem_of_isWord h ?_ ?_ hc
    · rw [← Bool.not_eq_true, isAlphanum_iff]
      omega
    · intro hmark
      simp only [List.mem_cons, List.not_mem_nil, or_false] at hmark
      rcases hmark with rfl | rfl | rfl <;> exact hlarge (by decide)
  have hlow := isWord_map_toLower (by decide) hword
  have heq : lowerAscii (.ofList type) = .ofList (type.map Char.toLower) := by
    rw [lowerAscii, String.toList_ofList]
  rw [PackageType.ofText?, PackageType.ofText?, heq, Coordinate.trimmed_of_word hword,
    Coordinate.trimmed_of_word hlow, lower, lower, String.toList_ofList, String.toList_ofList,
    lowerAfter_of_ascii [] (hascii hword), lowerAfter_of_ascii [] (hascii hlow), List.map_map]
  have hidem : Char.toLower ∘ Char.toLower = Char.toLower := funext toLower_toLower
  rw [hidem]

theorem parse_type {c : Coordinate} {type : List Char} {ns name : String}
    (h : c.MadeFrom type ns name) (hraw : c.rawType = none) :
    TypePattern.parse (.ofList type) = .ok (.exactly c.packageType) := by
  have hknown : PackageType.ofText? (lowerAscii (.ofList type)) = some c.packageType := by
    have heq := h.eq_of
    cases ht : PackageType.ofText? (lowerAscii (.ofList type)) with
    | some t =>
      rw [Coordinate.of_of_eq_some _ _ _ ht] at heq
      rw [heq]
      rfl
    | none =>
      rw [Coordinate.of_of_eq_none _ _ _ ht, Coordinate.trimmed?_of_word h.word] at heq
      rw [heq] at hraw
      cases hraw
  have hstar : String.ofList type ≠ "*" := by
    intro heq
    have hmem : '*' ∈ type := by
      rw [← String.toList_ofList (l := type), heq]
      decide
    exact not_mem_of_isWord h.word (by decide) (by decide) hmem
  rw [TypePattern.parse, Coordinate.trimmed_of_word h.word, ofText?_word h.word, hknown]
  simp [hstar]

/-! ## Both readings -/

/-- Behind the type `s` writes the fields of `c` as they are. A slash may stand before them if
there is no namespace. -/
structure Spells (s : String) (c : Coordinate) : Prop where
  fields : ∃ type rest, type ≠ [] ∧
    cutFirst? endsType (body (trimChars s.toList)) = some (type, rest) ∧
    (rest = fieldText c.ns c.name c.version ∨
      c.ns = "" ∧ rest = '/' :: fieldText c.ns c.name c.version)
  ns : Trimmed c.ns
  name : Trimmed c.name
  version : Trimmed c.version

variable {s : String} {c : Coordinate}

theorem star_not_mem_cut {type rest : List Char} (hstar : '*' ∉ s.toList)
    (hcut : cutFirst? endsType (body (trimChars s.toList)) = some (type, rest)) : '*' ∉ rest := by
  intro hmem
  obtain ⟨mark, -, hbody, -⟩ := eq_of_cutFirst? hcut
  have hin : '*' ∈ body (trimChars s.toList) := by
    rw [hbody]
    exact List.mem_append_right _ (List.mem_cons_of_mem _ hmem)
  refine hstar (mem_of_mem_trimChars ?_)
  unfold body at hin
  cases hstrip : stripStart? ['p', 'k', 'g', ':'] (trimChars s.toList) with
  | none => rwa [hstrip] at hin
  | some full =>
    rw [hstrip] at hin
    rw [stripStart?_eq_some_iff.1 hstrip]
    exact List.mem_append_right _ hin

section

variable {type behind rest : List Char} {ns name ns' name' version' : String}
  (hmade : c.MadeFrom type ns name) (hbehind : ReadBehind behind ns name c.version)

include hmade hbehind in
/-- A text that has no more than one mark beyond the fields of the coordinate is the one that the
coordinate was read from. -/
theorem eq_behind (hcut : rest = behind ∨ weight behind + 2 ≤ weight rest)
    (hle : weight rest ≤ weight (fieldText c.ns c.name c.version) + 1) : rest = behind := by
  have hread := hbehind.passes.weight_le.trans
    (Passes.of_dropWhile '/' (by decide) behind).weight_le
  have hweight := hmade.recased.weight_eq
  exact hcut.resolve_right (by omega)

include hmade in
/-- The fields that were read are those of the coordinate, if these are what the selector has
trimmed. -/
theorem eq_fields (heq : fieldText ns name c.version = fieldText ns' name' version')
    (hplain : Plain ns name c.version) (hversion : c.version ≠ "") (hslash : '/' ∉ name'.toList)
    (hat : '@' ∉ version'.toList) (htrims : Trims ns' name' version' c) :
    ns' = c.ns ∧ name' = c.name ∧ version' = c.version := by
  have hcut := heq
  rw [fieldText, fieldText, versionText, versionText, if_neg hversion,
    if_neg (htrims.version_ne_empty hversion)] at hcut
  have hv := String.toList_inj.1 (eq_of_last_cut hcut hplain.version_at hat).2
  rw [← hv] at heq
  obtain ⟨rfl, rfl⟩ := fieldText_inj heq hplain.name_slash hslash
  have hns : Trimmed ns := hmade.recased_ns.trimmed (htrims.ns ▸ trimmed_trim ns)
  have hname : Trimmed name := hmade.recased_name.trimmed (htrims.name ▸ trimmed_trim name)
  exact ⟨hns.symm.trans htrims.ns, hname.symm.trans htrims.name, hv.symm⟩

include hmade hbehind in
/-- A namespace of blanks is read with the coordinate, or the blanks are part of the name. -/
theorem ns_eq_empty_of_blank (heq : behind = fieldText ns' name' version')
    (htrims : Trims ns' name' version' c) (hempty : c.ns = "") : ns' = "" := by
  by_contra hne
  obtain ⟨b, more, hmore⟩ := List.exists_cons_of_ne_nil (mt String.toList_eq_nil_iff.1 hne)
  have hblank : isBlank b = true := by
    have hall := trim_eq_empty_iff.1 (htrims.ns.trans hempty)
    rw [isAllBlank, hmore, List.all_cons, Bool.and_eq_true] at hall
    exact hall.1
  have hhead : behind.head? = some b := by
    rw [heq, fieldText, nsText, if_neg hne, hmore]
    rfl
  have hnone : ns = "" := by
    have := hmade.recased_ns.nil_iff
    rw [hempty] at this
    simpa using this
  have hfirst := hbehind.head_name hnone b hhead hblank
  have hclear : ∀ d ∈ c.name.toList.head?, isBlank d = false := by
    rw [← htrims.name, trim, String.toList_ofList]
    exact head?_trimChars _
  have hb := hmade.recased_name.head?_iff.1 hclear b hfirst
  rw [hblank] at hb
  cases hb

include hmade hbehind in
/-- What is written behind the type, and trimmed to the fields of the coordinate, are the fields
of the coordinate. -/
theorem eq_fields_of_writes (hversion : c.version ≠ "") (hwrites : Writes behind ns' name' version')
    (htrims : Trims ns' name' version' c) :
    ns' = c.ns ∧ name' = c.name ∧ version' = c.version := by
  obtain ⟨hslash, hat, hform⟩ := (writes_iff (htrims.version_ne_empty hversion)).1 hwrites
  have hweight := (htrims.weight_fieldText hversion).2
  rcases hform with heq | ⟨hempty, heq⟩
  · have hle : weight behind ≤ weight (fieldText c.ns c.name c.version) := by
      rw [heq, hweight]
      by_cases hempty : c.ns = ""
      · exact .inr (ns_eq_empty_of_blank hmade hbehind heq htrims hempty)
      · exact .inl hempty
    obtain ⟨htext, hplain⟩ := hmade.eq_fieldText [] behind nofun hbehind hle
    exact eq_fields hmade (htext.trans heq) hplain hversion hslash hat htrims
  · rw [heq] at hbehind
    obtain ⟨htext, hplain⟩ :=
      hmade.eq_fieldText ['/'] _ (by simp) hbehind (hweight (.inr hempty)).le
    exact eq_fields hmade htext hplain hversion hslash hat htrims

end

theorem spells_of_takes (hstar : '*' ∉ s.toList) (h : Coordinate.parse s = .ok c)
    (hversion : c.version ≠ "") {q : CoordinateSelector} (hq : parse s = .ok q)
    (htakes : q.takes c = true) : Spells s c := by
  obtain ⟨path, type, behind, ns, name, hpath, hdrop, hmade, hbehind⟩ :=
    Coordinate.exists_madeFrom h
  obtain ⟨hlone, -⟩ | ⟨-, type', rest, hcut, htype, hfields, -⟩ := parse_eq_ok_iff.1 hq
  · have hmem : '*' ∈ trimChars s.toList := hlone ▸ List.mem_cons_self
    exact absurd (mem_of_mem_trimChars hmem) hstar
  have hne : type' ≠ [] := by
    rintro rfl
    cases htype
  obtain ⟨rfl, hat, hrest⟩ := cut_behind hmade.word hne hpath hdrop hcut
  obtain ⟨ns', name', version', hwrites⟩ := exists_writes (hat (hbehind.at_mem hversion))
  obtain ⟨-, htrims⟩ := (hwrites.takes_iff (star_not_mem_cut hstar hcut) hfields c).1 htakes
  have hform := ((writes_iff (htrims.version_ne_empty hversion)).1 hwrites).2.2
  have hmark : charWeight '/' = 1 := rfl
  have hbound : weight rest ≤ weight (fieldText c.ns c.name c.version) + 1 := by
    have hweight := htrims.weight_fieldText hversion
    rcases hform with heq | ⟨hempty, heq⟩
    · rw [heq]
      exact hweight.1
    · rw [heq, weight_cons, hmark, hweight.2 (.inr hempty)]
      omega
  obtain rfl := eq_behind hmade hbehind hrest hbound
  obtain ⟨rfl, rfl, rfl⟩ := eq_fields_of_writes hmade hbehind hversion hwrites htrims
  exact ⟨⟨_, _, hne, hcut, hform⟩, htrims.ns, htrims.name, htrims.version⟩

theorem exists_takes_of_spells (hstar : '*' ∉ s.toList) (h : Coordinate.parse s = .ok c)
    (hraw : c.rawType = none) (hversion : c.version ≠ "") (hspells : Spells s c) :
    ∃ q, parse s = .ok q ∧ q.takes c = true := by
  obtain ⟨path, type, behind, ns, name, hpath, hdrop, hmade, hbehind⟩ :=
    Coordinate.exists_madeFrom h
  obtain ⟨type', rest, hne, hcut, hrest⟩ := hspells.fields
  obtain ⟨rfl, -, hsame⟩ := cut_behind hmade.word hne hpath hdrop hcut
  have hmark : charWeight '/' = 1 := rfl
  have hbound : weight rest ≤ weight (fieldText c.ns c.name c.version) + 1 := by
    rcases hrest with heq | ⟨-, heq⟩
    · rw [heq]
      omega
    · rw [heq, weight_cons, hmark]
      omega
  obtain rfl := eq_behind hmade hbehind hsame hbound
  have hplain : Plain ns name c.version := by
    rcases hrest with heq | ⟨-, heq⟩
    · exact (hmade.eq_fieldText [] rest nofun hbehind (by rw [heq])).2
    · rw [heq] at hbehind
      exact (hmade.eq_fieldText ['/'] _ (by simp) hbehind (Nat.le_refl _)).2
  have hwrites : Writes rest c.ns c.name c.version :=
    (writes_iff hversion).2 ⟨hmade.slash_not_mem hplain.name_slash, hplain.version_at, hrest⟩
  have hnone := star_not_mem_cut hstar hcut
  have hname : Pattern.ofChars c.name.toList ≠ .blank := by
    rw [Ne, Pattern.ofChars_eq_blank_iff, hspells.name.toList]
    simpa using hmade.name_ne_empty
  have hfields := hwrites.fieldPatterns hnone
  refine ⟨⟨.exactly c.packageType, .ofChars c.ns.toList, .ofChars c.name.toList,
    .ofChars c.version.toList⟩, ?_, ?_⟩
  · refine parse_eq_ok_iff.2 (.inr ⟨fun hlone => ?_, _, rest, hcut, parse_type hmade hraw, hfields,
      hname⟩)
    have hmem : '*' ∈ trimChars s.toList := hlone ▸ List.mem_cons_self
    exact hstar (mem_of_mem_trimChars hmem)
  · refine (hwrites.takes_iff hnone hfields c).2 ⟨?_, hspells.ns, hspells.name, hspells.version⟩
    simp [TypePattern.takes]

/-- A text without a star that is read as a coordinate with a version is read as a selector that
takes this coordinate if and only if it writes the fields of the coordinate as they are. -/
theorem takes_of_parse_iff (hstar : '*' ∉ s.toList) (h : Coordinate.parse s = .ok c)
    (hraw : c.rawType = none) (hversion : c.version ≠ "") :
    (∃ q, parse s = .ok q ∧ q.takes c = true) ↔ Spells s c :=
  ⟨fun ⟨_, hq, htakes⟩ => spells_of_takes hstar h hversion hq htakes,
    exists_takes_of_spells hstar h hraw hversion⟩

/-- A scoped package that is written in the short form. -/
theorem takes_of_parse_iff_babel :
    ∃ c, '*' ∉ "npm:@babel/core@7.0.0".toList ∧
      Coordinate.parse "npm:@babel/core@7.0.0" = .ok c ∧ c.rawType = none ∧ c.version ≠ "" ∧
      ((∃ q, parse "npm:@babel/core@7.0.0" = .ok q ∧ q.takes c = true) ↔
        Spells "npm:@babel/core@7.0.0" c) := by
  have hstar : '*' ∉ "npm:@babel/core@7.0.0".toList := by decide
  have h : Coordinate.parse "npm:@babel/core@7.0.0" =
      .ok ⟨.npm, none, "@babel", "core", "7.0.0"⟩ := by
    rfl
  exact ⟨_, hstar, h, rfl, by decide, takes_of_parse_iff hstar h rfl (by decide)⟩

/-- A scope that is encoded is decoded in the coordinate only. -/
theorem not_takes_of_parse_babel :
    ∃ c, '*' ∉ "pkg:npm/%40babel/core@7.0.0".toList ∧
      Coordinate.parse "pkg:npm/%40babel/core@7.0.0" = .ok c ∧ c.rawType = none ∧ c.version ≠ "" ∧
      ¬ ∃ q, parse "pkg:npm/%40babel/core@7.0.0" = .ok q ∧ q.takes c = true := by
  refine ⟨⟨.npm, none, "@babel", "core", "7.0.0"⟩, by decide, rfl, rfl, by decide, ?_⟩
  rintro ⟨q, hq, htakes⟩
  have hread : parse "pkg:npm/%40babel/core@7.0.0" =
      .ok ⟨.exactly .npm, .exactly "%40babel", .exactly "core", .exactly "7.0.0"⟩ := by
    decide +kernel
  obtain rfl := Except.ok.inj (hread.symm.trans hq)
  revert htakes
  decide

end CoordinateSelector

end Clearinghouse
