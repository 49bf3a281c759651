import Clearinghouse.Proofs.Text.Trimmed
import Clearinghouse.Text.Case

/-!
# What letter case leaves alone

Lower case makes letters of letters. A neutral character (an ASCII mark or digit, or a blank)
stays as it is, and no other character becomes neutral. So a text in lower case has the same
marks, digits and blanks in the same order, and it has a blank at an end only where there was
one (`recased_lowerAfter`).
-/

namespace Clearinghouse.Text

/-! ## Neutral characters -/

theorem toNat_ofNat {n : Nat} (h : n.isValidChar) : (Char.ofNat n).toNat = n := by
  rw [Char.ofNat, dif_pos h]
  rfl

/-- The code points of the blanks. -/
def blankPoints : List Nat :=
  [9, 10, 11, 12, 13, 0x20, 0x85, 0xA0, 0x1680, 0x2000, 0x2001, 0x2002, 0x2003, 0x2004, 0x2005,
    0x2006, 0x2007, 0x2008, 0x2009, 0x200A, 0x2028, 0x2029, 0x202F, 0x205F, 0x3000]

theorem isBlank_iff {c : Char} : isBlank c = true ↔ c.toNat ∈ blankPoints := by
  simp only [isBlank, blankPoints, Bool.or_eq_true, Bool.and_eq_true, decide_eq_true_eq,
    beq_iff_eq, List.mem_cons, List.not_mem_nil, or_false]
  omega

/-- The ASCII marks and digits before the letters, without the hyphen, and the blanks. -/
def isNeutral (c : Char) : Bool := (c.toNat ≤ 64 && c != '-') || isBlank c

theorem isNeutral_of_isBlank {c : Char} (h : isBlank c = true) : isNeutral c = true := by
  rw [isNeutral, h, Bool.or_true]

theorem isBlank_of_isNeutral_eq_false {c : Char} (h : isNeutral c = false) : isBlank c = false := by
  rw [Bool.eq_false_iff]
  intro hblank
  rw [isNeutral_of_isBlank hblank] at h
  cases h

theorem isNeutral_eq_false_iff {c : Char} :
    isNeutral c = false ↔ (64 < c.toNat ∨ c = '-') ∧ c.toNat ∉ blankPoints := by
  rw [← Bool.not_eq_true, isNeutral, Bool.or_eq_true, isBlank_iff]
  simp only [Bool.and_eq_true, decide_eq_true_eq, bne_iff_ne]
  grind

/-- The images of the run are characters, and none of them is neutral. -/
def CaseRun.avoidsNeutral (r : CaseRun) : Bool :=
  64 < r.target && blankPoints.all (fun b => b < r.target || r.target + (r.last - r.first) < b) &&
    (r.target + (r.last - r.first) < 0xD800 ||
      0xDFFF < r.target && r.target + (r.last - r.first) < 0x110000)

theorem avoidsNeutral_of_mem_lowerMap : ∀ r ∈ lowerMap.runs, r.avoidsNeutral = true := by
  decide +kernel

theorem CaseRun.isNeutral_image {r : CaseRun} (hr : r.avoidsNeutral = true) {n m : Nat}
    (h : r.image? n = some m) : isNeutral (Char.ofNat m) = false := by
  unfold image? at h
  split at h
  · rename_i hcovers
    simp only [Bool.and_eq_true, decide_eq_true_eq] at hcovers
    cases h
    simp only [avoidsNeutral, Bool.and_eq_true, Bool.or_eq_true, decide_eq_true_eq,
      List.all_eq_true] at hr
    obtain ⟨⟨hlow, hblanks⟩, hvalid⟩ := hr
    have hpoint : (Char.ofNat (r.target + (n - r.first))).toNat = r.target + (n - r.first) :=
      toNat_ofNat (by unfold Nat.isValidChar; omega)
    rw [isNeutral_eq_false_iff, hpoint]
    refine ⟨.inl (by omega), fun hmem => ?_⟩
    have := hblanks _ hmem
    omega
  · cases h

/-! ## Lower case of a character -/

/-- Lowering an ASCII character leaves it alone or gives a letter. -/
theorem toLower_eq_or (c : Char) : c.toLower = c ∨ 64 < c.toNat ∧ 96 < c.toLower.toNat ∧
    c.toLower.toNat < 123 := by
  unfold Char.toLower
  split
  · rename_i h
    refine .inr ?_
    have hlow : 65 ≤ c.val.toNat := UInt32.le_iff_toNat_le.1 h.1
    have hhigh : c.val.toNat ≤ 90 := UInt32.le_iff_toNat_le.1 h.2
    have hsum : (c.val + ('a'.val - 'A'.val)).toNat = c.val.toNat + 32 := by
      rw [UInt32.toNat_add, show ('a'.val - 'A'.val).toNat = 32 from rfl]
      omega
    simp only [Char.toNat, hsum]
    omega
  · exact .inl rfl

theorem isDigit_iff {c : Char} : c.isDigit = true ↔ 48 ≤ c.toNat ∧ c.toNat ≤ 57 := by
  simp [Char.isDigit, UInt32.le_iff_toNat_le]

theorem isAlphanum_iff {c : Char} : c.isAlphanum = true ↔
    65 ≤ c.toNat ∧ c.toNat ≤ 90 ∨ 97 ≤ c.toNat ∧ c.toNat ≤ 122 ∨ 48 ≤ c.toNat ∧ c.toNat ≤ 57 := by
  have hranges : c.isAlphanum =
      (decide (c.val ≥ 65 ∧ c.val ≤ 90) || c.val ≥ 97 && c.val ≤ 122 || c.val ≥ 48 && c.val ≤ 57) :=
    rfl
  simp [hranges, UInt32.le_iff_toNat_le, or_assoc]

theorem toLower_toLower (c : Char) : c.toLower.toLower = c.toLower := by
  rcases toLower_eq_or c with h | ⟨-, hlow, -⟩
  · rw [h, h]
  · rw [Char.toLower.eq_def c.toLower, dif_neg]
    rintro ⟨-, hhigh⟩
    have : c.toLower.val.toNat ≤ 90 := UInt32.le_iff_toNat_le.1 hhigh
    rw [Char.toNat_val] at this
    omega

theorem lowerAscii_lowerAscii (s : String) : lowerAscii (lowerAscii s) = lowerAscii s := by
  rw [lowerAscii, lowerAscii, String.toList_ofList, List.map_map]
  congr 2
  funext c
  exact toLower_toLower c

theorem lowerChar_of_isNeutral {c : Char} (h : isNeutral c = true) : lowerChar c = [c] := by
  have hblanks : ∀ n ∈ blankPoints, lowerChar (Char.ofNat n) = [Char.ofNat n] := by decide +kernel
  rcases Bool.or_eq_true _ _ ▸ h with hmark | hblank
  · simp only [Bool.and_eq_true, decide_eq_true_eq] at hmark
    rw [lowerChar_of_ascii (by omega), (toLower_eq_or c).resolve_right (by omega)]
  · have := hblanks c.toNat (isBlank_iff.1 hblank)
    rwa [Char.ofNat_toNat] at this

theorem isNeutral_of_mem_lowerChar {c d : Char} (h : isNeutral c = false) (hd : d ∈ lowerChar c) :
    isNeutral d = false := by
  unfold lowerChar at hd
  split at hd
  · rw [List.mem_singleton.1 hd]
    rcases toLower_eq_or c with hsame | ⟨-, hlow, hhigh⟩
    · rwa [hsame]
    · rw [isNeutral_eq_false_iff]
      refine ⟨.inl (by omega), fun hmem => ?_⟩
      simp only [blankPoints, List.mem_cons, List.not_mem_nil, or_false] at hmem
      omega
  · unfold CaseMap.image at hd
    split at hd
    · rename_i image hlookup
      have hseveral : lowerMap.several = [(304, [105, 775])] := rfl
      rw [hseveral, List.lookup_cons] at hlookup
      split at hlookup
      · cases hlookup
        simp only [List.map_cons, List.map_nil, List.mem_cons, List.not_mem_nil, or_false] at hd
        rcases hd with rfl | rfl <;> decide
      · cases hlookup
    · rw [List.mem_singleton.1 hd]
      cases hrun : lowerMap.runs.findSome? (·.image? c.toNat) with
      | none => exact h
      | some m =>
        obtain ⟨r, hr, hm⟩ := List.exists_of_findSome?_eq_some hrun
        exact CaseRun.isNeutral_image (avoidsNeutral_of_mem_lowerMap r hr) hm

theorem lowerChar_ne_nil (c : Char) : lowerChar c ≠ [] := by
  unfold lowerChar
  split
  · exact List.cons_ne_nil _ _
  · unfold CaseMap.image
    split
    · rename_i image hlookup
      have hseveral : lowerMap.several = [(304, [105, 775])] := rfl
      rw [hseveral, List.lookup_cons] at hlookup
      split at hlookup <;> cases hlookup
      exact List.cons_ne_nil _ _
    · exact List.cons_ne_nil _ _

/-! ## Lower case of a text -/

/-- The texts differ in letters only. -/
structure Recased (cs ds : List Char) : Prop where
  /-- The neutral characters are the same, in the same order. -/
  filter_eq : ∀ p : Char → Bool, (∀ c, p c = true → isNeutral c = true) →
    ds.filter p = cs.filter p
  /-- The texts begin with a blank together. -/
  head_blank : ds.head?.any isBlank = cs.head?.any isBlank
  /-- The texts end with a blank together. -/
  last_blank : ds.getLast?.any isBlank = cs.getLast?.any isBlank
  /-- Nothing comes of nothing alone. -/
  nil_iff : ds = [] ↔ cs = []

theorem Recased.refl (cs : List Char) : Recased cs cs := ⟨fun _ _ => rfl, rfl, rfl, Iff.rfl⟩

theorem Recased.trans {cs ds es : List Char} (h : Recased cs ds) (h' : Recased ds es) :
    Recased cs es where
  filter_eq p hp := (h'.filter_eq p hp).trans (h.filter_eq p hp)
  head_blank := h'.head_blank.trans h.head_blank
  last_blank := h'.last_blank.trans h.last_blank
  nil_iff := h'.nil_iff.trans h.nil_iff

/-- A character at a time: it stays if it is neutral, and else nothing neutral comes of it. -/
theorem Recased.cons {cs ds : List Char} (h : Recased cs ds) {c : Char} {image : List Char}
    (hne : image ≠ []) (hsame : isNeutral c = true → image = [c])
    (hother : isNeutral c = false → ∀ d ∈ image, isNeutral d = false) :
    Recased (c :: cs) (image ++ ds) := by
  have hblank : ∀ d ∈ image, isBlank d = isBlank c := by
    intro d hd
    cases hc : isNeutral c with
    | true =>
      rw [hsame hc, List.mem_singleton] at hd
      rw [hd]
    | false =>
      rw [isBlank_of_isNeutral_eq_false hc, isBlank_of_isNeutral_eq_false (hother hc d hd)]
  obtain ⟨first, more, rfl⟩ := List.exists_cons_of_ne_nil hne
  refine ⟨fun p hp => ?_, hblank first List.mem_cons_self, ?_, by simp⟩
  · rw [List.filter_append, h.filter_eq p hp, ← List.singleton_append (l := cs), List.filter_append]
    congr 1
    cases hc : isNeutral c with
    | true => rw [hsame hc]
    | false =>
      have hdrop : ∀ d, isNeutral d = false → ¬ p d = true := by
        intro d hd hpd
        rw [hp d hpd] at hd
        cases hd
      rw [List.filter_eq_nil_iff.2 fun d hd => hdrop d (hother hc d hd),
        List.filter_eq_nil_iff.2 fun d hd => hdrop d (List.mem_singleton.1 hd ▸ hc)]
  · by_cases hds : ds = []
    · rw [h.nil_iff.1 hds, hds, List.append_nil, List.getLast?_singleton]
      cases hlast : (first :: more).getLast? with
      | none => simp at hlast
      | some d => exact hblank d (List.mem_of_getLast? hlast)
    · have hcs : cs ≠ [] := mt h.nil_iff.2 hds
      obtain ⟨x, xs, rfl⟩ := List.exists_cons_of_ne_nil hcs
      rw [List.getLast?_append_of_ne_nil _ hds, List.getLast?_cons_cons]
      exact h.last_blank

theorem Recased.append {cs ds cs' ds' : List Char} (h : Recased cs ds) (h' : Recased cs' ds') :
    Recased (cs ++ cs') (ds ++ ds') where
  filter_eq p hp := by
    rw [List.filter_append, List.filter_append, h.filter_eq p hp, h'.filter_eq p hp]
  head_blank := by
    by_cases hcs : cs = []
    · rw [hcs, h.nil_iff.2 hcs]
      exact h'.head_blank
    · rw [List.head?_append_of_ne_nil _ hcs, List.head?_append_of_ne_nil _ (mt h.nil_iff.1 hcs)]
      exact h.head_blank
  last_blank := by
    by_cases hcs : cs' = []
    · rw [hcs, h'.nil_iff.2 hcs, List.append_nil, List.append_nil]
      exact h.last_blank
    · rw [List.getLast?_append_of_ne_nil _ hcs,
        List.getLast?_append_of_ne_nil _ (mt h'.nil_iff.1 hcs)]
      exact h'.last_blank
  nil_iff := by rw [List.append_eq_nil_iff, List.append_eq_nil_iff, h.nil_iff, h'.nil_iff]

/-- The neutral characters of both texts are the same. -/
theorem Recased.mem_iff {cs ds : List Char} (h : Recased cs ds) {c : Char}
    (hc : isNeutral c = true) : c ∈ ds ↔ c ∈ cs := by
  have hfilter := h.filter_eq (· == c) fun d hd => by rwa [beq_iff_eq.1 hd]
  have hmem (es : List Char) : c ∈ es ↔ c ∈ es.filter (· == c) := by simp
  rw [hmem ds, hmem cs, hfilter]

theorem any_isBlank_eq_false_iff {o : Option Char} :
    o.any isBlank = false ↔ ∀ c ∈ o, isBlank c = false := by
  cases o <;> simp

theorem Recased.head?_iff {cs ds : List Char} (h : Recased cs ds) :
    (∀ c ∈ ds.head?, isBlank c = false) ↔ ∀ c ∈ cs.head?, isBlank c = false := by
  rw [← any_isBlank_eq_false_iff, ← any_isBlank_eq_false_iff, h.head_blank]

theorem Recased.getLast?_iff {cs ds : List Char} (h : Recased cs ds) :
    (∀ c ∈ ds.getLast?, isBlank c = false) ↔ ∀ c ∈ cs.getLast?, isBlank c = false := by
  rw [← any_isBlank_eq_false_iff, ← any_isBlank_eq_false_iff, h.last_blank]

theorem Recased.trimmed {s t : String} (h : Recased s.toList t.toList) (ht : Trimmed t) :
    Trimmed s := by
  refine trimmed_of_ends (h.head?_iff.1 ?_) (h.getLast?_iff.1 ?_) <;> rw [← ht.toList]
  · exact head?_trimChars t.toList
  · exact getLast?_trimEnd _

theorem recased_lowerAfter (before cs : List Char) : Recased cs (lowerAfter before cs) := by
  induction cs generalizing before with
  | nil => exact .refl []
  | cons c cs ih =>
    rw [lowerAfter]
    split
    · rename_i hsigma
      rw [beq_iff_eq.1 hsigma]
      refine (ih _).cons (List.cons_ne_nil _ _) (fun h => by cases h) fun _ d hd => ?_
      rw [List.mem_singleton.1 hd]
      split <;> decide
    · exact (ih _).cons (lowerChar_ne_nil c) lowerChar_of_isNeutral
        fun h d hd => isNeutral_of_mem_lowerChar h hd

theorem recased_lower (s : String) : Recased s.toList (lower s).toList := by
  rw [lower, String.toList_ofList]
  exact recased_lowerAfter [] s.toList

end Clearinghouse.Text
