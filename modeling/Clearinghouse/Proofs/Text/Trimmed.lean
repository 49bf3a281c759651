import Clearinghouse.Text.Blank
import Mathlib.Data.List.DropRight
import Mathlib.Data.List.TakeWhile

/-!
# Trimmed texts and words

A text is trimmed if trimming leaves it alone. Main statements: what trimming leaves is trimmed
(`trimmed_trim`), a text is its trimmed form with blanks around it (`exists_eq_trimChars`), and
the words on both sides of a blank are the words of the whole (`wordsOf_append_blank`).
-/

namespace Clearinghouse.Text

/-! ## Trimming -/

/-- No blanks stand around the text. -/
def Trimmed (s : String) : Prop := trim s = s

instance (s : String) : Decidable (Trimmed s) := inferInstanceAs (Decidable (_ = _))

theorem trimStart_eq_self {cs : List Char} (h : ∀ c ∈ cs.head?, isBlank c = false) :
    trimStart cs = cs := by
  cases cs with
  | nil => rfl
  | cons c cs => simp [trimStart, h c rfl]

theorem trimEnd_eq_self {cs : List Char} (h : ∀ c ∈ cs.getLast?, isBlank c = false) :
    trimEnd cs = cs := by
  unfold trimEnd
  have : trimStart cs.reverse = cs.reverse := trimStart_eq_self (by rwa [List.head?_reverse])
  rw [trimStart] at this
  rw [this, List.reverse_reverse]

theorem head?_trimStart (cs : List Char) : ∀ c ∈ (trimStart cs).head?, isBlank c = false := by
  intro c hc
  have h := List.head?_dropWhile_not isBlank cs
  rw [trimStart] at hc
  rw [Option.mem_def.1 hc] at h
  exact h

theorem trimStart_trimStart (cs : List Char) : trimStart (trimStart cs) = trimStart cs :=
  trimStart_eq_self (head?_trimStart cs)

theorem getLast?_trimEnd (cs : List Char) : ∀ c ∈ (trimEnd cs).getLast?, isBlank c = false := by
  intro c hc
  rw [trimEnd, List.getLast?_reverse] at hc
  exact head?_trimStart cs.reverse c hc

theorem trimEnd_prefix (cs : List Char) : trimEnd cs <+: cs := List.rdropWhile_prefix isBlank cs

/-- Trimming at the end does not touch the front. -/
theorem head?_trimChars (cs : List Char) : ∀ c ∈ (trimChars cs).head?, isBlank c = false := by
  intro c hc
  refine head?_trimStart cs c ?_
  obtain ⟨tail, ht⟩ := trimEnd_prefix (trimStart cs)
  rw [trimChars] at hc
  rw [← ht]
  cases h : trimEnd (trimStart cs) with
  | nil => rw [h] at hc; cases hc
  | cons d ds => rw [h] at hc; exact hc

/-- What follows a mark at the end decides how the text ends; if nothing does, the mark. -/
theorem getLast?_append_cons {mark : Char} (hmark : isBlank mark = false) (front : List Char)
    {last : List Char} (h : ∀ c ∈ last.getLast?, isBlank c = false) :
    ∀ c ∈ (front ++ mark :: last).getLast?, isBlank c = false := by
  rw [List.getLast?_append_of_ne_nil _ (List.cons_ne_nil mark last), List.getLast?_cons]
  rintro c ⟨⟩
  cases hlast : last.getLast? with
  | none => exact hmark
  | some d => exact h d hlast

/-- Trimming at the end stops at a mark. -/
theorem trimEnd_append_cons {mark : Char} (hmark : isBlank mark = false) (front rest : List Char) :
    trimEnd (front ++ mark :: rest) = front ++ mark :: trimEnd rest := by
  have hfront : (mark :: front.reverse).dropWhile isBlank = mark :: front.reverse := by
    simp [hmark]
  rw [trimEnd, trimEnd, List.reverse_append, List.reverse_cons, List.append_assoc,
    List.singleton_append, List.dropWhile_append, hfront]
  split
  · rename_i hnil
    rw [List.isEmpty_iff.1 hnil]
    simp
  · simp

/-- A text that ends with a mark and a trimmed text loses the blanks before it only. -/
theorem trimChars_append_cons {mark : Char} (hmark : isBlank mark = false) (front : List Char)
    {last : List Char} (h : ∀ c ∈ last.getLast?, isBlank c = false) :
    trimChars (front ++ mark :: last) = trimStart front ++ mark :: last := by
  have hstart : trimStart (front ++ mark :: last) = trimStart front ++ mark :: last := by
    rw [trimStart, List.dropWhile_append, List.dropWhile_cons, hmark]
    split
    · rename_i hnil
      rw [trimStart, List.isEmpty_iff.1 hnil]
      rfl
    · rfl
  rw [trimChars, hstart, trimEnd_eq_self (getLast?_append_cons hmark _ h)]

theorem exists_eq_trimEnd (cs : List Char) :
    ∃ after, cs = trimEnd cs ++ after ∧ ∀ c ∈ after, isBlank c :=
  ⟨cs.rtakeWhile isBlank, List.rdropWhile_append_rtakeWhile.symm,
    fun _ hc => List.mem_rtakeWhile_imp hc⟩

theorem trimChars_eq_self {cs : List Char} (h : ∀ c ∈ cs.head?, isBlank c = false)
    (h' : ∀ c ∈ cs.getLast?, isBlank c = false) : trimChars cs = cs := by
  rw [trimChars, trimStart_eq_self h, trimEnd_eq_self h']

theorem trimChars_trimChars (cs : List Char) : trimChars (trimChars cs) = trimChars cs :=
  trimChars_eq_self (head?_trimChars cs) (getLast?_trimEnd _)

/-- A text that neither begins nor ends with a blank is trimmed. -/
theorem trimmed_of_ends {s : String} (h : ∀ c ∈ s.toList.head?, isBlank c = false)
    (h' : ∀ c ∈ s.toList.getLast?, isBlank c = false) : Trimmed s := by
  rw [Trimmed, trim, trimChars_eq_self h h', String.ofList_toList]

theorem trimmed_trim (s : String) : Trimmed (trim s) := by
  rw [Trimmed, trim, trim, String.toList_ofList, trimChars_trimChars]

/-- A text is its trimmed form with blanks around it. -/
theorem exists_eq_trimChars (cs : List Char) :
    ∃ before after, cs = before ++ trimChars cs ++ after ∧ (∀ c ∈ before, isBlank c) ∧
      ∀ c ∈ after, isBlank c := by
  refine ⟨cs.takeWhile isBlank, (trimStart cs).rtakeWhile isBlank, ?_, ?_, ?_⟩
  · have h : trimChars cs ++ (trimStart cs).rtakeWhile isBlank = trimStart cs :=
      List.rdropWhile_append_rtakeWhile
    rw [List.append_assoc, h, trimStart, List.takeWhile_append_dropWhile]
  · exact fun c hc => List.mem_takeWhile_imp hc
  · exact fun c hc => List.mem_rtakeWhile_imp hc

theorem length_trim_le (s : String) : (trim s).toList.length ≤ s.toList.length := by
  obtain ⟨before, after, heq, -, -⟩ := exists_eq_trimChars s.toList
  have hlength := congrArg List.length heq
  rw [trim, String.toList_ofList]
  simp only [List.length_append] at hlength
  omega

theorem mem_of_mem_trimChars {cs : List Char} {c : Char} (h : c ∈ trimChars cs) : c ∈ cs := by
  obtain ⟨before, after, heq, -, -⟩ := exists_eq_trimChars cs
  rw [heq]
  exact List.mem_append_left _ (List.mem_append_right _ h)

theorem Trimmed.toList {s : String} (h : Trimmed s) : trimChars s.toList = s.toList := by
  have := congrArg String.toList h
  rwa [trim, String.toList_ofList] at this

/-- A text that begins and ends with trimmed texts is trimmed, if these are not empty. -/
theorem trimmed_of_affixes {s first last : String} (hf : Trimmed first ∧ first ≠ "")
    (hl : Trimmed last ∧ last ≠ "") (hs : first.toList <+: s.toList)
    (hs' : last.toList <:+ s.toList) : Trimmed s ∧ s ≠ "" := by
  obtain ⟨tail, hs⟩ := hs
  obtain ⟨front, hs'⟩ := hs'
  have hfne : first.toList ≠ [] := by simpa using hf.2
  have hlne : last.toList ≠ [] := by simpa using hl.2
  refine ⟨trimmed_of_ends (fun c hc => ?_) (fun c hc => ?_), ?_⟩
  · rw [← hs, List.head?_append_of_ne_nil _ hfne, ← hf.1.toList] at hc
    exact head?_trimChars _ c hc
  · rw [← hs', List.getLast?_append_of_ne_nil _ hlne, ← hl.1.toList] at hc
    exact getLast?_trimEnd _ c hc
  · rintro rfl
    exact hfne (List.append_eq_nil_iff.1 hs).1

/-! ## Joined texts -/

theorem join_singleton (sep part : String) : join sep [part] = part := by simp [join]

theorem toList_join_cons_cons (sep first second : String) (parts : List String) :
    (join sep (first :: second :: parts)).toList =
      first.toList ++ (sep.toList ++ (join sep (second :: parts)).toList) := by
  simp [join, String.intercalate_cons_cons]

/-- A joined text begins and ends with a part. -/
theorem exists_join_affixes (sep : String) {parts : List String} (hne : parts ≠ []) :
    (∃ first ∈ parts, first.toList <+: (join sep parts).toList) ∧
      ∃ last ∈ parts, last.toList <:+ (join sep parts).toList := by
  induction parts with
  | nil => exact absurd rfl hne
  | cons part parts ih =>
    cases parts with
    | nil =>
      rw [join_singleton]
      exact ⟨⟨part, by simp, List.prefix_rfl⟩, ⟨part, by simp, List.suffix_rfl⟩⟩
    | cons next parts =>
      obtain ⟨-, last, hl, hsuffix⟩ := ih (by simp)
      rw [toList_join_cons_cons]
      refine ⟨⟨part, by simp, List.prefix_append _ _⟩, last, List.mem_cons_of_mem _ hl, ?_⟩
      exact hsuffix.trans ((List.suffix_append _ _).trans (List.suffix_append _ _))

theorem trimmed_join (sep : String) {parts : List String} (hne : parts ≠ [])
    (h : ∀ part ∈ parts, Trimmed part ∧ part ≠ "") :
    Trimmed (join sep parts) ∧ join sep parts ≠ "" := by
  obtain ⟨⟨first, hf, hprefix⟩, last, hl, hsuffix⟩ := exists_join_affixes sep hne
  exact trimmed_of_affixes (h first hf) (h last hl) hprefix hsuffix

/-! ## Texts with something in them -/

theorem isAllBlank_eq_false_iff {s : String} :
    isAllBlank s = false ↔ ∃ c ∈ s.toList, isBlank c = false := by
  simp [isAllBlank]

/-- Of blanks alone nothing is left. -/
theorem trim_eq_empty_iff {s : String} : trim s = "" ↔ isAllBlank s := by
  obtain ⟨before, after, h, hb, ha⟩ := exists_eq_trimChars s.toList
  rw [trim, ← String.toList_inj, String.toList_ofList, String.toList_empty, isAllBlank,
    List.all_eq_true]
  constructor
  · intro hn c hc
    rw [hn, List.append_nil] at h
    rw [h, List.mem_append] at hc
    exact hc.elim (hb c) (ha c)
  · intro hall
    by_contra hne
    obtain ⟨c, cs, hcs⟩ := List.exists_cons_of_ne_nil hne
    have hblank : isBlank c = false := head?_trimChars s.toList c (by rw [hcs]; rfl)
    have hmem : c ∈ s.toList := by rw [h, hcs]; simp
    rw [hall c hmem] at hblank
    cases hblank

theorem trimmed?_eq_some_iff {s u : String} :
    trimmed? s = some u ↔ u = trim s ∧ u ≠ "" := by
  unfold trimmed?
  by_cases h : isAllBlank s
  · have := trim_eq_empty_iff.2 h
    simp [h]
    rintro rfl
    exact this
  · have := mt trim_eq_empty_iff.1 h
    simp [h]
    constructor
    · rintro rfl; exact ⟨rfl, this⟩
    · rintro ⟨rfl, _⟩; rfl

/-- A trimmed text is not changed by being trimmed once more. -/
theorem trimmed?_of_trimmed {s : String} (h : Trimmed s) (hne : s ≠ "") : trimmed? s = some s :=
  trimmed?_eq_some_iff.2 ⟨h.symm, hne⟩

@[simp] theorem trimmed?_empty : trimmed? "" = none := by decide

/-! ## Words -/

theorem splitWhere_append (p : Char → Bool) (xs : List Char) {c : Char} (hc : p c)
    (ys : List Char) : splitWhere p (xs ++ c :: ys) = splitWhere p xs ++ splitWhere p ys := by
  induction xs with
  | nil => simp [splitWhere, hc]
  | cons x xs ih =>
    by_cases hx : p x
    · simp [splitWhere, hx, ih]
    · simp only [List.cons_append, splitWhere, hx, ih]
      cases h : splitWhere p xs with
      | nil => exact absurd h (splitWhere_ne_nil p xs)
      | cons piece pieces => simp

theorem splitWhere_of_forall {p : Char → Bool} {xs : List Char} (h : ∀ c ∈ xs, p c = false) :
    splitWhere p xs = [xs] := by
  induction xs with
  | nil => rfl
  | cons x xs ih =>
    rw [splitWhere, ih fun c hc => h c (List.mem_cons_of_mem x hc)]
    simp [h x List.mem_cons_self]

/-- The words of the whole are those before a blank and those after it. -/
theorem wordsOf_append_blank (xs : List Char) {c : Char} (hc : isBlank c) (ys : List Char) :
    wordsOf (xs ++ c :: ys) = wordsOf xs ++ wordsOf ys := by
  rw [wordsOf, splitWhere_append isBlank xs hc, List.filter_append]
  rfl

@[simp] theorem wordsOf_nil : wordsOf [] = [] := rfl

theorem wordsOf_word {xs : List Char} (h : ∀ c ∈ xs, isBlank c = false) (hne : xs ≠ []) :
    wordsOf xs = [xs] := by
  rw [wordsOf, splitWhere_of_forall h]
  simp [hne]

theorem wordsOf_blanks_append {before : List Char} (h : ∀ c ∈ before, isBlank c)
    (xs : List Char) : wordsOf (before ++ xs) = wordsOf xs := by
  induction before with
  | nil => rfl
  | cons c before ih =>
    have := wordsOf_append_blank [] (h c List.mem_cons_self) (before ++ xs)
    rw [List.cons_append, ← List.nil_append (c :: _), this, wordsOf_nil, List.nil_append]
    exact ih fun d hd => h d (List.mem_cons_of_mem c hd)

/-- The pieces are made of characters of the text. -/
theorem mem_of_mem_splitWhere {p : Char → Bool} {cs piece : List Char}
    (h : piece ∈ splitWhere p cs) {c : Char} (hc : c ∈ piece) : c ∈ cs := by
  induction cs generalizing piece with
  | nil => simp [splitWhere] at h; simp [h] at hc
  | cons d ds ih =>
    unfold splitWhere at h
    split at h
    · rcases List.mem_cons.1 h with rfl | h
      · cases hc
      · exact List.mem_cons_of_mem d (ih h hc)
    · split at h
      · rename_i h'
        exact absurd h' (splitWhere_ne_nil p ds)
      · rename_i first rest heq
        rcases List.mem_cons.1 h with rfl | h
        · rcases List.mem_cons.1 hc with rfl | hc
          · exact List.mem_cons_self
          · exact List.mem_cons_of_mem d (ih (heq ▸ List.mem_cons_self) hc)
        · exact List.mem_cons_of_mem d (ih (heq ▸ List.mem_cons_of_mem _ h) hc)

/-- What is not cut away is in a piece. -/
theorem exists_mem_splitWhere {p : Char → Bool} {cs : List Char} {c : Char} (hc : c ∈ cs)
    (hp : p c = false) : ∃ piece ∈ splitWhere p cs, c ∈ piece := by
  induction cs with
  | nil => cases hc
  | cons d ds ih =>
    unfold splitWhere
    split
    · rename_i hd
      have hc : c ∈ ds := (List.mem_cons.1 hc).resolve_left fun heq => by
        rw [heq, hd] at hp
        cases hp
      obtain ⟨piece, hpiece, hmem⟩ := ih hc
      exact ⟨piece, List.mem_cons_of_mem _ hpiece, hmem⟩
    · split
      · rename_i h'
        exact absurd h' (splitWhere_ne_nil p ds)
      · rename_i first rest heq
        rcases List.mem_cons.1 hc with rfl | hc
        · exact ⟨_, List.mem_cons_self, List.mem_cons_self⟩
        · obtain ⟨piece, hpiece, hmem⟩ := ih hc
          rw [heq] at hpiece
          rcases List.mem_cons.1 hpiece with rfl | hpiece
          · exact ⟨_, List.mem_cons_self, List.mem_cons_of_mem d hmem⟩
          · exact ⟨piece, List.mem_cons_of_mem _ hpiece, hmem⟩

theorem mem_of_mem_wordsOf {xs word : List Char} (h : word ∈ wordsOf xs) {c : Char}
    (hc : c ∈ word) : c ∈ xs :=
  mem_of_mem_splitWhere (List.mem_filter.1 h).1 hc

/-- A text that is not blank has a word. -/
theorem wordsOf_eq_nil_iff {xs : List Char} : wordsOf xs = [] ↔ ∀ c ∈ xs, isBlank c := by
  constructor
  · intro h c hc
    by_contra hb
    -- the piece in which `c` stands is a word
    induction xs with
    | nil => cases hc
    | cons x xs ih =>
      by_cases hx : isBlank x
      · have h' := wordsOf_append_blank [] hx xs
        rw [List.nil_append, h, wordsOf_nil, List.nil_append] at h'
        rcases List.mem_cons.1 hc with rfl | hc
        · exact hb hx
        · exact ih h'.symm hc
      · rw [wordsOf, splitWhere, if_neg hx] at h
        cases hs : splitWhere isBlank xs with
        | nil => exact absurd hs (splitWhere_ne_nil isBlank xs)
        | cons piece pieces => rw [hs] at h; simp at h
  · intro h
    have := wordsOf_blanks_append h []
    rwa [List.append_nil] at this

end Clearinghouse.Text
