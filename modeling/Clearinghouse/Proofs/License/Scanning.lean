import Clearinghouse.License.Expression
import Clearinghouse.Proofs.Text.Trimmed

/-!
# The tokens of an expression

The tokens of a text are those before a blank and those after it (`tokensOf_append_blank`); a
parenthesis is a token wherever it stands (`tokensOf_append_paren`). From the two follows what
a printed expression scans to. The words that come out hold no parenthesis, no blank and are no
keywords (`isWord_of_mem_scan`), and such words scan to themselves (`tokensOf_word`).
-/

namespace Clearinghouse.License.Token

open Text

/-- The tokens of a list of characters. -/
def tokensOf (cs : List Char) : List Token :=
  (wordsOf (cs.flatMap space)).map fun w => ofWord (.ofList w)

theorem scan_eq (s : String) : scan s = tokensOf s.toList := rfl

def isParen (c : Char) : Bool := c == '(' || c == ')'

theorem isParen_iff {c : Char} : isParen c ↔ c = '(' ∨ c = ')' := by simp [isParen]

theorem space_of_isParen {c : Char} (h : isParen c) : space c = [' ', c, ' '] := if_pos h

theorem space_of_not_isParen {c : Char} (h : isParen c = false) : space c = [c] :=
  if_neg (Bool.eq_false_iff.1 h)

theorem isBlank_of_isParen {c : Char} (h : isParen c) : isBlank c = false := by
  rcases isParen_iff.1 h with rfl | rfl <;> decide

theorem isParen_of_isBlank {c : Char} (h : isBlank c) : isParen c = false := by
  by_contra hp
  rw [isBlank_of_isParen (by simpa using hp)] at h
  cases h

/-! ## Cutting a text -/

@[simp] theorem tokensOf_nil : tokensOf [] = [] := rfl

theorem tokensOf_append_blank (xs : List Char) {c : Char} (hc : isBlank c) (ys : List Char) :
    tokensOf (xs ++ c :: ys) = tokensOf xs ++ tokensOf ys := by
  unfold tokensOf
  rw [List.flatMap_append, List.flatMap_cons, space_of_not_isParen (isParen_of_isBlank hc),
    List.singleton_append, wordsOf_append_blank _ hc, List.map_append]

theorem tokensOf_append_paren (xs : List Char) {c : Char} (hc : isParen c) (ys : List Char) :
    tokensOf (xs ++ c :: ys) = tokensOf xs ++ ofWord (.singleton c) :: tokensOf ys := by
  have hspace : isBlank ' ' := by decide
  have hword : wordsOf [c] = [[c]] :=
    wordsOf_word (by simpa using isBlank_of_isParen hc) (by simp)
  unfold tokensOf
  rw [List.flatMap_append, List.flatMap_cons, space_of_isParen hc]
  show List.map _ (wordsOf (_ ++ ' ' :: ([c] ++ ' ' :: _))) = _
  rw [wordsOf_append_blank _ hspace, wordsOf_append_blank _ hspace, hword, List.map_append,
    List.map_append]
  rfl

/-- Only blanks scan to nothing. -/
theorem isBlank_of_scan_eq_nil {s : String} (h : scan s = []) : ∀ c ∈ s.toList, isBlank c := by
  rw [scan_eq, tokensOf, List.map_eq_nil_iff, wordsOf_eq_nil_iff] at h
  intro c hc
  refine h c (List.mem_flatMap.2 ⟨c, hc, ?_⟩)
  unfold space
  split <;> simp

/-- A text without parentheses has the tokens of its words. -/
theorem tokensOf_of_forall {cs : List Char} (h : ∀ c ∈ cs, isParen c = false) :
    tokensOf cs = (wordsOf cs).map fun w => ofWord (.ofList w) := by
  have hspace : cs.flatMap space = cs := by
    induction cs with
    | nil => rfl
    | cons c cs ih =>
      rw [List.flatMap_cons, space_of_not_isParen (h c List.mem_cons_self),
        ih fun d hd => h d (List.mem_cons_of_mem c hd)]
      rfl
  rw [tokensOf, hspace]

/-- What holds of texts without parentheses, and of a text if it holds of what follows its first
parenthesis, holds of all texts. -/
theorem paren_induction {motive : List Char → Prop}
    (clear : ∀ cs, (∀ c ∈ cs, isParen c = false) → motive cs)
    (paren : ∀ xs c ys, (∀ x ∈ xs, isParen x = false) → isParen c → motive ys →
      motive (xs ++ c :: ys))
    (cs : List Char) : motive cs := by
  induction hn : cs.length using Nat.strongRecOn generalizing cs with
  | ind n ih =>
    cases hf : cs.find? isParen with
    | none => exact clear cs fun c hc => by simpa using List.find?_eq_none.1 hf c hc
    | some c =>
      obtain ⟨hc, xs, ys, rfl, hxs⟩ := List.find?_eq_some_iff_append.1 hf
      refine paren xs c ys (fun x hx => by simpa using hxs x hx) hc ?_
      exact ih ys.length (by subst hn; rw [List.length_append, List.length_cons]; omega) ys rfl

/-! ## Words -/

/-- The words that are not read as an id. -/
def keywords : List String := ["AND", "and", "OR", "or", "WITH", "with"]

/-- A text that is read as one word of an id. -/
structure IsWord (w : String) : Prop where
  ne_empty : w ≠ ""
  solid : ∀ c ∈ w.toList, isBlank c = false
  clear : ∀ c ∈ w.toList, isParen c = false
  ordinary : w ∉ keywords

theorem isWord_iff {w : String} :
    IsWord w ↔ w ≠ "" ∧ w.toList.all (fun c => !isBlank c && !isParen c) ∧ w ∉ keywords := by
  simp only [List.all_eq_true, Bool.and_eq_true, Bool.not_eq_true', forall_and]
  constructor
  · rintro ⟨hne, hsolid, hclear, hordinary⟩
    exact ⟨hne, ⟨hsolid, hclear⟩, hordinary⟩
  · rintro ⟨hne, ⟨hsolid, hclear⟩, hordinary⟩
    exact ⟨hne, hsolid, hclear, hordinary⟩

instance (w : String) : Decidable (IsWord w) := decidable_of_iff' _ isWord_iff

/-- What is solid and clear is a keyword or a word. -/
theorem ofWord_eq_word_iff {text w : String} (h : ∀ c ∈ text.toList, isParen c = false) :
    ofWord text = .word w ↔ text = w ∧ text ∉ keywords := by
  have hopen : text ≠ "(" := by
    rintro rfl
    exact absurd (h '(' (by decide)) (by decide)
  have hclose : text ≠ ")" := by
    rintro rfl
    exact absurd (h ')' (by decide)) (by decide)
  unfold ofWord
  simp only [beq_iff_eq, hopen, hclose, if_false]
  by_cases hand : text ∈ ["AND", "and"]
  · simp only [if_pos hand, reduceCtorEq, false_iff, not_and_not_right]
    intro; simp only [List.mem_cons, List.not_mem_nil, keywords] at hand ⊢; tauto
  by_cases hor : text ∈ ["OR", "or"]
  · simp only [if_neg hand, if_pos hor, reduceCtorEq, false_iff, not_and_not_right]
    intro; simp only [List.mem_cons, List.not_mem_nil, keywords] at hor ⊢; tauto
  by_cases hwith : text ∈ ["WITH", "with"]
  · simp only [if_neg hand, if_neg hor, if_pos hwith, reduceCtorEq, false_iff,
      not_and_not_right]
    intro; simp only [List.mem_cons, List.not_mem_nil, keywords] at hwith ⊢; tauto
  simp only [if_neg hand, if_neg hor, if_neg hwith, word.injEq]
  simp only [List.mem_cons, List.not_mem_nil, or_false, not_or] at hand hor hwith
  simp [keywords, hand, hor, hwith]

theorem ofWord_of_isWord {w : String} (h : IsWord w) : ofWord w = .word w :=
  (ofWord_eq_word_iff h.clear).2 ⟨rfl, h.ordinary⟩

/-- A word scans to itself. -/
theorem tokensOf_word {w : String} (h : IsWord w) : tokensOf w.toList = [.word w] := by
  have hne : w.toList ≠ [] := by simpa using h.ne_empty
  rw [tokensOf_of_forall h.clear, wordsOf_word h.solid hne, List.map_singleton,
    String.ofList_toList, ofWord_of_isWord h]

theorem isWord_of_mem_clear {cs : List Char} (hcs : ∀ c ∈ cs, isParen c = false) {w : String}
    (h : .word w ∈ tokensOf cs) : IsWord w := by
  rw [tokensOf_of_forall hcs] at h
  obtain ⟨chars, hmem, hw⟩ := List.mem_map.1 h
  have hword := isBlank_of_mem_words hmem
  have hclear : ∀ c ∈ (String.ofList chars).toList, isParen c = false := by
    intro c hc
    rw [String.toList_ofList] at hc
    exact hcs c (mem_of_mem_wordsOf hmem hc)
  obtain ⟨rfl, hkey⟩ := (ofWord_eq_word_iff hclear).1 hw
  refine ⟨?_, ?_, hclear, hkey⟩
  · simpa using hword.1
  · rw [String.toList_ofList]
    exact hword.2

/-- The words of a text are solid, clear and ordinary. -/
theorem isWord_of_mem_scan {s w : String} (h : .word w ∈ scan s) : IsWord w := by
  rw [scan_eq] at h
  generalize s.toList = cs at h
  induction cs using paren_induction with
  | clear cs hcs => exact isWord_of_mem_clear hcs h
  | paren xs c ys hxs hc ih =>
    rw [tokensOf_append_paren xs hc, List.mem_append, List.mem_cons] at h
    rcases h with h | h | h
    · exact isWord_of_mem_clear hxs h
    · rcases isParen_iff.1 hc with rfl | rfl <;> cases h
    · exact ih h

end Clearinghouse.License.Token
