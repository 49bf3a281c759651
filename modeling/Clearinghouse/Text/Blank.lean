/-!
# Blank space and cutting

Text is cut and trimmed at the characters with the Unicode property *White_Space*, not only at
the ASCII blanks. Main statements: a word is not empty and holds no blank
(`isBlank_of_mem_words`), and the two halves of a first cut give back the text around the
character they were cut at (`eq_of_cutFirst?`).
-/

namespace Clearinghouse.Text

/-- The characters with the property *White_Space*. -/
def isBlank (c : Char) : Bool :=
  let n := c.toNat
  (9 ≤ n && n ≤ 13) || n == 0x20 || n == 0x85 || n == 0xA0 || n == 0x1680 ||
    (0x2000 ≤ n && n ≤ 0x200A) || n == 0x2028 || n == 0x2029 || n == 0x202F || n == 0x205F ||
    n == 0x3000

/-- The property extends the ASCII blanks. -/
theorem isBlank_of_isWhitespace {c : Char} (h : c.isWhitespace) : isBlank c := by
  simp only [Char.isWhitespace, Bool.or_eq_true, decide_eq_true_eq] at h
  obtain ((rfl | rfl) | rfl) | rfl := h <;> decide

/-! ## Trimming -/

def trimStart (cs : List Char) : List Char := cs.dropWhile isBlank

def trimEnd (cs : List Char) : List Char := (cs.reverse.dropWhile isBlank).reverse

def trimChars (cs : List Char) : List Char := trimEnd (trimStart cs)

/-- The text without the blanks around it. -/
def trim (s : String) : String := .ofList (trimChars s.toList)

/-- A text with nothing but blanks in it. -/
def isAllBlank (s : String) : Bool := s.toList.all isBlank

/-- The trimmed text, unless nothing is left of it. -/
def trimmed? (s : String) : Option String :=
  if isAllBlank s then none else some (trim s)

/-- Strip one character from both ends, as often as it stands there. -/
def trimMatches (p : Char → Bool) (cs : List Char) : List Char :=
  ((cs.dropWhile p).reverse.dropWhile p).reverse

/-! ## Cutting -/

/-- Cut at every character that satisfies `p`; the cutting characters are dropped. -/
def splitWhere (p : Char → Bool) : List Char → List (List Char)
  | [] => [[]]
  | c :: cs =>
    if p c then [] :: splitWhere p cs
    else match splitWhere p cs with
      | [] => [[c]]
      | piece :: pieces => (c :: piece) :: pieces

/-- Cut at every `sep`. -/
def splitAt (sep : Char) (s : String) : List String :=
  (splitWhere (· == sep) s.toList).map .ofList

/-- The longest runs without a blank. -/
def wordsOf (cs : List Char) : List (List Char) :=
  (splitWhere isBlank cs).filter (!·.isEmpty)

def words (s : String) : List String := (wordsOf s.toList).map .ofList

/-- Cut at the first character that satisfies `p`, which is dropped. -/
def cutFirst? (p : Char → Bool) : List Char → Option (List Char × List Char)
  | [] => none
  | c :: cs =>
    if p c then some ([], cs) else (cutFirst? p cs).map fun (a, b) => (c :: a, b)

/-- Cut at the last character that satisfies `p`, which is dropped. -/
def cutLast? (p : Char → Bool) (cs : List Char) : Option (List Char × List Char) :=
  (cutFirst? p cs.reverse).map fun (a, b) => (b.reverse, a.reverse)

/-- What follows `start`, if the text begins with it. -/
def stripStart? (start cs : List Char) : Option (List Char) :=
  if start.isPrefixOf cs then some (cs.drop start.length) else none

/-- Join with `sep` between neighbours. -/
def join (sep : String) (parts : List String) : String := sep.intercalate parts

/-! ## Laws -/

theorem splitWhere_ne_nil (p : Char → Bool) (cs : List Char) : splitWhere p cs ≠ [] := by
  induction cs with
  | nil => simp [splitWhere]
  | cons c cs ih =>
    unfold splitWhere
    split
    · simp
    · split <;> simp

/-- No cutting character is left in a piece. -/
theorem not_of_mem_splitWhere {p : Char → Bool} {cs piece : List Char}
    (h : piece ∈ splitWhere p cs) {c : Char} (hc : c ∈ piece) : p c = false := by
  induction cs generalizing piece with
  | nil => simp [splitWhere] at h; simp [h] at hc
  | cons d ds ih =>
    unfold splitWhere at h
    split at h
    · rcases List.mem_cons.1 h with rfl | h
      · simp at hc
      · exact ih h hc
    · rename_i hd
      split at h
      · rename_i h'; exact absurd h' (splitWhere_ne_nil p ds)
      · rename_i first rest heq
        rcases List.mem_cons.1 h with rfl | h
        · rcases List.mem_cons.1 hc with rfl | hc
          · simpa using hd
          · exact ih (heq ▸ List.mem_cons_self) hc
        · exact ih (heq ▸ List.mem_cons_of_mem _ h) hc

/-- Words hold no blank and are not empty. -/
theorem isBlank_of_mem_words {cs word : List Char} (h : word ∈ wordsOf cs) :
    word ≠ [] ∧ ∀ c ∈ word, isBlank c = false := by
  simp only [wordsOf, List.mem_filter, Bool.not_eq_eq_eq_not, Bool.not_true,
    List.isEmpty_eq_false_iff] at h
  exact ⟨h.2, fun c hc => not_of_mem_splitWhere h.1 hc⟩

/-- Both halves of a first cut, with the cutting character between them, give back the text. -/
theorem eq_of_cutFirst? {p : Char → Bool} {cs a b : List Char} (h : cutFirst? p cs = some (a, b)) :
    ∃ c, p c ∧ cs = a ++ c :: b ∧ ∀ x ∈ a, p x = false := by
  induction cs generalizing a b with
  | nil => simp [cutFirst?] at h
  | cons d ds ih =>
    unfold cutFirst? at h
    split at h
    · rename_i hd
      simp only [Option.some.injEq, Prod.mk.injEq] at h
      obtain ⟨rfl, rfl⟩ := h
      exact ⟨d, hd, by simp⟩
    · rename_i hd
      obtain ⟨⟨a', b'⟩, h', heq⟩ := Option.map_eq_some_iff.1 h
      simp only [Prod.mk.injEq] at heq
      obtain ⟨rfl, rfl⟩ := heq
      obtain ⟨c, hc, rfl, ha⟩ := ih h'
      refine ⟨c, hc, rfl, ?_⟩
      intro x hx
      rcases List.mem_cons.1 hx with rfl | hx
      · simpa using hd
      · exact ha x hx

end Clearinghouse.Text
