/-!
# The characters of a document

Where a character stands says what it belongs to, so every character carries its line and its
column. A line break is one character, whichever way it is written; only the two separators of
lines and paragraphs stay what they are. Main statement: from spot to spot the lines never go
back (`pairwise_line_spots`).
-/

namespace Clearinghouse.Yaml

/-- A character and where it stands, counted from zero. -/
structure Spot where
  char : Char
  line : Nat
  column : Nat
  /-- The number of characters before it in the whole text. -/
  index : Nat
  deriving DecidableEq, Repr

/-- The characters that a document can hold. -/
def isAllowed (c : Char) : Bool :=
  c ∈ ['\t', '\n', '\r', '\u0085'] || (' ' ≤ c && c ≤ '~') ||
    ('\u00a0' ≤ c && c != '\ufffe' && c != '\uffff')

def byteOrderMark : Char := '\ufeff'

def breaks : List Char := ['\n', '\r', '\u0085', '\u2028', '\u2029']

/-- The characters of a text that begins at this place. -/
def spots (line column index : Nat) : List Char → List Spot
  | [] => []
  | '\r' :: '\n' :: cs => ⟨'\n', line, column, index⟩ :: spots (line + 1) 0 (index + 2) cs
  | c :: cs =>
    if c ∈ breaks then
      ⟨if c == '\r' || c == '\u0085' then '\n' else c, line, column, index⟩ ::
        spots (line + 1) 0 (index + 1) cs
    else ⟨c, line, column, index⟩ :: spots line (column + 1) (index + 1) cs

/-- The characters of a document, if all of them are allowed. -/
def spots? (s : String) : Option (List Spot) :=
  if s.toList.all isAllowed then some (spots 0 0 0 s.toList) else none

theorem le_line_of_mem_spots {line column index : Nat} {cs : List Char} {s : Spot}
    (h : s ∈ spots line column index cs) : line ≤ s.line := by
  fun_induction spots line column index cs with
  | case1 => simp at h
  | case2 line column index cs ih =>
    rcases List.mem_cons.1 h with rfl | h
    · exact Nat.le_refl _
    · exact Nat.le_of_succ_le (ih h)
  | case3 line column index c cs _ _ ih =>
    rcases List.mem_cons.1 h with rfl | h
    · exact Nat.le_refl _
    · exact Nat.le_of_succ_le (ih h)
  | case4 line column index c cs _ _ ih =>
    rcases List.mem_cons.1 h with rfl | h
    · exact Nat.le_refl _
    · exact ih h

theorem pairwise_line_spots (line column index : Nat) (cs : List Char) :
    (spots line column index cs).Pairwise (·.line ≤ ·.line) := by
  fun_induction spots line column index cs with
  | case1 => exact List.Pairwise.nil
  | case2 _ _ _ _ ih =>
    exact List.Pairwise.cons (fun _ h => Nat.le_of_succ_le (le_line_of_mem_spots h)) ih
  | case3 _ _ _ _ _ _ _ ih =>
    exact List.Pairwise.cons (fun _ h => Nat.le_of_succ_le (le_line_of_mem_spots h)) ih
  | case4 _ _ _ _ _ _ _ ih =>
    exact List.Pairwise.cons (fun _ h => le_line_of_mem_spots h) ih

/-! ## Classes of characters -/

namespace Spot

def isBlank (s : Spot) : Bool := s.char == ' ' || s.char == '\t'

def isBreak (s : Spot) : Bool := s.char ∈ breaks

/-- A character of names: a letter or a digit of ASCII, a dash or an underscore. -/
def isWord (s : Spot) : Bool := s.char.isAlphanum || s.char == '-' || s.char == '_'

end Spot

/-- A blank, a line break or the end comes next. -/
def endsWord : List Spot → Bool
  | [] => true
  | s :: _ => s.isBlank || s.isBreak

/-- The character that comes next is one of these. -/
def isNext (cs : List Char) (spots : List Spot) : Bool := spots.head?.any (cs.contains ·.char)

/-- Three of these characters stand alone at the beginning of a line. -/
def isRule (c : Char) : List Spot → Bool
  | s₁ :: s₂ :: s₃ :: rest =>
    s₁.column == 0 && s₁.char == c && s₂.char == c && s₃.char == c && endsWord rest
  | _ => false

/-- What begins a document or ends it. -/
def isBoundary (spots : List Spot) : Bool := isRule '-' spots || isRule '.' spots

/-- What follows the line, if nothing but blanks and a comment is left of it. -/
def afterLine? (spots : List Spot) : Option (List Spot) :=
  let rest := spots.dropWhile (·.isBlank)
  let rest := if isNext ['#'] rest then rest.dropWhile (!·.isBreak) else rest
  match rest with
  | [] => some []
  | s :: rest => if s.isBreak then some rest else none

end Clearinghouse.Yaml
