import Clearinghouse.Text.Hexadecimal
import Clearinghouse.Yaml.Spot

/-!
# Scalars

The texts of a document. A scalar is plain, in single or double quotes, or a block of lines. In
all but a block a single line break stands for a space, and of several line breaks the first one
counts for nothing. Main statements: blanks between two words stay what they are as long as the
line does not end (`Gap.text_ofSpots_of_blanks`), and once it has ended only the line breaks count
(`Gap.text_ofSpots_of_break`).
-/

namespace Clearinghouse.Yaml

open Text

/-- How a scalar is written. -/
inductive Style
  | plain
  | quoted
  | literal
  | folded
  deriving DecidableEq, Repr

/-! ## Gaps between words -/

/-- What stands between two words, last character first. -/
inductive Gap
  | blanks (done : List Char)
  /-- A line has ended: by `first`, unless that is left out, and then by `more`. -/
  | breaks (first : Option Char) (more : List Char)
  deriving DecidableEq, Repr

namespace Gap

def none : Gap := blanks []

def isBreak : Gap → Bool
  | breaks .. => true
  | blanks _ => false

/-- The gap with one more blank or line break; blanks around line breaks do not count. -/
def add (s : Spot) : Gap → Gap
  | blanks done => if s.isBreak then breaks (some s.char) [] else blanks (s.char :: done)
  | breaks first more => breaks first (if s.isBreak then s.char :: more else more)

/-- What the gap stands for, last character first. -/
def text : Gap → List Char
  | blanks done => done
  | breaks (some '\n') [] => [' ']
  | breaks (some '\n') more => more
  | breaks first more => more ++ first.toList

/-- The gap that some blanks and line breaks make. -/
def ofSpots (spots : List Spot) : Gap := spots.foldl (fun gap s => gap.add s) none

theorem foldl_add_blanks (done : List Char) {spots : List Spot}
    (h : ∀ s ∈ spots, s.isBreak = false) :
    spots.foldl (fun gap s => gap.add s) (blanks done) =
      blanks ((spots.map (·.char)).reverse ++ done) := by
  induction spots generalizing done with
  | nil => rfl
  | cons s spots ih =>
    rw [List.forall_mem_cons] at h
    have hadd : (blanks done).add s = blanks (s.char :: done) := by simp [add, h.1]
    rw [List.foldl_cons, hadd, ih _ h.2]
    simp

theorem foldl_add_breaks (first : Option Char) (more : List Char) (spots : List Spot) :
    spots.foldl (fun gap s => gap.add s) (breaks first more) =
      breaks first (((spots.filter (·.isBreak)).map (·.char)).reverse ++ more) := by
  induction spots generalizing more with
  | nil => rfl
  | cons s spots ih =>
    rw [List.foldl_cons, add, ih, List.filter_cons]
    split <;> simp

theorem text_ofSpots_of_blanks {spots : List Spot} (h : ∀ s ∈ spots, s.isBreak = false) :
    (ofSpots spots).text.reverse = spots.map (·.char) := by
  rw [ofSpots, none, foldl_add_blanks [] h, List.append_nil, text, List.reverse_reverse]

/-- A line feed is a space if no other break follows; else it is nothing. -/
theorem text_breaks (first : Char) (more : List Char) :
    (breaks (some first) more.reverse).text.reverse =
      if first ≠ '\n' then first :: more else if more.isEmpty then [' '] else more := by
  by_cases hfeed : first = '\n'
  · subst hfeed
    cases more with
    | nil => rfl
    | cons c more =>
      obtain ⟨last, others, hreverse⟩ := List.exists_cons_of_ne_nil
        (List.reverse_ne_nil_iff.2 (List.cons_ne_nil c more))
      have htext : (breaks (some '\n') (c :: more).reverse).text = (c :: more).reverse := by
        rw [hreverse]
        rfl
      rw [htext, List.reverse_reverse]
      rfl
  · simp [text, hfeed]

/-- The blanks around line breaks do not count. -/
theorem text_ofSpots_of_break {before after : List Spot} {s : Spot}
    (h : ∀ s ∈ before, s.isBreak = false) (hs : s.isBreak) :
    (ofSpots (before ++ s :: after)).text.reverse =
      let more := (after.filter (·.isBreak)).map (·.char)
      if s.char ≠ '\n' then s.char :: more else if more.isEmpty then [' '] else more := by
  have hadd (done : List Char) : (blanks done).add s = breaks (some s.char) [] := by
    simp [add, hs]
  rw [ofSpots, List.foldl_append, none, foldl_add_blanks [] h, List.foldl_cons, hadd,
    foldl_add_breaks, List.append_nil]
  exact text_breaks s.char _

end Gap

/-! ## Plain scalars -/

/-- What a plain scalar cannot begin with. -/
def indicators : List Char :=
  ['-', '?', ':', ',', '[', ']', '\x7b', '\x7d', '#', '&', '*', '!', '|', '>', '\'', '"', '%',
    '@', '\x60']

def flowMarks : List Char := [',', '[', ']', '\x7b', '\x7d']

/-- The plain scalar that goes on here after `done` and a gap, and whether its line had ended
when it did. Beyond its first line it stands at `margin` or right of it. -/
def plain (inFlow : Bool) (margin : Nat) (done : List Char) (gap : Gap) :
    List Spot → Option (String × Bool × List Spot)
  | [] => some (.ofList done.reverse, gap.isBreak, [])
  | s :: rest =>
    if s.isBlank || s.isBreak then
      if gap.isBreak && s.char == '\t' && s.column < margin then .none
      else plain inFlow margin done (gap.add s) rest
    else if (gap.isBreak && !inFlow && s.column < margin) || isBoundary (s :: rest) ||
        (gap != .none && s.char == '#') then
      some (.ofList done.reverse, gap.isBreak, s :: rest)
    else if inFlow && s.char == ':' && isNext ('?' :: flowMarks) rest then .none
    else if (s.char == ':' && endsWord rest) || (inFlow && flowMarks.contains s.char) then
      some (.ofList done.reverse, gap.isBreak, s :: rest)
    else plain inFlow margin (s.char :: gap.text ++ done) .none rest

/-! ## Quoted scalars -/

/-- What is left of a scalar in single quotes, in which a quote is written twice. -/
def singleQuoted (done : List Char) (gap : Gap) : List Spot → Option (String × List Spot)
  | [] => .none
  | s :: rest =>
    if s.isBlank || s.isBreak then singleQuoted done (gap.add s) rest
    else if isBoundary (s :: rest) then .none
    else if s.char == '\'' then
      match rest with
      | [] => some (.ofList (gap.text ++ done).reverse, [])
      | t :: rest =>
        if t.char == '\'' then singleQuoted ('\'' :: gap.text ++ done) .none rest
        else some (.ofList (gap.text ++ done).reverse, t :: rest)
    else singleQuoted (s.char :: gap.text ++ done) .none rest

/-- The character that a single letter after a backslash stands for. -/
def escapes : List (Char × Char) :=
  [('0', '\x00'), ('a', '\x07'), ('b', '\x08'), ('t', '\t'), ('\t', '\t'), ('n', '\n'),
    ('v', '\x0b'), ('f', '\x0c'), ('r', '\r'), ('e', '\x1b'), (' ', ' '), ('"', '"'), ('/', '/'),
    ('\\', '\\'), ('N', '\u0085'), ('_', '\u00a0'), ('L', '\u2028'), ('P', '\u2029')]

/-- The number of digits in a numeric escape. -/
def escapeLength? (c : Char) : Option Nat := [('x', 2), ('u', 4), ('U', 8)].lookup c

/-- What a double-quoted scalar is in the middle of. -/
inductive Escape
  | none
  | letter
  | digits (left value : Nat)

/-- What is left of a scalar in double quotes, in which a backslash begins an escape. A line break
after a backslash is left out. -/
def doubleQuoted (done : List Char) (gap : Gap) (escape : Escape) :
    List Spot → Option (String × List Spot)
  | [] => .none
  | s :: rest =>
    match escape with
    | .digits left value =>
      match hexDigit? s.char with
      | .none => .none
      | some digit =>
        let value := 16 * value + digit
        if left > 1 then doubleQuoted done .none (.digits (left - 1) value) rest
        else if value.isValidChar then doubleQuoted (.ofNat value :: done) .none .none rest
        else .none
    | .letter =>
      match escapes.lookup s.char, escapeLength? s.char with
      | some c, _ => doubleQuoted (c :: done) .none .none rest
      | .none, some length => doubleQuoted done .none (.digits length 0) rest
      | .none, .none =>
        if s.isBreak then doubleQuoted done (.breaks .none []) .none rest else .none
    | .none =>
      if s.isBlank || s.isBreak then doubleQuoted done (gap.add s) .none rest
      else if isBoundary (s :: rest) then .none
      else if s.char == '"' then some (.ofList (gap.text ++ done).reverse, rest)
      else if s.char == '\\' then doubleQuoted (gap.text ++ done) .none .letter rest
      else doubleQuoted (s.char :: gap.text ++ done) .none .none rest

/-! ## Blocks of lines -/

/-- What becomes of the line breaks at the end of a block. -/
inductive Chomping
  | strip
  | clip
  | keep
  deriving DecidableEq, Repr

def chomping? (s : Spot) : Option Chomping := [('-', .strip), ('+', .keep)].lookup s.char

/-- An indentation that a block states itself. -/
def indentation? (s : Spot) : Option Nat :=
  if '1' ≤ s.char && s.char ≤ '9' then hexDigit? s.char else none

/-- Take what `f` finds in the next character, if it finds something. -/
def takeNext {α : Type} (f : Spot → Option α) (spots : List Spot) : Option α × List Spot :=
  match spots.head?.bind f with
  | some a => (some a, spots.drop 1)
  | none => (none, spots)

/-- The widest margin of the empty lines at the front and of the first line with a text. -/
def widestMargin (widest : Nat) : List Spot → Option Nat
  | [] => some widest
  | s :: rest =>
    if s.char == ' ' then widestMargin (max widest (s.column + 1)) rest
    else if s.isBreak then widestMargin widest rest
    else if s.char == '\t' then none
    else some widest

/-- A block that has been read up to some place. -/
structure Block where
  done : List Char
  /-- The line break after the last line with a text. -/
  lineEnd : Option Char
  /-- The line breaks after that one. -/
  more : List Char
  /-- The last line with a text begins with a blank. -/
  isInset : Bool
  deriving Repr

namespace Block

/-- Put what the line breaks stand for before a line that begins with `c`. -/
def join (isLiteral : Bool) (s : Spot) (b : Block) : List Char :=
  if !isLiteral && b.lineEnd == some '\n' && !b.isInset && !s.isBlank then
    (if b.more.isEmpty then [' '] else b.more) ++ b.done
  else b.more ++ b.lineEnd.toList ++ b.done

def finish (chomping : Chomping) (b : Block) : String :=
  .ofList <| List.reverse <|
    match chomping with
    | .strip => b.done
    | .clip => b.lineEnd.toList ++ b.done
    | .keep => b.more ++ b.lineEnd.toList ++ b.done

/-- Read on, in a line or in its margin; the lines begin at `column`. -/
def lines (isLiteral : Bool) (column : Nat) (inLine : Bool) (b : Block) :
    List Spot → Option (Block × List Spot)
  | [] => some (b, [])
  | s :: rest =>
    if inLine then
      if s.isBreak then lines isLiteral column false { b with lineEnd := some s.char } rest
      else lines isLiteral column true { b with done := s.char :: b.done } rest
    else if s.column < column && s.char == ' ' then lines isLiteral column false b rest
    else if s.column < column && s.char == '\t' then none
    else if s.isBreak then lines isLiteral column false { b with more := s.char :: b.more } rest
    else if s.column == column then
      lines isLiteral column true ⟨s.char :: b.join isLiteral s, none, [], s.isBlank⟩ rest
    else some (b, s :: rest)

end Block

/-- The block that follows its mark. `outer` is the column of the collection around it. -/
def block (isLiteral : Bool) (outer : Option Nat) (spots : List Spot) :
    Option (String × List Spot) := do
  let (chomping, spots) := takeNext chomping? spots
  let (stated, spots) := takeNext indentation? spots
  let (chomping, spots) :=
    if chomping.isNone && stated.isSome then takeNext chomping? spots else (chomping, spots)
  let spots ← afterLine? spots
  let column ←
    match stated with
    | some width => some (outer.getD 0 + width)
    | none => do
      let widest ← widestMargin 0 spots
      some (max 1 (max widest (outer.elim 0 (· + 1))))
  let (b, rest) ← Block.lines isLiteral column false ⟨[], none, [], false⟩ spots
  return (b.finish (chomping.getD .clip), rest)

end Clearinghouse.Yaml
