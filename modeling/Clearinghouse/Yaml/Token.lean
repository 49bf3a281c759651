import Clearinghouse.Yaml.Property
import Clearinghouse.Yaml.Scalar

/-!
# Tokens

What a document is made of. Collections in brackets and braces say where they begin and end; for
the others the columns say it, and the tokens for their beginning and end are put in. That
something was the key of a mapping shows only when the colon follows it, on the same line and not
too far away. Main statement: the columns of the open collections decrease from the innermost one
outwards, whatever opens or closes (`columns_openAt`, `columns_closeWhile`).
-/

namespace Clearinghouse.Yaml

inductive Token
  | directive (d : Directive)
  | documentStart
  | documentEnd
  | blockSequence
  | blockMapping
  /-- The end of the innermost collection that its column holds together. -/
  | blockEnd
  | leftBracket
  | rightBracket
  | leftBrace
  | rightBrace
  | dash
  | comma
  | key
  | value
  | reference (name : String)
  | anchor (name : String)
  | tag (t : ShortTag)
  | scalar (style : Style) (text : String)
  deriving DecidableEq, Repr

/-! ## Layout -/

/-- What may turn out to be a key, and how many tokens were there before it. -/
structure Candidate where
  line : Nat
  index : Nat
  column : Nat
  count : Nat
  /-- Where it stands, nothing but a key can stand. -/
  isRequired : Bool
  deriving Repr

namespace Candidate

/-- The longest key, in characters. -/
def maxLength : Nat := 1024

/-- A colon at `s` comes too late. -/
def isStale (k : Candidate) (s : Spot) : Bool :=
  k.line < s.line || k.index + maxLength < s.index

end Candidate

/-- What is open at a place of the document. -/
structure Layout where
  /-- The tokens so far, last one first. -/
  done : List Token
  /-- A key may begin here. -/
  allowsKey : Bool
  candidate : Option Candidate
  /-- The candidates of the collections around the innermost bracket or brace. -/
  outer : List (Option Candidate)
  /-- The columns of the open collections without brackets, innermost first. -/
  columns : List Nat
  deriving Repr

namespace Layout

def start : Layout := ⟨[], true, none, [], []⟩

def inFlow (l : Layout) : Bool := !l.outer.isEmpty

/-- The least column right of the innermost collection. -/
def margin (l : Layout) : Nat := l.columns.head?.elim 0 (· + 1)

def emit (t : Token) (l : Layout) : Layout := { l with done := t :: l.done }

/-- Put in a token after the first `count` ones. -/
def insert (count : Nat) (t : Token) (l : Layout) : Layout :=
  let later := l.done.length - count
  { l with done := l.done.take later ++ t :: l.done.drop later }

def allowKey (allows : Bool) (l : Layout) : Layout := { l with allowsKey := allows }

/-! ### Columns -/

/-- Open a collection at a column right of the others, after the first `count` tokens. -/
def openAt (column : Nat) (t : Token) (count : Nat) (l : Layout) : Layout :=
  if l.inFlow || column < l.margin then l
  else { l.insert count t with columns := column :: l.columns }

/-- Close the innermost collections as long as `p` holds of their columns. -/
def closeWhile (p : Nat → Bool) (l : Layout) : Layout :=
  if l.inFlow then l
  else
    { l with
      done := List.replicate (l.columns.takeWhile p).length .blockEnd ++ l.done
      columns := l.columns.dropWhile p }

theorem columns_openAt {l : Layout} (h : l.columns.Pairwise (· > ·)) (column : Nat) (t : Token)
    (count : Nat) : (l.openAt column t count).columns.Pairwise (· > ·) := by
  unfold openAt
  split
  · exact h
  · rename_i hc
    simp only [Bool.or_eq_true, decide_eq_true_eq, not_or] at hc
    refine List.Pairwise.cons (fun c hcs => ?_) h
    match hl : l.columns with
    | [] => simp [hl] at hcs
    | d :: ds =>
      have hd : d + 1 ≤ column := by simpa [margin, hl] using hc.2
      rw [hl] at h hcs
      rcases List.mem_cons.1 hcs with rfl | hcs
      · exact hd
      · exact Nat.lt_trans (List.rel_of_pairwise_cons h hcs) hd

theorem columns_closeWhile {l : Layout} (h : l.columns.Pairwise (· > ·)) (p : Nat → Bool) :
    (l.closeWhile p).columns.Pairwise (· > ·) := by
  unfold closeWhile
  split
  · exact h
  · exact h.sublist (List.dropWhile_sublist p)

/-! ### Candidates -/

/-- Give the candidate up, unless it had to be a key. -/
def giveUp (l : Layout) : Option Layout :=
  if l.candidate.any (·.isRequired) then none else some { l with candidate := none }

/-- Give up the candidates for which a colon at `s` comes too late. -/
def expire (s : Spot) (l : Layout) : Option Layout :=
  let isLost (k : Candidate) := k.isStale s && k.isRequired
  if (l.candidate :: l.outer).any (·.any isLost) then none
  else
    let still (k : Option Candidate) := k.filter fun k => !k.isStale s
    some { l with candidate := still l.candidate, outer := l.outer.map still }

/-- What begins at `s` is a candidate, if a key may begin there. -/
def offer (s : Spot) (l : Layout) : Option Layout := do
  if l.allowsKey then
    let isRequired := !l.inFlow && l.columns.head? == some s.column
    let l ← l.giveUp
    return { l with candidate := some ⟨s.line, s.index, s.column, l.done.length, isRequired⟩ }
  else return l

/-- End everything that indentation holds together. -/
def closeAll (l : Layout) : Option Layout := do
  return (← (l.closeWhile fun _ => true).giveUp).allowKey false

/-! ### Marks -/

/-- A dash, or a question mark for a key: `t` is its token, `collection` what it stands in. -/
def entry (s : Spot) (collection t : Token) (l : Layout) : Option Layout :=
  if l.inFlow then return (← l.giveUp).emit t
  else if l.allowsKey then
    return (← (l.openAt s.column collection l.done.length).giveUp).emit t
  else none

def dash (s : Spot) (l : Layout) : Option Layout :=
  (l.entry s .blockSequence .dash).map (·.allowKey true)

def questionMark (s : Spot) (l : Layout) : Option Layout :=
  (l.entry s .blockMapping .key).map (·.allowKey (!l.inFlow))

/-- A colon: the candidate is a key, or the key before it is missing or has its own mark. -/
def colon (s : Spot) (l : Layout) : Option Layout :=
  match l.candidate with
  | some k =>
    let l := (l.insert k.count .key).openAt k.column .blockMapping k.count
    some (({ l with candidate := none }.allowKey false).emit .value)
  | none =>
    if l.inFlow then some ((l.allowKey false).emit .value)
    else if l.allowsKey then some ((l.openAt s.column .blockMapping l.done.length).emit .value)
    else none

/-- A bracket or a brace that opens a collection. -/
def openFlow (s : Spot) (t : Token) (l : Layout) : Option Layout := do
  let l ← l.offer s
  return ({ l with candidate := none, outer := l.candidate :: l.outer }.allowKey true).emit t

/-- A bracket or a brace that closes a collection. -/
def closeFlow (t : Token) (l : Layout) : Option Layout := do
  let l ← l.giveUp
  let l :=
    match l.outer with
    | [] => l
    | candidate :: outer => { l with candidate, outer }
  return (l.allowKey false).emit t

def comma (l : Layout) : Option Layout := do
  return ((← l.giveUp).allowKey true).emit .comma

/-! ### Scanning -/

/-- What follows blanks, comments and line breaks, and whether a key may begin there. A tab is no
indentation. -/
def skipIdle (inFlow allowsKey inComment : Bool) : List Spot → Bool × List Spot
  | [] => (allowsKey, [])
  | s :: rest =>
    if s.isBreak then skipIdle inFlow (allowsKey || !inFlow) false rest
    else if inComment || s.char == '#' then skipIdle inFlow allowsKey true rest
    else if s.char == ' ' || (s.char == '\t' && (inFlow || !allowsKey)) ||
        (s.char == byteOrderMark && s.column == 0) then
      skipIdle inFlow allowsKey false rest
    else (allowsKey, s :: rest)

def plain (spots : List Spot) (l : Layout) : Option (Layout × List Spot) := do
  let (text, hasEnded, rest) ← Yaml.plain l.inFlow l.margin [] .none spots
  return ((l.allowKey hasEnded).emit (.scalar .plain text), rest)

def block (style : Style) (rest : List Spot) (l : Layout) : Option (Layout × List Spot) := do
  let (text, rest) ← Yaml.block (style == .literal) l.columns.head? rest
  return (((← l.giveUp).allowKey true).emit (.scalar style text), rest)

/-- Something that can be a key, which `read` takes from the front. -/
def piece {α : Type} (s : Spot) (rest : List Spot) (token : α → Token)
    (read : List Spot → Option (α × List Spot)) (l : Layout) : Option (Layout × List Spot) := do
  let l ← l.offer s
  let (a, rest) ← read rest
  return ((l.allowKey false).emit (token a), rest)

/-- The token that begins with `s`. -/
def token (s : Spot) (rest : List Spot) (l : Layout) : Option (Layout × List Spot) :=
  let mark (l : Option Layout) := l.map fun l => (l, rest)
  let isAlone := l.inFlow || endsWord rest
  if s.column == 0 && s.char == '%' then do
    let (d, rest) ← directive rest
    return ((← l.closeAll).emit (.directive d), rest)
  else if isRule '-' (s :: rest) then return ((← l.closeAll).emit .documentStart, rest.drop 2)
  else if isRule '.' (s :: rest) then return ((← l.closeAll).emit .documentEnd, rest.drop 2)
  else
    match s.char with
    | '[' => mark (l.openFlow s .leftBracket)
    | '\x7b' => mark (l.openFlow s .leftBrace)
    | ']' => mark (l.closeFlow .rightBracket)
    | '\x7d' => mark (l.closeFlow .rightBrace)
    | ',' => mark l.comma
    | '*' => l.piece s rest .reference anchorName
    | '&' => l.piece s rest .anchor anchorName
    | '!' => l.piece s rest .tag (tag l.inFlow)
    | '\'' => l.piece s rest (.scalar .quoted) (singleQuoted [] .none)
    | '"' => l.piece s rest (.scalar .quoted) (doubleQuoted [] .none .none)
    | '-' => if endsWord rest then mark (l.dash s) else do (← l.offer s).plain (s :: rest)
    | '?' => if isAlone then mark (l.questionMark s) else do (← l.offer s).plain (s :: rest)
    | ':' => if isAlone then mark (l.colon s) else do (← l.offer s).plain (s :: rest)
    | '|' => if l.inFlow then none else l.block .literal rest
    | '>' => if l.inFlow then none else l.block .folded rest
    | c =>
      if s.isBlank || indicators.contains c then none
      else do (← l.offer s).plain (s :: rest)

/-- The tokens of the characters that are left. -/
def tokens (fuel : Nat) (l : Layout) (spots : List Spot) : Option (List Token) :=
  match fuel with
  | 0 => none
  | fuel + 1 =>
    let (allowsKey, spots) := skipIdle l.inFlow l.allowsKey false spots
    let l := l.allowKey allowsKey
    match spots with
    | [] => return (← l.closeAll).done.reverse
    | s :: rest => do
      let (l, rest) ← ((← l.expire s).closeWhile (s.column < ·)).token s rest
      tokens fuel l rest

end Layout

/-- The tokens of a document. -/
def tokens? (s : String) : Option (List Token) := do
  let spots ← spots? s
  Layout.start.tokens (spots.length + 1) spots

end Clearinghouse.Yaml
