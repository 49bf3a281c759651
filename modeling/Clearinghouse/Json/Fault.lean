import Clearinghouse.Text.Hexadecimal
import Clearinghouse.Text.Utf8

/-!
# Faults in JSON texts

Where a text stops being a JSON value, and why. The text is looked at octet by octet; an octet
stands as the character of its number. A step takes a part of a value from the front of the
octets; it gives what is left, or the reason why there is none and what follows the octet at
fault. Main statement: what a step keeps of a row of digits fits into the range that it is kept
for (`keep_lt`).
-/

namespace Clearinghouse

namespace Json.Grammar

open Text

/-- Why a value cannot go on, and what follows the octet that shows it. -/
structure Refusal where
  reason : String
  rest : List Char
  deriving Repr

def unfinished (what : String) : Refusal := ⟨s!"EOF while parsing {what}", []⟩

/-- The next octet cannot stand here, and neither can the end. -/
def refuse (reason atEnd : String) : List Char → Refusal
  | [] => unfinished atEnd
  | _ :: cs => ⟨reason, cs⟩

def skipBlank (cs : List Char) : List Char := cs.dropWhile (· ∈ [' ', '\n', '\t', '\r'])

/-- The rest of one of the three words. -/
def word : List Char → List Char → Except Refusal (List Char)
  | [], cs => .ok cs
  | e :: es, c :: cs => if c == e then word es cs else .error ⟨"expected ident", cs⟩
  | _ :: _, [] => .error (unfinished "a value")

/-! ## Numbers -/

/-- One digit at least. -/
def digits (cs : List Char) : Except Refusal (List Char) :=
  if cs.head?.any (·.isDigit) then .ok (cs.dropWhile (·.isDigit))
  else .error (refuse "invalid number" "a value" cs)

/-- The number that `n` becomes with the digits at the front of `cs` after it, and how many of
them there are; it stops before a digit that leads to `limit` or beyond. -/
def keep (limit n : Nat) : List Char → Nat × Nat
  | [] => (n, 0)
  | c :: cs =>
    let m := 10 * n + (c.toNat - '0'.toNat)
    if c.isDigit && m < limit then
      let (total, kept) := keep limit m cs
      (total, kept + 1)
    else (n, 0)

theorem keep_lt {limit n : Nat} (h : n < limit) (cs : List Char) :
    (keep limit n cs).1 < limit := by
  induction cs generalizing n with
  | nil => exact h
  | cons c cs ih =>
    simp only [keep]
    split
    · rename_i hc
      exact ih (by simpa using (Bool.and_eq_true_iff.mp hc).2)
    · exact h

/-- The size of a number: the first of its digits, and the power of ten that they count. -/
structure Magnitude where
  significand : Nat
  power : Int

namespace Magnitude

/-- The nearest number of 53 binary digits; of two equally near ones the even one. -/
def nearest (n : Nat) : Nat :=
  let unit := Nat.pow 2 (n.log2 - 52)
  let low := n / unit
  let up := 2 * (n % unit) > unit || (2 * (n % unit) == unit && low % 2 == 1)
  (if up then low + 1 else low) * unit

/-- The first number that is rounded to more than 1024 binary digits. -/
def limit : Nat := Nat.pow 2 1024 - Nat.pow 2 970

/-- The greatest power of ten below the limit. -/
def maxPower : Nat := 308

def isHuge (m : Magnitude) : Bool :=
  m.significand != 0 &&
    (m.power > maxPower || limit ≤ nearest m.significand * nearest (Nat.pow 10 m.power.toNat))

/-- What is left after a number of this size. -/
def check (m : Magnitude) (rest : List Char) : Except Refusal (List Char) :=
  if m.isHuge then .error ⟨"number out of range", rest⟩ else .ok rest

end Magnitude

/-- The exponent, if there is one. Its own size is bounded as well, but a zero can have any. -/
def exponent (m : Magnitude) : List Char → Except Refusal (List Char)
  | [] => m.check []
  | c :: cs =>
    if c == 'e' || c == 'E' then do
      let down := cs.head?.any (· == '-')
      let cs := if down || cs.head?.any (· == '+') then cs.drop 1 else cs
      let rest ← digits cs
      let (size, kept) := keep (Nat.pow 2 31) 0 cs
      if kept + rest.length < cs.length then
        if m.significand != 0 && !down then .error ⟨"number out of range", cs.drop (kept + 1)⟩
        else return rest
      else Magnitude.check ⟨m.significand, if down then m.power - size else m.power + size⟩ rest
    else m.check (c :: cs)

def fraction (m : Magnitude) : List Char → Except Refusal (List Char)
  | '.' :: cs => do
    let (significand, kept) := keep (Nat.pow 2 64) m.significand cs
    exponent ⟨significand, m.power - kept⟩ (← digits cs)
  | cs => exponent m cs

/-- A number without its sign; a zero in front stands alone. -/
def number : List Char → Except Refusal (List Char)
  | '0' :: c :: cs =>
    if c.isDigit then .error ⟨"invalid number", cs⟩ else fraction ⟨0, 0⟩ (c :: cs)
  | cs => do
    let rest ← digits cs
    let (significand, kept) := keep (Nat.pow 2 64) 0 cs
    fraction ⟨significand, (cs.length - rest.length : Nat) - kept⟩ rest

/-! ## Texts -/

/-- The number that four octets give in base 16. -/
def hex4 : List Char → Except Refusal (Nat × List Char)
  | a :: b :: c :: d :: cs =>
    match hexNumber? [a, b, c, d] with
    | some n => .ok (n, cs)
    | none => .error ⟨"invalid escape", cs⟩
  | _ => .error (unfinished "a string")

def isLeadingSurrogate (n : Nat) : Bool := 0xD800 ≤ n && n ≤ 0xDBFF

def isTrailingSurrogate (n : Nat) : Bool := 0xDC00 ≤ n && n ≤ 0xDFFF

/-- An octet that has to follow the first half of a pair. -/
def pairMark (mark : Char) : List Char → Except Refusal (List Char)
  | [] => .error (unfinished "a string")
  | c :: cs => if c == mark then .ok cs else .error ⟨"unexpected end of hex escape", cs⟩

/-- The number of a character, or the numbers of the two halves of one. -/
def numbered (cs : List Char) : Except Refusal (List Char) := do
  let (n, cs) ← hex4 cs
  if isTrailingSurrogate n then throw ⟨"lone leading surrogate in hex escape", cs⟩
  else if isLeadingSurrogate n then
    let (n, cs) ← hex4 (← pairMark 'u' (← pairMark '\\' cs))
    if isTrailingSurrogate n then return cs
    else throw ⟨"lone leading surrogate in hex escape", cs⟩
  else return cs

/-- What follows a backslash. -/
def escape : List Char → Except Refusal (List Char)
  | [] => .error (unfinished "a string")
  | c :: cs =>
    if c == 'u' then numbered cs
    else if c ∈ ['"', '\\', '/', 'b', 'f', 'n', 'r', 't'] then .ok cs
    else .error ⟨"invalid escape", cs⟩

/-- A text up to the quote that ends it. -/
def quoted (fuel : Nat) (cs : List Char) : Except Refusal (List Char) :=
  match fuel, cs with
  | _, [] | 0, _ => .error (unfinished "a string")
  | fuel + 1, c :: cs =>
    if c == '"' then .ok cs
    else if c == '\\' then do quoted fuel (← escape cs)
    else if c < ' ' then
      .error ⟨"control character (\\u0000-\\u001F) found while parsing a string", cs⟩
    else quoted fuel cs

def string (cs : List Char) : Except Refusal (List Char) := quoted cs.length cs

/-! ## Values -/

/-- How deep lists and objects can stand in each other. -/
def maxDepth : Nat := 127

def tooDeep (cs : List Char) : Refusal := ⟨"recursion limit exceeded", cs⟩

mutual

/-- The value that begins here, in which lists and objects can be `depth` deep. -/
def value (fuel depth : Nat) (cs : List Char) : Except Refusal (List Char) :=
  match fuel, cs with
  | 0, cs => .error (tooDeep cs)
  | _, [] => .error (unfinished "a value")
  | fuel + 1, c :: cs =>
    if c == 'n' then word ['u', 'l', 'l'] cs
    else if c == 't' then word ['r', 'u', 'e'] cs
    else if c == 'f' then word ['a', 'l', 's', 'e'] cs
    else if c == '-' then number cs
    else if c.isDigit then number (c :: cs)
    else if c == '"' then string cs
    else if c == '[' || c == '\x7b' then
      match depth with
      | 0 => .error (tooDeep cs)
      | depth + 1 =>
        if c == '[' then items fuel depth true (skipBlank cs)
        else fields fuel depth true (skipBlank cs)
    else .error ⟨"expected value", cs⟩

/-- The items that are left of a list, none of which was there yet if it is `first`. -/
def items (fuel depth : Nat) (first : Bool) (cs : List Char) : Except Refusal (List Char) :=
  match fuel, cs with
  | 0, cs => .error (tooDeep cs)
  | _, [] => .error (unfinished "a list")
  | fuel + 1, c :: cs =>
    if c == ']' then .ok cs
    else if first then do items fuel depth false (skipBlank (← value fuel depth (c :: cs)))
    else if c == ',' then
      match skipBlank cs with
      | ']' :: cs => .error ⟨"trailing comma", cs⟩
      | cs => do items fuel depth false (skipBlank (← value fuel depth cs))
    else .error ⟨"expected \x60,\x60 or \x60]\x60", cs⟩

/-- The fields that are left of an object, none of which was there yet if it is `first`. -/
def fields (fuel depth : Nat) (first : Bool) (cs : List Char) : Except Refusal (List Char) :=
  match fuel, cs with
  | 0, cs => .error (tooDeep cs)
  | _, [] => .error (unfinished "an object")
  | fuel + 1, c :: cs =>
    if c == '\x7d' then .ok cs
    else if first then do fields fuel depth false (skipBlank (← field fuel depth (c :: cs)))
    else if c == ',' then
      match skipBlank cs with
      | '\x7d' :: cs => .error ⟨"trailing comma", cs⟩
      | cs => do fields fuel depth false (skipBlank (← field fuel depth cs))
    else .error ⟨"expected \x60,\x60 or \x60\x7d\x60", cs⟩

/-- A key and its value. -/
def field (fuel depth : Nat) (cs : List Char) : Except Refusal (List Char) :=
  match fuel, cs with
  | 0, cs => .error (tooDeep cs)
  | fuel + 1, '"' :: cs => do
    match skipBlank (← string cs) with
    | ':' :: cs => value fuel depth (skipBlank cs)
    | cs => .error (refuse "expected \x60:\x60" "an object" cs)
  | _, cs => .error (refuse "key must be a string" "a value" cs)

end

/-- A value with nothing but blanks around it. -/
def document (cs : List Char) : Except Refusal Unit := do
  match skipBlank (← value (4 * cs.length + 1) maxDepth (skipBlank cs)) with
  | [] => return
  | _ :: rest => throw ⟨"trailing characters", rest⟩

end Json.Grammar

namespace Json

open Grammar

/-! ## Places -/

structure Fault where
  reason : String
  line : Nat
  column : Nat
  deriving DecidableEq, Repr

def Fault.message (f : Fault) : String := s!"{f.reason} at line {f.line} column {f.column}"

/-- The place after the octets that have been read. -/
def Fault.after (reason : String) (done : List Char) : Fault :=
  ⟨reason, 1 + done.count '\n', (done.reverse.takeWhile (· != '\n')).length⟩

/-- The first fault of a text, if it is no JSON value. -/
def firstFault? (s : String) : Option Fault :=
  let octets := (Utf8.encode s).map fun b => Char.ofNat b.toNat
  match document octets with
  | .ok _ => none
  | .error refusal =>
    some (.after refusal.reason (octets.take (octets.length - refusal.rest.length)))

end Json

end Clearinghouse
