import Clearinghouse.Coordinate.PackageType
import Clearinghouse.Error

/-!
# Patterns

A pattern says which texts a selector takes: every text, exactly one, or all that begin alike.
A star stands for any text, and only at the end.
-/

namespace Clearinghouse

open Text

/-! ## Texts -/

inductive Pattern
  | any
  | exactly (text : String)
  | startingWith (start : String)
  deriving DecidableEq, Repr, Inhabited

namespace Pattern

/-- The pattern for an absent text. -/
def blank : Pattern := exactly ""

/-- Read a pattern that is already trimmed. -/
def ofTrimmed (cs : List Char) : Pattern :=
  if cs == ['*'] then any
  else
    match cs.reverse with
    | '*' :: start => startingWith (.ofList start.reverse)
    | _ => exactly (.ofList cs)

def ofChars (cs : List Char) : Pattern := ofTrimmed (trimChars cs)

def parse (s : String) : Pattern := ofChars s.toList

/-- Whether the pattern takes `s`. -/
def takes (p : Pattern) (s : String) : Bool :=
  match p with
  | any => true
  | exactly text => text == s
  | startingWith start => start.toList.isPrefixOf s.toList

def toText : Pattern → String
  | any => "*"
  | exactly text => text
  | startingWith start => start ++ "*"

instance : ToString Pattern := ⟨toText⟩

theorem takes_exactly {text s : String} : (exactly text).takes s ↔ text = s := by
  simp [takes]

end Pattern

/-! ## Package types -/

inductive TypePattern
  | any
  | exactly (type : PackageType)
  deriving DecidableEq, Repr, Inhabited

namespace TypePattern

def parse (s : String) : Except Error TypePattern :=
  let s := trim s
  if s == "*" then .ok any
  else
    match PackageType.ofText? s with
    | some t => .ok (exactly t)
    | none => .error (.parse "selector type" (.packageType s))

def takes (p : TypePattern) (t : PackageType) : Bool :=
  match p with
  | any => true
  | exactly type => type == t

def toText : TypePattern → String
  | any => "*"
  | exactly type => type.name

instance : ToString TypePattern := ⟨toText⟩

end TypePattern

end Clearinghouse
