import Clearinghouse.Coordinate.Basic
import Clearinghouse.Selector.Pattern

/-!
# Coordinate selectors

`type:namespace/name@version` with patterns in place of the fields. Without a version every
version is taken; without a namespace only coordinates that have none, unless the name is a
star.
-/

namespace Clearinghouse

open Text

structure CoordinateSelector where
  type : TypePattern
  ns : Pattern
  name : Pattern
  version : Pattern
  deriving DecidableEq, Repr, Inhabited

namespace CoordinateSelector

/-- Takes every coordinate. -/
def any : CoordinateSelector := ⟨.any, .any, .any, .any⟩

/-- The fields of a coordinate, as they are. -/
def exact (c : Coordinate) : CoordinateSelector :=
  ⟨.exactly c.packageType, .exactly c.ns, .exactly c.name, .exactly c.version⟩

/-- What takes a path `namespace/name`. -/
def pathPatterns (path : List Char) : Pattern × Pattern :=
  match cutLast? (· == '/') path with
  | some (ns, name) => (.ofChars ns, .ofChars name)
  | none => if trimChars path == ['*'] then (.any, .any) else (.blank, .ofChars path)

def parse (s : String) : Except Error CoordinateSelector := do
  let cs := trimChars s.toList
  if cs == ['*'] then return any
  let body := (stripStart? ['p', 'k', 'g', ':'] cs).getD cs
  let some (type, rest) := cutFirst? (fun c => c == ':' || c == '/') body
    | .error (.parse "selector" (.coordinate s "expected 'type:' or 'type/' prefix"))
  let type ← TypePattern.parse (.ofList type)
  let (path, version) :=
    match cutLast? (· == '@') rest with
    | some (path, version) => (path, Pattern.ofChars version)
    | none => (rest, .any)
  let (ns, name) := pathPatterns path
  if name = .blank then .error (.parse "selector" (.coordinate s "missing name"))
  return ⟨type, ns, name, version⟩

/-- Whether the selector takes a coordinate. The spelling of an unknown ecosystem is not looked
at. -/
def takes (q : CoordinateSelector) (c : Coordinate) : Bool :=
  q.type.takes c.packageType && q.ns.takes c.ns && q.name.takes c.name && q.version.takes c.version

def toText (q : CoordinateSelector) : String :=
  let ns := if q.ns = .blank then "" else s!"{q.ns}/"
  s!"{q.type}:" ++ ns ++ s!"{q.name}@{q.version}"

instance : ToString CoordinateSelector := ⟨toText⟩

theorem takes_exact_iff {c d : Coordinate} :
    (exact c).takes d ↔
      c.packageType = d.packageType ∧ c.ns = d.ns ∧ c.name = d.name ∧ c.version = d.version := by
  simp [exact, takes, TypePattern.takes, Pattern.takes, and_assoc]

end CoordinateSelector

end Clearinghouse
