import Clearinghouse.Text.Blank

/-!
# Paths

A path is a text; joining keeps it as it is written. Two paths are equal if they have the same
components, so doubled slashes, a slash at the end and idle dots make no difference.
-/

namespace Clearinghouse

open Text

structure Path where
  text : String
  deriving Repr, DecidableEq, Inhabited

namespace Path

instance : ToString Path := ⟨Path.text⟩

def isAbsolute (p : Path) : Bool := p.text.toList.head? == some '/'

/-! ## Components -/

/-- The texts between the slashes. -/
def pieces (p : Path) : List (List Char) := splitWhere (· == '/') p.text.toList

/-- Whether a piece names something. A single dot does only in front. -/
def isIdle (piece : List Char) : Bool := piece == [] || piece == ['.']

/-- The components of a path; a dot counts only if the path begins with it. -/
def components (p : Path) : List (List Char) :=
  match p.pieces with
  | ['.'] :: rest => ['.'] :: rest.filter (!isIdle ·)
  | pieces => pieces.filter (!isIdle ·)

instance : BEq Path :=
  ⟨fun p q => decide (p.isAbsolute = q.isAbsolute ∧ p.components = q.components)⟩

theorem beq_iff {p q : Path} :
    (p == q) = true ↔ p.isAbsolute = q.isAbsolute ∧ p.components = q.components :=
  decide_eq_true_iff

instance : EquivBEq Path where
  rfl := beq_iff.2 ⟨rfl, rfl⟩
  symm h := beq_iff.2 ⟨(beq_iff.1 h).1.symm, (beq_iff.1 h).2.symm⟩
  trans h k :=
    beq_iff.2 ⟨(beq_iff.1 h).1.trans (beq_iff.1 k).1, (beq_iff.1 h).2.trans (beq_iff.1 k).2⟩

/-! ## Joining and parting -/

/-- `q` seen from `p`; an absolute path is seen the same from everywhere. -/
def join (p q : Path) : Path :=
  if q.isAbsolute then q
  else if p.text.isEmpty || p.text.toList.getLast? == some '/' then ⟨p.text ++ q.text⟩
  else ⟨p.text ++ "/" ++ q.text⟩

/-- Drop slashes and idle dots from the end of the reversed pieces. -/
def dropIdle : List (List Char) → List (List Char)
  | piece :: rest@(_ :: _) => if isIdle piece then dropIdle rest else piece :: rest
  | pieces => pieces

/-- The path without its last component, if it has one. -/
def parent (p : Path) : Option Path :=
  if p.components.isEmpty then none
  else
    match dropIdle p.pieces.reverse with
    | [] => none
    | _ :: rest =>
      let kept := (dropIdle rest).reverse
      some ⟨if kept == [[]] then "/" else Text.join "/" (kept.map .ofList)⟩

/-- What follows the last slash or backslash of a file name. -/
def baseName (s : String) : String :=
  match cutLast? (fun c => c == '/' || c == '\\') s.toList with
  | some (_, base) => .ofList base
  | none => s

end Path

end Clearinghouse
