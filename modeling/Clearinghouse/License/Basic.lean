import Clearinghouse.License.Spdx
import Clearinghouse.Text.Blank

/-!
# Licenses and license statements

A license is known by its id; name and text come along. Licenses are combined to trees: a
statement joins its children by one operator. A child that says nothing leaves no trace in what
a tree prints, and a tree says nothing if every leaf has a blank id.
-/

namespace Clearinghouse

open Text

/-! ## Single licenses -/

structure License where
  id : String
  longName : Option String
  text : Option String
  deriving Repr, DecidableEq

namespace License

/-- Licenses are identified by id alone. -/
instance : BEq License := ⟨fun a b => a.id == b.id⟩

theorem beq_iff_id_eq {a b : License} : (a == b) = true ↔ a.id = b.id := by
  simp [BEq.beq]

instance : EquivBEq License where
  rfl := beq_iff_id_eq.2 rfl
  symm h := beq_iff_id_eq.2 (beq_iff_id_eq.1 h).symm
  trans h k := beq_iff_id_eq.2 ((beq_iff_id_eq.1 h).trans (beq_iff_id_eq.1 k))

/-- A license of which only the id is known. -/
def ofId (id : String) : License := ⟨id, none, none⟩

/-- The text before the first appearance of `mark`. -/
def upTo (mark : List Char) : List Char → List Char
  | [] => []
  | c :: cs => if mark.isPrefixOf (c :: cs) then [] else c :: upTo mark cs

/-- The id without its exception and without the plus signs that allow later versions. -/
def baseId (id : String) : String :=
  .ofList ((upTo " WITH ".toList id.toList).reverse.dropWhile (· == '+')).reverse

/-- A license with the name that the license list gives to its base id. -/
def known (id : String) : License := ⟨id, Spdx.fullName? (baseId id), none⟩

def isEmpty (l : License) : Bool := isAllBlank l.id

/-- The long name, or the id in its place. -/
def title (l : License) : String := l.longName.getD l.id

end License

/-! ## Trees -/

/-- What joins the children of a statement. -/
inductive Junction
  | and
  | or
  deriving DecidableEq, Repr

def Junction.word : Junction → String
  | .and => "AND"
  | .or => "OR"

/-- A single license, or children joined by one operator. -/
inductive LicenseTree
  | license (license : License)
  | statement (children : List LicenseTree) (op : Option Junction)
  deriving Repr, Inhabited

namespace LicenseTree

/-- The tree that says nothing. -/
def empty : LicenseTree := statement [] none

mutual

/-- Equality of trees: ids, operators and the order of the children. -/
def same : LicenseTree → LicenseTree → Bool
  | license a, license b => a == b
  | statement as op, statement bs op' => op == op' && sameAll as bs
  | license _, statement _ _ => false
  | statement _ _, license _ => false

def sameAll : List LicenseTree → List LicenseTree → Bool
  | [], [] => true
  | a :: as, b :: bs => same a b && sameAll as bs
  | [], _ :: _ => false
  | _ :: _, [] => false

end

instance : BEq LicenseTree := ⟨same⟩

mutual

/-- No leaf has an id. -/
def isEmpty : LicenseTree → Bool
  | license l => l.isEmpty
  | statement children _ => allEmpty children

def allEmpty : List LicenseTree → Bool
  | [] => true
  | t :: ts => t.isEmpty && allEmpty ts

end

/-! ## Printing -/

/-- Children in parentheses, joined by the operator; without one they are joined by `AND`. -/
def enclose (op : Option Junction) (parts : List String) : String :=
  "( " ++ join s!" {(op.getD .and).word} " parts ++ " )"

mutual

/-- The tree as an expression in which a leaf prints as `leaf` says. -/
def render (leaf : License → String) : LicenseTree → String
  | license l => leaf l
  | statement children op =>
    if allEmpty children then "" else enclose op (renderAll leaf children)

/-- The children that say something. -/
def renderAll (leaf : License → String) : List LicenseTree → List String
  | [] => []
  | t :: ts => if t.isEmpty then renderAll leaf ts else t.render leaf :: renderAll leaf ts

end

/-- The tree as an expression over ids. -/
def evaluate (t : LicenseTree) : String := t.render License.id

/-- The tree as an expression over long names. -/
def evaluateLong (t : LicenseTree) : String := t.render License.title

instance : ToString LicenseTree := ⟨evaluate⟩

/-! ## Leaves -/

/-- Add the licenses that are not there yet. -/
def extend (seen : List License) (licenses : List License) : List License :=
  licenses.foldl (fun seen l => if seen.contains l then seen else seen ++ [l]) seen

mutual

/-- The licenses of the tree, each at its first appearance. -/
def licenses : LicenseTree → List License
  | license l => if l.isEmpty then [] else [l]
  | statement children _ => licensesAfter [] children

def licensesAfter (seen : List License) : List LicenseTree → List License
  | [] => seen
  | t :: ts => licensesAfter (extend seen t.licenses) ts

end

/-! ## Building -/

/-- Put `right` after `left` under one operator. A left side that says nothing is left out. -/
def append (left right : LicenseTree) (op : Junction) : LicenseTree :=
  if left.isEmpty then statement [right] (some op) else statement [left, right] (some op)

/-- Append one tree after the other, which makes a chain that leans to the left. -/
def chain (op : Junction) (trees : List LicenseTree) : LicenseTree :=
  trees.foldl (fun left right => append left right op) empty

/-- The direct children; a single license has none. -/
def children : LicenseTree → List LicenseTree
  | license _ => []
  | statement children _ => children

def op? : LicenseTree → Option Junction
  | license _ => none
  | statement _ op => op

/-- Put a tree after the children of a statement. -/
def add (t child : LicenseTree) : LicenseTree := statement (t.children ++ [child]) t.op?

/-! ## Laws -/

theorem render_of_isEmpty (leaf : License → String) {children : List LicenseTree}
    {op : Option Junction} (h : allEmpty children) : (statement children op).render leaf = "" := by
  simp [render, h]

end LicenseTree

end Clearinghouse
