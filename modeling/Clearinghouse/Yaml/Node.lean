import Clearinghouse.Config.Readable
import Clearinghouse.Text.Utf8
import Clearinghouse.Yaml.Scalar

/-!
# YAML nodes

A node is a scalar, a sequence or a mapping, or it refers to another node by the number of its
anchor. Only a scalar that is written plain can stand for a truth value or for something that is
absent; as a text it stands for what is written. Main statement: only a node that says nothing can
be taken for a list and for a mapping, and both are empty (`eq_nil_of_items?_of_pairs?`).
-/

namespace Clearinghouse.Yaml

/-- What is said of a node in front of it: the number of its anchor, and its tag. -/
structure Label where
  anchor : Option Nat
  tag : Option (List UInt8)
  deriving DecidableEq, Repr

inductive Node
  | reference (anchor : Nat)
  | scalar (label : Label) (style : Style) (text : String)
  | sequence (label : Label) (items : List Node)
  | mapping (label : Label) (fields : List (Node × Node))
  deriving Repr, Inhabited

namespace Node

/-- The node that a missing value stands for. -/
def blank : Node := scalar ⟨none, none⟩ .plain ""

def anchor? : Node → Option Nat
  | reference _ => none
  | scalar label .. | sequence label _ | mapping label _ => label.anchor

mutual

/-- The nodes with an anchor, by its number, in the order in which they begin. -/
def anchored (n : Node) : List (Nat × Node) :=
  let own := n.anchor?.toList.map fun number => (number, n)
  match n with
  | sequence _ items => own ++ anchoredItems items
  | mapping _ fields => own ++ anchoredFields fields
  | _ => own

def anchoredItems : List Node → List (Nat × Node)
  | [] => []
  | n :: ns => anchored n ++ anchoredItems ns

def anchoredFields : List (Node × Node) → List (Nat × Node)
  | [] => []
  | (k, v) :: fields => anchored k ++ anchored v ++ anchoredFields fields

end

/-! ## Meaning -/

/-- The spellings of what is absent. -/
def nulls : List String := ["~", "null", "Null", "NULL"]

def trues : List String := ["true", "True", "TRUE"]

def falses : List String := ["false", "False", "FALSE"]

/-- The tag of a standard kind of value. -/
def standardTag (name : String) : List UInt8 := Utf8.encode ("tag:yaml.org,2002:" ++ name)

def isNull (text : String) : Bool := text.isEmpty || nulls.contains text

def isBlank : Node → Bool
  | scalar _ .plain "" => true
  | _ => false

def text? : Node → Option String
  | scalar _ _ s => some s
  | _ => none

def flag? : Node → Option Bool
  | scalar label style s =>
    if style == .plain || (style == .literal && label.tag == some (standardTag "bool")) then
      if s ∈ trues then some true else if s ∈ falses then some false else none
    else none
  | _ => none

/-- The name in a tag of the document itself. -/
def localName? (tag : List UInt8) : Option String :=
  match tag with
  | 0x21 :: rest => Utf8.decode? (if rest.isEmpty then tag else rest)
  | _ => none

/-- A name is written as a text, or as a tag of something that is absent. -/
def word? : Node → Option String
  | scalar label style s =>
    match label.tag.bind localName? with
    | some name => if style == .plain && isNull s then some name else none
    | none => some s
  | _ => none

/-- The node, unless it stands for something absent; what is said to be absent has to be. -/
def optional? : Node → Option (Option Node)
  | scalar ⟨anchor, tag⟩ .plain s =>
    let present := scalar ⟨anchor, tag⟩ .plain s
    match tag with
    | some tag =>
      if tag != standardTag "null" then some (some present)
      else if nulls.contains s then some none
      else none
    | none => some (if isNull s then none else some present)
  | n => some (some n)

def items? : Node → Option (List Node)
  | sequence _ items => some items
  | n => if n.isBlank then some [] else none

def pairs? : Node → Option (List (Node × Node))
  | mapping _ fields => some fields
  | n => if n.isBlank then some [] else none

theorem eq_nil_of_items?_of_pairs? {n : Node} {items : List Node} {fields : List (Node × Node)}
    (hitems : n.items? = some items) (hpairs : n.pairs? = some fields) :
    n.isBlank ∧ items = [] ∧ fields = [] := by
  cases n with
  | reference anchor => cases hitems
  | scalar label style text =>
    change (if _ then _ else _) = _ at hitems hpairs
    split at hitems
    · rename_i hblank
      rw [if_pos hblank] at hpairs
      cases hitems
      cases hpairs
      exact ⟨hblank, rfl, rfl⟩
    · cases hitems
  | sequence label items => cases hpairs
  | mapping label fields => cases hitems

end Node

/-! ## Nodes of documents -/

/-- A node, together with the anchored nodes of its document, the last one first. -/
structure Passage where
  anchored : List (Nat × Node)
  node : Node
  deriving Repr, Inhabited

namespace Passage

/-- The whole of a document. -/
def ofRoot (root : Node) : Passage := ⟨root.anchored.reverse, root⟩

/-- The node that is meant. -/
def target (p : Passage) : Node :=
  match p.node with
  | .reference anchor => (p.anchored.lookup anchor).getD .blank
  | n => n

/-- Another node of the same document. -/
def goTo (p : Passage) (n : Node) : Passage := ⟨p.anchored, n⟩

/-- The fields of a mapping whose keys are texts. -/
def fields? (p : Passage) : Option (List (String × Passage)) := do
  (← p.target.pairs?).mapM fun (k, v) => do return (← (p.goTo k).target.text?, p.goTo v)

instance : Readable Passage where
  text? p := p.target.text?
  flag? p := p.target.flag?
  word? p := p.target.word?
  optional? p := p.target.optional?.map fun present => present.map p.goTo
  items? p := p.target.items?.map fun items => items.map p.goTo
  fields? := fields?
  positional? _ := none

end Passage

end Clearinghouse.Yaml
