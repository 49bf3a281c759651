/-!
# JSON values

Structured data without fractions. The fields of an object keep their order; of two fields of
one name the first is the one that is found.
-/

namespace Clearinghouse

inductive Json
  | null
  | bool (value : Bool)
  | int (value : Int)
  | string (value : String)
  | array (items : List Json)
  | object (fields : List (String × Json))
  deriving Repr, Inhabited

namespace Json

/-- The field of an object. -/
def get? (name : String) : Json → Option Json
  | object fields => fields.lookup name
  | _ => none

def text? : Json → Option String
  | string s => some s
  | _ => none

/-- What the value is, in the words of a message. -/
def kind : Json → String
  | null => "null"
  | bool b => s!"boolean \x60{b}\x60"
  | int n => s!"integer \x60{n}\x60"
  | string s => s!"string {s}"
  | array _ => "sequence"
  | object _ => "map"

/-- A field that is left out when there is nothing to say. -/
def field? (name : String) (value : Option Json) : List (String × Json) :=
  value.toList.map fun v => (name, v)

/-- A list of texts. -/
def texts (ss : List String) : Json := array (ss.map string)

/-- A list of texts as a field that is left out when the list is empty. -/
def list? (name : String) (items : List Json) : List (String × Json) :=
  if items.isEmpty then [] else [(name, array items)]

end Json

end Clearinghouse
