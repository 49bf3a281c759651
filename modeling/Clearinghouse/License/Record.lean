import Clearinghouse.Json.Basic
import Clearinghouse.License.Basic

/-!
# Licenses as JSON

A license is an object with an `id`, a statement one with `licenses`; nothing else tells them
apart. Reading tries the license first. What is absent is left out when writing and may be null
or left out when reading; fields without a meaning are passed over. An object may also be given
as the array of its fields, in order.
-/

namespace Clearinghouse

namespace License

def toJson (l : License) : Json :=
  .object <| ("id", .string l.id) :: Json.field? "long_name" (l.longName.map .string) ++
    Json.field? "text" (l.text.map .string)

/-- An optional text; outside it stands for a value of another kind. -/
def optional? : Option Json → Option (Option String)
  | none => some none
  | some .null => some none
  | some (.string s) => some (some s)
  | some _ => none

/-- A license from its three fields. -/
def ofFields? (id longName text : Option Json) : Option License := do
  return ⟨← (← id).text?, ← optional? longName, ← optional? text⟩

def ofJson? : Json → Option License
  | .object fields =>
    ofFields? (fields.lookup "id") (fields.lookup "long_name") (fields.lookup "text")
  | .array items => if items.length ≤ 3 then ofFields? items[0]? items[1]? items[2]? else none
  | _ => none

end License

namespace Junction

def ofWord? (s : String) : Option Junction :=
  if s == "AND" then some .and else if s == "OR" then some .or else none

/-- An optional operator; outside it stands for a value that is none. A name may come as the
only key of an object. -/
def optional? : Option Json → Option (Option Junction)
  | none => some none
  | some .null => some none
  | some (.string s) => (ofWord? s).map some
  | some (.object [(s, .null)]) => (ofWord? s).map some
  | some _ => none

end Junction

namespace LicenseTree

mutual

def toJson : LicenseTree → Json
  | license l => l.toJson
  | statement children op =>
    .object <| ("licenses", .array (toJsonAll children)) ::
      Json.field? "op" (op.map (.string ·.word))

def toJsonAll : List LicenseTree → List Json
  | [] => []
  | t :: ts => t.toJson :: toJsonAll ts

end

mutual

def ofJson? : Json → Option LicenseTree
  | .object fields =>
    match License.ofJson? (.object fields) with
    | some l => some (license l)
    | none => do
      return statement (← childrenField? fields) (← Junction.optional? (fields.lookup "op"))
  | .array items =>
    match License.ofJson? (.array items) with
    | some l => some (license l)
    | none => statementOfItems? items
  | _ => none

/-- A statement from the list of its fields. -/
def statementOfItems? : List Json → Option LicenseTree
  | [children] => do return statement (← ofJsonItems? children) none
  | [children, op] => do
    return statement (← ofJsonItems? children) (← Junction.optional? (some op))
  | _ => none

/-- The first field `licenses`. -/
def childrenField? : List (String × Json) → Option (List LicenseTree)
  | [] => none
  | (name, value) :: fields =>
    if name == "licenses" then ofJsonItems? value else childrenField? fields

def ofJsonItems? : Json → Option (List LicenseTree)
  | .array items => ofJsonAll? items
  | _ => none

def ofJsonAll? : List Json → Option (List LicenseTree)
  | [] => some []
  | v :: vs => do return (← ofJson? v) :: (← ofJsonAll? vs)

end

end LicenseTree

end Clearinghouse
