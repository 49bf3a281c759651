import Clearinghouse.Json.Basic

/-!
# Readable data

What a configuration can be read from: a tree of texts, lists and records, whatever it is
written in. Fields without a meaning are passed over; a field that has one may be there only
once. Some data can give a record as the list of its fields as well, in order, from the first on.
-/

namespace Clearinghouse

/-- What can be asked of a node of structured data. -/
class Readable (ν : Type) where
  text? : ν → Option String
  flag? : ν → Option Bool
  /-- A name out of a closed list. -/
  word? : ν → Option String
  /-- The node itself, or nothing if it stands for something that is left out. Some nodes
  contradict themselves and are neither. -/
  optional? : ν → Option (Option ν)
  items? : ν → Option (List ν)
  fields? : ν → Option (List (String × ν))
  /-- The fields of a record without their names. -/
  positional? : ν → Option (List ν)

namespace Readable

variable {ν α : Type} [Readable ν]

/-- A value or its absence. -/
def optional (read : ν → Option α) (v : ν) : Option (Option α) :=
  (optional? v).bind fun present => present.mapM read

def list (read : ν → Option α) (v : ν) : Option (List α) := (items? v).bind (·.mapM read)

/-- A member of a closed list of names. -/
def member (ofName? : String → Option α) (v : ν) : Option α := (word? v).bind ofName?

/-- A text of a single character. -/
def character (v : ν) : Option Char :=
  match (text? v).map (·.toList) with
  | some [c] => some c
  | _ => none

/-- The fields of a record that has these names. -/
def record (names : List String) (v : ν) : Option (List (String × ν)) :=
  match fields? v with
  | some fields =>
    if names.all fun name => fields.countP (·.1 == name) ≤ 1 then some fields else none
  | none => do
    let items ← positional? v
    if items.length ≤ names.length then some (names.zip items) else none

/-- A field of a record; one that is not there has the standard value. -/
def field (fields : List (String × ν)) (name : String) (standard : α) (read : ν → Option α) :
    Option α :=
  match fields.lookup name with
  | some v => read v
  | none => some standard

end Readable

namespace Json

def items? : Json → Option (List Json)
  | array items => some items
  | _ => none

instance : Readable Json where
  text? := text?
  flag?
    | bool b => some b
    | _ => none
  word?
    | string s => some s
    | object [(s, null)] => some s
    | _ => none
  optional?
    | null => some none
    | v => some (some v)
  items? := items?
  fields?
    | object fields => some fields
    | _ => none
  positional? := items?

end Json

end Clearinghouse
