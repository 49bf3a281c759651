import Clearinghouse.Artifact.Basic
import Clearinghouse.License.Record

/-!
# Facts and artifacts as JSON

A fact is an object of its kind and its value. An artifact lists one fact under every kind that
is present, or all of them in an array if the kind may hold several.
-/

namespace Clearinghouse

def FileName.toJson (f : FileName) : Json :=
  .object (Json.field? "filename" (f.name.map .string) ++ Json.field? "hash" (f.hash.map .string))

namespace Fact

/-- What the fact says. -/
def valueJson : Fact → Json
  | declaredLicense t | observedLicense t | overriddenLicense t | configuredLicense t => t.toJson
  | filename file => file.toJson
  | copyright statement => .texts statement.lines
  | f => .string f.toText

def toJson (f : Fact) : Json := .object [("kind", .string f.kind.key), ("value", f.valueJson)]

end Fact

namespace Artifact

/-- The facts of one kind. -/
def slotJson (k : FactKind) (facts : List Fact) : Json :=
  match k.isMultiValued, facts with
  | false, [f] => f.toJson
  | _, facts => .array (facts.map (·.toJson))

def toJson (a : Artifact) : Json :=
  .object [
    ("analysis_source", .string a.source),
    ("coordinates", .texts (a.coordinates.map (·.toPurl))),
    ("facts", .object (a.facts.slots.map fun (k, facts) => (k.key, slotJson k facts))),
    ("flags", .object (a.flags.entries.map fun (f, value) => (f.name, .bool value)))]

end Artifact

end Clearinghouse
