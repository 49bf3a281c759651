import Clearinghouse.Config.Record

/-!
# The schema of configuration files

A description of all that a configuration may say, as a JSON Schema. What holds where nothing is
said is taken from the standard configuration.
-/

namespace Clearinghouse

namespace Schema

/-- What a schema says about a value. -/
abbrev Facets := List (String × Json)

def ofType (type : String) : Facets := [("type", .string type)]

/-- A value that may be null. -/
def nullable (type : String) : Facets := [("type", Json.texts [type, "null"])]

def described (text : String) (facets : Facets) : Facets :=
  ("description", .string text) :: facets

/-- A value that need not be given. -/
def withDefault (value : Json) (facets : Facets) : Facets := facets ++ [("default", value)]

def listOf (item : Facets) : Facets := ofType "array" ++ [("items", .object item)]

/-- A record of fields, all of which may be left out. -/
def record (fields : List (String × Facets)) : Facets :=
  ofType "object" ++ [("properties", .object (fields.map fun (name, f) => (name, .object f)))]

/-- A name out of a closed list. -/
def choice (names : List String) : Facets := ofType "string" ++ [("enum", Json.texts names)]

/-- What another part of the schema says. -/
def refer (name : String) : Facets := [("$ref", .string s!"#/definitions/{name}")]

def referNullable (name : String) : Facets :=
  [("anyOf", .array [.object (refer name), .object (ofType "null")])]

/-- What another part says, together with more. -/
def referAll (name : String) : Facets := [("allOf", .array [.object (refer name)])]

end Schema

open Schema

/-! ## Names -/

def MergePolicy.schema : Facets :=
  let policy (description : String) (p : MergePolicy) : Json :=
    .object (described description (choice [p.name]))
  described ("How scalar facts are reconciled when a value is already present.\n\n" ++
    "Only kinds whose own rule is [\x60MergeRule::Overwrite\x60] are affected; union, " ++
    "multi-valued and ordered kinds keep their rule.")
    [("oneOf", .array [
      policy "The incoming value silently replaces the existing one." .overwrite,
      policy "The existing value stays; incoming values only fill gaps." .keepExisting,
      policy "A differing incoming value is reported as a conflict." .strict])]

def ClearingState.schema : Facets :=
  described "How thoroughly a component's licensing has been vetted, in increasing order."
    (choice (ClearingState.all.map (·.name)))

def ChangeStatus.schema : Facets :=
  described "Whether the shipped artifact differs from the upstream release."
    (choice (ChangeStatus.all.map (·.name)))

/-! ## Sections -/

def MergeConfig.schema : Facets :=
  described "Merge behavior." <| record [
    ("policy",
      described "Scalar fact reconciliation: overwrite, keep-existing or strict" <|
        withDefault (.string standard.policy.name) (referAll "MergePolicy")),
    ("strict_types",
      described "Reject unknown coordinate types instead of treating them as generic" <|
        withDefault (.bool standard.strictTypes) (ofType "boolean"))]

def TableConfig.schema : Facets :=
  described "CSV reading and writing." <| record [
    ("delimiter",
      described "Field delimiter" <|
        withDefault (.string (.ofList [standard.delimiter]))
          (ofType "string" ++ [("minLength", .int 1), ("maxLength", .int 1)])),
    ("base_dir",
      described ("Directory relative file paths are resolved against; " ++
        "defaults to the directory of the CSV file") (nullable "string"))]

def PolicyConfig.schema : Facets :=
  described "Policy rule configuration." <| record [
    ("minimum_clearing_state",
      described "Artifacts below this clearing state are reported"
        (referNullable "ClearingState")),
    ("forbidden_licenses",
      described "License ids that must not appear in an effective license"
        (listOf (ofType "string"))),
    ("require_source_url",
      described "Non-proprietary artifacts must name a source URL" <|
        withDefault (.bool standard.requireSourceUrl) (ofType "boolean"))]

def SelectorConfig.schema : Facets :=
  described ("Artifact selector as written in configuration.\n\n" ++
    "\x60coordinate\x60 uses the coordinate syntax with \x60*\x60 wildcards, for example " ++
    "\x60maven:org.example/*\x60 or \x60pkg:npm/lodash@4.*\x60.") <|
  record (fieldNames.map fun name => (name, nullable "string"))

/-- What may be said about one field of an artifact. -/
def Template.fieldSchema (name : String) : Facets :=
  match name with
  | "coordinates" =>
    described "Coordinates in \x60pkg:\x60 or \x60type:\x60 form" (listOf (ofType "string"))
  | "clearing_state" => referNullable "ClearingState"
  | "change_status" => referNullable "ChangeStatus"
  | "proprietary" => nullable "boolean"
  | "ignore_for_download" => nullable "boolean"
  | _ => nullable "string"

def Template.schema : Facets :=
  described ("An artifact described in configuration.\n\n" ++
    "License fields take license expressions such as \x60MIT OR Apache-2.0\x60.") <|
  record (fieldNames.map fun name => (name, fieldSchema name))

def OverrideRule.schema : Facets :=
  described "Facts forced onto every artifact matched by \x60selector\x60." <| record [
    ("selector", withDefault SelectorConfig.standard.toJson (referAll "SelectorConfig")),
    ("set", withDefault Template.standard.toJson (referAll "ArtifactTemplate"))]

/-! ## Whole configurations -/

namespace Config

def fieldSchemas : List (String × Facets) := [
  ("merge",
    described "How incoming facts are reconciled with known ones" <|
      withDefault standard.merge.toJson (referAll "MergeConfig")),
  ("csv",
    described "CSV reading and writing" <|
      withDefault standard.table.toJson (referAll "CsvConfig")),
  ("policy",
    described "Policy rules evaluated by \x60antenna check\x60" <|
      withDefault standard.policy.toJson (referAll "PolicyConfig")),
  ("overrides",
    described "Facts forced onto matching artifacts" (listOf (refer "OverrideRule"))),
  ("additions",
    described "Artifacts appended to every run" (listOf (refer "ArtifactTemplate"))),
  ("removals",
    described "Artifacts dropped from every run" (listOf (refer "SelectorConfig"))),
  ("ignore_for_download",
    described "Artifacts whose sources are never downloaded"
      (listOf (refer "SelectorConfig")))]

/-- The parts of the schema that others refer to. -/
def schemaDefinitions : List (String × Facets) := [
  ("ArtifactTemplate", Template.schema),
  ("ChangeStatus", ChangeStatus.schema),
  ("ClearingState", ClearingState.schema),
  ("CsvConfig", TableConfig.schema),
  ("MergeConfig", MergeConfig.schema),
  ("MergePolicy", MergePolicy.schema),
  ("OverrideRule", OverrideRule.schema),
  ("PolicyConfig", PolicyConfig.schema),
  ("SelectorConfig", SelectorConfig.schema)]

def schema : Json :=
  .object <|
    [("$schema", .string "http://json-schema.org/draft-07/schema#"),
      ("title", .string "AntennaConfig")] ++
    described "Top-level configuration of a run." (record fieldSchemas) ++
    [("definitions",
      .object (schemaDefinitions.map fun (name, facets) => (name, .object facets)))]

end Config

end Clearinghouse
