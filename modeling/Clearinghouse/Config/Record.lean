import Clearinghouse.Config.Basic
import Clearinghouse.Config.Readable

/-!
# Configurations as structured data

Every section and every field may be left out when a configuration is read. What says nothing is
left out when it is written.
-/

namespace Clearinghouse

open Readable

variable {ν : Type} [Readable ν]

/-- An optional text as a field. -/
def Json.text (name : String) (s : Option String) : List (String × Json) :=
  Json.field? name (s.map .string)

/-! ## Sections -/

namespace MergeConfig

def fieldNames : List String := ["policy", "strict_types"]

def read? (v : ν) : Option MergeConfig := do
  let fields ← record fieldNames v
  return {
    policy := ← field fields "policy" standard.policy (member MergePolicy.ofName?)
    strictTypes := ← field fields "strict_types" standard.strictTypes flag? }

def toJson (c : MergeConfig) : Json :=
  .object [("policy", .string c.policy.name), ("strict_types", .bool c.strictTypes)]

end MergeConfig

namespace TableConfig

def fieldNames : List String := ["delimiter", "base_dir"]

def read? (v : ν) : Option TableConfig := do
  let fields ← record fieldNames v
  return {
    delimiter := ← field fields "delimiter" standard.delimiter character
    baseDir := (← field fields "base_dir" none (optional text?)).map Path.mk }

def toJson (c : TableConfig) : Json :=
  .object <| ("delimiter", .string (.ofList [c.delimiter])) ::
    Json.text "base_dir" (c.baseDir.map (·.text))

end TableConfig

namespace PolicyConfig

def fieldNames : List String :=
  ["minimum_clearing_state", "forbidden_licenses", "require_source_url"]

def read? (v : ν) : Option PolicyConfig := do
  let fields ← record fieldNames v
  return {
    minimumClearingState :=
      ← field fields "minimum_clearing_state" none (optional (member ClearingState.ofName?))
    forbiddenLicenses := ← field fields "forbidden_licenses" [] (list text?)
    requireSourceUrl := ← field fields "require_source_url" standard.requireSourceUrl flag? }

def toJson (c : PolicyConfig) : Json :=
  .object <|
    Json.text "minimum_clearing_state" (c.minimumClearingState.map (·.name)) ++
    Json.list? "forbidden_licenses" (c.forbiddenLicenses.map .string) ++
    [("require_source_url", .bool c.requireSourceUrl)]

end PolicyConfig

namespace SelectorConfig

def fieldNames : List String := ["coordinate", "filename"]

def read? (v : ν) : Option SelectorConfig := do
  let fields ← record fieldNames v
  return {
    coordinate := ← field fields "coordinate" none (optional text?)
    filename := ← field fields "filename" none (optional text?) }

def toJson (c : SelectorConfig) : Json :=
  .object (Json.text "coordinate" c.coordinate ++ Json.text "filename" c.filename)

end SelectorConfig

namespace Template

def fieldNames : List String :=
  ["coordinates", "filename", "hash", "declared_license", "observed_license",
    "overridden_license", "configured_license", "copyrights", "source_url", "release_tag_url",
    "software_heritage_id", "clearing_state", "change_status", "cpe", "proprietary",
    "ignore_for_download"]

def read? (v : ν) : Option Template := do
  let fields ← record fieldNames v
  let text name := field fields name none (optional text?)
  let flag name := field fields name none (optional flag?)
  return {
    coordinates := ← field fields "coordinates" [] (list text?)
    filename := ← text "filename"
    hash := ← text "hash"
    declaredLicense := ← text "declared_license"
    observedLicense := ← text "observed_license"
    overriddenLicense := ← text "overridden_license"
    configuredLicense := ← text "configured_license"
    copyrights := ← text "copyrights"
    sourceUrl := ← text "source_url"
    releaseTagUrl := ← text "release_tag_url"
    softwareHeritageId := ← text "software_heritage_id"
    clearingState := ← field fields "clearing_state" none (optional (member ClearingState.ofName?))
    changeStatus := ← field fields "change_status" none (optional (member ChangeStatus.ofName?))
    cpe := ← text "cpe"
    proprietary := ← flag "proprietary"
    ignoreForDownload := ← flag "ignore_for_download" }

def toJson (t : Template) : Json :=
  .object <|
    Json.list? "coordinates" (t.coordinates.map .string) ++
    Json.text "filename" t.filename ++
    Json.text "hash" t.hash ++
    Json.text "declared_license" t.declaredLicense ++
    Json.text "observed_license" t.observedLicense ++
    Json.text "overridden_license" t.overriddenLicense ++
    Json.text "configured_license" t.configuredLicense ++
    Json.text "copyrights" t.copyrights ++
    Json.text "source_url" t.sourceUrl ++
    Json.text "release_tag_url" t.releaseTagUrl ++
    Json.text "software_heritage_id" t.softwareHeritageId ++
    Json.text "clearing_state" (t.clearingState.map (·.name)) ++
    Json.text "change_status" (t.changeStatus.map (·.name)) ++
    Json.text "cpe" t.cpe ++
    Json.field? "proprietary" (t.proprietary.map .bool) ++
    Json.field? "ignore_for_download" (t.ignoreForDownload.map .bool)

end Template

namespace OverrideRule

def fieldNames : List String := ["selector", "set"]

def read? (v : ν) : Option OverrideRule := do
  let fields ← record fieldNames v
  return {
    selector := ← field fields "selector" .standard SelectorConfig.read?
    changes := ← field fields "set" .standard Template.read? }

def toJson (r : OverrideRule) : Json :=
  .object [("selector", r.selector.toJson), ("set", r.changes.toJson)]

end OverrideRule

/-! ## Whole configurations -/

namespace Config

def fieldNames : List String :=
  ["merge", "csv", "policy", "overrides", "additions", "removals", "ignore_for_download"]

def read? (v : ν) : Option Config := do
  let fields ← record fieldNames v
  return {
    merge := ← field fields "merge" .standard MergeConfig.read?
    table := ← field fields "csv" .standard TableConfig.read?
    policy := ← field fields "policy" .standard PolicyConfig.read?
    overrides := ← field fields "overrides" [] (list OverrideRule.read?)
    additions := ← field fields "additions" [] (list Template.read?)
    removals := ← field fields "removals" [] (list SelectorConfig.read?)
    ignoreForDownload := ← field fields "ignore_for_download" [] (list SelectorConfig.read?) }

def toJson (c : Config) : Json :=
  .object <|
    [("merge", c.merge.toJson), ("csv", c.table.toJson), ("policy", c.policy.toJson)] ++
    Json.list? "overrides" (c.overrides.map (·.toJson)) ++
    Json.list? "additions" (c.additions.map (·.toJson)) ++
    Json.list? "removals" (c.removals.map (·.toJson)) ++
    Json.list? "ignore_for_download" (c.ignoreForDownload.map (·.toJson))

end Config

end Clearinghouse
