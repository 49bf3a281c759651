import Clearinghouse.Fact.Kind
import Clearinghouse.Fact.Status
import Clearinghouse.Path

/-!
# Configurations

What a run can be told: how facts are merged, how tables are written, what the policy asks for,
and which artifacts are changed, added, removed or not to be downloaded. All of it is plain
data; texts in it are read when they are used.
-/

namespace Clearinghouse

structure MergeConfig where
  /-- How facts of a kind that holds only one are merged. -/
  policy : MergePolicy
  /-- Refuse ecosystems that are not known by name. -/
  strictTypes : Bool
  deriving DecidableEq, Repr, Inhabited

structure TableConfig where
  /-- What stands between the fields. -/
  delimiter : Char
  /-- Where relative file names are looked up, if not beside the table. -/
  baseDir : Option Path
  deriving DecidableEq, Repr, Inhabited

structure PolicyConfig where
  minimumClearingState : Option ClearingState
  forbiddenLicenses : List String
  requireSourceUrl : Bool
  deriving DecidableEq, Repr, Inhabited

/-- Which artifacts are meant: a coordinate pattern, a file name, or both. -/
structure SelectorConfig where
  coordinate : Option String
  filename : Option String
  deriving DecidableEq, Repr, Inhabited

/-- What to say about an artifact. -/
structure Template where
  coordinates : List String
  filename : Option String
  hash : Option String
  declaredLicense : Option String
  observedLicense : Option String
  overriddenLicense : Option String
  configuredLicense : Option String
  copyrights : Option String
  sourceUrl : Option String
  releaseTagUrl : Option String
  softwareHeritageId : Option String
  clearingState : Option ClearingState
  changeStatus : Option ChangeStatus
  cpe : Option String
  proprietary : Option Bool
  ignoreForDownload : Option Bool
  deriving DecidableEq, Repr, Inhabited

/-- What to say about the artifacts that a selector takes, whatever is known about them. -/
structure OverrideRule where
  selector : SelectorConfig
  changes : Template
  deriving DecidableEq, Repr, Inhabited

structure Config where
  merge : MergeConfig
  table : TableConfig
  policy : PolicyConfig
  overrides : List OverrideRule
  additions : List Template
  removals : List SelectorConfig
  ignoreForDownload : List SelectorConfig
  deriving DecidableEq, Repr, Inhabited

/-! ## Defaults -/

namespace MergeConfig

def standard : MergeConfig := ⟨.overwrite, false⟩

end MergeConfig

namespace TableConfig

def standard : TableConfig := ⟨',', none⟩

end TableConfig

namespace PolicyConfig

def standard : PolicyConfig := ⟨none, [], false⟩

/-- No rule is asked for. -/
def isEmpty (p : PolicyConfig) : Bool :=
  p.minimumClearingState.isNone && p.forbiddenLicenses.isEmpty && !p.requireSourceUrl

end PolicyConfig

namespace SelectorConfig

def standard : SelectorConfig := ⟨none, none⟩

def ofCoordinate (pattern : String) : SelectorConfig := ⟨some pattern, none⟩

def ofFilename (name : String) : SelectorConfig := ⟨none, some name⟩

end SelectorConfig

namespace Template

/-- Says nothing. -/
def standard : Template where
  coordinates := []
  filename := none
  hash := none
  declaredLicense := none
  observedLicense := none
  overriddenLicense := none
  configuredLicense := none
  copyrights := none
  sourceUrl := none
  releaseTagUrl := none
  softwareHeritageId := none
  clearingState := none
  changeStatus := none
  cpe := none
  proprietary := none
  ignoreForDownload := none

end Template

namespace OverrideRule

def standard : OverrideRule := ⟨.standard, .standard⟩

end OverrideRule

namespace Config

def standard : Config := ⟨.standard, .standard, .standard, [], [], [], []⟩

end Config

end Clearinghouse
