import Clearinghouse.Config.Basic
import Clearinghouse.Text.Case

/-!
# Presets

Configurations that have a name.
-/

namespace Clearinghouse

inductive Preset
  | standard
  | strict
  | fillGaps
  deriving DecidableEq, Repr

namespace Preset

def all : List Preset := [standard, strict, fillGaps]

def name : Preset → String
  | standard => "default"
  | strict => "strict"
  | fillGaps => "fill-gaps"

/-- Another name of the preset: that of its merge policy. -/
def policyName : Preset → String
  | standard => MergePolicy.overwrite.name
  | strict => MergePolicy.strict.name
  | fillGaps => MergePolicy.keepExisting.name

/-- The preset with this name, whatever the letter case. -/
def ofName? (s : String) : Option Preset :=
  let s := Text.lower s
  all.find? fun p => p.name == s || p.policyName == s

def description : Preset → String
  | standard => "Later sources overwrite earlier ones"
  | strict => "Report conflicting facts and require project approval"
  | fillGaps => "Keep the first value seen for every fact"

def config : Preset → Config
  | standard => .standard
  | strict =>
    { Config.standard with
      merge := ⟨.strict, true⟩
      policy := ⟨some .projectApproved, [], true⟩ }
  | fillGaps => { Config.standard with merge := ⟨.keepExisting, false⟩ }

theorem ofName?_name (p : Preset) : ofName? p.name = some p := by cases p <;> decide +kernel

end Preset

end Clearinghouse
