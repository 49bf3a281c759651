import Clearinghouse.Json.Pretty
import Clearinghouse.Policy.Rule

/-!
# Policy reports

A report lists the artifacts that violate a rule, in order, each with its place in the list and
its violations in the order of the rules. Only errors make a check fail.
-/

namespace Clearinghouse

/-- The violations of one artifact. -/
structure Finding where
  /-- The place of the artifact in the list. -/
  index : Nat
  coordinate : Option String
  violations : List Violation
  deriving DecidableEq, Repr

structure Report where
  artifactCount : Nat
  /-- Ids and descriptions of the rules. -/
  rules : List (String × String)
  findings : List Finding
  deriving DecidableEq, Repr

namespace Report

/-! ## Making one -/

/-- Give a rule its description; a rule that is there keeps its place. -/
def describe (id description : String) : List (String × String) → List (String × String)
  | [] => [(id, description)]
  | (id', description') :: rules =>
    if id' = id then (id, description) :: rules
    else (id', description') :: describe id description rules

/-- Ids and descriptions in order; an id that comes again replaces the description. -/
def describeAll (rules : List (String × String)) : List (String × String) :=
  rules.foldl (fun seen (id, description) => describe id description seen) []

def ofFindings (artifactCount : Nat) (rules : List (String × String)) (findings : List Finding) :
    Report :=
  ⟨artifactCount, describeAll rules, findings⟩

/-- The violations of the artifact at `index`, if there are any. -/
def finding? (rules : List Rule) (index : Nat) (a : Artifact) : Option Finding :=
  match rules.filterMap (·.violation? a) with
  | [] => none
  | violations => some ⟨index, a.mainCoordinate?.map (·.toPurl), violations⟩

/-- The findings of a list whose first artifact stands at `index`. -/
def findingsFrom (rules : List Rule) (index : Nat) : List Artifact → List Finding
  | [] => []
  | a :: artifacts => (finding? rules index a).toList ++ findingsFrom rules (index + 1) artifacts

/-- Check every artifact against every rule. -/
def check (rules : List Rule) (artifacts : List Artifact) : Report :=
  ofFindings artifacts.length (rules.map fun r => (r.id, r.description))
    (findingsFrom rules 0 artifacts)

/-! ## Asking -/

def violations (r : Report) : List Violation := r.findings.flatMap (·.violations)

def countOf (r : Report) (s : Severity) : Nat := r.violations.countP (·.severity == s)

def hasErrors (r : Report) : Bool := r.violations.any (·.severity == .error)

/-- The exit code of a check. -/
def exitCode (r : Report) : Nat := if r.hasErrors then 1 else 0

/-! ## Printing -/

def violationLine (v : Violation) : String := s!"  [{v.severity.name}] {v.ruleId}: {v.message}\n"

/-- A line of totals, and one for every violation. -/
def summary (r : Report) : String :=
  let subject := s!"Checked {r.artifactCount} artifacts against {r.rules.length} rules: "
  let totals := s!"{r.countOf .error} errors, {r.countOf .warning} warnings\n"
  String.join ((subject ++ totals) :: r.violations.map violationLine)

def violationJson (v : Violation) : Json :=
  .object [("rule_id", .string v.ruleId), ("severity", .string v.severity.name),
    ("message", .string v.message)]

def findingJson (f : Finding) : Json :=
  .object <| ("index", .int f.index) :: Json.field? "coordinate" (f.coordinate.map .string) ++
    [("violations", .array (f.violations.map violationJson))]

/-- The report as structured data; `time` says when it was made. -/
def toJson (time : String) (r : Report) : Json :=
  .object [
    ("generated_at", .string time),
    ("artifact_count", .int r.artifactCount),
    ("rules", .object (r.rules.map fun (id, description) => (id, .string description))),
    ("results", .array (r.findings.map findingJson))]

end Report

end Clearinghouse
