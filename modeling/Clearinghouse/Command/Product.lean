import Clearinghouse.Command.Failure
import Clearinghouse.Curation.Step
import Clearinghouse.Policy.Report
import Clearinghouse.Table.Export
import Clearinghouse.Table.Import

/-!
# What the commands produce

Both commands read tables, merge them in order and curate the result. One gives it back as a
table, the other one a report on it.
-/

namespace Clearinghouse

/-- The forms of a report. -/
inductive ReportFormat
  | summary
  | json
  deriving DecidableEq, Repr

namespace ReportFormat

def all : List ReportFormat := [summary, json]

def name : ReportFormat → String
  | summary => "summary"
  | json => "json"

def ofName? (s : String) : Option ReportFormat := all.find? (·.name == s)

theorem ofName?_name (f : ReportFormat) : ofName? f.name = some f := by
  cases f <;> decide +kernel

end ReportFormat

/-- What a command gives out, and the exit code that goes with it. -/
structure Product where
  content : String
  exitCode : Nat
  deriving DecidableEq, Repr

namespace Product

/-- A command under way: it may warn, and it may fail. -/
abbrev Work := ExceptT Failure (Logged Warning)

/-- Go on with a result, unless it is an error. -/
def ofResult {ε α : Type} (failure : ε → Failure) (result : Except ε α) : Work α :=
  ExceptT.mk (pure (result.mapError failure))

/-- The artifacts in a file. -/
def readSource (s : Surroundings) (f : TableFormat) (p : Path) : Work (List Artifact) :=
  (f.importFile s p).adapt fun e => (Failure.ofError e).within s!"Failed to read {p}"

/-- The artifacts in some files, merged in order and curated. -/
def artifacts (s : Surroundings) (c : Config) (inputs : List Path) : Work (List Artifact) := do
  let format ← ofResult Failure.ofError (TableFormat.ofConfig c)
  let sources ← inputs.mapM (readSource s format)
  let merged ← (mergeSources sources c.merge.policy : Logged Warning Reconciled)
  let failure e := (Failure.ofError e).within "Failed to apply configuration"
  return (← ofResult failure (CurationStep.curate c merged.artifacts)).1

/-- The artifacts as one table. -/
def merge (s : Surroundings) (c : Config) (inputs : List Path) : Work Product := do
  let artifacts ← artifacts s c inputs
  let format ← ofResult Failure.ofError (TableFormat.ofConfig c)
  let bytes := format.exportBytes s artifacts
  match Utf8.decode? bytes with
  | some content => return ⟨content, 0⟩
  | none =>
    let detail := ((Utf8.firstFault? bytes).map (·.message)).toList
    throw ⟨"Merged CSV is not valid UTF-8" :: detail⟩

/-- Warn if there is nothing to check. -/
def warnIfNone (rules : List Rule) : Logged Warning Unit :=
  if rules.isEmpty then Logged.report .noRules else pure ()

/-- A report on the artifacts that was made at `time`. -/
def check (s : Surroundings) (c : Config) (format : ReportFormat) (time : String)
    (inputs : List Path) : Work Product := do
  let artifacts ← artifacts s c inputs
  warnIfNone c.policy.rules
  let report := Report.check c.policy.rules artifacts
  let content :=
    match format with
    | .summary => report.summary
    | .json => (report.toJson time).pretty
  return ⟨content, report.exitCode⟩

/-- Write the output of a command to a file. -/
def store (t : FileTree) (p : Path) (content : String) : Except Failure FileTree :=
  (t.write p (Utf8.encode content)).mapError (Failure.ofOutput p)

end Product

end Clearinghouse
