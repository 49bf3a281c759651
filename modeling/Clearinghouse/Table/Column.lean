import Clearinghouse.Text.Blank

/-!
# Columns

The columns of a table of artifacts. A reader finds a column by its title, wherever it stands,
and takes blank cells for absent ones.
-/

namespace Clearinghouse.Table

inductive Column
  | artifactId
  | groupId
  | version
  | coordinateType
  | effectiveLicense
  | declaredLicense
  | observedLicense
  | copyrights
  | hash
  | sourceUrl
  | releaseTagUrl
  | softwareHeritageId
  | clearingState
  | clearingDocument
  | changeStatus
  | cpe
  | fileName
  deriving DecidableEq, Repr

namespace Column

/-- Every column, in the order in which they are written. -/
def all : List Column :=
  [artifactId, groupId, version, coordinateType, effectiveLicense, declaredLicense,
    observedLicense, copyrights, hash, sourceUrl, releaseTagUrl, softwareHeritageId,
    clearingState, clearingDocument, changeStatus, cpe, fileName]

def title : Column → String
  | artifactId => "Artifact Id"
  | groupId => "Group Id"
  | version => "Version"
  | coordinateType => "Coordinate Type"
  | effectiveLicense => "Effective License"
  | declaredLicense => "Declared License"
  | observedLicense => "Observed License"
  | copyrights => "Copyrights"
  | hash => "Hash"
  | sourceUrl => "Source URL"
  | releaseTagUrl => "Release Tag URL"
  | softwareHeritageId => "Software Heritage ID"
  | clearingState => "Clearing State"
  | clearingDocument => "Clearing Document"
  | changeStatus => "Change Status"
  | cpe => "CPE"
  | fileName => "File Name"

theorem mem_all (c : Column) : c ∈ all := by cases c <;> decide

theorem title_injective {c d : Column} (h : c.title = d.title) : c = d := by
  cases c <;> cases d <;> first | rfl | exact absurd h (by decide)

end Column

/-- A row under a header. -/
structure Row where
  header : List String
  cells : List String
  /-- The place of the row, counted from one. -/
  number : Nat
  deriving Repr

namespace Row

/-- The trimmed cell in a column, unless it is absent or blank. -/
def get? (r : Row) (c : Column) : Option String :=
  match r.header.findIdx? fun title => Text.trim title == c.title with
  | some index => r.cells[index]?.bind Text.trimmed?
  | none => none

end Row

end Clearinghouse.Table
