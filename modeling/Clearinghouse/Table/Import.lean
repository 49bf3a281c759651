import Clearinghouse.Files.Surroundings
import Clearinghouse.License.Expression
import Clearinghouse.Reconcile
import Clearinghouse.Table.Column
import Clearinghouse.Table.Format
import Clearinghouse.Table.Scanner
import Clearinghouse.Text.Utf8

/-!
# Importing artifacts from a table

Every row is a record about one coordinate; rows that share it are merged. A cell that cannot be
used is reported and left out, and so is a row that names no package. Only a table that cannot
be read at all is an error.
-/

namespace Clearinghouse

open Text

namespace Table

/-! ## Records as text -/

/-- What is wrong with the first field that is no text; the field stands at `index`. -/
def decodeFields (index : Nat) : List (List UInt8) → Except (Nat × Nat) (List String)
  | [] => .ok []
  | field :: fields =>
    match Utf8.decode? field with
    | none => .error (index, ((Utf8.firstFault? field).map (·.index)).getD 0)
    | some text => (decodeFields (index + 1) fields).map (text :: ·)

/-- The cells of the record that stands at `number`, or why it has none. -/
def decodeRecord (number : Nat) (r : RawRecord) : Except String (List String) :=
  (decodeFields 0 r.fields).mapError fun (field, index) =>
    s!"CSV parse error: record {number} (line {r.line}, field: {field}, byte: {r.offset}): " ++
      s!"invalid utf-8: invalid UTF-8 in field {field} near byte index {index}"

/-! ## Cells -/

/-- The fact in a column, if there is a cell. -/
def cellFact (row : Row) (c : Column) (fact : String → Fact) : List Fact :=
  ((row.get? c).map fact).toList

/-- The fact in a column whose cells may be unusable. -/
def checkedFact {α : Type} (row : Row) (c : Column) (read : String → Except Error α)
    (fact : α → Fact) : Logged Warning (List Fact) :=
  match (row.get? c).map read with
  | none => pure []
  | some (.ok value) => pure [fact value]
  | some (.error e) => do
    Logged.report (.cell row.number e)
    return []

/-- The license fact in a column. A cell that is no expression is the id of one license. -/
def licenseFact (row : Row) (c : Column) (fact : LicenseTree → Fact) :
    Logged Warning (List Fact) :=
  match row.get? c with
  | none => pure []
  | some text =>
    match LicenseTree.parse text with
    | .ok t => pure [fact t]
    | .error e => do
      Logged.report (.licenseCell row.number e text)
      return [fact (.license (.ofId text))]

def cpeFact (row : Row) : Logged Warning (List Fact) :=
  match row.get? .cpe with
  | none => pure []
  | some text =>
    match Cpe.ofText? text with
    | some name => pure [.cpe name]
    | none => do
      Logged.report (.cpeCell row.number text)
      return []

/-- The path fact in a column, if its file is there. Relative names start at `baseDir`. -/
def pathFact (pathExists : Path → Bool) (baseDir : Path) (row : Row) (c : Column)
    (fact : Path → Fact) : List Fact :=
  match row.get? c with
  | none => []
  | some text =>
    let path := baseDir.join ⟨text⟩
    if pathExists path then [fact path] else []

/-! ## Rows -/

/-- Ecosystems without namespaces, in any spelling that a row may use. -/
def hasNoNamespace (type : String) : Bool := lower type ∈ ["nuget", "dotnet", "bundle"]

/-- The coordinate of a row. -/
def rowCoordinate (f : TableFormat) (row : Row) : Except Error Coordinate :=
  let name := (row.get? .artifactId).getD ""
  let version := (row.get? .version).getD ""
  let group := (row.get? .groupId).getD ""
  let type := (row.get? .coordinateType).getD "generic"
  let ns := if hasNoNamespace type then "" else group
  if f.strictTypes then Coordinate.ofStrict type ns name version
  else .ok (Coordinate.of type ns name version)

/-- The facts of a row, in the order in which they are stored. -/
def rowFacts (pathExists : Path → Bool) (baseDir : Path) (row : Row) :
    Logged Warning (List Fact) := do
  let overridden ← licenseFact row .effectiveLicense .overriddenLicense
  let declared ← licenseFact row .declaredLicense .declaredLicense
  let observed ← licenseFact row .observedLicense .observedLicense
  let heritage ← checkedFact row .softwareHeritageId SoftwareHeritageId.parse .softwareHeritageId
  let state ← checkedFact row .clearingState ClearingState.parse .clearingState
  let status ← checkedFact row .changeStatus ChangeStatus.parse .changeStatus
  let cpe ← cpeFact row
  return [.matchingMetadata .exact] ++ overridden ++ declared ++ observed ++
    cellFact row .copyrights (fun text => .copyright (.ofText text)) ++
    cellFact row .hash (fun text => .filename (.ofHash text)) ++
    cellFact row .sourceUrl .sourceUrl ++
    cellFact row .releaseTagUrl .releaseTagUrl ++
    heritage ++ state ++
    pathFact pathExists baseDir row .clearingDocument .clearingDocument ++
    status ++ cpe ++
    pathFact pathExists baseDir row .fileName .sourceFile

/-- The source of artifacts that come from a table. -/
def tableSource : String := "CSV"

/-- The record in a row, if the row names a package. -/
def rowArtifact (f : TableFormat) (pathExists : Path → Bool) (baseDir : Path) (row : Row) :
    Logged Warning (Option Artifact) :=
  match rowCoordinate f row with
  | .error e => do
    Logged.report (.cell row.number e)
    Logged.report (.anonymousRow row.number)
    return none
  | .ok c => do
    let a := { (Artifact.ofSource tableSource).addCoordinate c with policy := f.policy }
    return some (← (← rowFacts pathExists baseDir row).foldlM Artifact.addFact a)

/-- The record in the row `number`, as it was read. -/
def recordArtifact (f : TableFormat) (pathExists : Path → Bool) (baseDir : Path)
    (header : List String) (number : Nat) (raw : RawRecord) : Logged Warning (Option Artifact) :=
  match decodeRecord number raw with
  | .ok cells => rowArtifact f pathExists baseDir ⟨header, cells, number⟩
  | .error detail => do
    Logged.report (.unreadableRow number detail)
    return none

/-- The records in the rows under a header, the first of which is the row `number`. -/
def rowArtifacts (f : TableFormat) (pathExists : Path → Bool) (baseDir : Path)
    (header : List String) (number : Nat) : List RawRecord → Logged Warning (List Artifact)
  | [] => pure []
  | raw :: raws => do
    let artifact ← recordArtifact f pathExists baseDir header number raw
    return artifact.toList ++ (← rowArtifacts f pathExists baseDir header (number + 1) raws)

/-! ## Tables -/

/-- The artifacts in the records of a table, the first of which is the header. -/
def artifactsOf (f : TableFormat) (pathExists : Path → Bool) (baseDir : Path) :
    List RawRecord → ExceptT Error (Logged Warning) (List Artifact)
  | [] => return []
  | header :: raws =>
    match decodeRecord 0 header with
    | .error detail => throw (.table "reading header" detail)
    | .ok header => do
      let records ← (rowArtifacts f pathExists baseDir header 1 raws : Logged Warning _)
      return (← (reconcileAll [] records : Logged Warning _)).artifacts

end Table

namespace TableFormat

open Table

/-- The artifacts in the bytes of a table. -/
def importBytes (f : TableFormat) (s : Surroundings) (bytes : List UInt8) :
    ExceptT Error (Logged Warning) (List Artifact) :=
  artifactsOf f s.pathExists (f.baseDir.getD (s.absolute ⟨"."⟩)) (scan f.delimiter bytes)

/-- The directory of a file, where the file names in it start. -/
def directoryOf (s : Surroundings) (p : Path) : Path := ((s.absolute p).parent).getD ⟨"."⟩

/-- The artifacts in a file. -/
def importFile (f : TableFormat) (s : Surroundings) (p : Path) :
    ExceptT Error (Logged Warning) (List Artifact) :=
  match s.read p with
  | .error .isADirectory =>
    throw (.table s!"reading {p}: reading header" FileFault.isADirectory.message)
  | .error fault => throw (.atPath p.text fault.message)
  | .ok bytes =>
    let baseDir := f.baseDir.getD (directoryOf s p)
    (artifactsOf f s.pathExists baseDir (scan f.delimiter bytes)).adapt
      (·.inContext s!"reading {p}")

end TableFormat

end Clearinghouse
