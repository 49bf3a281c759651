import Clearinghouse.Files.Tree
import Clearinghouse.Reconcile
import Clearinghouse.Table.Column
import Clearinghouse.Table.Format
import Clearinghouse.Table.Printer
import Clearinghouse.Text.Utf8

/-!
# Exporting artifacts to a table

An artifact has one full row for every hash of its files, all of them under its main coordinate,
and a bare row for every further coordinate. An artifact without coordinates has no row.
-/

namespace Clearinghouse

namespace Table

/-- The hashes of the files, each once. -/
def hashesOf (a : Artifact) : List String :=
  ((a.factsOf .filename).filterMap fun f => f.filename?.bind (·.hash)).foldl
    (fun seen hash => if seen.contains hash then seen else seen ++ [hash]) []

/-- The text of the fact of a kind. -/
def factText (a : Artifact) (k : FactKind) : String := ((a.fact? k).map (·.toText)).getD ""

/-- The path in the fact of a kind, seen from the root. -/
def pathText (s : Surroundings) (a : Artifact) (k : FactKind) : String :=
  match a.fact? k with
  | some (.clearingDocument path) | some (.sourceFile path) => (s.absolute path).text
  | _ => ""

/-- The cell of an artifact in a column, in a row for one coordinate and one hash. -/
def cell (s : Surroundings) (a : Artifact) (c : Coordinate) (hash : String) : Column → String
  | .artifactId => c.name
  | .groupId => c.ns
  | .version => c.version
  | .coordinateType => c.type
  | .effectiveLicense => factText a .overriddenLicense
  | .declaredLicense => factText a .declaredLicense
  | .observedLicense => factText a .observedLicense
  | .copyrights => factText a .copyright
  | .hash => hash
  | .sourceUrl => factText a .sourceUrl
  | .releaseTagUrl => factText a .releaseTagUrl
  | .softwareHeritageId => factText a .softwareHeritageId
  | .clearingState => factText a .clearingState
  | .clearingDocument => pathText s a .clearingDocument
  | .changeStatus => factText a .changeStatus
  | .cpe => factText a .cpe
  | .fileName => pathText s a .sourceFile

def cells (s : Surroundings) (a : Artifact) (c : Coordinate) (hash : String) : List String :=
  Column.all.map (cell s a c hash)

/-- A row that names a coordinate and says nothing else. -/
def bareCells (s : Surroundings) (c : Coordinate) : List String := cells s (.ofSource "") c ""

/-- The rows of an artifact. -/
def rowsOf (s : Surroundings) (a : Artifact) : List (List String) :=
  match a.coordinates with
  | [] => []
  | main :: others =>
    let hashes := hashesOf a
    (if hashes.isEmpty then [""] else hashes).map (cells s a main) ++ others.map (bareCells s)

/-- The titles of the columns. -/
def header : List String := Column.all.map (·.title)

/-- The header, then the rows of all artifacts. -/
def rows (s : Surroundings) (as : List Artifact) : List (List String) :=
  header :: as.flatMap (rowsOf s)

end Table

/-- The artifacts as the bytes of a table. -/
def TableFormat.exportBytes (f : TableFormat) (s : Surroundings) (as : List Artifact) :
    List UInt8 :=
  Table.print f.delimiter ((Table.rows s as).map (·.map Utf8.encode))

/-- Write the artifacts to a file, and tell its path from the root. -/
def TableFormat.exportFile (f : TableFormat) (t : FileTree) (p : Path) (as : List Artifact) :
    Except Error (FileTree × Path) :=
  match t.write p (f.exportBytes t.surroundings as) with
  | .ok written => .ok (written, t.surroundings.absolute p)
  | .error fault => .error (.atPath p.text fault.message)

end Clearinghouse
