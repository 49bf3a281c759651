import Clearinghouse.Files.Snapshot
import Clearinghouse.Proofs.Table.Rows
import Clearinghouse.Proofs.Text.Trimmed
import Clearinghouse.Table.Printer

/-!
# What a table is read without

A cell that cannot be used counts as blank, and a row of an unknown ecosystem, where types are
strict, as absent: neither touches another cell, another row or what the rows of one coordinate
are merged to. Main statement: `readAs_usable`, which says that no such cell or row keeps a table
from being read.

All that is read of a row is its coordinate and the facts of its columns
(`value_rowArtifact_congr`). Under a column a blanked row has the cell that was there, unless it is
rejected (`get?_blanked`), and a rejected cell stands for no fact.
-/

namespace Clearinghouse

namespace Table

open Text

/-! ## Cells -/

section Cells

variable (pathExists : Path → Bool) (baseDir : Path)

/-- The cells of a column that cannot be used. -/
def rejects : Column → String → Bool
  | .softwareHeritageId, text => (SoftwareHeritageId.parse text).toOption.isNone
  | .clearingState, text => (ClearingState.parse text).toOption.isNone
  | .changeStatus, text => (ChangeStatus.parse text).toOption.isNone
  | .cpe, text => !Cpe.openings.any fun start => start.toList.isPrefixOf (trim text).toList
  | .clearingDocument, text | .fileName, text => !pathExists (baseDir.join ⟨text⟩)
  | _, _ => false

/-- The cell under a title, blank if it is one that its column cannot use. -/
def blankCell (title cell : String) : String :=
  if Column.all.any fun c => trim title == c.title && rejects pathExists baseDir c (trim cell)
  then "" else cell

/-- The row without the cells that cannot be used. Cells under no title stay. -/
def Row.blanked (row : Row) : Row :=
  { row with cells := row.cells.mapIdx fun index cell =>
      (row.header[index]?).elim cell fun title => blankCell pathExists baseDir title cell }

variable {pathExists baseDir}

/-- A cell that is rejected stands for no fact. -/
theorem readCell_eq_none_of_rejects {c : Column} {text : String}
    (h : rejects pathExists baseDir c text) : readCell pathExists baseDir c text = none := by
  cases c
  case softwareHeritageId | clearingState | changeStatus =>
    rw [rejects, Option.isNone_iff_eq_none] at h
    rw [readCell, h, Option.map_none]
  case cpe =>
    rw [rejects, Bool.not_eq_true'] at h
    have hname : Cpe.ofText? text = none := by simp [Cpe.ofText?, h]
    rw [readCell, hname, Option.map_none]
  case clearingDocument | fileName =>
    rw [rejects, Bool.not_eq_true'] at h
    have hpath : readPath? pathExists baseDir text = none := by simp [readPath?, h]
    rw [readCell, hpath, Option.map_none]
  all_goals exact absurd h Bool.false_ne_true

/-- Under a title of a column, this column alone decides. -/
theorem blankCell_of_title {c : Column} {title : String} (h : trim title = c.title)
    (cell : String) : blankCell pathExists baseDir title cell =
      if rejects pathExists baseDir c (trim cell) then "" else cell := by
  have hany : (Column.all.any fun d =>
      trim title == d.title && rejects pathExists baseDir d (trim cell)) =
        rejects pathExists baseDir c (trim cell) := by
    rw [Bool.eq_iff_iff, List.any_eq_true]
    constructor
    · rintro ⟨d, -, hd⟩
      obtain ⟨htitle, hd⟩ := Bool.and_eq_true_iff.1 hd
      rwa [Column.title_injective (h.symm.trans (beq_iff_eq.1 htitle))]
    · exact fun hc => ⟨c, c.mem_all, Bool.and_eq_true_iff.2 ⟨beq_iff_eq.2 h, hc⟩⟩
  rw [blankCell, hany]

theorem trimmed?_blankCell {c : Column} {title : String} (h : trim title = c.title)
    (cell : String) : trimmed? (blankCell pathExists baseDir title cell) =
      (trimmed? cell).filter fun text => !rejects pathExists baseDir c text := by
  rw [blankCell_of_title h]
  cases hcell : trimmed? cell with
  | none => split <;> simp [hcell]
  | some text =>
    obtain ⟨rfl, -⟩ := trimmed?_eq_some_iff.1 hcell
    cases hr : rejects pathExists baseDir c (trim cell) <;> simp [Option.filter_some, hcell, hr]

/-- A blanked row has the cells that are not rejected. -/
theorem get?_blanked (row : Row) (c : Column) :
    (row.blanked pathExists baseDir).get? c =
      (row.get? c).filter fun text => !rejects pathExists baseDir c text := by
  unfold Row.get? Row.blanked
  cases hindex : row.header.findIdx? fun title => trim title == c.title with
  | none => rfl
  | some index =>
    obtain ⟨hlt, htitle, -⟩ := List.findIdx?_eq_some_iff_getElem.1 hindex
    simp only [List.getElem?_mapIdx, List.getElem?_eq_getElem hlt, Option.elim_some]
    cases row.cells[index]? with
    | none => rfl
    | some cell =>
      rw [Option.map_some, Option.bind_some, Option.bind_some]
      exact trimmed?_blankCell (beq_iff_eq.1 htitle) cell

/-- Where nothing is rejected, a column is as it was. -/
theorem get?_blanked_of_forall {c : Column} (h : ∀ text, rejects pathExists baseDir c text = false)
    (row : Row) : (row.blanked pathExists baseDir).get? c = row.get? c := by
  rw [get?_blanked]
  cases row.get? c <;> simp [h]

theorem columnFact?_blanked (row : Row) (c : Column) :
    columnFact? pathExists baseDir (row.blanked pathExists baseDir) c =
      columnFact? pathExists baseDir row c := by
  unfold columnFact?
  rw [get?_blanked]
  cases row.get? c with
  | none => rfl
  | some text =>
    cases hr : rejects pathExists baseDir c text with
    | false => simp [Option.filter_some, hr]
    | true => simp [Option.filter_some, hr, readCell_eq_none_of_rejects hr]

variable (f : TableFormat)

theorem rowCoordinate_blanked (row : Row) :
    rowCoordinate f (row.blanked pathExists baseDir) = rowCoordinate f row := by
  have hcolumn (c : Column) (hc : ∀ text, rejects pathExists baseDir c text = false) :=
    get?_blanked_of_forall hc row
  unfold rowCoordinate
  rw [hcolumn .artifactId fun _ => rfl, hcolumn .version fun _ => rfl,
    hcolumn .groupId fun _ => rfl, hcolumn .coordinateType fun _ => rfl]

/-- A blanked row gives the record that was in it. -/
theorem value_rowArtifact_blanked (row : Row) :
    (rowArtifact f pathExists baseDir (row.blanked pathExists baseDir)).value =
      (rowArtifact f pathExists baseDir row).value :=
  value_rowArtifact_congr (rowCoordinate_blanked f row) (columnFact?_blanked row)

end Cells

/-! ## Ecosystems -/

/-- The row names an ecosystem that is known, or none. -/
def Row.hasKnownType (row : Row) : Bool :=
  (PackageType.ofText? ((row.get? .coordinateType).getD "generic")).isSome

theorem value_rowArtifact_of_unknown {f : TableFormat} (hf : f.strictTypes) {row : Row}
    (h : row.hasKnownType = false) (pathExists : Path → Bool) (baseDir : Path) :
    (rowArtifact f pathExists baseDir row).value = none := by
  rw [Row.hasKnownType, Option.isSome_eq_false_iff, Option.isNone_iff_eq_none] at h
  have hcoordinate : ∃ e, rowCoordinate f row = .error e := by
    simp only [rowCoordinate, hf, if_true, Coordinate.ofStrict, h]
    exact ⟨_, rfl⟩
  obtain ⟨e, he⟩ := hcoordinate
  exact value_rowArtifact_of_error he

/-! ## Fields -/

section Fields

variable (f : TableFormat) (pathExists : Path → Bool) (baseDir : Path) (titles : List String)

/-- The fields of a row without the cells that cannot be used. Fields that are no texts stay. -/
def blankFields (fields : List (List UInt8)) : List (List UInt8) :=
  match decodeFields 0 fields with
  | .ok cells => (Row.blanked pathExists baseDir ⟨titles, cells, 0⟩).cells.map Utf8.encode
  | .error _ => fields

/-- The fields are not those of a row of an unknown ecosystem. -/
def hasKnownType (fields : List (List UInt8)) : Bool :=
  match decodeFields 0 fields with
  | .ok cells => Row.hasKnownType ⟨titles, cells, 0⟩
  | .error _ => true

variable {f pathExists baseDir}

theorem recordOf?_blankFields (fields : List (List UInt8)) :
    recordOf? f pathExists baseDir titles (blankFields pathExists baseDir titles fields) =
      recordOf? f pathExists baseDir titles fields := by
  unfold blankFields
  split
  · rename_i cells hcells
    rw [recordOf?_of_decodeFields (decodeFields_encode _ 0), recordOf?_of_decodeFields hcells]
    exact value_rowArtifact_blanked f ⟨titles, cells, 0⟩
  · rfl

theorem recordOf?_of_unknown (hf : f.strictTypes) {fields : List (List UInt8)}
    (h : hasKnownType titles fields = false) :
    recordOf? f pathExists baseDir titles fields = none := by
  unfold hasKnownType at h
  split at h
  · rename_i cells hcells
    rw [recordOf?_of_decodeFields hcells]
    exact value_rowArtifact_of_unknown hf h pathExists baseDir
  · cases h

theorem filterMap_blankFields (rows : List (List (List UInt8))) :
    (rows.map (blankFields pathExists baseDir titles)).filterMap
        (recordOf? f pathExists baseDir titles) =
      rows.filterMap (recordOf? f pathExists baseDir titles) := by
  rw [List.filterMap_map]
  exact List.filterMap_congr fun fields _ => recordOf?_blankFields titles fields

theorem filterMap_hasKnownType (hf : f.strictTypes) (rows : List (List (List UInt8))) :
    (rows.filter (hasKnownType titles)).filterMap (recordOf? f pathExists baseDir titles) =
      rows.filterMap (recordOf? f pathExists baseDir titles) := by
  rw [List.filterMap_filter]
  refine List.filterMap_congr fun fields _ => ?_
  cases hk : hasKnownType titles fields with
  | true => rfl
  | false => exact (recordOf?_of_unknown titles hf hk).symm

/-! ## Tables -/

variable (f pathExists baseDir) in
/-- Every table with these fields is read as `as`, wherever its records begin. -/
def ReadAs (table : List (List (List UInt8))) (as : List Artifact) : Prop :=
  ∀ raws : List RawRecord, raws.map (·.fields) = table →
    (artifactsOf f pathExists baseDir raws).run.value = .ok as

/-- The bytes of such a table are read as `as`. -/
theorem ReadAs.importBytes {s : Surroundings} {table : List (List (List UInt8))}
    {as : List Artifact}
    (h : ReadAs f s.pathExists (f.baseDir.getD (s.absolute ⟨"."⟩)) table as) {bytes : List UInt8}
    (hscan : (scan f.delimiter bytes).map (·.fields) = table) :
    (f.importBytes s bytes).run.value = .ok as := h _ hscan

theorem ReadAs.eq {table : List (List (List UInt8))} {as bs : List Artifact}
    (h : ReadAs f pathExists baseDir table as) (h' : ReadAs f pathExists baseDir table bs) :
    as = bs := by
  have hfields : (table.map (RawRecord.mk · 0 0)).map (·.fields) = table := by
    rw [List.map_map]
    exact List.map_id table
  exact Except.ok.inj ((h _ hfields).symm.trans (h' _ hfields))

/-- A table is read as what reconciling the records in its rows leaves. -/
theorem readAs_artifacts {header : List (List UInt8)} {titles : List String}
    (h : decodeFields 0 header = .ok titles) (rows : List (List (List UInt8))) :
    let records := rows.filterMap (recordOf? f pathExists baseDir titles)
    ReadAs f pathExists baseDir (header :: rows) (reconcileAll [] records).value.artifacts := by
  intro records raws hraws
  obtain ⟨raw, raws, rfl, rfl, rfl⟩ := List.map_eq_cons_iff.1 hraws
  have hheader : decodeRecord 0 raw = .ok titles := by
    rw [decodeRecord, h]
    rfl
  rw [value_artifactsOf hheader, value_rowArtifacts]

/-- A table with a header that can be read is read, and it is read as the table without the cells
that cannot be used and, if types are strict, as the table without the rows of unknown
ecosystems. -/
theorem readAs_usable (f : TableFormat) (pathExists : Path → Bool) (baseDir : Path)
    {header : List (List UInt8)} {titles : List String} (h : decodeFields 0 header = .ok titles)
    (rows : List (List (List UInt8))) :
    ∃ as, ReadAs f pathExists baseDir (header :: rows) as ∧
      ReadAs f pathExists baseDir
        (header :: rows.map (blankFields pathExists baseDir titles)) as ∧
      (f.strictTypes → ReadAs f pathExists baseDir
        (header :: rows.filter (hasKnownType titles)) as) := by
  refine ⟨_, readAs_artifacts h rows, ?_, fun hf => ?_⟩
  · rw [← filterMap_blankFields]
    exact readAs_artifacts h _
  · rw [← filterMap_hasKnownType titles hf]
    exact readAs_artifacts h _

end Fields

/-! ## A scrawled row -/

end Table

namespace Samples

/-- Surroundings without a file. -/
def hermitage : Surroundings := Snapshot.surroundings ⟨⟨"/hermitage"⟩, none, []⟩

/-- A table of known ecosystems only. -/
def strictTable : TableFormat := { TableFormat.standard with strictTypes := true }

def scrawledTitles : List String :=
  ["Artifact Id", "Version", "Coordinate Type", "Software Heritage ID", "Clearing State", "CPE",
    "File Name", "Source URL"]

/-- A row of which only the coordinate and the address can be used. -/
def scrawledRow : List String :=
  ["lib", "1.0", "npm", "swh:bogus", "DONE", "not-a-cpe", "lib.js", "https://host/lib"]

/-- The same row without its scrawls. -/
def cleanRow : List String := ["lib", "1.0", "npm", "", "", "", "", "https://host/lib"]

/-- A row of an ecosystem that is not known by name. -/
def foreignRow : List String := ["zlib", "1.3", "conan"]

/-- What is read from a table with these cells. -/
def readStrictly (cells : List (List String)) : Except Error (List Artifact) :=
  (strictTable.importBytes hermitage
    (Table.print strictTable.delimiter (cells.map (·.map Utf8.encode)))).run.value

/-- What there is to read in the scrawled row. -/
def salvaged : Artifact :=
  ((Artifact.ofSource "CSV").addCoordinate (.of "npm" "" "lib" "1.0")).addAll
    [.matchingMetadata .exact, .sourceUrl "https://host/lib"]

open Table in
/-- The scrawled row gives a record, and the foreign one gives none. -/
theorem readAs_salvaged (baseDir : Path) :
    ReadAs strictTable hermitage.pathExists baseDir
      [scrawledTitles.map Utf8.encode, scrawledRow.map Utf8.encode, foreignRow.map Utf8.encode]
      [salvaged] := by
  have hrecord : recordOf? strictTable hermitage.pathExists baseDir scrawledTitles
      (scrawledRow.map Utf8.encode) = some salvaged := by
    rw [recordOf?_of_decodeFields (decodeFields_encode scrawledRow 0)]
    rfl
  have hforeign : recordOf? strictTable hermitage.pathExists baseDir scrawledTitles
      (foreignRow.map Utf8.encode) = none := by
    rw [recordOf?_of_decodeFields (decodeFields_encode foreignRow 0)]
    rfl
  have hread : ReadAs strictTable hermitage.pathExists baseDir _ _ :=
    readAs_artifacts (decodeFields_encode scrawledTitles 0)
      [scrawledRow.map Utf8.encode, foreignRow.map Utf8.encode]
  rwa [List.filterMap_cons_some hrecord, List.filterMap_cons_none hforeign] at hread

end Samples

open Samples Table in
/-- The scrawled row is read as the clean one, with its coordinate and its address, and the
foreign row is not read. -/
theorem readAs_usable_scrawled :
    readStrictly [scrawledTitles, scrawledRow, foreignRow] = .ok [salvaged] ∧
      readStrictly [scrawledTitles, cleanRow, foreignRow] = .ok [salvaged] ∧
      readStrictly [scrawledTitles, scrawledRow] = .ok [salvaged] := by
  obtain ⟨as, h, hblank, hknown⟩ := readAs_usable strictTable hermitage.pathExists
    (strictTable.baseDir.getD (hermitage.absolute ⟨"."⟩)) (decodeFields_encode scrawledTitles 0)
    [scrawledRow.map Utf8.encode, foreignRow.map Utf8.encode]
  obtain rfl : as = [salvaged] := h.eq (readAs_salvaged _)
  exact ⟨h.importBytes (by decide +kernel), hblank.importBytes (by decide +kernel),
    (hknown rfl).importBytes (by decide +kernel)⟩

end Clearinghouse
