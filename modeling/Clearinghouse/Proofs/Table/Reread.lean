import Clearinghouse.Proofs.Reconcile.Grouping
import Clearinghouse.Proofs.Table.Cells
import Clearinghouse.Proofs.Table.Scanning

/-!
# Reading an exported table

What is read from an exported table is what reconciling the records in its rows leaves, from
nothing (`value_artifactsOf_export`). So if no coordinate comes twice, every coordinate is an
artifact of its own, made of the rows about it (`value_artifactsOf_separate`), and artifacts of
a single coordinate are read one by one (`value_artifactsOf_single`).
-/

namespace Clearinghouse

/-- A row can carry the coordinate, and its ecosystem is known if types are strict. -/
def TableFormat.Carries (f : TableFormat) (c : Coordinate) : Prop :=
  c.Legible ∧ (f.strictTypes = true → c.rawType = none)

namespace Table

/-! ## Lines -/

/-- What a row is written from. -/
structure Line where
  artifact : Artifact
  coordinate : Coordinate
  hash : String

namespace Line

/-- A line that says nothing but its coordinate. -/
def bare (c : Coordinate) : Line := ⟨.ofSource "", c, ""⟩

def cells (s : Surroundings) (l : Line) : List String :=
  Table.cells s l.artifact l.coordinate l.hash

/-- The record that is read from the row. -/
def record (s : Surroundings) (pathExists : Path → Bool) (baseDir : Path) (policy : MergePolicy)
    (l : Line) : Artifact :=
  Table.record pathExists baseDir policy ⟨header, l.cells s, 0⟩ l.coordinate

theorem coordinates_record {s : Surroundings} {pathExists : Path → Bool} {baseDir : Path}
    {policy : MergePolicy} {l : Line} :
    (l.record s pathExists baseDir policy).coordinates = [l.coordinate] := Table.coordinates_record

end Line

/-- The full lines of an artifact at its main coordinate: one for every hash, at least one. -/
def fullLines (a : Artifact) (main : Coordinate) : List Line :=
  (if (hashesOf a).isEmpty then [""] else hashesOf a).map fun hash => ⟨a, main, hash⟩

def linesOf (a : Artifact) : List Line :=
  match a.coordinates with
  | [] => []
  | main :: others => fullLines a main ++ others.map .bare

theorem linesOf_single {a : Artifact} {main : Coordinate} (h : a.coordinates = [main]) :
    linesOf a = fullLines a main := by
  rw [linesOf, h]
  exact List.append_nil _

theorem rowsOf_eq (s : Surroundings) (a : Artifact) : rowsOf s a = (linesOf a).map (·.cells s) := by
  unfold rowsOf linesOf
  cases a.coordinates with
  | nil => rfl
  | cons main others =>
    rw [List.map_append, fullLines, List.map_map, List.map_map]
    rfl

theorem coordinate_of_mem_fullLines {a : Artifact} {c : Coordinate} {l : Line}
    (h : l ∈ fullLines a c) : l.coordinate = c := by
  obtain ⟨hash, -, rfl⟩ := List.mem_map.1 h
  rfl

theorem coordinate_mem {a : Artifact} {l : Line} (h : l ∈ linesOf a) :
    l.coordinate ∈ a.coordinates := by
  unfold linesOf at h
  cases hc : a.coordinates with
  | nil =>
    rw [hc] at h
    cases h
  | cons main others =>
    rw [hc] at h
    rcases List.mem_append.1 h with h | h
    · rw [coordinate_of_mem_fullLines h]
      exact List.mem_cons_self
    · obtain ⟨c, hc, rfl⟩ := List.mem_map.1 h
      exact List.mem_cons_of_mem main hc

theorem fullLines_ne_nil (a : Artifact) (main : Coordinate) : fullLines a main ≠ [] := by
  unfold fullLines
  split
  · simp
  · rename_i h
    simpa using h

/-! ## Bytes -/

theorem encode_header :
    ∃ tail others, header.map Utf8.encode = (0x41 :: tail) :: others ∧ others ≠ [] := by
  refine ⟨(Utf8.encode "Artifact Id").tail, (Column.all.tail.map (·.title)).map Utf8.encode, ?_, ?_⟩
  · exact congrArg (· :: _) (by decide +kernel : Utf8.encode "Artifact Id" = _)
  · decide +kernel

theorem head_fieldBytes (delimiter b : UInt8) (tail : List UInt8) :
    ∃ c rest, fieldBytes delimiter (b :: tail) = c :: rest ∧ (c = quoteByte ∨ c = b) := by
  unfold fieldBytes
  split
  · exact ⟨_, _, rfl, .inl rfl⟩
  · exact ⟨_, _, rfl, .inr rfl⟩

/-- A table under the header does not begin like a byte order mark. -/
theorem not_byteOrderMark (delimiter : UInt8) (others : List (List (List UInt8))) :
    byteOrderMark.isPrefixOf (print delimiter (header.map Utf8.encode :: others)) = false := by
  obtain ⟨tail, titles, hheader, hne⟩ := encode_header
  obtain ⟨title, titles, rfl⟩ := List.exists_cons_of_ne_nil hne
  obtain ⟨c, rest, hc, hfirst⟩ := head_fieldBytes delimiter 0x41 tail
  have hbytes : ∃ rest, print delimiter (header.map Utf8.encode :: others) = c :: rest := by
    rw [print, List.flatMap_cons, hheader, recordBytes, List.map_cons, List.map_cons,
      List.intercalate_cons_cons, hc]
    · exact ⟨_, rfl⟩
    · simp
  obtain ⟨rest, hbytes⟩ := hbytes
  rw [hbytes]
  rcases hfirst with rfl | rfl <;> rfl

/-! ## Records -/

section

variable {f : TableFormat} {s : Surroundings} {pathExists : Path → Bool} {baseDir : Path}

/-- Rows that were written give their records in order. -/
theorem value_rowArtifacts_lines {raws : List RawRecord} {lines : List Line}
    (hraws : raws.map (·.fields) = lines.map fun l => (l.cells s).map Utf8.encode)
    (hlines : ∀ l ∈ lines, f.Carries l.coordinate) (number : Nat) :
    (rowArtifacts f pathExists baseDir header number raws).value =
      lines.map (·.record s pathExists baseDir f.policy) := by
  rw [value_rowArtifacts, hraws, List.filterMap_map]
  refine (List.filterMap_congr fun l hl => ?_).trans (congrFun List.filterMap_eq_map lines)
  have hcoordinate : rowCoordinate f ⟨header, l.cells s, 0⟩ = .ok l.coordinate :=
    rowCoordinate_cells (hlines l hl).1 (hlines l hl).2 s l.artifact l.hash 0
  rw [Function.comp_apply, recordOf?_of_decodeFields (decodeFields_encode _ 0),
    value_rowArtifact hcoordinate]
  rfl

/-- What is read from an exported table is what reconciling the records in its rows leaves. -/
theorem value_artifactsOf_export {as : List Artifact} (hd : Separates f.delimiter)
    (has : ∀ c ∈ coordinatesOf as, f.Carries c) :
    (artifactsOf f pathExists baseDir (scan f.delimiter (f.exportBytes s as))).run.value =
      .ok (reconcileAll []
        ((as.flatMap linesOf).map (·.record s pathExists baseDir f.policy))).value.artifacts := by
  have hrows : (rows s as).map (·.map Utf8.encode) =
      header.map Utf8.encode ::
        (as.flatMap linesOf).map fun l => (l.cells s).map Utf8.encode := by
    rw [rows, List.map_cons, List.flatMap_congr fun a _ => rowsOf_eq s a, ← List.map_flatMap,
      List.map_map]
    rfl
  have hne : ∀ fields ∈ (rows s as).map (·.map Utf8.encode), fields ≠ [] := by
    intro fields hf
    rw [hrows, List.mem_cons, List.mem_map] at hf
    rcases hf with rfl | ⟨l, -, rfl⟩ <;> simp [header, Line.cells, cells, Column.all]
  have hscan := fields_scan_print hd hne (by rw [hrows]; exact not_byteOrderMark _ _)
  rw [TableFormat.exportBytes]
  generalize scan f.delimiter (print f.delimiter ((rows s as).map (·.map Utf8.encode))) = raws
    at hscan
  rw [hrows] at hscan
  obtain ⟨raw, raws, rfl, hraw, hraws⟩ := List.map_eq_cons_iff.1 hscan
  rw [value_artifactsOf (decodeRecord_encode hraw 0), value_rowArtifacts_lines hraws]
  intro l hl
  obtain ⟨a, ha, hl⟩ := List.mem_flatMap.1 hl
  exact has _ (List.mem_flatMap.2 ⟨a, ha, coordinate_mem hl⟩)

end

/-! ## Coordinates -/

/-- The lines of an artifact bring its coordinates, whatever the number of hashes. -/
theorem union_linesOf {seen : List Coordinate} {a : Artifact}
    (h : Coordinate.Separate (seen ++ a.coordinates)) :
    Distinct.union seen ((linesOf a).map (·.coordinate)) = seen ++ a.coordinates := by
  rw [← Distinct.union_of_pairwise h]
  unfold linesOf
  cases hc : a.coordinates with
  | nil => rfl
  | cons main others =>
    obtain ⟨first, more, hfull⟩ := List.exists_cons_of_ne_nil (fullLines_ne_nil a main)
    have hmain : ∀ l ∈ fullLines a main, l.coordinate = main :=
      fun l hl => coordinate_of_mem_fullLines hl
    rw [hfull] at hmain
    have hcontained : ∀ c ∈ more.map (·.coordinate), (Distinct.insert seen main).contains c := by
      intro c hc
      obtain ⟨l, hl, rfl⟩ := List.mem_map.1 hc
      rw [hmain l (List.mem_cons_of_mem first hl), Distinct.contains_insert, BEq.rfl, Bool.or_true]
    have hbare : (others.map Line.bare).map (·.coordinate) = others := by
      rw [List.map_map]
      exact List.map_id others
    simp only [hfull]
    rw [List.map_append, hbare, List.map_cons, hmain first List.mem_cons_self,
      Distinct.union_append, Distinct.union_cons, Distinct.union_eq_self hcontained,
      Distinct.union_cons]

theorem union_lines {seen : List Coordinate} {as : List Artifact}
    (h : Coordinate.Separate (seen ++ coordinatesOf as)) :
    Distinct.union seen ((as.flatMap linesOf).map (·.coordinate)) = seen ++ coordinatesOf as := by
  induction as generalizing seen with
  | nil => exact (List.append_nil _).symm
  | cons a as ih =>
    have hcoords : seen ++ coordinatesOf (a :: as) = seen ++ a.coordinates ++ coordinatesOf as := by
      rw [coordinatesOf, List.flatMap_cons, List.append_assoc]
      rfl
    rw [hcoords] at h ⊢
    rw [List.flatMap_cons, List.map_append, Distinct.union_append,
      union_linesOf (List.pairwise_append.1 h).1]
    exact ih h

section

variable {f : TableFormat} {s : Surroundings} {pathExists : Path → Bool} {baseDir : Path}

theorem coordinatesOf_records {policy : MergePolicy} (lines : List Line) :
    coordinatesOf (lines.map (·.record s pathExists baseDir policy)) =
      lines.map (·.coordinate) := by
  induction lines with
  | nil => rfl
  | cons l lines ih =>
    rw [coordinatesOf, List.map_cons, List.flatMap_cons, Line.coordinates_record, List.map_cons,
      ← ih]
    rfl

/-- Different coordinates are read as artifacts of their own. -/
theorem value_artifactsOf_separate {as : List Artifact} (hd : Separates f.delimiter)
    (has : ∀ c ∈ coordinatesOf as, f.Carries c)
    (hsep : Coordinate.Separate (coordinatesOf as)) :
    (artifactsOf f pathExists baseDir (scan f.delimiter (f.exportBytes s as))).run.value =
      .ok ((coordinatesOf as).map fun c =>
        gather (about c ((as.flatMap linesOf).map (·.record s pathExists baseDir f.policy)))) := by
  have hsingle : ∀ r ∈ (as.flatMap linesOf).map (·.record s pathExists baseDir f.policy),
      ∃ c, r.coordinates = [c] := by
    intro r hr
    obtain ⟨l, -, rfl⟩ := List.mem_map.1 hr
    exact ⟨l.coordinate, Line.coordinates_record⟩
  have hdistinct : Coordinate.distinct ((as.flatMap linesOf).map (·.coordinate)) =
      coordinatesOf as := union_lines hsep
  rw [value_artifactsOf_export hd has, artifacts_reconcileAll hsingle, groups,
    coordinatesOf_records, hdistinct]

/-- Artifacts of different single coordinates are read one by one. -/
theorem value_artifactsOf_single {as : List Artifact} (hd : Separates f.delimiter)
    (has : ∀ c ∈ coordinatesOf as, f.Carries c) (hone : ∀ a ∈ as, ∃ c, a.coordinates = [c])
    (hsep : Coordinate.Separate (coordinatesOf as)) :
    (artifactsOf f pathExists baseDir (scan f.delimiter (f.exportBytes s as))).run.value =
      .ok (as.map fun a =>
        gather ((linesOf a).map (·.record s pathExists baseDir f.policy))) := by
  have hblock : ∀ a ∈ as, ∀ r ∈ (linesOf a).map (·.record s pathExists baseDir f.policy),
      r.coordinates = a.coordinates := by
    intro a ha r hr
    obtain ⟨l, hl, rfl⟩ := List.mem_map.1 hr
    obtain ⟨c, hc⟩ := hone a ha
    have hmem := coordinate_mem hl
    rw [hc, List.mem_singleton] at hmem
    rw [hc, ← hmem, Line.coordinates_record]
  rw [value_artifactsOf_separate hd has hsep, List.map_flatMap, map_gather_about hone hsep hblock]

end

end Table

end Clearinghouse
