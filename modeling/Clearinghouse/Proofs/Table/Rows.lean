import Clearinghouse.Proofs.Artifact.View
import Clearinghouse.Table.Import

/-!
# What a row says

Reports aside, a row gives a record: its coordinate, and for every kind of fact what the cell of
one column stands for (`factsOf_record`). The rows of a table give their records in order
(`value_rowArtifacts`), and a table gives what reconciling them from nothing leaves
(`value_artifactsOf`).
-/

namespace Clearinghouse.Table

/-! ## Cells -/

/-- The license that a cell stands for. -/
def readLicense (text : String) : LicenseTree :=
  match LicenseTree.parse text with
  | .ok t => t
  | .error _ => .license (.ofId text)

theorem readLicense_of_parse {text : String} {t : LicenseTree}
    (h : LicenseTree.parse text = .ok t) : readLicense text = t := by
  rw [readLicense, h]

theorem readLicense_of_error {text : String} (h : ∀ t, LicenseTree.parse text ≠ .ok t) :
    readLicense text = .license (.ofId text) := by
  rw [readLicense]
  split
  · rename_i t ht
    exact absurd ht (h t)
  · rfl

section Cells

variable (pathExists : Path → Bool) (baseDir : Path)

/-- The path that a cell names, if its file is there. -/
def readPath? (text : String) : Option Path :=
  if pathExists (baseDir.join ⟨text⟩) then some (baseDir.join ⟨text⟩) else none

/-- The fact that the cell of a column stands for, if it can be used. -/
def readCell : Column → String → Option Fact
  | .effectiveLicense, text => some (.overriddenLicense (readLicense text))
  | .declaredLicense, text => some (.declaredLicense (readLicense text))
  | .observedLicense, text => some (.observedLicense (readLicense text))
  | .copyrights, text => some (.copyright (.ofText text))
  | .hash, text => some (.filename (.ofHash text))
  | .sourceUrl, text => some (.sourceUrl text)
  | .releaseTagUrl, text => some (.releaseTagUrl text)
  | .softwareHeritageId, text => (SoftwareHeritageId.parse text).toOption.map .softwareHeritageId
  | .clearingState, text => (ClearingState.parse text).toOption.map .clearingState
  | .clearingDocument, text => (readPath? pathExists baseDir text).map .clearingDocument
  | .changeStatus, text => (ChangeStatus.parse text).toOption.map .changeStatus
  | .cpe, text => (Cpe.ofText? text).map .cpe
  | .fileName, text => (readPath? pathExists baseDir text).map .sourceFile
  | .artifactId, _ | .groupId, _ | .version, _ | .coordinateType, _ => none

end Cells

namespace Column

/-- The kind of the facts in a column. -/
def kind? : Column → Option FactKind
  | effectiveLicense => some .overriddenLicense
  | declaredLicense => some .declaredLicense
  | observedLicense => some .observedLicense
  | copyrights => some .copyright
  | hash => some .filename
  | sourceUrl => some .sourceUrl
  | releaseTagUrl => some .releaseTagUrl
  | softwareHeritageId => some .softwareHeritageId
  | clearingState => some .clearingState
  | clearingDocument => some .clearingDocument
  | changeStatus => some .changeStatus
  | cpe => some .cpe
  | fileName => some .sourceFile
  | artifactId | groupId | version | coordinateType => none

/-- The column for the facts of a kind. -/
def ofKind? (k : FactKind) : Option Column := all.find? fun c => c.kind? == some k

theorem ofKind?_eq_some_iff {k : FactKind} {c : Column} :
    ofKind? k = some c ↔ c.kind? = some k := by
  cases k <;> cases c <;> decide

theorem nodup_all : all.Nodup := by decide

end Column

theorem kind_of_readCell {pathExists : Path → Bool} {baseDir : Path} {c : Column} {text : String}
    {f : Fact} (h : readCell pathExists baseDir c text = some f) : c.kind? = some f.kind := by
  cases c <;> simp only [readCell, Option.map_eq_some_iff, Option.some.injEq, reduceCtorEq] at h
  all_goals (obtain ⟨_, _, rfl⟩ := h; rfl)

/-! ## The facts of a row -/

section Row

variable (pathExists : Path → Bool) (baseDir : Path) {row : Row}

/-- The fact in a column of a row. -/
def columnFact? (row : Row) (c : Column) : Option Fact :=
  (row.get? c).bind (readCell pathExists baseDir c)

theorem value_licenseFact (c : Column) (fact : LicenseTree → Fact)
    (h : ∀ text, readCell pathExists baseDir c text = some (fact (readLicense text))) :
    (licenseFact row c fact).value = (columnFact? pathExists baseDir row c).toList := by
  unfold licenseFact columnFact?
  cases row.get? c with
  | none => rfl
  | some text =>
    rw [Option.bind_some, h, readLicense]
    cases hp : LicenseTree.parse text <;> simp [hp]

theorem value_checkedFact {α : Type} (c : Column) (read : String → Except Error α)
    (fact : α → Fact)
    (h : ∀ text, readCell pathExists baseDir c text = (read text).toOption.map fact) :
    (checkedFact row c read fact).value = (columnFact? pathExists baseDir row c).toList := by
  unfold checkedFact columnFact?
  cases row.get? c with
  | none => rfl
  | some text =>
    rw [Option.bind_some, h, Option.map_some]
    cases read text <;> simp [Except.toOption]

theorem value_cpeFact :
    (cpeFact row).value = (columnFact? pathExists baseDir row .cpe).toList := by
  unfold cpeFact columnFact?
  cases row.get? .cpe with
  | none => rfl
  | some text =>
    rw [Option.bind_some, readCell]
    cases hc : Cpe.ofText? text <;> simp [hc]

theorem cellFact_eq (c : Column) (fact : String → Fact)
    (h : ∀ text, readCell pathExists baseDir c text = some (fact text)) :
    cellFact row c fact = (columnFact? pathExists baseDir row c).toList := by
  unfold cellFact columnFact?
  cases row.get? c with
  | none => rfl
  | some text => rw [Option.bind_some, h, Option.map_some]

theorem pathFact_eq (c : Column) (fact : Path → Fact)
    (h : ∀ text, readCell pathExists baseDir c text =
      (readPath? pathExists baseDir text).map fact) :
    pathFact pathExists baseDir row c fact = (columnFact? pathExists baseDir row c).toList := by
  unfold pathFact columnFact?
  cases row.get? c with
  | none => rfl
  | some text =>
    rw [Option.bind_some, h, readPath?]
    simp only
    split <;> rfl

theorem filterMap_cons_toList {α β : Type} (f : α → Option β) (a : α) (as : List α) :
    (a :: as).filterMap f = (f a).toList ++ as.filterMap f := by
  cases h : f a <;> simp [h]

/-- The facts of a row are what its cells stand for, column by column. -/
theorem value_rowFacts :
    (rowFacts pathExists baseDir row).value =
      .matchingMetadata .exact :: Column.all.filterMap (columnFact? pathExists baseDir row) := by
  have hnone (c : Column) (hc : c.kind? = none) :
      columnFact? pathExists baseDir row c = none := by
    cases hf : columnFact? pathExists baseDir row c with
    | none => rfl
    | some f =>
      obtain ⟨text, -, hread⟩ := Option.bind_eq_some_iff.1 hf
      rw [kind_of_readCell hread] at hc
      cases hc
  unfold rowFacts
  simp only [Logged.value_bind, Logged.value_pure]
  rw [value_licenseFact pathExists baseDir .effectiveLicense .overriddenLicense fun _ => rfl,
    value_licenseFact pathExists baseDir .declaredLicense .declaredLicense fun _ => rfl,
    value_licenseFact pathExists baseDir .observedLicense .observedLicense fun _ => rfl,
    cellFact_eq pathExists baseDir .copyrights (fun text => .copyright (.ofText text)) fun _ => rfl,
    cellFact_eq pathExists baseDir .hash (fun text => .filename (.ofHash text)) fun _ => rfl,
    cellFact_eq pathExists baseDir .sourceUrl .sourceUrl fun _ => rfl,
    cellFact_eq pathExists baseDir .releaseTagUrl .releaseTagUrl fun _ => rfl,
    value_checkedFact pathExists baseDir .softwareHeritageId SoftwareHeritageId.parse
      .softwareHeritageId fun _ => rfl,
    value_checkedFact pathExists baseDir .clearingState ClearingState.parse .clearingState
      fun _ => rfl,
    pathFact_eq pathExists baseDir .clearingDocument .clearingDocument fun _ => rfl,
    value_checkedFact pathExists baseDir .changeStatus ChangeStatus.parse .changeStatus
      fun _ => rfl,
    value_cpeFact pathExists baseDir,
    pathFact_eq pathExists baseDir .fileName .sourceFile fun _ => rfl]
  simp only [Column.all, filterMap_cons_toList, List.filterMap_nil, List.append_nil,
    List.append_assoc]
  rw [hnone .artifactId rfl, hnone .groupId rfl, hnone .version rfl, hnone .coordinateType rfl]
  rfl

/-! ## The record in a row -/

/-- The fact of a kind in a row. -/
def rowFact? (row : Row) : FactKind → Option Fact
  | .matchingMetadata => some (.matchingMetadata .exact)
  | k => (Column.ofKind? k).bind (columnFact? pathExists baseDir row)

variable {pathExists baseDir} in
theorem rowFact?_eq {k : FactKind} (h : k ≠ .matchingMetadata) :
    rowFact? pathExists baseDir row k =
      (Column.ofKind? k).bind (columnFact? pathExists baseDir row) := by
  cases k <;> first | rfl | exact absurd rfl h

theorem kind_of_columnFact? {c : Column} {f : Fact}
    (h : columnFact? pathExists baseDir row c = some f) : c.kind? = some f.kind := by
  obtain ⟨text, -, hread⟩ := Option.bind_eq_some_iff.1 h
  exact kind_of_readCell hread

variable (row) in
/-- Of the facts in some columns, those of a kind are in the column for this kind. -/
theorem filter_filterMap_columns (k : FactKind) {cs : List Column} (hcs : cs.Nodup) :
    (cs.filterMap (columnFact? pathExists baseDir row)).filter (·.kind = k) =
      ((cs.find? fun c => c.kind? == some k).bind (columnFact? pathExists baseDir row)).toList := by
  induction cs with
  | nil => rfl
  | cons c cs ih =>
    obtain ⟨hmem, hcs⟩ := List.nodup_cons.1 hcs
    rw [filterMap_cons_toList, List.filter_append, ih hcs]
    have hfirst : ∀ f ∈ (columnFact? pathExists baseDir row c).toList, c.kind? = some f.kind :=
      fun f hf => kind_of_columnFact? pathExists baseDir (Option.mem_toList.1 hf)
    by_cases hc : c.kind? = some k
    · have hnone : cs.find? (fun c => c.kind? == some k) = none := by
        rw [List.find?_eq_none]
        intro d hd hk
        have hsame := (Column.ofKind?_eq_some_iff.2 (beq_iff_eq.1 hk)).symm.trans
          (Column.ofKind?_eq_some_iff.2 hc)
        exact hmem (Option.some.inj hsame ▸ hd)
      rw [hnone, List.find?_cons_of_pos (by simpa using hc), Option.bind_none, Option.toList_none,
        List.append_nil, Option.bind_some]
      refine List.filter_eq_self.2 fun f hf => ?_
      have := (hfirst f hf).symm.trans hc
      simpa using this
    · rw [List.find?_cons_of_neg (by simpa using hc)]
      have hnil : (columnFact? pathExists baseDir row c).toList.filter (·.kind = k) = [] :=
        List.filter_eq_nil_iff.2 fun f hf => by
          have := (hfirst f hf) ▸ hc
          simpa using this
      rw [hnil, List.nil_append]

theorem filter_rowFacts (k : FactKind) :
    (rowFacts pathExists baseDir row).value.filter (·.kind = k) =
      (rowFact? pathExists baseDir row k).toList := by
  have hcolumns := filter_filterMap_columns pathExists baseDir row k Column.nodup_all
  rw [value_rowFacts]
  by_cases hk : k = .matchingMetadata
  · subst hk
    rw [List.filter_cons_of_pos (by decide), hcolumns]
    rfl
  · have hhead : (Fact.matchingMetadata .exact).kind ≠ k := fun h => hk h.symm
    rw [List.filter_cons_of_neg (by simpa using hhead), hcolumns, rowFact?_eq hk]
    rfl

/-- The record in a row about a coordinate. -/
def record (policy : MergePolicy) (row : Row) (c : Coordinate) : Artifact :=
  { (Artifact.ofSource tableSource).addCoordinate c with policy }.addAll
    (rowFacts pathExists baseDir row).value

variable {pathExists baseDir} {policy : MergePolicy} {c : Coordinate}

theorem frame_record :
    Artifact.Frame { (Artifact.ofSource tableSource).addCoordinate c with policy }
      (record pathExists baseDir policy row c) := Artifact.frame_addAll _ _

theorem coordinates_record : (record pathExists baseDir policy row c).coordinates = [c] :=
  frame_record.coordinates

theorem flags_record : (record pathExists baseDir policy row c).flags = .unset :=
  frame_record.flags

theorem wellFormed_record : (record pathExists baseDir policy row c).facts.WellFormed :=
  Artifact.wellFormed_addAll FactStore.wellFormed_empty _

/-- A record has of every kind the fact that its row has. -/
theorem factsOf_record (k : FactKind) :
    (record pathExists baseDir policy row c).factsOf k =
      (rowFact? pathExists baseDir row k).toList := by
  rw [record, Artifact.factsOf_addAll, filter_rowFacts]
  show (rowFact? pathExists baseDir row k).toList.foldl policy.absorb [] = _
  cases rowFact? pathExists baseDir row k with
  | none => rfl
  | some f =>
    show policy.absorb [] f = [f]
    unfold MergePolicy.absorb
    split <;> rfl

end Row

/-! ## The rows of a table -/

section Rows

variable {f : TableFormat} {pathExists : Path → Bool} {baseDir : Path} {row row' : Row}

theorem value_rowArtifact {c : Coordinate} (h : rowCoordinate f row = .ok c) :
    (rowArtifact f pathExists baseDir row).value =
      some (record pathExists baseDir f.policy row c) := by
  unfold rowArtifact
  rw [h]
  rfl

theorem value_rowArtifact_of_error {e : Error} (h : rowCoordinate f row = .error e) :
    (rowArtifact f pathExists baseDir row).value = none := by
  unfold rowArtifact
  rw [h]
  rfl

/-- Rows that agree in their coordinate and in the facts of their cells give the same record. -/
theorem value_rowArtifact_congr (hcoordinate : rowCoordinate f row = rowCoordinate f row')
    (hfacts : ∀ c, columnFact? pathExists baseDir row c = columnFact? pathExists baseDir row' c) :
    (rowArtifact f pathExists baseDir row).value =
      (rowArtifact f pathExists baseDir row').value := by
  cases h : rowCoordinate f row with
  | error e =>
    rw [value_rowArtifact_of_error h, value_rowArtifact_of_error (hcoordinate.symm.trans h)]
  | ok c =>
    rw [value_rowArtifact h, value_rowArtifact (hcoordinate.symm.trans h), record, record,
      value_rowFacts, value_rowFacts, funext hfacts]

variable (f pathExists baseDir) in
/-- The record in the fields of a row, if there is one. -/
def recordOf? (header : List String) (fields : List (List UInt8)) : Option Artifact :=
  match decodeFields 0 fields with
  | .ok cells => (rowArtifact f pathExists baseDir ⟨header, cells, 0⟩).value
  | .error _ => none

theorem recordOf?_of_decodeFields {header cells : List String} {fields : List (List UInt8)}
    (h : decodeFields 0 fields = .ok cells) :
    recordOf? f pathExists baseDir header fields =
      (rowArtifact f pathExists baseDir ⟨header, cells, 0⟩).value := by
  rw [recordOf?, h]

/-- The place of a row leaves no trace in its record. -/
theorem value_recordArtifact (header : List String) (number : Nat) (raw : RawRecord) :
    (recordArtifact f pathExists baseDir header number raw).value =
      recordOf? f pathExists baseDir header raw.fields := by
  unfold recordArtifact recordOf? decodeRecord
  cases decodeFields 0 raw.fields with
  | error fault => rfl
  | ok cells => exact value_rowArtifact_congr rfl fun _ => rfl

/-- The rows of a table give their records in order. -/
theorem value_rowArtifacts (header : List String) (number : Nat) (raws : List RawRecord) :
    (rowArtifacts f pathExists baseDir header number raws).value =
      (raws.map (·.fields)).filterMap (recordOf? f pathExists baseDir header) := by
  induction raws generalizing number with
  | nil => rfl
  | cons raw raws ih =>
    rw [rowArtifacts, Logged.value_bind, Logged.value_bind, Logged.value_pure,
      value_recordArtifact, ih, List.map_cons, filterMap_cons_toList]

/-- Whatever is read from the rows of a table is the record in a row. -/
theorem exists_of_mem_rowArtifacts {header : List String} {number : Nat} {raws : List RawRecord}
    {a : Artifact} (h : a ∈ (rowArtifacts f pathExists baseDir header number raws).value) :
    ∃ row c, rowCoordinate f row = .ok c ∧ a = record pathExists baseDir f.policy row c := by
  rw [value_rowArtifacts] at h
  obtain ⟨fields, -, h⟩ := List.mem_filterMap.1 h
  unfold recordOf? at h
  split at h
  · rename_i cells _
    cases hc : rowCoordinate f ⟨header, cells, 0⟩ with
    | ok c =>
      rw [value_rowArtifact hc] at h
      exact ⟨_, c, hc, (Option.some.inj h).symm⟩
    | error e =>
      rw [value_rowArtifact_of_error hc] at h
      cases h
  · cases h

theorem decodeFields_encode (cells : List String) (index : Nat) :
    decodeFields index (cells.map Utf8.encode) = .ok cells := by
  induction cells generalizing index with
  | nil => rfl
  | cons cell cells ih =>
    rw [List.map_cons, decodeFields, Utf8.decode?_encode, ih]
    rfl

theorem decodeRecord_encode {raw : RawRecord} {cells : List String}
    (h : raw.fields = cells.map Utf8.encode) (number : Nat) :
    decodeRecord number raw = .ok cells := by
  rw [decodeRecord, h, decodeFields_encode]
  rfl

/-- A table with a header that can be read gives what reconciling its records leaves. -/
theorem value_artifactsOf {raw : RawRecord} {header : List String}
    (h : decodeRecord 0 raw = .ok header) (raws : List RawRecord) :
    (artifactsOf f pathExists baseDir (raw :: raws)).run.value =
      let records := (rowArtifacts f pathExists baseDir header 1 raws).value
      .ok (reconcileAll [] records).value.artifacts := by
  rw [artifactsOf, h]
  rfl

end Rows

end Clearinghouse.Table
