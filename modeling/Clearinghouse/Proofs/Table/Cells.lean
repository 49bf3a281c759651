import Clearinghouse.Proofs.Table.Rows
import Clearinghouse.Proofs.Text.Trimmed
import Clearinghouse.Table.Export

/-!
# Cells that were written

A reader finds in a written row the cells that were written, trimmed (`get?_cells`). So a
coordinate is read back if no blanks stand around its fields and no namespace is lost
(`rowCoordinate_cells`), and what is read from a row is such a coordinate
(`legible_of_rowCoordinate`).
-/

namespace Clearinghouse

open Text

/-! ## Coordinates that a row can carry -/

namespace Coordinate

/-- The coordinate is one that can be made. -/
def Made (c : Coordinate) : Prop := ∃ type ns name version, c = of type ns name version

/-- The fields are trimmed, and there is no namespace where a row has none. -/
structure Legible (c : Coordinate) : Prop where
  made : c.Made
  ns : Trimmed c.ns
  name : Trimmed c.name
  version : Trimmed c.version
  nuget : c.packageType = .nuget → c.ns = ""

section

variable {type : String} (ns name version : String)

theorem of_of_eq_some {t : PackageType} (h : PackageType.ofText? type = some t) :
    of type ns name version = ofKnown t ns name version := by
  rw [of, h]

theorem of_of_eq_none (h : PackageType.ofText? type = none) :
    of type ns name version = ⟨.generic, trimmed? type, ns, name, version⟩ := by
  rw [of, h]

end

theorem legible_of {type ns name version : String} (hns : Trimmed ns) (hname : Trimmed name)
    (hversion : Trimmed version) (hnuget : PackageType.ofText? type = some .nuget → ns = "") :
    (of type ns name version).Legible := by
  have hmade : (of type ns name version).Made := ⟨type, ns, name, version, rfl⟩
  cases ht : PackageType.ofText? type with
  | some t =>
    rw [of_of_eq_some ns name version ht] at hmade ⊢
    exact ⟨hmade, hns, hname, hversion, fun hn => hnuget (ht.trans (congrArg some hn))⟩
  | none =>
    rw [of_of_eq_none ns name version ht] at hmade ⊢
    exact ⟨hmade, hns, hname, hversion, fun hn => by cases hn⟩

/-- What is made strictly is what is made otherwise, of a known ecosystem. -/
theorem eq_of_ofStrict {type ns name version : String} {c : Coordinate}
    (h : ofStrict type ns name version = .ok c) :
    c = of type ns name version ∧ c.rawType = none := by
  rw [ofStrict] at h
  cases ht : PackageType.ofText? type with
  | none =>
    rw [ht] at h
    cases h
  | some t =>
    rw [ht] at h
    rw [of_of_eq_some ns name version ht, ← Except.ok.inj h]
    exact ⟨rfl, rfl⟩

theorem ofText?_trim (type : String) :
    PackageType.ofText? (trim type) = PackageType.ofText? type := by
  rw [PackageType.ofText?, PackageType.ofText?, trimmed_trim]

/-- A coordinate is of a known ecosystem, or its spelling is trimmed and no name of one. -/
theorem Made.cases {c : Coordinate} (h : c.Made) :
    c.rawType = none ∨ ∃ t, c.rawType = some t ∧ c.packageType = .generic ∧ Trimmed t ∧ t ≠ "" ∧
      PackageType.ofText? t = none := by
  obtain ⟨type, ns, name, version, h⟩ := h
  cases ht : PackageType.ofText? type with
  | some t =>
    rw [of_of_eq_some ns name version ht] at h
    exact .inl (congrArg rawType h)
  | none =>
    rw [of_of_eq_none ns name version ht] at h
    cases hr : trimmed? type with
    | none => exact .inl ((congrArg rawType h).trans hr)
    | some t =>
      obtain ⟨htrim, hne⟩ := trimmed?_eq_some_iff.1 hr
      refine .inr ⟨t, (congrArg rawType h).trans hr, congrArg packageType h, ?_, hne, ?_⟩
      · rw [htrim]
        exact trimmed_trim type
      · rw [htrim, ofText?_trim, ht]

theorem made_of_rawType_eq_none {c : Coordinate} (h : c.rawType = none) :
    c = ofKnown c.packageType c.ns c.name c.version := by
  obtain ⟨t, raw, ns, name, version⟩ := c
  subst h
  rfl

/-- A coordinate is made again from the type that it prints. -/
theorem Made.of_type {c : Coordinate} (h : c.Made) : of c.type c.ns c.name c.version = c := by
  rcases h.cases with hnone | ⟨t, hsome, hgeneric, htrim, hne, htext⟩
  · rw [type, hnone, Option.getD_none, of_of_eq_some _ _ _ (PackageType.ofText?_name _)]
    exact (made_of_rawType_eq_none hnone).symm
  · rw [type, hsome, Option.getD_some, of_of_eq_none _ _ _ htext, trimmed?_of_trimmed htrim hne]
    obtain ⟨t', raw, ns, name, version⟩ := c
    cases hsome
    cases hgeneric
    rfl

theorem trimmed_name (t : PackageType) : Trimmed t.name ∧ t.name ≠ "" := by
  cases t <;> exact ⟨by decide +kernel, by decide⟩

theorem Made.trimmed_type {c : Coordinate} (h : c.Made) : Trimmed c.type ∧ c.type ≠ "" := by
  rcases h.cases with hnone | ⟨t, hsome, -, htrim, hne, -⟩
  · rw [type, hnone]
    exact trimmed_name c.packageType
  · rw [type, hsome]
    exact ⟨htrim, hne⟩

theorem hasNoNamespace_name (t : PackageType) :
    Table.hasNoNamespace t.name = true ↔ t = .nuget := by
  cases t <;> decide +kernel

/-- Every spelling of an ecosystem without namespaces is a name of one. -/
theorem hasNoNamespace_of_ofText?_eq_none {t : String} (ht : Trimmed t)
    (h : PackageType.ofText? t = none) : Table.hasNoNamespace t = false := by
  rw [PackageType.ofText?, ht, List.find?_eq_none] at h
  have hnuget := h .nuget (PackageType.mem_all _)
  have hp2 := h .p2 (PackageType.mem_all _)
  simp only [PackageType.isNamed, PackageType.name, PackageType.aliases, Bool.or_eq_true,
    beq_iff_eq, List.contains_iff_mem, List.mem_singleton, not_or] at hnuget hp2
  simp [Table.hasNoNamespace, hnuget, hp2]

theorem Legible.ns_eq {c : Coordinate} (h : c.Legible) :
    (if Table.hasNoNamespace c.type then "" else c.ns) = c.ns := by
  split
  · rename_i hno
    refine (h.nuget ?_).symm
    rcases h.made.cases with hnone | ⟨t, hsome, -, htrim, -, htext⟩
    · rw [type, hnone] at hno
      exact (hasNoNamespace_name _).1 hno
    · rw [type, hsome, Option.getD_some, hasNoNamespace_of_ofText?_eq_none htrim htext] at hno
      cases hno
  · rfl

end Coordinate

namespace Table

/-! ## Finding cells -/

theorem trimmed_title (c : Column) : Trimmed c.title := by
  cases c <;> decide +kernel

theorem findIdx?_header (c : Column) :
    header.findIdx? (fun title => trim title == c.title) = some (Column.all.idxOf c) := by
  have hsame : ((fun title => trim title == c.title) ∘ Column.title) = fun d => d == c := by
    funext d
    rw [Function.comp_apply, trimmed_title d, Bool.eq_iff_iff, beq_iff_eq, beq_iff_eq]
    exact ⟨Column.title_injective, congrArg Column.title⟩
  rw [header, List.findIdx?_map, hsame]
  cases c <;> rfl

/-- A reader finds what was written, trimmed. -/
theorem get?_cells (s : Surroundings) (a : Artifact) (c : Coordinate) (hash : String)
    (number : Nat) (col : Column) :
    Row.get? ⟨header, cells s a c hash, number⟩ col = trimmed? (cell s a c hash col) := by
  have hcol : Column.all[Column.all.idxOf col]? = some col :=
    List.getElem?_idxOf (Column.mem_all col)
  rw [Row.get?]
  simp only [findIdx?_header]
  rw [cells, List.getElem?_map, hcol]
  rfl

theorem getD_trimmed? {t : String} (h : Trimmed t) : (trimmed? t).getD "" = t := by
  by_cases hne : t = ""
  · subst hne
    rw [trimmed?_empty]
    rfl
  · rw [trimmed?_of_trimmed h hne]
    rfl

/-- A coordinate that a row can carry is read back, in strict tables if its ecosystem is known. -/
theorem rowCoordinate_cells {f : TableFormat} {c : Coordinate} (h : c.Legible)
    (hf : f.strictTypes = true → c.rawType = none) (s : Surroundings) (a : Artifact)
    (hash : String) (number : Nat) :
    rowCoordinate f ⟨header, cells s a c hash, number⟩ = .ok c := by
  have htype := trimmed?_of_trimmed h.made.trimmed_type.1 h.made.trimmed_type.2
  unfold rowCoordinate
  simp only [get?_cells, cell, getD_trimmed? h.name, getD_trimmed? h.ns, getD_trimmed? h.version,
    htype, Option.getD_some, h.ns_eq]
  split
  · rename_i hstrict
    have hnone := hf hstrict
    rw [Coordinate.ofStrict, Coordinate.type, hnone, Option.getD_none, PackageType.ofText?_name]
    exact congrArg Except.ok (Coordinate.made_of_rawType_eq_none hnone).symm
  · rw [h.made.of_type]

/-! ## Names of states -/

theorem parse_clearingState (state : ClearingState) :
    ClearingState.parse state.name = .ok state ∧ Trimmed state.name ∧ state.name ≠ "" := by
  cases state <;> exact ⟨rfl, by decide +kernel, by decide⟩

theorem parse_changeStatus (status : ChangeStatus) :
    ChangeStatus.parse status.name = .ok status ∧ Trimmed status.name ∧ status.name ≠ "" := by
  cases status <;> exact ⟨rfl, by decide +kernel, by decide⟩

/-! ## What is read is legible -/

theorem trimmed_of_get? {row : Row} {c : Column} {text : String} (h : row.get? c = some text) :
    Trimmed text ∧ text ≠ "" := by
  unfold Row.get? at h
  split at h
  · obtain ⟨cell, -, ht⟩ := Option.bind_eq_some_iff.1 h
    obtain ⟨rfl, hne⟩ := trimmed?_eq_some_iff.1 ht
    exact ⟨trimmed_trim cell, hne⟩
  · cases h

theorem trimmed_getD {row : Row} {c : Column} {other : String} (h : Trimmed other) :
    Trimmed ((row.get? c).getD other) := by
  cases hc : row.get? c with
  | none => exact h
  | some text => exact (trimmed_of_get? hc).1

/-- The text is one of the names of the ecosystem, up to letter case. -/
theorem isNamed_of_ofText? {type : String} {t : PackageType} (ht : Trimmed type)
    (h : PackageType.ofText? type = some t) : PackageType.isNamed (lower type) t = true := by
  rw [PackageType.ofText?, ht] at h
  exact List.find?_some h

/-- The names that leave the group out are those of one ecosystem, and one name of another. -/
theorem hasNoNamespace_iff {type : String} {t : PackageType} (ht : Trimmed type)
    (h : PackageType.ofText? type = some t) :
    hasNoNamespace type = true ↔ t = .nuget ∨ t = .p2 ∧ lower type = "bundle" := by
  have hnamed := isNamed_of_ofText? ht h
  unfold hasNoNamespace
  generalize lower type = s at hnamed
  cases t <;>
    simp only [PackageType.isNamed, PackageType.name, PackageType.aliases, Bool.or_eq_true,
      beq_iff_eq, List.contains_iff_mem, List.mem_singleton, List.not_mem_nil, or_false] at hnamed
  all_goals first | subst hnamed | obtain rfl | rfl := hnamed
  all_goals decide

/-- A coordinate that is read from a row can be carried by one; in strict tables its ecosystem is
known. -/
theorem legible_of_rowCoordinate {f : TableFormat} {row : Row} {c : Coordinate}
    (h : rowCoordinate f row = .ok c) :
    c.Legible ∧ (f.strictTypes = true → c.rawType = none) := by
  have hempty : Trimmed "" := by decide +kernel
  have hname : Trimmed ((row.get? .artifactId).getD "") := trimmed_getD hempty
  have hversion : Trimmed ((row.get? .version).getD "") := trimmed_getD hempty
  have hgroup : Trimmed ((row.get? .groupId).getD "") := trimmed_getD hempty
  have htype : Trimmed ((row.get? .coordinateType).getD "generic") :=
    trimmed_getD (by decide +kernel)
  have hns : Trimmed (if hasNoNamespace ((row.get? .coordinateType).getD "generic") then ""
      else (row.get? .groupId).getD "") := by
    split
    · exact hempty
    · exact hgroup
  have hlegible := Coordinate.legible_of hns hname hversion fun hn =>
    if_pos ((hasNoNamespace_iff htype hn).2 (.inl rfl))
  unfold rowCoordinate at h
  simp only at h
  split at h
  · obtain ⟨heq, hnone⟩ := Coordinate.eq_of_ofStrict h
    rw [heq]
    exact ⟨hlegible, fun _ => heq ▸ hnone⟩
  · rename_i hstrict
    rw [← Except.ok.inj h]
    exact ⟨hlegible, fun hs => absurd hs hstrict⟩

end Table

end Clearinghouse
