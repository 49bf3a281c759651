import Clearinghouse.Proofs.Reconcile.Grouping
import Clearinghouse.Proofs.Table.Cells

/-!
# Names of an ecosystem in a row

A row may give its ecosystem under any name that it has, in any letter case. That has no
influence on the coordinate, except on its namespace: the group of a row is left out under the
name `bundle` and not under the name `p2`, though both name the same ecosystem. So rows that
agree in all else give equal coordinates, and are reconciled to one artifact, exactly if they are
not of this ecosystem, or have no group, or both say `bundle` or neither does
(`reconciled_namesakes_iff`).

1. Of the names of ecosystems those of NuGet and `bundle` leave the group out
   (`hasNoNamespace_iff`).
2. A known ecosystem, the namespace that is left, the name and the version make the coordinate
   (`rowCoordinate_of_ofText?`).
3. Two records about one coordinate each are reconciled if the coordinates are equal
   (`length_reconcileAll_pair_iff`).
-/

namespace Clearinghouse

open Text

namespace Coordinate

theorem ofKnown_beq_iff (t : PackageType) (ns ns' name version : String) :
    (ofKnown t ns name version == ofKnown t ns' name version) = true ↔ ns = ns' := by
  rw [beq_iff_key_eq]
  simp [key, ofKnown]

end Coordinate

/-- Of two records about a coordinate each, one artifact is left if the coordinates are equal. -/
theorem length_reconcileAll_pair_iff {a b : Artifact} {c d : Coordinate}
    (ha : a.coordinates = [c]) (hb : b.coordinates = [d]) :
    (reconcileAll [] [a, b]).value.artifacts.length = 1 ↔ (c == d) = true := by
  have hone : ∀ r ∈ [a, b], ∃ c, r.coordinates = [c] := by
    simp [ha, hb]
  have hcoordinates : coordinatesOf [a, b] = [c] ++ [d] := by
    simp [coordinatesOf, ha, hb]
  rw [artifacts_reconcileAll hone, groups, List.length_map, hcoordinates,
    Coordinate.distinct_append_singleton]
  show (Coordinate.insert d [c]).length = 1 ↔ (c == d) = true
  rw [BEq.comm (a := c)]
  cases h : d == c <;> simp [Coordinate.insert, h]

namespace Table

/-- What a row says about its ecosystem. -/
def typeText (row : Row) : String := (row.get? .coordinateType).getD "generic"

/-- The namespace that a row gives its package. -/
def namespaceText (row : Row) : String :=
  if hasNoNamespace (typeText row) then "" else (row.get? .groupId).getD ""

theorem trimmed_typeText (row : Row) : Trimmed (typeText row) :=
  trimmed_getD (by decide +kernel)

/-! ## The group -/

/-- Two rows agree in what names their package, and their ecosystem is `t` under some name. -/
structure Namesakes (t : PackageType) (row row' : Row) : Prop where
  artifactId : row.get? .artifactId = row'.get? .artifactId
  groupId : row.get? .groupId = row'.get? .groupId
  version : row.get? .version = row'.get? .version
  type : PackageType.ofText? (typeText row) = some t
  type' : PackageType.ofText? (typeText row') = some t

/-- The group is left out of both rows or of neither. It is left out under one of the two names
of an ecosystem, so this can only fail there, and only if there is a group. -/
def GroupAlike (t : PackageType) (row row' : Row) : Prop :=
  t = .p2 → row.get? .groupId ≠ none →
    (lower (typeText row) = "bundle" ↔ lower (typeText row') = "bundle")

variable {t : PackageType} {row row' : Row}

theorem Namesakes.namespaceText_eq_iff (h : Namesakes t row row') :
    namespaceText row = namespaceText row' ↔ GroupAlike t row row' := by
  have hno := hasNoNamespace_iff (trimmed_typeText row) h.type
  have hno' := hasNoNamespace_iff (trimmed_typeText row') h.type'
  unfold namespaceText GroupAlike
  rw [← h.groupId]
  cases hgroup : row.get? .groupId with
  | none => simp
  | some group =>
    have hne : group ≠ "" := (trimmed_of_get? hgroup).2
    by_cases ht : t = .p2
    · subst ht
      have hsplit : (if hasNoNamespace (typeText row) then "" else group) =
          (if hasNoNamespace (typeText row') then "" else group) ↔
            (hasNoNamespace (typeText row) = true ↔ hasNoNamespace (typeText row') = true) := by
        cases hasNoNamespace (typeText row) <;> cases hasNoNamespace (typeText row') <;>
          simp [hne, hne.symm]
      rw [Option.getD_some, hsplit, hno, hno']
      simp
    · have hsame : hasNoNamespace (typeText row) = hasNoNamespace (typeText row') := by
        rw [Bool.eq_iff_iff, hno, hno']
        simp [ht]
      rw [hsame]
      simp [ht]

/-! ## The coordinate -/

/-- A row of a known ecosystem has a coordinate, in strict tables too. -/
theorem rowCoordinate_of_ofText? (f : TableFormat)
    (h : PackageType.ofText? (typeText row) = some t) :
    rowCoordinate f row = .ok (.ofKnown t (namespaceText row)
      ((row.get? .artifactId).getD "") ((row.get? .version).getD "")) := by
  show (if f.strictTypes then Coordinate.ofStrict (typeText row) (namespaceText row) _ _
    else .ok (Coordinate.of (typeText row) (namespaceText row) _ _)) = _
  rw [Coordinate.ofStrict, h, Coordinate.of_of_eq_some _ _ _ h]
  exact ite_self _

/-- Rows that name one package under names of its ecosystem both give a record. The coordinates
are equal, and one artifact is left of the records, exactly if their groups are treated alike. -/
theorem reconciled_namesakes_iff (f : TableFormat) (pathExists : Path → Bool) (baseDir : Path)
    (h : Namesakes t row row') :
    ∃ c c' a a', rowCoordinate f row = .ok c ∧ rowCoordinate f row' = .ok c' ∧
      (rowArtifact f pathExists baseDir row).value = some a ∧
      (rowArtifact f pathExists baseDir row').value = some a' ∧
      ((c == c') = true ↔ GroupAlike t row row') ∧
      ((reconcileAll [] [a, a']).value.artifacts.length = 1 ↔ GroupAlike t row row') := by
  have hc := rowCoordinate_of_ofText? f h.type
  have hc' := rowCoordinate_of_ofText? f h.type'
  rw [← h.artifactId, ← h.version] at hc'
  have hbeq := Coordinate.ofKnown_beq_iff t (namespaceText row) (namespaceText row')
    ((row.get? .artifactId).getD "") ((row.get? .version).getD "")
  rw [h.namespaceText_eq_iff] at hbeq
  refine ⟨_, _, _, _, hc, hc', value_rowArtifact hc, value_rowArtifact hc', hbeq, ?_⟩
  rw [length_reconcileAll_pair_iff coordinates_record coordinates_record, hbeq]

end Table

open Table

namespace Samples

/-- A row of a table with the columns for coordinates. -/
def packageRow (group type : String) : Row :=
  ⟨["Artifact Id", "Group Id", "Version", "Coordinate Type"], ["core", group, "1.0", type], 1⟩

theorem namesakes_packageRow (group : String) {type type' : String} {t : PackageType}
    (h : PackageType.ofText? (typeText (packageRow group type)) = some t)
    (h' : PackageType.ofText? (typeText (packageRow group type')) = some t) :
    Namesakes t (packageRow group type) (packageRow group type') where
  artifactId := rfl
  groupId := rfl
  version := rfl
  type := h
  type' := h'

end Samples

open Samples in
/-- Two spellings of one ecosystem make no difference. -/
theorem reconciled_namesakes_maven :
    ∃ c c' a a', rowCoordinate .standard (packageRow "org.foo" "mvn") = .ok c ∧
      rowCoordinate .standard (packageRow "org.foo" " Maven") = .ok c' ∧
      (rowArtifact .standard (fun _ => false) ⟨"/"⟩ (packageRow "org.foo" "mvn")).value = some a ∧
      (rowArtifact .standard (fun _ => false) ⟨"/"⟩ (packageRow "org.foo" " Maven")).value =
        some a' ∧
      (c == c') = true ∧ (reconcileAll [] [a, a']).value.artifacts.length = 1 := by
  have halike : GroupAlike .maven (packageRow "org.foo" "mvn") (packageRow "org.foo" " Maven") :=
    fun hp2 => by cases hp2
  have hnamesakes : Namesakes .maven (packageRow "org.foo" "mvn") (packageRow "org.foo" " Maven") :=
    namesakes_packageRow "org.foo" (by decide +kernel) (by decide +kernel)
  obtain ⟨c, c', a, a', hc, hc', ha, ha', hbeq, hone⟩ :=
    reconciled_namesakes_iff .standard (fun _ => false) ⟨"/"⟩ hnamesakes
  exact ⟨c, c', a, a', hc, hc', ha, ha', hbeq.2 halike, hone.2 halike⟩

open Samples in
/-- Two names of one ecosystem make two packages of one. -/
theorem not_beq_plugin_bundle :
    Namesakes .p2 (packageRow "org.eclipse" "p2") (packageRow "org.eclipse" "bundle") ∧
      ∃ c c', rowCoordinate .standard (packageRow "org.eclipse" "p2") = .ok c ∧
        rowCoordinate .standard (packageRow "org.eclipse" "bundle") = .ok c' ∧
        (c == c') = false := by
  have hplugin : PackageType.ofText? (typeText (packageRow "org.eclipse" "p2")) = some .p2 := by
    decide +kernel
  have hbundle : PackageType.ofText? (typeText (packageRow "org.eclipse" "bundle")) = some .p2 := by
    decide +kernel
  refine ⟨namesakes_packageRow "org.eclipse" hplugin hbundle, _, _,
    rowCoordinate_of_ofText? .standard hplugin, rowCoordinate_of_ofText? .standard hbundle, ?_⟩
  decide +kernel

end Clearinghouse
