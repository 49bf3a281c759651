import Clearinghouse.Files.Snapshot
import Clearinghouse.Proofs.Table.Reread
import Mathlib.Data.List.Pairwise

/-!
# Which coordinates stay together

Every row is about one coordinate, and nothing in a bare row says whose it is. So a table keeps
the coordinates but not which of them belong together: reading an exported table gives every
coordinate an artifact of its own, and the grouping survives exactly if there was nothing to
group (`sameGrouping_importBytes_iff`).
-/

namespace Clearinghouse

/-! ## Groupings -/

namespace Coordinate

theorem contains_of_mem {cs : List Coordinate} {c : Coordinate} (h : c ∈ cs) : cs.contains c :=
  contains_iff.2 ⟨c, h, BEq.rfl⟩

theorem contains_singleton {c d : Coordinate} : [c].contains d = true ↔ (d == c) = true := by
  simp

/-- Of separate coordinates, equal ones are the same. -/
theorem Separate.eq_of_beq {cs : List Coordinate} (h : Separate cs) {c d : Coordinate}
    (hc : c ∈ cs) (hd : d ∈ cs) (heq : (c == d) = true) : c = d := by
  have : Std.Symm fun c d : Coordinate => (c == d) = false :=
    ⟨fun c d hcd => by rw [BEq.comm, hcd]⟩
  by_contra hne
  have hdiff := List.Pairwise.forall h hc hd hne
  rw [heq] at hdiff
  cases hdiff

end Coordinate

/-- The coordinates belong to one of the artifacts. -/
def Together (as : List Artifact) (c d : Coordinate) : Prop :=
  ∃ cs ∈ as.map (·.coordinates), cs.contains c ∧ cs.contains d

/-- There are as many artifacts as before, and the coordinates that belong together are those
that did before. -/
structure SameGrouping (as bs : List Artifact) : Prop where
  length_eq : bs.length = as.length
  together_iff : ∀ c ∈ coordinatesOf as, ∀ d ∈ coordinatesOf as,
    Together bs c d ↔ Together as c d

theorem SameGrouping.of_map_eq {as bs : List Artifact}
    (h : bs.map (·.coordinates) = as.map (·.coordinates)) : SameGrouping as bs where
  length_eq := by simpa using congrArg List.length h
  together_iff c _ d _ := by rw [Together, Together, h]

theorem map_coordinates_of_single {as : List Artifact}
    (h : ∀ a ∈ as, ∃ c, a.coordinates = [c]) :
    as.map (·.coordinates) = (coordinatesOf as).map fun c => [c] := by
  induction as with
  | nil => rfl
  | cons a as ih =>
    obtain ⟨c, hc⟩ := h a List.mem_cons_self
    have hrest := ih fun b hb => h b (List.mem_cons_of_mem a hb)
    rw [List.map_cons, hrest, coordinatesOf, coordinatesOf, List.flatMap_cons, hc]
    rfl

/-- Where every coordinate has an artifact of its own, the grouping is that of artifacts with a
single coordinate. -/
theorem single_of_sameGrouping {as bs : List Artifact}
    (hsep : Coordinate.Separate (coordinatesOf as))
    (hbs : bs.map (·.coordinates) = (coordinatesOf as).map fun c => [c])
    (h : SameGrouping as bs) {a : Artifact} (ha : a ∈ as) (hne : a.coordinates ≠ []) :
    ∃ c, a.coordinates = [c] := by
  obtain ⟨c, others, hc⟩ := List.exists_cons_of_ne_nil hne
  cases others with
  | nil => exact ⟨c, hc⟩
  | cons d others =>
    -- the first two coordinates were together, so one of the single ones equals both
    have hmemc : c ∈ a.coordinates := by simp [hc]
    have hmemd : d ∈ a.coordinates := by simp [hc]
    have hbefore : Together as c d :=
      ⟨a.coordinates, List.mem_map_of_mem ha, Coordinate.contains_of_mem hmemc,
        Coordinate.contains_of_mem hmemd⟩
    obtain ⟨cs, hcs, hcc, hcd⟩ := (h.together_iff c (List.mem_flatMap.2 ⟨a, ha, hmemc⟩) d
      (List.mem_flatMap.2 ⟨a, ha, hmemd⟩)).2 hbefore
    rw [hbs] at hcs
    obtain ⟨e, -, rfl⟩ := List.mem_map.1 hcs
    have heq : (c == d) = true := BEq.trans (Coordinate.contains_singleton.1 hcc)
      (BEq.symm (Coordinate.contains_singleton.1 hcd))
    have hdiff := (List.pairwise_flatMap.1 hsep).1 a ha
    rw [hc, List.pairwise_cons] at hdiff
    have := hdiff.1 d List.mem_cons_self
    rw [heq] at this
    cases this

/-! ## Artifacts of their own -/

/-- Separate coordinates are those of the artifacts that reconciling the records about them
leaves. -/
theorem map_coordinates_gather {cs : List Coordinate} (hsep : Coordinate.Separate cs)
    {records : List Artifact} (hone : ∀ r ∈ records, ∃ c ∈ cs, r.coordinates = [c])
    (hall : ∀ c ∈ cs, (coordinatesOf records).contains c) :
    (cs.map fun c => gather (about c records)).map (·.coordinates) = cs.map fun c => [c] := by
  rw [List.map_map]
  refine List.map_congr_left fun c hc => coordinates_gather (about_ne_nil_iff.2 (hall c hc)) ?_
  intro r hr
  obtain ⟨hr, hcontains⟩ := List.mem_filter.1 hr
  obtain ⟨d, hd, hrd⟩ := hone r hr
  rw [hrd, Coordinate.contains_singleton] at hcontains
  rw [hrd, hsep.eq_of_beq hc hd hcontains]

namespace Table

variable {f : TableFormat} {s : Surroundings} {pathExists : Path → Bool} {baseDir : Path}

/-- Every coordinate has a line. -/
theorem exists_line {a : Artifact} {c : Coordinate} (h : c ∈ a.coordinates) :
    ∃ l ∈ linesOf a, l.coordinate = c := by
  unfold linesOf
  cases hc : a.coordinates with
  | nil =>
    rw [hc] at h
    cases h
  | cons main others =>
    rw [hc] at h
    rcases List.mem_cons.1 h with rfl | h
    · obtain ⟨l, more, hfull⟩ := List.exists_cons_of_ne_nil (fullLines_ne_nil a c)
      have hl : l ∈ fullLines a c := by simp [hfull]
      exact ⟨l, List.mem_append_left _ hl, coordinate_of_mem_fullLines hl⟩
    · exact ⟨.bare c, List.mem_append_right _ (List.mem_map_of_mem h), rfl⟩

/-- Reading an exported table gives every coordinate an artifact of its own, in order. -/
theorem value_artifactsOf_coordinates {as : List Artifact} (hd : Separates f.delimiter)
    (has : ∀ c ∈ coordinatesOf as, f.Carries c)
    (hsep : Coordinate.Separate (coordinatesOf as)) :
    ∃ bs, (artifactsOf f pathExists baseDir (scan f.delimiter (f.exportBytes s as))).run.value =
        .ok bs ∧
      bs.map (·.coordinates) = (coordinatesOf as).map fun c => [c] := by
  refine ⟨_, value_artifactsOf_separate hd has hsep, map_coordinates_gather hsep ?_ ?_⟩
  · intro r hr
    obtain ⟨l, hl, rfl⟩ := List.mem_map.1 hr
    obtain ⟨a, ha, hl⟩ := List.mem_flatMap.1 hl
    exact ⟨_, List.mem_flatMap.2 ⟨a, ha, coordinate_mem hl⟩, Line.coordinates_record⟩
  · intro c hc
    obtain ⟨a, ha, hc⟩ := List.mem_flatMap.1 hc
    obtain ⟨l, hl, rfl⟩ := exists_line hc
    rw [coordinatesOf_records]
    exact Coordinate.contains_of_mem
      (List.mem_map_of_mem (List.mem_flatMap.2 ⟨a, ha, hl⟩))

end Table

open Table

/-- Artifacts with coordinates, no two of which are equal, are exported and read. Every
coordinate becomes an artifact of its own, so the grouping is the same if and only if every
artifact had a single coordinate. -/
theorem sameGrouping_importBytes_iff {f : TableFormat} (hd : Separates f.delimiter)
    (hlenient : f.strictTypes = false) (s : Surroundings) {as : List Artifact}
    (has : ∀ a ∈ as, a.coordinates ≠ [] ∧ ∀ c ∈ a.coordinates, c.Legible)
    (hsep : Coordinate.Separate (coordinatesOf as)) :
    ∃ bs, (f.importBytes s (f.exportBytes s as)).run.value = .ok bs ∧
      bs.map (·.coordinates) = (coordinatesOf as).map (fun c => [c]) ∧
      (SameGrouping as bs ↔ ∀ a ∈ as, ∃ c, a.coordinates = [c]) := by
  have hreadable : ∀ c ∈ coordinatesOf as, f.Carries c := by
    intro c hc
    obtain ⟨a, ha, hc⟩ := List.mem_flatMap.1 hc
    exact ⟨(has a ha).2 c hc, fun hstrict => absurd hstrict (by simp [hlenient])⟩
  obtain ⟨bs, hread, hbs⟩ := value_artifactsOf_coordinates hd hreadable hsep
  refine ⟨bs, hread, hbs, ⟨fun h a ha => ?_, fun h => ?_⟩⟩
  · exact single_of_sameGrouping hsep hbs h ha (has a ha).1
  · exact .of_map_eq (hbs.trans (map_coordinates_of_single h).symm)

namespace Samples

/-- Surroundings without any file. -/
def nowhere : Surroundings := Snapshot.surroundings ⟨⟨"/"⟩, none, []⟩

/-- A library that two package managers know. -/
def bundle : Artifact :=
  ((Artifact.ofSource "").addCoordinate (.of "maven" "org.foo" "bar" "1.0")).addCoordinate
    (.of "p2" "" "org.foo.bar" "1.0.0")

theorem coordinates_bundle :
    bundle.coordinates =
      [.of "maven" "org.foo" "bar" "1.0", .of "p2" "" "org.foo.bar" "1.0.0"] := rfl

theorem legible_bundle : ∀ c ∈ bundle.coordinates, c.Legible := by
  rw [coordinates_bundle]
  simp only [List.forall_mem_cons]
  refine ⟨Coordinate.legible_of ?_ ?_ ?_ ?_, Coordinate.legible_of ?_ ?_ ?_ ?_, by simp⟩ <;>
    decide +kernel

theorem separate_bundle : Coordinate.Separate (coordinatesOf [bundle]) := by
  unfold Coordinate.Separate
  decide +kernel

end Samples

open Samples in
/-- Whether the two coordinates of the bundle stay together. -/
theorem sameGrouping_importBytes_bundle_iff :
    ∃ bs, (TableFormat.standard.importBytes nowhere
        (TableFormat.standard.exportBytes nowhere [bundle])).run.value = .ok bs ∧
      bs.map (·.coordinates) = (coordinatesOf [bundle]).map (fun c => [c]) ∧
      (SameGrouping [bundle] bs ↔ ∀ a ∈ [bundle], ∃ c, a.coordinates = [c]) :=
  sameGrouping_importBytes_iff ⟨by decide, by decide⟩ rfl nowhere
    (by simpa using ⟨by simp [coordinates_bundle], legible_bundle⟩) separate_bundle

open Samples in
/-- The bundle falls apart. -/
theorem not_sameGrouping_importBytes_bundle :
    ∃ bs, (TableFormat.standard.importBytes nowhere
        (TableFormat.standard.exportBytes nowhere [bundle])).run.value = .ok bs ∧
      ¬ SameGrouping [bundle] bs := by
  have hreadable : ∀ c ∈ coordinatesOf [bundle], TableFormat.standard.Carries c := by
    intro c hc
    exact ⟨legible_bundle c (by simpa [coordinatesOf] using hc), fun hstrict => by cases hstrict⟩
  obtain ⟨bs, hread, hbs⟩ :=
    value_artifactsOf_coordinates ⟨by decide, by decide⟩ hreadable separate_bundle
  refine ⟨bs, hread, fun h => ?_⟩
  have htwo := congrArg List.length hbs
  rw [List.length_map, List.length_map, h.length_eq] at htwo
  exact absurd htwo (by decide)

end Clearinghouse
