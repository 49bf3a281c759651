import Clearinghouse.Proofs.Reconcile.Grouping

/-!
# The order of records

Records about single coordinates are reconciled to their groups, so only the order of the
records about one coordinate matters. Main statement: every coordinate gets one artifact, all
that is not the first of its coordinate is counted as merged, and records in an order that keeps
those about one coordinate as they were give the same artifacts up to their order
(`groups_reconcileAll_of_single`).

Which coordinate stands for its group is decided by the first record of the group
(`mem_distinct_coordinatesOf_iff`), so it is the same in every such order.
-/

namespace Clearinghouse

/-! ## First appearances -/

namespace Coordinate

/-- A coordinate is listed if it is the first of those that equal it. -/
theorem mem_distinct_iff {cs : List Coordinate} {c : Coordinate} :
    c ∈ distinct cs ↔ cs.find? (· == c) = some c := by
  induction cs using List.reverseRecOn with
  | nil => simp [distinct]
  | append_singleton cs d ih =>
    rw [distinct_append_singleton, insert, contains_distinct, List.find?_append]
    cases hfind : cs.find? (· == c) with
    | some e =>
      rw [hfind] at ih
      rw [Option.some_or]
      split
      · exact ih
      · rename_i hd
        rw [List.mem_append, ih, List.mem_singleton, or_iff_left_of_imp]
        -- `d` is new, so no coordinate before equals it
        rintro rfl
        have heq : (e == c) = true := by simpa using List.find?_some hfind
        exact absurd (contains_iff.2 ⟨e, List.mem_of_find?_eq_some hfind, BEq.symm heq⟩) hd
    | none =>
      rw [hfind] at ih
      have hnone : c ∉ distinct cs := by simp [ih]
      rw [Option.none_or]
      split
      · rename_i hd
        refine iff_of_false hnone fun h => ?_
        obtain rfl : c = d := by simpa using List.mem_of_find?_eq_some h
        obtain ⟨e, he, heq⟩ := contains_iff.1 hd
        exact absurd (BEq.symm heq) (List.find?_eq_none.1 hfind e he)
      · rw [List.mem_append, List.mem_singleton, or_iff_right hnone, List.find?_singleton]
        constructor
        · rintro rfl
          simp
        · intro h
          split at h
          · exact (Option.some.inj h).symm
          · cases h

theorem nodup_distinct (cs : List Coordinate) : (distinct cs).Nodup := by
  refine (separate_distinct cs).imp fun {c d} hcd heq => ?_
  rw [heq, BEq.rfl] at hcd
  cases hcd

end Coordinate

/-! ## Groups -/

section

variable {records : List Artifact} (h : ∀ r ∈ records, ∃ c, r.coordinates = [c])
include h

theorem filter_coordinatesOf (c : Coordinate) :
    (coordinatesOf records).filter (· == c) = coordinatesOf (about c records) := by
  induction records with
  | nil => rfl
  | cons r records ih =>
    obtain ⟨d, hd⟩ := h r List.mem_cons_self
    have hrest := ih fun r hr => h r (List.mem_cons_of_mem _ hr)
    have hcontains : r.coordinates.contains c = (d == c) := by
      rw [hd, List.contains_cons, List.contains_nil, Bool.or_false, BEq.comm]
    rw [coordinatesOf, List.flatMap_cons, hd, List.singleton_append, List.filter_cons, about,
      List.filter_cons, hcontains]
    split
    · rw [coordinatesOf, List.flatMap_cons, hd, List.singleton_append]
      exact congrArg (List.cons d) hrest
    · exact hrest

/-- A coordinate stands for a group if it is that of the first record in the group. -/
theorem mem_distinct_coordinatesOf_iff {c : Coordinate} :
    c ∈ Coordinate.distinct (coordinatesOf records) ↔
      (coordinatesOf (about c records)).head? = some c := by
  rw [Coordinate.mem_distinct_iff, ← filter_coordinatesOf h, List.head?_filter]

end

/-- Records that are merged into the first of them leave it about its coordinate. -/
theorem coordinates_gather_cons {c : Coordinate} {a : Artifact} {records : List Artifact}
    (ha : a.IsAbout c) (h : ∀ r ∈ records, r.IsAbout c) :
    (gather (a :: records)).coordinates = a.coordinates := by
  induction records generalizing a with
  | nil => rfl
  | cons r records ih =>
    have hcoords := ha.coordinates_mergeWith (h r List.mem_cons_self)
    have hmerged : (a.mergeWith r).value.IsAbout c := by rwa [Artifact.IsAbout, hcoords]
    exact (ih hmerged fun r hr => h r (List.mem_cons_of_mem _ hr)).trans hcoords

/-- The artifact of a coordinate has this coordinate. -/
theorem coordinates_group {records : List Artifact}
    (h : ∀ r ∈ records, ∃ c, r.coordinates = [c]) {c : Coordinate}
    (hc : c ∈ Coordinate.distinct (coordinatesOf records)) :
    (gather (about c records)).coordinates = [c] := by
  have hhead := (mem_distinct_coordinatesOf_iff h).1 hc
  have habout : ∀ r ∈ about c records, r.IsAbout c := fun r hr => isAbout_of_mem_about h hr
  cases hrecords : about c records with
  | nil =>
    rw [hrecords] at hhead
    cases hhead
  | cons a others =>
    rw [hrecords] at hhead habout
    obtain ⟨d, hd, -⟩ := habout a List.mem_cons_self
    rw [coordinatesOf, List.flatMap_cons, hd, List.singleton_append, List.head?_cons,
      Option.some.injEq] at hhead
    rw [coordinates_gather_cons (habout a List.mem_cons_self)
      (fun r hr => habout r (List.mem_cons_of_mem _ hr)), hd, hhead]

/-- The groups do not depend on how the records of different coordinates are interleaved. -/
theorem groups_perm {records others : List Artifact}
    (h : ∀ r ∈ records, ∃ c, r.coordinates = [c]) (hperm : others.Perm records)
    (habout : ∀ c, about c others = about c records) : (groups others).Perm (groups records) := by
  have hothers : ∀ r ∈ others, ∃ c, r.coordinates = [c] := fun r hr => h r (hperm.mem_iff.1 hr)
  have hdistinct : (Coordinate.distinct (coordinatesOf others)).Perm
      (Coordinate.distinct (coordinatesOf records)) := by
    refine (List.perm_ext_iff_of_nodup (Coordinate.nodup_distinct _)
      (Coordinate.nodup_distinct _)).2 fun c => ?_
    rw [mem_distinct_coordinatesOf_iff hothers, mem_distinct_coordinatesOf_iff h, habout]
  rw [groups, funext fun c => congrArg gather (habout c)]
  exact hdistinct.map _

/-! ## Counting -/

theorem Tally.added_count (t : Tally) (p : Placement) :
    (t.count p).added = t.added + (Tally.zero.count p).added := by
  cases p <;> rfl

/-- There is one artifact more for every record that was added. -/
theorem length_artifacts_reconcileAll (known records : List Artifact) :
    (reconcileAll known records).value.artifacts.length =
      known.length + (reconcileAll known records).value.tally.added := by
  induction records using List.reverseRecOn with
  | nil => rfl
  | append_singleton records r ih =>
    have hstep := length_reconcileFrom 0 r (reconcileAll known records).value.artifacts
    rw [value_reconcileAll_append_singleton]
    show (reconcile _ r).value.1.length =
      known.length + (Tally.count _ (reconcile _ r).value.2).added
    rw [Tally.added_count, reconcile, hstep, ih, Nat.add_assoc]

/-! ## Records about single coordinates -/

/-- Reconciling records about single coordinates is grouping them by coordinate. -/
theorem groups_reconcileAll_of_single {records : List Artifact}
    (h : ∀ r ∈ records, ∃ c, r.coordinates = [c]) :
    let result := (reconcileAll [] records).value
    let firsts := Coordinate.distinct (coordinatesOf records)
    result.artifacts = firsts.map (fun c => gather (about c records)) ∧
      result.artifacts.map (·.coordinates) = firsts.map (fun c => [c]) ∧
      result.tally.added = firsts.length ∧
      result.tally.added + result.tally.merged = records.length ∧
      ∀ others : List Artifact, others.Perm records →
        (∀ c, about c others = about c records) →
        (reconcileAll [] others).value.artifacts.Perm result.artifacts := by
  have hartifacts := artifacts_reconcileAll h
  have hlength := length_artifacts_reconcileAll [] records
  refine ⟨hartifacts, ?_, ?_, length_reconcileAll [] records, fun others hperm habout => ?_⟩
  · rw [hartifacts, groups, List.map_map]
    exact List.map_congr_left fun c hc => coordinates_group h hc
  · rw [hartifacts, groups, List.length_map, List.length_nil, Nat.zero_add] at hlength
    exact hlength.symm
  · rw [artifacts_reconcileAll fun r hr => h r (hperm.mem_iff.1 hr), hartifacts]
    exact groups_perm h hperm habout

namespace Samples

/-- A package of an ecosystem that has no name here. -/
def homemade : Artifact :=
  (Artifact.ofSource "first").addCoordinate (.of "Custom" "" "homemade" "1")

/-- The same package, its ecosystem in lower case. -/
def homemadeAgain : Artifact :=
  (Artifact.ofSource "second").addCoordinate (.of "custom" "" "homemade" "1")

def leftPad : Artifact :=
  (Artifact.ofSource "first").addCoordinate (.of "npm" "" "left-pad" "1.0.0")

end Samples

open Samples in
/-- The two records about one package become one artifact, wherever the third record stands. -/
theorem groups_reconcileAll_homemade :
    (∀ r ∈ [homemade, leftPad, homemadeAgain], ∃ c, r.coordinates = [c]) ∧
      (reconcileAll [] [homemade, leftPad, homemadeAgain]).value.artifacts =
        [(homemade.mergeWith homemadeAgain).value, leftPad] ∧
      (reconcileAll [] [homemade, leftPad, homemadeAgain]).value.tally.added = 2 ∧
      (reconcileAll [] [leftPad, homemade, homemadeAgain]).value.artifacts.Perm
        (reconcileAll [] [homemade, leftPad, homemadeAgain]).value.artifacts := by
  have hone : ∀ r ∈ [homemade, leftPad, homemadeAgain], ∃ c, r.coordinates = [c] := by
    simp only [List.forall_mem_cons]
    exact ⟨⟨_, rfl⟩, ⟨_, rfl⟩, ⟨_, rfl⟩, by simp⟩
  have hother (c : Coordinate) (hc : homemade.coordinates.contains c) :
      leftPad.coordinates.contains c = false := by
    have habout : homemade.IsAbout (.of "Custom" "" "homemade" "1") := ⟨_, rfl, BEq.rfl⟩
    rw [habout.contains] at hc
    rw [Coordinate.contains_congr _ hc]
    rfl
  have habout (c : Coordinate) : about c [leftPad, homemade, homemadeAgain] =
      about c [homemade, leftPad, homemadeAgain] := by
    simp only [about, List.filter_cons]
    cases hc : homemade.coordinates.contains c with
    | true => rw [hother c hc]; rfl
    | false => rfl
  obtain ⟨hartifacts, -, hadded, -, horder⟩ := groups_reconcileAll_of_single hone
  exact ⟨hone, hartifacts, hadded, horder _ (List.Perm.swap _ _ _) habout⟩

end Clearinghouse
