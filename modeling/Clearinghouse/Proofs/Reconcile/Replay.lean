import Clearinghouse.Proofs.Reconcile.Staged

/-!
# Sources that come twice

The last source may be delivered once more. Main statement: if every record is about a single
coordinate, this changes nothing, though the source brings its first words again after its last
ones (`mergeSources_replay`).

Merging sources is grouping their records by coordinate, so one coordinate may be looked at by
itself. The records that the source has about it are gathered to one artifact, and to merge this
artifact a second time adds nothing (`gather_append_append_self`).
-/

namespace Clearinghouse

/-! ## Coordinates -/

theorem Coordinate.distinct_append_append_self (cs ds : List Coordinate) :
    distinct (cs ++ ds ++ ds) = distinct (cs ++ ds) := by
  show Distinct.union [] (cs ++ ds ++ ds) = Distinct.union [] (cs ++ ds)
  rw [Distinct.union_append [] (cs ++ ds)]
  refine Distinct.union_eq_self fun d hd => ?_
  rw [Distinct.contains_union, Distinct.contains_of_mem (List.mem_append_right cs hd),
    Bool.or_true]

/-! ## Records about one coordinate -/

/-- Records of one policy that can be made. -/
def Met (policy : MergePolicy) (records : List Artifact) : Prop :=
  ∀ r ∈ records, r.Reachable ∧ r.policy = policy

section

variable {policy : MergePolicy} {records others : List Artifact}

theorem Met.alike (h : Met policy records) : Alike policy records :=
  fun r hr => ⟨(h r hr).1.tidy, (h r hr).2⟩

theorem Met.about (h : Met policy records) (c : Coordinate) : Met policy (about c records) :=
  fun r hr => h r (List.mem_of_mem_filter hr)

theorem met_append : Met policy (records ++ others) ↔ Met policy records ∧ Met policy others :=
  List.forall_mem_append

theorem met_map (h : ∀ r ∈ records, r.Reachable) :
    Met policy (records.map fun a => { a with policy }) := by
  intro r hr
  obtain ⟨a, ha, rfl⟩ := List.mem_map.1 hr
  exact ⟨(h a ha).setPolicy policy, rfl⟩

theorem Met.reachable_gather (h : Met policy records) (hne : records ≠ []) :
    (gather records).Reachable :=
  gather_induction hne (fun r hr => (h r hr).1) fun _ _ ha hb => ha.mergeWith hb

/-- Records that are gathered once more add nothing. -/
theorem gather_append_append_self (h : Met policy records) (h' : Met policy others)
    (hne : others ≠ []) : gather (records ++ others ++ others) = gather (records ++ others) := by
  have hlast := h'.reachable_gather hne
  by_cases hrecords : records = []
  · subst hrecords
    rw [List.nil_append, gather_append h'.alike h'.alike hne hne, Artifact.mergeWith_self hlast]
  · have hfirst := (h.reachable_gather hrecords).tidy
    have hboth : Alike policy (records ++ others) := (met_append.2 ⟨h, h'⟩).alike
    rw [gather_append hboth h'.alike (List.append_ne_nil_of_left_ne_nil hrecords others) hne,
      gather_append h.alike h'.alike hrecords hne, Artifact.mergeWith_mergeWith_self hfirst hlast]

/-! ## Groups -/

/-- Groups do not change when the last records come once more. -/
theorem groups_append_append_self (h : Met policy records) (h' : Met policy others) :
    groups (records ++ others ++ others) = groups (records ++ others) := by
  have hcoordinates : Coordinate.distinct (coordinatesOf (records ++ others ++ others)) =
      Coordinate.distinct (coordinatesOf (records ++ others)) := by
    simp only [coordinatesOf, List.flatMap_append, Coordinate.distinct_append_append_self]
  rw [groups, groups, hcoordinates]
  refine List.map_congr_left fun c _ => ?_
  rw [about_append, about_append]
  by_cases hc : about c others = []
  · rw [hc, List.append_nil]
  · rw [gather_append_append_self (h.about c) (h'.about c) hc]

end

/-! ## Sources -/

section

variable (policy : MergePolicy)

theorem wellFormed_of_mem_mergeSources {sources : List (List Artifact)}
    (h : ∀ r ∈ sources.flatten, r.Made ∧ ∃ c, r.coordinates = [c]) :
    ∀ a ∈ (mergeSources sources policy).value.artifacts, a.facts.WellFormed := by
  intro a ha
  rw [artifacts_mergeSources_of_single fun r hr => (h r hr).2] at ha
  have halike : Alike policy (sources.flatten.map fun a => { a with policy }) :=
    alike_map fun r hr => (h r hr).1
  have hone : ∀ r ∈ sources.flatten.map (fun a => { a with policy }), ∃ c, r.coordinates = [c] :=
    exists_coordinate_of_mem_map fun r hr => (h r hr).2
  exact (halike.groups hone a ha).1.wellFormed

/-- The last source is merged once more, after the sources before it and itself. -/
theorem artifacts_mergeSources_append_self {before : List (List Artifact)} {last : List Artifact}
    (h : ∀ r ∈ before.flatten ++ last, r.Reachable ∧ ∃ c, r.coordinates = [c]) :
    (mergeSources (before ++ [last] ++ [last]) policy).value.artifacts =
      (mergeSources (before ++ [last]) policy).value.artifacts := by
  obtain ⟨hbefore, hlast⟩ := List.forall_mem_append.1 h
  have honce : (before ++ [last]).flatten = before.flatten ++ last := by
    rw [List.flatten_append, List.flatten_singleton]
  have htwice : (before ++ [last] ++ [last]).flatten = before.flatten ++ last ++ last := by
    rw [List.flatten_append, honce, List.flatten_singleton]
  have hsingle : ∀ r ∈ (before ++ [last] ++ [last]).flatten, ∃ c, r.coordinates = [c] := by
    rw [htwice]
    exact fun r hr => (List.forall_mem_append.2 ⟨h, hlast⟩ r hr).2
  rw [artifacts_mergeSources_of_single hsingle, htwice, artifacts_mergeSources_of_single
    (honce ▸ fun r hr => (h r hr).2), honce, List.map_append, List.map_append]
  exact groups_append_append_self (met_map fun r hr => (hbefore r hr).1)
    (met_map fun r hr => (hlast r hr).1)

end

/-- If every record is about a single coordinate, the last source may be merged once more. -/
theorem mergeSources_replay (policy : MergePolicy) {sources : List (List Artifact)}
    (hne : sources ≠ [])
    (h : ∀ source ∈ sources, ∀ r ∈ source, r.Reachable ∧ ∃ c, r.coordinates = [c]) :
    let once := (mergeSources sources policy).value.artifacts
    let twice := (mergeSources (sources ++ [sources.getLast hne]) policy).value.artifacts
    twice = once ∧ (twice == once) = true := by
  have hall : ∀ r ∈ sources.flatten, r.Reachable ∧ ∃ c, r.coordinates = [c] := by
    intro r hr
    obtain ⟨source, hsource, hr⟩ := List.mem_flatten.1 hr
    exact h source hsource r hr
  obtain ⟨before, last, rfl⟩ : ∃ before last, sources = before ++ [last] :=
    ⟨_, _, (List.dropLast_append_getLast hne).symm⟩
  have hreplay := artifacts_mergeSources_append_self policy
    (by rwa [List.flatten_append, List.flatten_singleton] at hall)
  rw [List.getLast_concat, hreplay]
  exact ⟨rfl, list_beq_self (wellFormed_of_mem_mergeSources policy
    fun r hr => ⟨(hall r hr).1.made, (hall r hr).2⟩)⟩

namespace Samples

/-- A scan that changes its mind about the package: it comes to another URL, has a file twice and
leaves a state that is lower than the first. -/
def wavering : List Artifact :=
  [homemade.addAll [.sourceUrl "https://two.example", .filename ⟨some "a.jar", none⟩,
      .clearingState .osmApproved, .copyright (.ofText "(c) Ada")],
    homemadeAgain.addAll [.filename ⟨some "b.jar", none⟩, .clearingState .initial,
      .copyright (.ofText "(c) Bob"), .sourceUrl "https://three.example"],
    homemade.addAll [.filename ⟨some "a.jar", none⟩]]

end Samples

open Samples in
/-- The scan is merged twice, and its last words stay the last. -/
theorem mergeSources_replay_wavering :
    (∀ source ∈ [needed, wavering], ∀ r ∈ source, r.Reachable ∧ ∃ c, r.coordinates = [c]) ∧
      (mergeSources [needed, wavering, wavering] .overwrite).value.artifacts =
        (mergeSources [needed, wavering] .overwrite).value.artifacts ∧
      (mergeSources [needed, wavering] .overwrite).value.artifacts.map (·.allFacts) =
        [[.sourceUrl "https://three.example", .filename ⟨some "a.jar", none⟩,
            .filename ⟨some "b.jar", none⟩, .clearingState .osmApproved,
            .copyright ⟨["(c) Ada", "(c) Bob"]⟩], []] := by
  have hhomemade : homemade.Reachable := .addCoordinate (.ofSource _) _
  have hagain : homemadeAgain.Reachable := .addCoordinate (.ofSource _) _
  have hleftPad : leftPad.Reachable := .addCoordinate (.ofSource _) _
  have hall : ∀ source ∈ [needed, wavering], ∀ r ∈ source,
      r.Reachable ∧ ∃ c, r.coordinates = [c] := by
    simp only [List.forall_mem_cons, needed, wavering]
    refine ⟨⟨⟨.addFact hhomemade trivial, _, rfl⟩, ⟨hleftPad, _, rfl⟩, by simp⟩,
      ⟨⟨.addAll hhomemade ?_, _, rfl⟩, ⟨.addAll hagain ?_, _, rfl⟩,
        ⟨.addAll hhomemade ?_, _, rfl⟩, by simp⟩, by simp⟩
    · simp only [List.forall_mem_cons]
      exact ⟨trivial, trivial, trivial, .ofText _, by simp⟩
    · simp only [List.forall_mem_cons]
      exact ⟨trivial, trivial, .ofText _, trivial, by simp⟩
    · exact List.forall_mem_singleton.2 trivial
  exact ⟨hall, (mergeSources_replay .overwrite (by simp) hall).1, rfl⟩

end Clearinghouse
