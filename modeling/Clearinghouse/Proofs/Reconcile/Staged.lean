import Clearinghouse.Proofs.Artifact.Merging
import Clearinghouse.Proofs.Reconcile.Interleaving

/-!
# Merging in stages

Sources may be merged in batches, and the results merged again. Main statement: if every record
is about a single coordinate, two stages give the same artifacts in the same order as merging all
sources at once (`mergeSources_stages`).

Merging sources is grouping their records by coordinate. So it is enough that groups of groups
are the groups of all records (`groups_append_groups`): first appearances among first appearances
are first appearances, and the records of a coordinate are gathered in two runs instead of one,
which merging does not tell apart (`gather_append`).
-/

namespace Clearinghouse

/-! ## Coordinates in two stages -/

namespace Coordinate

theorem distinct_distinct_append (cs ds : List Coordinate) :
    distinct (distinct cs ++ distinct ds) = distinct (cs ++ ds) := by
  show Distinct.union [] (Distinct.union [] cs ++ Distinct.union [] ds) =
    Distinct.union [] (cs ++ ds)
  simp only [Distinct.union_append, Distinct.union_union, Distinct.union_nil]

/-- Of different coordinates one at most equals `c`. -/
theorem Separate.filter_beq {cs : List Coordinate} (h : Separate cs) {c d : Coordinate}
    (hd : d ∈ cs) (hcd : (c == d) = true) : cs.filter (c == ·) = [d] := by
  induction cs with
  | nil => cases hd
  | cons e cs ih =>
    obtain ⟨he, hcs⟩ := List.pairwise_cons.1 h
    rcases List.mem_cons.1 hd with rfl | hd
    · rw [List.filter_cons_of_pos hcd, List.filter_eq_nil_iff.2]
      intro e' he' hce'
      have hne := he e' he'
      rw [BEq.trans (BEq.symm hcd) hce'] at hne
      cases hne
    · have hce : ¬ (c == e) = true := by
        intro hce
        have hne := he d hd
        rw [BEq.trans (BEq.symm hce) hcd] at hne
        cases hne
      rw [List.filter_cons_of_neg hce, ih hcs hd]

end Coordinate

/-! ## Records in two runs -/

section

variable {policy : MergePolicy}

/-- Records that are gathered under one policy. -/
def Alike (policy : MergePolicy) (records : List Artifact) : Prop :=
  ∀ r ∈ records, r.Tidy ∧ r.policy = policy

theorem Alike.gather {records : List Artifact} (h : Alike policy records) (hne : records ≠ []) :
    (gather records).Tidy ∧ (gather records).policy = policy := by
  refine gather_induction hne h fun a b ha hb => ⟨ha.1.mergeWith hb.1, ?_⟩
  rw [Artifact.policy_mergeWith, ha.2]

/-- Records may be gathered in two runs. -/
theorem gather_append {records others : List Artifact} (h : Alike policy records)
    (h' : Alike policy others) (hne : records ≠ []) (hne' : others ≠ []) :
    gather (records ++ others) = ((gather records).mergeWith (gather others)).value := by
  induction others using List.reverseRecOn with
  | nil => exact absurd rfl hne'
  | append_singleton others r ih =>
    by_cases hothers : others = []
    · subst hothers
      exact gather_append_singleton hne r
    · have hinit : Alike policy others := fun s hs => h' s (List.mem_append_left _ hs)
      have hr := h' r (List.mem_append_right _ List.mem_cons_self)
      have hfirst := h.gather hne
      have hsecond := hinit.gather hothers
      rw [← List.append_assoc, gather_append_singleton (List.append_ne_nil_of_left_ne_nil hne _),
        ih hinit hothers, gather_append_singleton hothers]
      exact Artifact.mergeWith_assoc hfirst.1 hsecond.1 hr.1 (hsecond.2.trans hfirst.2.symm)

end

/-! ## Groups of groups -/

section

variable {records : List Artifact} (h : ∀ r ∈ records, ∃ c, r.coordinates = [c])
include h

theorem coordinatesOf_groups :
    coordinatesOf (groups records) = Coordinate.distinct (coordinatesOf records) := by
  rw [coordinatesOf, groups, List.flatMap_map]
  have hsingle : ∀ c ∈ Coordinate.distinct (coordinatesOf records),
      (gather (about c records)).coordinates = [c] := fun c hc => coordinates_group h hc
  rw [List.flatMap_congr hsingle, List.flatMap_singleton']

/-- The group of a coordinate is the only one about it. -/
theorem about_groups {c : Coordinate} (hc : about c records ≠ []) :
    about c (groups records) = [gather (about c records)] := by
  have hcontains : (Coordinate.distinct (coordinatesOf records)).contains c := by
    rwa [Coordinate.contains_distinct, ← about_ne_nil_iff]
  obtain ⟨d, hd, hcd⟩ := Coordinate.contains_iff.1 hcontains
  have hfilter : (Coordinate.distinct (coordinatesOf records)).filter
      ((fun r : Artifact => r.coordinates.contains c) ∘ fun e => gather (about e records)) =
      (Coordinate.distinct (coordinatesOf records)).filter (c == ·) := by
    refine List.filter_congr fun e he => ?_
    show (gather (about e records)).coordinates.contains c = (c == e)
    rw [coordinates_group h he, List.contains_cons, List.contains_nil, Bool.or_false]
  have hsame : about d records = about c records := by
    unfold about
    exact List.filter_congr fun r _ => (Coordinate.contains_congr r.coordinates hcd).symm
  rw [about, groups, List.filter_map]
  have hgroups := (Coordinate.separate_distinct (coordinatesOf records)).filter_beq hd hcd
  rw [hfilter, hgroups, List.map_singleton, hsame]

theorem about_groups_eq_nil {c : Coordinate} (hc : about c records = []) :
    about c (groups records) = [] := by
  by_contra hne
  rw [← Ne, about_ne_nil_iff, coordinatesOf_groups h, Coordinate.contains_distinct,
    ← about_ne_nil_iff] at hne
  exact hne hc

end

/-- Groups of groups are the groups of all records. -/
theorem groups_append_groups {policy : MergePolicy} {records others : List Artifact}
    (h : ∀ r ∈ records, ∃ c, r.coordinates = [c]) (h' : ∀ r ∈ others, ∃ c, r.coordinates = [c])
    (hrecords : Alike policy records) (hothers : Alike policy others) :
    groups (groups records ++ groups others) = groups (records ++ others) := by
  have hcoordinates : Coordinate.distinct (coordinatesOf (groups records ++ groups others)) =
      Coordinate.distinct (coordinatesOf (records ++ others)) := by
    rw [coordinatesOf, coordinatesOf, List.flatMap_append, List.flatMap_append]
    show Coordinate.distinct (coordinatesOf (groups records) ++ coordinatesOf (groups others)) =
      Coordinate.distinct (coordinatesOf records ++ coordinatesOf others)
    rw [coordinatesOf_groups h, coordinatesOf_groups h', Coordinate.distinct_distinct_append]
  show List.map _ (Coordinate.distinct (coordinatesOf (groups records ++ groups others))) =
    List.map _ (Coordinate.distinct (coordinatesOf (records ++ others)))
  rw [hcoordinates]
  refine List.map_congr_left fun c _ => ?_
  rw [about_append, about_append]
  by_cases hc : about c records = [] <;> by_cases hc' : about c others = []
  · rw [about_groups_eq_nil h hc, about_groups_eq_nil h' hc', hc, hc']
  · rw [about_groups_eq_nil h hc, about_groups h' hc', hc]
    rfl
  · rw [about_groups h hc, about_groups_eq_nil h' hc', hc', List.append_nil, List.append_nil]
    rfl
  · have halike : Alike policy (about c records) := fun r hr =>
      hrecords r (List.mem_of_mem_filter hr)
    have halike' : Alike policy (about c others) := fun r hr =>
      hothers r (List.mem_of_mem_filter hr)
    rw [about_groups h hc, about_groups h' hc', gather_append halike halike' hc hc']
    rfl

/-! ## Sources of single coordinates -/

theorem alike_append {policy : MergePolicy} {records others : List Artifact} :
    Alike policy (records ++ others) ↔ Alike policy records ∧ Alike policy others :=
  List.forall_mem_append

section

variable {policy : MergePolicy} {records : List Artifact}

/-- Records of one policy are treated as they are. -/
theorem Alike.map_eq_self (h : Alike policy records) :
    (records.map fun a => { a with policy }) = records := by
  have hself : ∀ a ∈ records, { a with policy } = a := by
    intro a ha
    rw [← (h a ha).2]
  rw [List.map_congr_left hself, List.map_id']

theorem alike_map (h : ∀ r ∈ records, r.Made) :
    Alike policy (records.map fun a => { a with policy }) := by
  intro r hr
  obtain ⟨a, ha, rfl⟩ := List.mem_map.1 hr
  exact ⟨((h a ha).setPolicy policy).tidy, rfl⟩

theorem Alike.groups (h : Alike policy records) (hone : ∀ r ∈ records, ∃ c, r.coordinates = [c]) :
    Alike policy (groups records) := by
  intro a ha
  obtain ⟨group, hne, hgroup, rfl, -⟩ := exists_of_mem_groups hone ha
  have halike : Alike policy group := fun r hr => h r (hgroup r hr)
  exact halike.gather hne

theorem exists_coordinate_of_mem_groups (h : ∀ r ∈ records, ∃ c, r.coordinates = [c]) :
    ∀ a ∈ groups records, ∃ c, a.coordinates = [c] := by
  intro a ha
  obtain ⟨_, _, _, _, hc⟩ := exists_of_mem_groups h ha
  exact hc

/-- Another policy changes no coordinate. -/
theorem exists_coordinate_of_mem_map (h : ∀ r ∈ records, ∃ c, r.coordinates = [c]) :
    ∀ r ∈ records.map (fun a => { a with policy }), ∃ c, r.coordinates = [c] := by
  intro r hr
  obtain ⟨a, ha, rfl⟩ := List.mem_map.1 hr
  exact h a ha

end

theorem artifacts_mergeSources_of_single {sources : List (List Artifact)}
    (h : ∀ r ∈ sources.flatten, ∃ c, r.coordinates = [c]) (policy : MergePolicy) :
    (mergeSources sources policy).value.artifacts =
      groups (sources.flatten.map fun a => { a with policy }) := by
  rw [artifacts_mergeSources, artifacts_reconcileAll (exists_coordinate_of_mem_map h)]

/-- Artifacts that two merges left are taken as they are. -/
theorem artifacts_mergeSources_groups {policy : MergePolicy} {records others : List Artifact}
    (h : ∀ r ∈ records, ∃ c, r.coordinates = [c]) (h' : ∀ r ∈ others, ∃ c, r.coordinates = [c])
    (hrecords : Alike policy records) (hothers : Alike policy others) :
    (mergeSources [groups records, groups others] policy).value.artifacts =
      groups (records ++ others) := by
  have hflatten : [groups records, groups others].flatten = groups records ++ groups others := by
    rw [List.flatten_cons, List.flatten_singleton]
  have hone : ∀ r ∈ groups records ++ groups others, ∃ c, r.coordinates = [c] :=
    List.forall_mem_append.2
      ⟨exists_coordinate_of_mem_groups h, exists_coordinate_of_mem_groups h'⟩
  have halike : Alike policy (groups records ++ groups others) :=
    alike_append.2 ⟨hrecords.groups h, hothers.groups h'⟩
  rw [artifacts_mergeSources_of_single (hflatten ▸ hone), hflatten, halike.map_eq_self,
    groups_append_groups h h' hrecords hothers]

theorem list_beq_self {as : List Artifact} (h : ∀ a ∈ as, a.facts.WellFormed) :
    (as == as) = true := by
  induction as with
  | nil => rfl
  | cons a as ih =>
    rw [List.forall_mem_cons] at h
    rw [List.cons_beq_cons, Artifact.beq_self h.1, ih h.2, Bool.and_self]

/-- Merging in two stages is merging at once, if every record is about a single coordinate. -/
theorem mergeSources_stages (policy : MergePolicy) {first second : List (List Artifact)}
    (h : ∀ source ∈ first ++ second, ∀ r ∈ source, r.Made ∧ ∃ c, r.coordinates = [c]) :
    let once := (mergeSources (first ++ second) policy).value.artifacts
    let staged := (mergeSources [(mergeSources first policy).value.artifacts,
      (mergeSources second policy).value.artifacts] policy).value.artifacts
    staged = once ∧ (staged == once) = true := by
  have hall : ∀ r ∈ first.flatten ++ second.flatten, r.Made ∧ ∃ c, r.coordinates = [c] := by
    intro r hr
    rw [← List.flatten_append] at hr
    obtain ⟨source, hsource, hr⟩ := List.mem_flatten.1 hr
    exact h source hsource r hr
  obtain ⟨hfirst, hsecond⟩ := List.forall_mem_append.1 hall
  have hone : ∀ r ∈ first.flatten.map (fun a => { a with policy }), ∃ c, r.coordinates = [c] :=
    exists_coordinate_of_mem_map fun r hr => (hfirst r hr).2
  have hone' : ∀ r ∈ second.flatten.map (fun a => { a with policy }), ∃ c, r.coordinates = [c] :=
    exists_coordinate_of_mem_map fun r hr => (hsecond r hr).2
  have halike : Alike policy (first.flatten.map fun a => { a with policy }) :=
    alike_map fun r hr => (hfirst r hr).1
  have halike' : Alike policy (second.flatten.map fun a => { a with policy }) :=
    alike_map fun r hr => (hsecond r hr).1
  have honce : (mergeSources (first ++ second) policy).value.artifacts =
      groups ((first.flatten.map fun a => { a with policy }) ++
        second.flatten.map fun a => { a with policy }) := by
    rw [artifacts_mergeSources_of_single, List.flatten_append, List.map_append]
    rw [List.flatten_append]
    exact fun r hr => (hall r hr).2
  have hstaged := artifacts_mergeSources_groups hone hone' halike halike'
  rw [← artifacts_mergeSources_of_single fun r hr => (hfirst r hr).2,
    ← artifacts_mergeSources_of_single fun r hr => (hsecond r hr).2, ← honce] at hstaged
  refine ⟨hstaged, ?_⟩
  rw [hstaged, honce]
  refine list_beq_self fun a ha => ?_
  have hgroups := (alike_append.2 ⟨halike, halike'⟩).groups (List.forall_mem_append.2 ⟨hone, hone'⟩)
  exact (hgroups a ha).1.wellFormed

namespace Samples

/-- A list of the packages that a product needs, with where they come from. -/
def needed : List Artifact :=
  [(homemade.addFact (.sourceUrl "https://one.example")).value, leftPad]

/-- What an old scan says about them. -/
def scannedBefore : List Artifact :=
  [(homemadeAgain.addFact (.sourceUrl "https://two.example")).value]

/-- What a new scan says about them. -/
def scannedNow : List Artifact :=
  [(leftPad.addFact (.copyright (.ofText "(c) Ada"))).value,
    (homemade.addFact (.copyright (.ofText "(c) Bob"))).value]

end Samples

open Samples in
/-- Scans that are merged first say the same about the packages, whose place they keep. -/
theorem mergeSources_stages_scans :
    (∀ source ∈ [needed] ++ [scannedBefore, scannedNow], ∀ r ∈ source,
      r.Made ∧ ∃ c, r.coordinates = [c]) ∧
    (mergeSources [(mergeSources [needed] .overwrite).value.artifacts,
        (mergeSources [scannedBefore, scannedNow] .overwrite).value.artifacts]
          .overwrite).value.artifacts =
      (mergeSources ([needed] ++ [scannedBefore, scannedNow]) .overwrite).value.artifacts ∧
    (mergeSources ([needed] ++ [scannedBefore, scannedNow]) .overwrite).value.artifacts.map
        (·.allFacts) =
      [[.sourceUrl "https://two.example", .copyright ⟨["(c) Bob"]⟩],
        [.copyright ⟨["(c) Ada"]⟩]] := by
  have hmade (source : String) (c : Coordinate) :
      ((Artifact.ofSource source).addCoordinate c).Made :=
    .addCoordinate (.ofSource source) c
  have hall : ∀ source ∈ [needed] ++ [scannedBefore, scannedNow], ∀ r ∈ source,
      r.Made ∧ ∃ c, r.coordinates = [c] := by
    simp only [List.singleton_append, List.forall_mem_cons, needed, scannedBefore, scannedNow]
    refine ⟨⟨⟨.addFact (hmade _ _) _, _, rfl⟩, ⟨hmade _ _, _, rfl⟩, by simp⟩,
      ⟨⟨.addFact (hmade _ _) _, _, rfl⟩, by simp⟩,
      ⟨⟨.addFact (hmade _ _) _, _, rfl⟩, ⟨.addFact (hmade _ _) _, _, rfl⟩, by simp⟩, by simp⟩
  exact ⟨hall, (mergeSources_stages .overwrite hall).1, rfl⟩

end Clearinghouse
