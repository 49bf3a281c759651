import Clearinghouse.Proofs.Artifact.View
import Clearinghouse.Reconcile
import Mathlib.Data.List.Induction

/-!
# Reconciling is grouping by coordinate

If every record is about one coordinate, reconciling them from nothing leaves one artifact for
every coordinate, in the order in which the coordinates first appear, and the artifact of a
coordinate is what merging the records about it makes of the first of them
(`artifacts_reconcileAll`). Merging sources is reconciling all their records
(`artifacts_mergeSources`), and artifacts of different coordinates are their own groups
(`groups_of_separate`).

The induction adds one record at the end. It goes to the group of its coordinate, which is the
first artifact that shares it since the groups have different coordinates, or it begins a group.
-/

namespace Clearinghouse

/-! ## Different coordinates -/

namespace Coordinate

/-- No two of the coordinates are equal. -/
def Separate (cs : List Coordinate) : Prop := cs.Pairwise fun c d => (c == d) = false

theorem contains_iff {cs : List Coordinate} {c : Coordinate} :
    cs.contains c ↔ ∃ d ∈ cs, (c == d) = true := List.contains_iff_exists_mem_beq

theorem contains_congr (cs : List Coordinate) {c d : Coordinate} (h : (c == d) = true) :
    cs.contains c = cs.contains d := Distinct.contains_congr cs h

theorem Separate.insert {cs : List Coordinate} (h : Separate cs) (c : Coordinate) :
    Separate (insert c cs) := Distinct.pairwise_union h [c]

theorem distinct_append_singleton (cs : List Coordinate) (c : Coordinate) :
    distinct (cs ++ [c]) = insert c (distinct cs) := List.foldl_concat ..

theorem separate_distinct (cs : List Coordinate) : Separate (distinct cs) :=
  Distinct.pairwise_union List.Pairwise.nil cs

theorem contains_distinct (cs : List Coordinate) (d : Coordinate) :
    (distinct cs).contains d = cs.contains d :=
  (Distinct.contains_union [] cs d).trans (Bool.false_or _)

/-- Different coordinates are their own first appearances. -/
theorem distinct_of_separate {cs : List Coordinate} (h : Separate cs) : distinct cs = cs :=
  Distinct.union_of_pairwise h

theorem mem_of_mem_distinct {cs : List Coordinate} {c : Coordinate} (h : c ∈ distinct cs) :
    c ∈ cs := (Distinct.mem_of_mem_union h).resolve_left List.not_mem_nil

end Coordinate

/-! ## Shared coordinates -/

namespace Artifact

theorem sharesCoordinate_iff {a : Artifact} {cs : List Coordinate} :
    a.sharesCoordinate cs ↔ ∃ c, a.coordinates.contains c ∧ cs.contains c := by
  rw [sharesCoordinate, List.any_eq_true]
  constructor
  · rintro ⟨c, hc, hcs⟩
    exact ⟨c, Coordinate.contains_iff.2 ⟨c, hc, BEq.rfl⟩, hcs⟩
  · rintro ⟨c, hc, hcs⟩
    obtain ⟨d, hd, heq⟩ := Coordinate.contains_iff.1 hc
    exact ⟨d, hd, by rwa [← Coordinate.contains_congr cs heq]⟩

theorem sharesCoordinate_singleton {a : Artifact} {c : Coordinate} :
    a.sharesCoordinate [c] ↔ a.coordinates.contains c := by
  rw [sharesCoordinate_iff]
  constructor
  · rintro ⟨d, hd, hc⟩
    rwa [← Coordinate.contains_congr _ (by simpa using hc)]
  · intro hc
    exact ⟨c, hc, by simp⟩

end Artifact

/-! ## Groups -/

/-- The artifact is about this coordinate and no other. -/
def Artifact.IsAbout (a : Artifact) (c : Coordinate) : Prop :=
  ∃ d, a.coordinates = [d] ∧ (d == c) = true

/-- The records about a coordinate. -/
def about (c : Coordinate) (records : List Artifact) : List Artifact :=
  records.filter (·.coordinates.contains c)

/-- The records, merged in order into the first of them. -/
def gather : List Artifact → Artifact
  | [] => default
  | a :: records => records.foldl (fun a b => (a.mergeWith b).value) a

theorem gather_append_singleton {records : List Artifact} (h : records ≠ []) (r : Artifact) :
    gather (records ++ [r]) = ((gather records).mergeWith r).value := by
  obtain ⟨a, records, rfl⟩ := List.exists_cons_of_ne_nil h
  exact List.foldl_concat ..

theorem Artifact.IsAbout.contains {a : Artifact} {c d : Coordinate} (h : a.IsAbout c) :
    a.coordinates.contains d = (d == c) := by
  obtain ⟨e, he, hc⟩ := h
  rw [he, ← BEq.congr_right hc]
  simp [List.contains_eq_any_beq]

/-- Merging a record about the same coordinate changes no coordinate. -/
theorem Artifact.IsAbout.coordinates_mergeWith {a b : Artifact} {c : Coordinate}
    (ha : a.IsAbout c) (hb : b.IsAbout c) : (a.mergeWith b).value.coordinates = a.coordinates := by
  obtain ⟨d, hd, hdc⟩ := ha
  obtain ⟨e, he, hec⟩ := hb
  have hcontains : [d].contains e = true :=
    Coordinate.contains_iff.2 ⟨d, List.mem_cons_self, BEq.trans hec (BEq.symm hdc)⟩
  rw [Artifact.coordinates_mergeWith, he, hd]
  exact Distinct.union_eq_self (List.forall_mem_singleton.2 hcontains)

/-- What holds of artifacts and of what merging two of them makes holds of gathered ones. -/
theorem gather_induction {motive : Artifact → Prop} {records : List Artifact}
    (hne : records ≠ []) (h : ∀ r ∈ records, motive r)
    (merge : ∀ a b, motive a → motive b → motive (a.mergeWith b).value) :
    motive (gather records) := by
  obtain ⟨a, records, rfl⟩ := List.exists_cons_of_ne_nil hne
  induction records generalizing a with
  | nil => exact h a List.mem_cons_self
  | cons b records ih =>
    refine ih (a.mergeWith b).value (by simp) fun r hr => ?_
    rcases List.mem_cons.1 hr with rfl | hr
    · exact merge a b (h a List.mem_cons_self) (h b (List.mem_cons_of_mem a List.mem_cons_self))
    · exact h r (List.mem_cons_of_mem a (List.mem_cons_of_mem b hr))

theorem isAbout_gather {records : List Artifact} {c : Coordinate} (hne : records ≠ [])
    (h : ∀ a ∈ records, a.IsAbout c) : (gather records).IsAbout c := by
  refine gather_induction hne h fun a b ha hb => ?_
  rw [Artifact.IsAbout, ha.coordinates_mergeWith hb]
  exact ha

theorem coordinates_gather {records : List Artifact} {c : Coordinate} (hne : records ≠ [])
    (h : ∀ r ∈ records, r.coordinates = [c]) : (gather records).coordinates = [c] := by
  refine gather_induction hne h fun a b ha hb => ?_
  have habout : a.IsAbout c := ⟨c, ha, BEq.rfl⟩
  rw [habout.coordinates_mergeWith ⟨c, hb, BEq.rfl⟩, ha]

/-- The facts of a kind in gathered records: the first record takes in those of the others. -/
theorem factsOf_gather {a : Artifact} {records : List Artifact}
    (h : ∀ r ∈ records, r.facts.WellFormed) (k : FactKind) :
    (gather (a :: records)).factsOf k =
      (records.flatMap (·.factsOf k)).foldl a.policy.absorb (a.factsOf k) := by
  induction records generalizing a with
  | nil => rfl
  | cons b records ih =>
    have hb := h b List.mem_cons_self
    have hgather : gather (a :: b :: records) = gather ((a.mergeWith b).value :: records) := rfl
    rw [hgather, ih fun r hr => h r (List.mem_cons_of_mem b hr), Artifact.policy_mergeWith,
      Artifact.factsOf_mergeWith a hb, List.flatMap_cons, List.foldl_append]

/-! ## One more record -/

theorem reconcileFrom_absent {r : Artifact} {known : List Artifact}
    (h : ∀ a ∈ known, a.sharesCoordinate r.coordinates = false) (index : Nat) :
    (reconcileFrom index r known).value.1 = known ++ [r] := by
  induction known generalizing index with
  | nil => rfl
  | cons a known ih =>
    have ha := h a List.mem_cons_self
    rw [reconcileFrom, if_neg (by rw [ha]; exact Bool.false_ne_true)]
    exact congrArg (List.cons a) (ih (fun a h' => h a (List.mem_cons_of_mem _ h')) (index + 1))

theorem Artifact.IsAbout.sharesCoordinate {a r : Artifact} {c d : Coordinate} (ha : a.IsAbout c)
    (hr : r.coordinates = [d]) : a.sharesCoordinate r.coordinates = (c == d) := by
  rw [hr, Bool.eq_iff_iff, sharesCoordinate_singleton, ha.contains, BEq.comm]

/-- A record about a known coordinate is merged into the artifact of this coordinate. -/
theorem reconcileFrom_map {r : Artifact} {d : Coordinate} (hr : r.coordinates = [d])
    {cs : List Coordinate} (hcs : Coordinate.Separate cs) (hd : cs.contains d)
    {group : Coordinate → Artifact} (hgroup : ∀ c ∈ cs, (group c).IsAbout c) (index : Nat) :
    (reconcileFrom index r (cs.map group)).value.1 =
      cs.map fun c => if c == d then ((group c).mergeWith r).value else group c := by
  induction cs generalizing index with
  | nil => cases hd
  | cons c cs ih =>
    have hshares := (hgroup c List.mem_cons_self).sharesCoordinate hr
    obtain ⟨hother, hcs⟩ := List.pairwise_cons.1 hcs
    rw [List.map_cons, List.map_cons, reconcileFrom]
    cases hc : c == d with
    | true =>
      -- the other coordinates differ from `c`, so they differ from `d`
      have hrest : ∀ e ∈ cs, (e == d) = false := by
        intro e he
        rw [BEq.comm, ← BEq.congr_left hc]
        exact hother e he
      rw [if_pos (hshares.trans hc)]
      refine congrArg (List.cons _) (List.map_congr_left fun e he => ?_).symm
      rw [hrest e he]
      rfl
    | false =>
      have hd' : cs.contains d := by
        rw [List.contains_cons, Bool.or_eq_true] at hd
        refine hd.resolve_left fun h => ?_
        rw [BEq.symm h] at hc
        cases hc
      rw [if_neg (by rw [hshares, hc]; exact Bool.false_ne_true)]
      exact congrArg (List.cons _)
        (ih hcs hd' (fun c h => hgroup c (List.mem_cons_of_mem _ h)) (index + 1))

/-! ## All records -/

/-- The coordinates of some records. -/
def coordinatesOf (records : List Artifact) : List Coordinate :=
  records.flatMap (·.coordinates)

theorem about_append_singleton {r : Artifact} {d : Coordinate} (hr : r.coordinates = [d])
    (records : List Artifact) (c : Coordinate) :
    about c (records ++ [r]) = if c == d then about c records ++ [r] else about c records := by
  rw [about, List.filter_append, List.filter_singleton, hr]
  simp only [List.contains_cons, List.contains_nil, Bool.or_false]
  cases c == d with
  | true => rfl
  | false => exact List.append_nil _

theorem about_ne_nil_iff {records : List Artifact} {c : Coordinate} :
    about c records ≠ [] ↔ (coordinatesOf records).contains c := by
  rw [about, Ne, List.filter_eq_nil_iff, Coordinate.contains_iff]
  simp only [not_forall, not_not, coordinatesOf, List.mem_flatMap, Coordinate.contains_iff]
  constructor
  · rintro ⟨a, ha, d, hd, h⟩
    exact ⟨d, ⟨a, ha, hd⟩, h⟩
  · rintro ⟨d, ⟨a, ha, hd⟩, h⟩
    exact ⟨a, ha, d, hd, h⟩

theorem isAbout_of_mem_about {records : List Artifact}
    (h : ∀ a ∈ records, ∃ c, a.coordinates = [c]) {c : Coordinate} {a : Artifact}
    (ha : a ∈ about c records) : a.IsAbout c := by
  obtain ⟨hmem, hc⟩ := List.mem_filter.1 ha
  obtain ⟨d, hd⟩ := h a hmem
  rw [hd, Coordinate.contains_iff] at hc
  obtain ⟨e, he, heq⟩ := hc
  rw [List.mem_singleton.1 he] at heq
  exact ⟨d, hd, BEq.symm heq⟩

/-- The groups of the records, one for every coordinate in the order of first appearance. -/
def groups (records : List Artifact) : List Artifact :=
  (Coordinate.distinct (coordinatesOf records)).map fun c => gather (about c records)

/-- The last record is taken after those before it. -/
theorem value_reconcileAll_append_singleton (known records : List Artifact) (r : Artifact) :
    (reconcileAll known (records ++ [r])).value =
      ((reconcileAll known records).value.take r).value := by
  unfold reconcileAll
  rw [Logged.value_foldlM, Logged.value_foldlM, List.foldl_concat]

theorem artifacts_reconcileAll_append_singleton (known records : List Artifact) (r : Artifact) :
    (reconcileAll known (records ++ [r])).value.artifacts =
      (reconcile (reconcileAll known records).value.artifacts r).value.1 := by
  rw [value_reconcileAll_append_singleton]
  rfl

section

variable {records : List Artifact} (h : ∀ a ∈ records, ∃ c, a.coordinates = [c])
include h

theorem isAbout_group {c : Coordinate} (hc : c ∈ Coordinate.distinct (coordinatesOf records)) :
    (gather (about c records)).IsAbout c := by
  have hc : (coordinatesOf records).contains c :=
    Coordinate.contains_iff.2 ⟨c, Coordinate.mem_of_mem_distinct hc, BEq.rfl⟩
  exact isAbout_gather (about_ne_nil_iff.2 hc) fun a ha => isAbout_of_mem_about h ha

/-- A record about a known coordinate joins its group. -/
theorem reconcileFrom_groups_of_contains {r : Artifact} {d : Coordinate} (hr : r.coordinates = [d])
    (hd : (Coordinate.distinct (coordinatesOf records)).contains d) :
    (reconcileFrom 0 r (groups records)).value.1 =
      (Coordinate.distinct (coordinatesOf records)).map fun c =>
        gather (about c (records ++ [r])) := by
  rw [groups, reconcileFrom_map hr (Coordinate.separate_distinct _) hd fun c => isAbout_group h]
  refine List.map_congr_left fun c hc => ?_
  have hne : about c records ≠ [] := about_ne_nil_iff.2
    (Coordinate.contains_iff.2 ⟨c, Coordinate.mem_of_mem_distinct hc, BEq.rfl⟩)
  rw [about_append_singleton hr]
  split
  · rw [gather_append_singleton hne]
  · rfl

/-- A record about a new coordinate begins a group. -/
theorem reconcileFrom_groups_of_not_contains {r : Artifact} {d : Coordinate}
    (hr : r.coordinates = [d]) (hd : ¬ (Coordinate.distinct (coordinatesOf records)).contains d) :
    (reconcileFrom 0 r (groups records)).value.1 =
      (Coordinate.distinct (coordinatesOf records) ++ [d]).map fun c =>
        gather (about c (records ++ [r])) := by
  have hother : ∀ c ∈ Coordinate.distinct (coordinatesOf records), (c == d) = false := by
    intro c hc
    rw [← Bool.not_eq_true]
    exact fun heq => hd (Coordinate.contains_iff.2 ⟨c, hc, BEq.symm heq⟩)
  have habsent : ∀ a ∈ groups records, a.sharesCoordinate r.coordinates = false := by
    intro a ha
    obtain ⟨c, hc, rfl⟩ := List.mem_map.1 ha
    rw [(isAbout_group h hc).sharesCoordinate hr, hother c hc]
  have hnone : about d records = [] := by
    by_contra hne
    rw [Coordinate.contains_distinct] at hd
    exact hd (about_ne_nil_iff.1 hne)
  rw [reconcileFrom_absent habsent, List.map_append, List.map_singleton,
    about_append_singleton hr, if_pos BEq.rfl, hnone]
  refine congrArg (· ++ [r]) (List.map_congr_left fun c hc => ?_)
  rw [about_append_singleton hr, hother c hc]
  rfl

/-- Reconciling single coordinates from nothing leaves the groups of the records. -/
theorem artifacts_reconcileAll : (reconcileAll [] records).value.artifacts = groups records := by
  induction records using List.reverseRecOn with
  | nil => rfl
  | append_singleton records r ih =>
    obtain ⟨d, hr⟩ := h r (List.mem_append_right _ List.mem_cons_self)
    have hrecords : ∀ a ∈ records, ∃ c, a.coordinates = [c] :=
      fun a ha => h a (List.mem_append_left _ ha)
    have hcoords : coordinatesOf (records ++ [r]) = coordinatesOf records ++ [d] := by
      simp [coordinatesOf, hr]
    have hgroups : groups (records ++ [r]) =
        (Coordinate.insert d (Coordinate.distinct (coordinatesOf records))).map fun c =>
          gather (about c (records ++ [r])) := by
      rw [groups, hcoords, Coordinate.distinct_append_singleton]
    rw [artifacts_reconcileAll_append_singleton, reconcile, ih hrecords, hgroups, Coordinate.insert]
    split
    · rename_i hd
      exact reconcileFrom_groups_of_contains hrecords hr hd
    · rename_i hd
      exact reconcileFrom_groups_of_not_contains hrecords hr hd

/-- A group is made of records, and it is about a single coordinate. -/
theorem exists_of_mem_groups {a : Artifact} (ha : a ∈ groups records) :
    ∃ group, group ≠ [] ∧ (∀ r ∈ group, r ∈ records) ∧ a = gather group ∧
      ∃ c, a.coordinates = [c] := by
  obtain ⟨c, hc, rfl⟩ := List.mem_map.1 ha
  have hne : about c records ≠ [] := about_ne_nil_iff.2
    (Coordinate.contains_iff.2 ⟨c, Coordinate.mem_of_mem_distinct hc, BEq.rfl⟩)
  obtain ⟨d, hd, -⟩ := isAbout_group h hc
  exact ⟨_, hne, fun r hr => (List.mem_filter.1 hr).1, rfl, d, hd⟩

/-- Groups are about different coordinates. -/
theorem separate_groups : Coordinate.Separate (coordinatesOf (groups records)) := by
  have hsep := Coordinate.separate_distinct (coordinatesOf records)
  rw [coordinatesOf, groups, List.flatMap_map]
  refine List.pairwise_flatMap.2 ⟨fun c hc => ?_, hsep.imp_of_mem fun {c d} hc hd hcd => ?_⟩
  · obtain ⟨e, he, -⟩ := isAbout_group h hc
    rw [he]
    exact List.pairwise_singleton _ e
  · obtain ⟨e, he, hec⟩ := isAbout_group h hc
    obtain ⟨e', he', hed⟩ := isAbout_group h hd
    rw [he, he']
    simp only [List.mem_singleton, forall_eq]
    rw [← Bool.not_eq_true] at hcd ⊢
    exact fun heq => hcd (BEq.trans (BEq.symm hec) (BEq.trans heq hed))

end

/-! ## Sources -/

theorem artifacts_foldl_take (records : List Artifact) (known : Reconciled) :
    (records.foldl (fun known r => (known.take r).value) known).artifacts =
      records.foldl (fun known r => (reconcile known r).value.1) known.artifacts := by
  induction records generalizing known with
  | nil => rfl
  | cons r records ih => exact ih (known.take r).value

theorem artifacts_foldl_takeSource (policy : MergePolicy) (sources : List (List Artifact))
    (known : Reconciled) :
    (sources.foldl (fun known source => (known.takeSource policy source).value) known).artifacts =
      (sources.flatten.map fun a => { a with policy }).foldl
        (fun known r => (reconcile known r).value.1) known.artifacts := by
  induction sources generalizing known with
  | nil => rfl
  | cons source sources ih =>
    rw [List.foldl_cons, ih, List.flatten_cons, List.map_append, List.foldl_append]
    refine congrArg (List.foldl _ · _) ?_
    show (reconcileAll known.artifacts _).value.artifacts = _
    rw [reconcileAll, Logged.value_foldlM]
    exact artifacts_foldl_take _ _

/-- Merging sources is reconciling all their records. -/
theorem artifacts_mergeSources (sources : List (List Artifact)) (policy : MergePolicy) :
    (mergeSources sources policy).value.artifacts =
      (reconcileAll [] (sources.flatten.map fun a => { a with policy })).value.artifacts := by
  rw [mergeSources, Logged.value_foldlM, artifacts_foldl_takeSource, reconcileAll,
    Logged.value_foldlM, artifacts_foldl_take]

/-! ## Records in blocks -/

theorem about_append (c : Coordinate) (records others : List Artifact) :
    about c (records ++ others) = about c records ++ about c others := List.filter_append ..

theorem about_eq_self {c : Coordinate} {records : List Artifact}
    (h : ∀ r ∈ records, r.coordinates = [c]) : about c records = records :=
  List.filter_eq_self.2 fun r hr => by rw [h r hr]; simp

theorem about_eq_nil {c : Coordinate} {records : List Artifact}
    (h : ∀ r ∈ records, ∀ d ∈ r.coordinates, (c == d) = false) : about c records = [] := by
  by_contra hne
  obtain ⟨d, hd, heq⟩ := Coordinate.contains_iff.1 (about_ne_nil_iff.1 hne)
  obtain ⟨r, hr, hd⟩ := List.mem_flatMap.1 hd
  rw [h r hr d hd] at heq
  cases heq

/-- If every artifact of different single coordinates gives some records about its own, then the
groups are the blocks. -/
theorem map_gather_about {as : List Artifact} (hone : ∀ a ∈ as, ∃ c, a.coordinates = [c])
    (hsep : Coordinate.Separate (coordinatesOf as)) {block : Artifact → List Artifact}
    (hblock : ∀ a ∈ as, ∀ r ∈ block a, r.coordinates = a.coordinates) :
    (coordinatesOf as).map (fun c => gather (about c (as.flatMap block))) =
      as.map fun a => gather (block a) := by
  induction as with
  | nil => rfl
  | cons a as ih =>
    obtain ⟨c, hc⟩ := hone a List.mem_cons_self
    have hcoords : coordinatesOf (a :: as) = c :: coordinatesOf as := by
      rw [coordinatesOf, List.flatMap_cons, hc]
      rfl
    rw [hcoords] at hsep ⊢
    obtain ⟨hfirst, hsep⟩ := List.pairwise_cons.1 hsep
    have hown : ∀ r ∈ block a, r.coordinates = [c] := fun r hr =>
      (hblock a List.mem_cons_self r hr).trans hc
    have hothers : ∀ r ∈ as.flatMap block, ∀ d ∈ r.coordinates, d ∈ coordinatesOf as := by
      intro r hr d hd
      obtain ⟨b, hb, hr⟩ := List.mem_flatMap.1 hr
      rw [hblock b (List.mem_cons_of_mem a hb) r hr] at hd
      exact List.mem_flatMap.2 ⟨b, hb, hd⟩
    have hnone : about c (as.flatMap block) = [] :=
      about_eq_nil fun r hr d hd => hfirst d (hothers r hr d hd)
    rw [List.map_cons, List.map_cons, List.flatMap_cons, about_append, about_eq_self hown, hnone,
      List.append_nil, ← ih (fun b hb => hone b (List.mem_cons_of_mem a hb)) hsep
        fun b hb => hblock b (List.mem_cons_of_mem a hb)]
    refine congrArg (List.cons _) (List.map_congr_left fun d hd => ?_)
    have hother : about d (block a) = [] := about_eq_nil fun r hr e he => by
      rw [hown r hr, List.mem_singleton] at he
      rw [he, BEq.comm]
      exact hfirst d hd
    rw [about_append, hother, List.nil_append]

/-- Artifacts of different single coordinates are their own groups. -/
theorem groups_of_separate {as : List Artifact} (hone : ∀ a ∈ as, ∃ c, a.coordinates = [c])
    (hsep : Coordinate.Separate (coordinatesOf as)) : groups as = as := by
  have hblocks : (coordinatesOf as).map (fun c => gather (about c (as.flatMap fun a => [a]))) =
      as.map fun a => gather [a] :=
    map_gather_about hone hsep fun a _ r hr => by rw [List.mem_singleton.1 hr]
  rw [List.flatMap_singleton'] at hblocks
  rw [groups, Coordinate.distinct_of_separate hsep, hblocks]
  exact List.map_id' as

end Clearinghouse
