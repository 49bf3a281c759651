import Clearinghouse.Proofs.Artifact.Additions
import Clearinghouse.Proofs.Artifact.Reachable

/-!
# Merging artifacts

A merged artifact has the coordinates, the kinds of facts and the flags of both, and under every
kind the facts of the one have taken in those of the other. Main statements: among artifacts of
one policy it does not matter which two are merged first (`mergeWith_assoc`), an artifact that is
merged with itself stays as it is (`mergeWith_self`), and so what was merged before adds nothing
(`mergeWith_mergeWith_self`).

All of this is plain equality, of sources, policies and the order of facts too. Artifacts are
compared field by field, and their facts kind by kind.
-/

namespace Clearinghouse

/-! ## Flags -/

namespace Flags

theorem get?_merge (fs gs : Flags) (f : Flag) :
    (fs.merge gs).get? f =
      match gs.get? f with
      | none => fs.get? f
      | some value => some (fs.isSet f || value) := by
  obtain ⟨a, b, c⟩ := fs
  obtain ⟨x, y, z⟩ := gs
  rcases x with _ | x <;> rcases y with _ | y <;> rcases z with _ | z <;> cases f <;> rfl

theorem ext_get? {fs gs : Flags} (h : ∀ f, fs.get? f = gs.get? f) : fs = gs := by
  obtain ⟨a, b, c⟩ := fs
  obtain ⟨x, y, z⟩ := gs
  have ha : a = x := h .proprietary
  have hb : b = y := h .ignoreForDownload
  have hc : c = z := h .ignoreForSourceResolving
  rw [ha, hb, hc]

theorem merge_assoc (fs gs hs : Flags) : (fs.merge gs).merge hs = fs.merge (gs.merge hs) := by
  refine ext_get? fun f => ?_
  simp only [get?_merge, isSet]
  cases gs.get? f <;> cases hs.get? f <;> simp [Bool.or_assoc]

theorem merge_self (fs : Flags) : fs.merge fs = fs := by
  refine ext_get? fun f => ?_
  rw [get?_merge, isSet]
  cases fs.get? f <;> simp

end Flags

namespace Artifact

/-! ## Kinds -/

/-- The kinds of a merged artifact: those of the first, then what is new in the second. -/
theorem kinds_mergeWith (a : Artifact) {b : Artifact} (hb : b.facts.WellFormed) :
    (a.mergeWith b).value.facts.kinds = Distinct.union a.facts.kinds b.facts.kinds := by
  rw [value_mergeWith]
  show ((b.coordinates.foldl addCoordinate a).addAll b.allFacts).facts.kinds = _
  rw [kinds_addAll, foldl_addCoordinate, allFacts, hb.toList_eq, List.map_flatMap]
  refine Distinct.union_flatMap (fun k hk => ?_) fun k _ k' hk' => ?_
  · simpa using (hb.mem_kinds_iff k).1 hk
  · obtain ⟨f, hf, rfl⟩ := List.mem_map.1 hk'
    exact hb.kind_of_mem_factsOf hf

/-! ## Laws of merging -/

/-- Artifacts are the same if all their fields are, their facts kind by kind. -/
theorem ext_factsOf {a b : Artifact} (ha : a.facts.WellFormed) (hb : b.facts.WellFormed)
    (hsource : a.source = b.source) (hcoordinates : a.coordinates = b.coordinates)
    (hkinds : a.facts.kinds = b.facts.kinds) (hfacts : ∀ k, a.factsOf k = b.factsOf k)
    (hflags : a.flags = b.flags) (hpolicy : a.policy = b.policy) : a = b := by
  have hstore : a.facts = b.facts := ha.ext hb hkinds hfacts
  cases a
  cases b
  congr

/-- Among artifacts of one policy it does not matter which two are merged first. -/
theorem mergeWith_assoc {a b c : Artifact} (ha : a.Tidy) (hb : b.Tidy) (hc : c.Tidy)
    (hpolicy : b.policy = a.policy) :
    ((a.mergeWith b).value.mergeWith c).value = (a.mergeWith (b.mergeWith c).value).value := by
  have hbc := hb.mergeWith hc
  refine ext_factsOf ((ha.mergeWith hb).mergeWith hc).wellFormed (ha.mergeWith hbc).wellFormed
    ?_ ?_ ?_ (fun k => ?_) ?_ ?_
  · simp only [source_mergeWith]
  · simp only [coordinates_mergeWith, Distinct.union_union]
  · rw [kinds_mergeWith _ hc.wellFormed, kinds_mergeWith _ hb.wellFormed,
      kinds_mergeWith _ hbc.wellFormed, kinds_mergeWith _ hc.wellFormed, Distinct.union_union]
  · rw [factsOf_mergeWith _ hc.wellFormed, factsOf_mergeWith _ hb.wellFormed,
      factsOf_mergeWith _ hbc.wellFormed, factsOf_mergeWith _ hc.wellFormed, policy_mergeWith,
      hpolicy]
    exact (MergePolicy.foldl_absorb_foldl_absorb (ha.storable k) (hb.storable k)
      (hc.storable k).kind).symm
  · simp only [flags_mergeWith, Flags.merge_assoc]
  · simp only [policy_mergeWith]

/-- An artifact that is merged with itself stays as it is. -/
theorem mergeWith_self {a : Artifact} (h : a.Reachable) : (a.mergeWith a).value = a := by
  have hwell := h.tidy.wellFormed
  refine ext_factsOf (h.tidy.mergeWith h.tidy).wellFormed hwell (source_mergeWith a a) ?_ ?_
    (fun k => ?_) ?_ (policy_mergeWith a a)
  · exact (coordinates_mergeWith a a).trans (Distinct.union_self _)
  · rw [kinds_mergeWith a hwell, Distinct.union_self]
  · rw [factsOf_mergeWith a hwell, MergePolicy.foldl_absorb_same (h.tidy.storable k) (h.facts k)]
  · rw [flags_mergeWith, Flags.merge_self]

/-- What was merged before adds nothing. -/
theorem mergeWith_mergeWith_self {a b : Artifact} (ha : a.Tidy) (hb : b.Reachable) :
    ((a.mergeWith b).value.mergeWith b).value = (a.mergeWith b).value := by
  -- the policy of what is merged in plays no part, so it may be that of `a`
  have hb' := hb.setPolicy a.policy
  have hassoc := mergeWith_assoc ha hb'.tidy hb'.tidy rfl
  rw [mergeWith_self hb'] at hassoc
  exact hassoc

/-! ## Equality -/

theorem beq_self {a : Artifact} (h : a.facts.WellFormed) : (a == a) = true := by
  refine same_of_factsOf h h rfl (fun c hc => Distinct.contains_of_mem hc) (fun k => ?_) rfl
  rw [sameFacts, beq_self_eq_true, Bool.true_and, List.all_eq_true]
  exact fun f hf => List.contains_iff_exists_mem_beq.2 ⟨f, hf, Fact.beq_self f⟩

/-- Merging is associative among artifacts of one policy and absorbs repeats, down to the order
of facts. -/
theorem mergeWith_assoc_absorb {a b c : Artifact} (ha : a.Reachable) (hb : b.Reachable)
    (hc : c.Reachable) :
    (b.policy = a.policy →
      let left := ((a.mergeWith b).value.mergeWith c).value
      let right := (a.mergeWith (b.mergeWith c).value).value
      left = right ∧ (left == right) = true) ∧
    (let once := (a.mergeWith b).value
      let twice := (once.mergeWith b).value
      twice = once ∧ (twice == once) = true) ∧
    (a.mergeWith a).value = a ∧ ((a.mergeWith a).value == a) = true := by
  have hbeq {x y : Artifact} (hy : y.Reachable) (h : x = y) : x = y ∧ (x == y) = true := by
    subst h
    exact ⟨rfl, beq_self hy.tidy.wellFormed⟩
  refine ⟨fun hpolicy => ?_, ?_, ?_⟩
  · exact hbeq (ha.mergeWith (hb.mergeWith hc)) (mergeWith_assoc ha.tidy hb.tidy hc.tidy hpolicy)
  · exact hbeq (ha.mergeWith hb) (mergeWith_mergeWith_self ha.tidy hb)
  · exact hbeq ha (mergeWith_self ha)

end Artifact

namespace Samples

/-- What the inventory says about an archive. -/
def inventory : Artifact :=
  ((Artifact.fresh .strict "inventory").addAll [.copyright (.ofText "(c) Ada"),
    .sourceUrl "https://one.example", .clearingState .initial]).setFlag .proprietary false

/-- What a scan says about it. -/
def scan : Artifact :=
  ((Artifact.fresh .strict "scan").addAll [.filename ⟨some "a.jar", none⟩,
    .sourceUrl "https://two.example", .copyright (.ofText "(c) Bob\n(c) Ada")]).setFlag
      .proprietary true

/-- What a review says about it. -/
def review : Artifact :=
  (Artifact.fresh .strict "review").addAll [.clearingState .osmApproved,
    .copyright (.ofText "(c) Cy\n(c) Bob"), .filename ⟨some "a.jar", none⟩]

end Samples

open Samples in
/-- An inventory, a scan and a review of one archive, which disagree. -/
theorem mergeWith_assoc_absorb_inventory :
    inventory.Reachable ∧ scan.Reachable ∧ review.Reachable ∧ scan.policy = inventory.policy ∧
      ((inventory.mergeWith scan).value.mergeWith review).value =
        (inventory.mergeWith (scan.mergeWith review).value).value ∧
      ((inventory.mergeWith scan).value.mergeWith scan).value = (inventory.mergeWith scan).value ∧
      (inventory.mergeWith inventory).value = inventory ∧
      ((inventory.mergeWith scan).value.mergeWith review).value.allFacts = [
        .copyright ⟨["(c) Ada", "(c) Bob", "(c) Cy"]⟩, .sourceUrl "https://one.example",
        .clearingState .osmApproved, .filename ⟨some "a.jar", none⟩] := by
  have hfresh (source : String) : (Artifact.fresh .strict source).Reachable :=
    .setPolicy (.ofSource source) .strict
  have hinventory : inventory.Reachable := by
    refine .setFlag (.addAll (hfresh _) ?_) _ _
    simp only [List.forall_mem_cons]
    exact ⟨.ofText _, trivial, trivial, by simp⟩
  have hscan : scan.Reachable := by
    refine .setFlag (.addAll (hfresh _) ?_) _ _
    simp only [List.forall_mem_cons]
    exact ⟨trivial, trivial, .ofText _, by simp⟩
  have hreview : review.Reachable := by
    refine .addAll (hfresh _) ?_
    simp only [List.forall_mem_cons]
    exact ⟨trivial, .ofText _, trivial, by simp⟩
  have hpolicy : scan.policy = inventory.policy := rfl
  obtain ⟨hassoc, habsorb, hself⟩ :=
    Artifact.mergeWith_assoc_absorb hinventory hscan hreview
  exact ⟨hinventory, hscan, hreview, hpolicy, (hassoc hpolicy).1, habsorb.1, hself.1, rfl⟩

end Clearinghouse
