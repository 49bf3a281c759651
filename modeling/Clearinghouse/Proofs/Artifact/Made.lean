import Clearinghouse.Proofs.Artifact.View
import Clearinghouse.Proofs.Reconcile.Grouping

/-!
# The artifacts that can be made

Artifacts are made from nothing by a few operations (`Artifact.Made`). Main statement: every one
of them leaves a well-formed store, at most one fact of a kind that holds only one, no fact
twice and no coordinate twice (`Made.tidy`).
-/

namespace Clearinghouse.Artifact

/-- The artifact is one that can be made. -/
inductive Made : Artifact → Prop
  | ofSource (source : String) : Made (.ofSource source)
  | setPolicy {a : Artifact} (h : Made a) (policy : MergePolicy) : Made { a with policy }
  | addCoordinate {a : Artifact} (h : Made a) (c : Coordinate) : Made (a.addCoordinate c)
  | addFact {a : Artifact} (h : Made a) (f : Fact) : Made (a.addFact f).value
  | overrideFact {a : Artifact} (h : Made a) (f : Fact) : Made (a.overrideFact f)
  | removeFacts {a : Artifact} (h : Made a) (k : FactKind) : Made (a.removeFacts k)
  | setFlag {a : Artifact} (h : Made a) (f : Flag) (value : Bool) : Made (a.setFlag f value)
  | mergeWith {a b : Artifact} (h : Made a) (h' : Made b) : Made (a.mergeWith b).value

theorem Made.addAll {a : Artifact} (h : a.Made) (fs : List Fact) : (a.addAll fs).Made := by
  induction fs generalizing a with
  | nil => exact h
  | cons f fs ih => exact ih (h.addFact f)

/-! ## Facts of one kind -/

/-- No fact is there twice, and no more than one if the kind holds only one. -/
structure TidyFacts (k : FactKind) (facts : List Fact) : Prop where
  single : k.isMultiValued = false → facts.length ≤ 1
  distinct : facts.Pairwise fun f g => (g == f) = false

theorem tidyFacts_of_length_le {k : FactKind} {facts : List Fact} (h : facts.length ≤ 1) :
    TidyFacts k facts where
  single _ := h
  distinct := by
    match facts, h with
    | [], _ => exact List.Pairwise.nil
    | [f], _ => exact List.pairwise_singleton _ f

theorem TidyFacts.absorb {policy : MergePolicy} {facts : List Fact} {f : Fact}
    (h : TidyFacts f.kind facts) : TidyFacts f.kind (policy.absorb facts f) := by
  unfold MergePolicy.absorb
  split
  · rename_i hmulti
    split
    · exact h
    · rename_i hnew
      refine ⟨fun hs => absurd hmulti (by simp [hs]), List.pairwise_append.2
        ⟨h.distinct, List.pairwise_singleton _ f, fun g hg e he => ?_⟩⟩
      rw [List.mem_singleton.1 he, ← Bool.not_eq_true]
      exact fun heq => hnew (List.contains_iff_exists_mem_beq.2 ⟨g, hg, heq⟩)
  · split
    · exact tidyFacts_of_length_le (Nat.le_refl 1)
    · split
      · exact tidyFacts_of_length_le (Nat.le_refl 1)
      · exact h

theorem TidyFacts.foldl_absorb {policy : MergePolicy} {k : FactKind} {facts new : List Fact}
    (h : TidyFacts k facts) (hk : ∀ f ∈ new, f.kind = k) :
    TidyFacts k (new.foldl policy.absorb facts) := by
  induction new generalizing facts with
  | nil => exact h
  | cons f new ih =>
    have hf := hk f List.mem_cons_self
    subst hf
    exact ih h.absorb fun g hg => hk g (List.mem_cons_of_mem f hg)

/-! ## Artifacts -/

structure Tidy (a : Artifact) : Prop where
  wellFormed : a.facts.WellFormed
  facts : ∀ k, TidyFacts k (a.factsOf k)
  separate : Coordinate.Separate a.coordinates

theorem Tidy.addFact {a : Artifact} (h : a.Tidy) (f : Fact) : (a.addFact f).value.Tidy where
  wellFormed := wellFormed_addFact h.wellFormed f
  facts k := by
    rw [factsOf_addFact]
    split
    · rename_i hk
      subst hk
      exact (h.facts _).absorb
    · exact h.facts k
  separate := by
    rw [(frame_addFact a f).coordinates]
    exact h.separate

theorem Tidy.overrideFact {a : Artifact} (h : a.Tidy) (f : Fact) : (a.overrideFact f).Tidy where
  wellFormed := h.wellFormed.put (by simp) (by simp)
  facts k := by
    have hput := a.facts.factsOf_put f.kind k [f]
    rw [show (a.overrideFact f).factsOf k = _ from hput]
    split
    · exact tidyFacts_of_length_le (Nat.le_refl 1)
    · exact h.facts k
  separate := h.separate

theorem Tidy.removeFacts {a : Artifact} (h : a.Tidy) (k : FactKind) : (a.removeFacts k).Tidy where
  wellFormed := h.wellFormed.erase k
  facts k' := by
    rw [show (a.removeFacts k).factsOf k' = _ from a.facts.factsOf_erase k k']
    split
    · exact tidyFacts_of_length_le (Nat.zero_le 1)
    · exact h.facts k'
  separate := h.separate

theorem Tidy.mergeWith {a b : Artifact} (h : a.Tidy) (h' : b.Tidy) :
    (a.mergeWith b).value.Tidy where
  wellFormed := wellFormed_mergeWith h.wellFormed b
  facts k := by
    rw [factsOf_mergeWith a h'.wellFormed]
    exact (h.facts k).foldl_absorb fun f hf => h'.wellFormed.kind_of_mem_factsOf hf
  separate := by
    rw [coordinates_mergeWith]
    exact Distinct.pairwise_union h.separate b.coordinates

/-- Every artifact that can be made is tidy. -/
theorem Made.tidy {a : Artifact} (h : Made a) : a.Tidy := by
  induction h with
  | ofSource source =>
    exact ⟨FactStore.wellFormed_empty, fun k => tidyFacts_of_length_le (Nat.zero_le 1),
      List.Pairwise.nil⟩
  | setPolicy _ _ ih => exact ⟨ih.wellFormed, ih.facts, ih.separate⟩
  | addCoordinate _ c ih => exact ⟨ih.wellFormed, ih.facts, ih.separate.insert c⟩
  | addFact _ f ih => exact ih.addFact f
  | overrideFact _ f ih => exact ih.overrideFact f
  | removeFacts _ k ih => exact ih.removeFacts k
  | setFlag _ _ _ ih => exact ⟨ih.wellFormed, ih.facts, ih.separate⟩
  | mergeWith _ _ ih ih' => exact ih.mergeWith ih'

end Clearinghouse.Artifact
