import Clearinghouse.Proofs.Artifact.Absorption

/-!
# The artifacts that are met

Copyright statements are only made from texts and from other statements, so the artifacts that
are met hold no others (`Artifact.Reachable`). Main statement: whatever is done to such an
artifact with facts that can be made gives such an artifact.
-/

namespace Clearinghouse.Artifact

/-- The artifact can be made, and so can every fact that it holds. -/
structure Reachable (a : Artifact) : Prop where
  made : a.Made
  facts : ∀ k, ∀ f ∈ a.factsOf k, f.Made

namespace Reachable

variable {a b : Artifact} {f : Fact}

theorem tidy (h : a.Reachable) : a.Tidy := h.made.tidy

theorem ofSource (source : String) : (Artifact.ofSource source).Reachable :=
  ⟨.ofSource source, fun _ _ hf => absurd hf List.not_mem_nil⟩

theorem setPolicy (h : a.Reachable) (policy : MergePolicy) : Reachable { a with policy } :=
  ⟨h.made.setPolicy policy, h.facts⟩

theorem addCoordinate (h : a.Reachable) (c : Coordinate) : (a.addCoordinate c).Reachable :=
  ⟨h.made.addCoordinate c, h.facts⟩

theorem setFlag (h : a.Reachable) (flag : Flag) (value : Bool) :
    (a.setFlag flag value).Reachable :=
  ⟨h.made.setFlag flag value, h.facts⟩

theorem addFact (h : a.Reachable) (hf : f.Made) : (a.addFact f).value.Reachable where
  made := h.made.addFact f
  facts k := by
    rw [factsOf_addFact]
    split
    · exact MergePolicy.forall_mem_absorb (fun _ _ => Fact.Made.unite) (h.facts k) hf
    · exact h.facts k

theorem addAll (h : a.Reachable) {fs : List Fact} (hfs : ∀ f ∈ fs, f.Made) :
    (a.addAll fs).Reachable := by
  induction fs generalizing a with
  | nil => exact h
  | cons f fs ih =>
    rw [List.forall_mem_cons] at hfs
    exact ih (h.addFact hfs.1) hfs.2

theorem overrideFact (h : a.Reachable) (hf : f.Made) : (a.overrideFact f).Reachable where
  made := h.made.overrideFact f
  facts k := by
    have hput : (a.overrideFact f).factsOf k = _ := a.facts.factsOf_put f.kind k [f]
    rw [hput]
    split
    · simpa using hf
    · exact h.facts k

theorem removeFacts (h : a.Reachable) (k : FactKind) : (a.removeFacts k).Reachable where
  made := h.made.removeFacts k
  facts k' := by
    have herase : (a.removeFacts k).factsOf k' = _ := a.facts.factsOf_erase k k'
    rw [herase]
    split
    · simp
    · exact h.facts k'

theorem mergeWith (h : a.Reachable) (h' : b.Reachable) : (a.mergeWith b).value.Reachable where
  made := h.made.mergeWith h'.made
  facts k := by
    rw [factsOf_mergeWith a h'.tidy.wellFormed]
    exact MergePolicy.forall_mem_foldl_absorb (fun _ _ => Fact.Made.unite) (h.facts k) (h'.facts k)

end Reachable

end Clearinghouse.Artifact
