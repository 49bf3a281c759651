import Clearinghouse.Artifact.Basic
import Clearinghouse.Proofs.Artifact.Store
import Clearinghouse.Proofs.Fact.Meeting

/-!
# Artifacts kind by kind

An artifact is described by the facts that it has of every kind. Adding a fact bears only on the
facts of its kind (`factsOf_addFact`), so what a run of additions or a merge leaves of a kind is
a fold over the facts of this kind alone (`factsOf_addAll`, `factsOf_mergeWith`). Two artifacts
with the same coordinates and flags are equal if they have the same facts of every kind
(`same_of_factsOf`).
-/

namespace Clearinghouse

/-! ## One kind -/

/-- What the facts of a kind become when a fact of this kind arrives. -/
def MergePolicy.absorb (policy : MergePolicy) (facts : List Fact) (f : Fact) : List Fact :=
  if f.kind.isMultiValued then if facts.contains f then facts else facts ++ [f]
  else
    match facts.head? with
    | none => [f]
    | some existing =>
      match f.mergeWith existing (policy.ruleFor f.kind) with
      | .replace merged => [merged]
      | _ => facts

namespace MergePolicy

variable {policy : MergePolicy}

/-- A fact of a kind that holds only one meets the stored fact. -/
theorem absorb_cons {f : Fact} (h : f.kind.isMultiValued = false) (existing : Fact)
    (facts : List Fact) :
    policy.absorb (existing :: facts) f =
      match f.mergeWith existing (policy.ruleFor f.kind) with
      | .replace merged => [merged]
      | _ => existing :: facts := by
  unfold absorb
  rw [if_neg (by rw [h]; exact Bool.false_ne_true)]
  rfl

theorem absorb_ne_nil (facts : List Fact) (f : Fact) : policy.absorb facts f ≠ [] := by
  unfold absorb
  cases facts with
  | nil => split <;> simp
  | cons g facts =>
    split
    · split <;> simp
    · simp only [List.head?_cons]
      split <;> simp

/-- What holds of facts, and of what uniting two of them makes, holds of what is taken in. -/
theorem forall_mem_absorb {motive : Fact → Prop} {facts : List Fact} {f : Fact}
    (unite : ∀ f g, motive f → motive g → motive (f.unite g)) (hfacts : ∀ g ∈ facts, motive g)
    (hf : motive f) : ∀ g ∈ policy.absorb facts f, motive g := by
  unfold absorb
  split
  · split
    · exact hfacts
    · intro g hg
      rcases List.mem_append.1 hg with hg | hg
      · exact hfacts g hg
      · exact List.mem_singleton.1 hg ▸ hf
  · cases hhead : facts.head? with
    | none => simpa using hf
    | some stored =>
      have hstored := hfacts stored (List.mem_of_head? hhead)
      dsimp only
      split
      · rename_i hm
        rw [List.forall_mem_singleton]
        rcases Fact.eq_or_eq_unite_of_mergeWith hm with rfl | rfl
        · exact hf
        · exact unite f stored hf hstored
      · exact hfacts

theorem forall_mem_foldl_absorb {motive : Fact → Prop} {facts new : List Fact}
    (unite : ∀ f g, motive f → motive g → motive (f.unite g)) (hfacts : ∀ g ∈ facts, motive g)
    (hnew : ∀ f ∈ new, motive f) : ∀ g ∈ new.foldl policy.absorb facts, motive g := by
  induction new generalizing facts with
  | nil => exact hfacts
  | cons f new ih =>
    exact ih (forall_mem_absorb unite hfacts (hnew f List.mem_cons_self))
      fun g hg => hnew g (List.mem_cons_of_mem f hg)

theorem kind_of_mem_absorb {k : FactKind} {facts : List Fact} {f : Fact}
    (h : ∀ g ∈ facts, g.kind = k) (hf : f.kind = k) : ∀ g ∈ policy.absorb facts f, g.kind = k :=
  forall_mem_absorb (fun f g hf _ => (Fact.kind_unite f g).trans hf) h hf

end MergePolicy

namespace Artifact

/-! ## Adding a fact -/

/-- Adding leaves everything but the facts alone. -/
structure Frame (a a' : Artifact) : Prop where
  source : a'.source = a.source
  coordinates : a'.coordinates = a.coordinates
  flags : a'.flags = a.flags
  policy : a'.policy = a.policy

theorem fact?_eq_head? (a : Artifact) (k : FactKind) : a.fact? k = (a.factsOf k).head? := rfl

/-- What adding a fact does: the facts of its kind take it in, all else stays. -/
theorem value_addFact (a : Artifact) (f : Fact) :
    (a.addFact f).value = a.put f.kind (a.policy.absorb (a.factsOf f.kind) f) ∨
      (a.addFact f).value = a ∧ a.policy.absorb (a.factsOf f.kind) f = a.factsOf f.kind := by
  unfold addFact tryAddFact MergePolicy.absorb
  by_cases hm : f.kind.isMultiValued
  · simp only [if_pos hm]
    exact .inl rfl
  · simp only [if_neg hm]
    rw [fact?_eq_head?]
    cases (a.factsOf f.kind).head? with
    | none => exact .inl rfl
    | some existing =>
      cases hmerge : f.mergeWith existing (a.policy.ruleFor f.kind) with
      | replace merged =>
        simp only [hmerge]
        exact .inl rfl
      | keep =>
        simp only [hmerge]
        exact .inr ⟨rfl, trivial⟩
      | conflict incoming =>
        simp only [hmerge]
        exact .inr ⟨rfl, trivial⟩

theorem frame_addFact (a : Artifact) (f : Fact) : Frame a (a.addFact f).value := by
  rcases value_addFact a f with h | ⟨h, -⟩ <;> rw [h] <;> exact ⟨rfl, rfl, rfl, rfl⟩

/-- A fact bears only on the facts of its kind. -/
theorem factsOf_addFact (a : Artifact) (f : Fact) (k : FactKind) :
    (a.addFact f).value.factsOf k =
      if k = f.kind then a.policy.absorb (a.factsOf k) f else a.factsOf k := by
  rcases value_addFact a f with h | ⟨h, hsame⟩ <;> rw [h]
  · have hput := a.facts.factsOf_put f.kind k (a.policy.absorb (a.factsOf f.kind) f)
    rw [show (a.put f.kind _).factsOf k = _ from hput]
    split
    · rename_i hk
      rw [hk]
    · rfl
  · split
    · rename_i hk
      rw [hk, hsame]
    · rfl

theorem wellFormed_addFact {a : Artifact} (h : a.facts.WellFormed) (f : Fact) :
    (a.addFact f).value.facts.WellFormed := by
  rcases value_addFact a f with hv | ⟨hv, -⟩ <;> rw [hv]
  · refine h.put (MergePolicy.kind_of_mem_absorb ?_ rfl) (MergePolicy.absorb_ne_nil _ _)
    exact fun g hg => h.kind_of_mem_factsOf hg
  · exact h

/-! ## Runs of additions -/

/-- The artifact after some facts have been added in order. -/
def addAll (a : Artifact) (fs : List Fact) : Artifact := (fs.foldlM addFact a).value

@[simp] theorem addAll_nil (a : Artifact) : a.addAll [] = a := rfl

@[simp] theorem addAll_cons (a : Artifact) (f : Fact) (fs : List Fact) :
    a.addAll (f :: fs) = (a.addFact f).value.addAll fs := rfl

theorem frame_addAll (a : Artifact) (fs : List Fact) : Frame a (a.addAll fs) := by
  induction fs generalizing a with
  | nil => exact ⟨rfl, rfl, rfl, rfl⟩
  | cons f fs ih =>
    have hfirst := frame_addFact a f
    have hrest := ih (a.addFact f).value
    exact ⟨hrest.source.trans hfirst.source, hrest.coordinates.trans hfirst.coordinates,
      hrest.flags.trans hfirst.flags, hrest.policy.trans hfirst.policy⟩

theorem wellFormed_addAll {a : Artifact} (h : a.facts.WellFormed) (fs : List Fact) :
    (a.addAll fs).facts.WellFormed := by
  induction fs generalizing a with
  | nil => exact h
  | cons f fs ih => exact ih (wellFormed_addFact h f)

/-- The facts of a kind after a run of additions: those of the kind are taken in in order. -/
theorem factsOf_addAll (a : Artifact) (fs : List Fact) (k : FactKind) :
    (a.addAll fs).factsOf k =
      (fs.filter (·.kind = k)).foldl a.policy.absorb (a.factsOf k) := by
  induction fs generalizing a with
  | nil => rfl
  | cons f fs ih =>
    rw [addAll_cons, ih, (frame_addFact a f).policy, factsOf_addFact]
    by_cases hk : f.kind = k
    · rw [List.filter_cons_of_pos (by simpa using hk), if_pos hk.symm, List.foldl_cons]
    · rw [List.filter_cons_of_neg (by simpa using hk), if_neg fun h => hk h.symm]

/-! ## Merging -/

theorem foldl_addCoordinate (a : Artifact) (cs : List Coordinate) :
    cs.foldl addCoordinate a = { a with
      coordinates := cs.foldl (fun seen c => Coordinate.insert c seen) a.coordinates } := by
  induction cs generalizing a with
  | nil => rfl
  | cons c cs ih => rw [List.foldl_cons, ih]; rfl

/-- A merged artifact: the coordinates of both, the facts of one added to those of the other,
the flags of both. -/
theorem value_mergeWith (a b : Artifact) :
    (a.mergeWith b).value =
      { (b.coordinates.foldl addCoordinate a).addAll b.allFacts with
        flags := a.flags.merge b.flags } := by
  have hflags : ((b.coordinates.foldl addCoordinate a).addAll b.allFacts).flags = a.flags := by
    rw [(frame_addAll _ _).flags, foldl_addCoordinate]
  rw [← hflags]
  rfl

theorem coordinates_mergeWith (a b : Artifact) :
    (a.mergeWith b).value.coordinates = Distinct.union a.coordinates b.coordinates := by
  rw [value_mergeWith]
  show ((b.coordinates.foldl addCoordinate a).addAll b.allFacts).coordinates = _
  rw [(frame_addAll _ _).coordinates, foldl_addCoordinate]
  rfl

theorem contains_coordinates_mergeWith (a b : Artifact) (c : Coordinate) :
    (a.mergeWith b).value.coordinates.contains c =
      (a.coordinates.contains c || b.coordinates.contains c) := by
  rw [coordinates_mergeWith, Distinct.contains_union]

theorem flags_mergeWith (a b : Artifact) :
    (a.mergeWith b).value.flags = a.flags.merge b.flags := by
  rw [value_mergeWith]

theorem policy_mergeWith (a b : Artifact) : (a.mergeWith b).value.policy = a.policy := by
  rw [value_mergeWith]
  show ((b.coordinates.foldl addCoordinate a).addAll b.allFacts).policy = _
  rw [(frame_addAll _ _).policy, foldl_addCoordinate]

theorem source_mergeWith (a b : Artifact) : (a.mergeWith b).value.source = a.source := by
  rw [value_mergeWith]
  show ((b.coordinates.foldl addCoordinate a).addAll b.allFacts).source = _
  rw [(frame_addAll _ _).source, foldl_addCoordinate]

theorem wellFormed_mergeWith {a : Artifact} (h : a.facts.WellFormed) (b : Artifact) :
    (a.mergeWith b).value.facts.WellFormed := by
  rw [value_mergeWith]
  refine wellFormed_addAll ?_ b.allFacts
  rw [foldl_addCoordinate]
  exact h

/-- The facts of a kind after a merge: the artifact takes in those that the other one has of the
kind. -/
theorem factsOf_mergeWith (a : Artifact) {b : Artifact} (hb : b.facts.WellFormed) (k : FactKind) :
    (a.mergeWith b).value.factsOf k = (b.factsOf k).foldl a.policy.absorb (a.factsOf k) := by
  rw [value_mergeWith]
  show ((b.coordinates.foldl addCoordinate a).addAll b.allFacts).factsOf k = _
  rw [factsOf_addAll, foldl_addCoordinate, allFacts, hb.filter_toList]
  rfl

/-! ## Equality -/

theorem factsOf_of_get? {a : Artifact} {k : FactKind} {facts : List Fact}
    (h : a.facts.get? k = some facts) : a.factsOf k = facts := by
  rw [factsOf, FactStore.factsOf, h]
  rfl

/-- Artifacts are equal if they have the same coordinates, the same facts of every kind and the
same flags set. -/
theorem same_of_factsOf {a b : Artifact} (ha : a.facts.WellFormed) (hb : b.facts.WellFormed)
    (hlength : a.coordinates.length = b.coordinates.length)
    (hcoordinates : ∀ c ∈ a.coordinates, b.coordinates.contains c)
    (hfacts : ∀ k, sameFacts (a.factsOf k) (b.factsOf k))
    (hflags : a.flags.active = b.flags.active) : (a == b) = true := by
  have hnil (k : FactKind) : a.factsOf k = [] ↔ b.factsOf k = [] := by
    have h := (Bool.and_eq_true _ _).mp (hfacts k)
    rw [← List.length_eq_zero_iff, beq_iff_eq.1 h.1, List.length_eq_zero_iff]
  have hkinds : a.facts.kinds.Perm b.facts.kinds :=
    (List.perm_ext_iff_of_nodup ha.nodup hb.nodup).2 fun k => by
      rw [ha.mem_kinds_iff, hb.mem_kinds_iff]
      exact not_congr (hnil k)
  have hslots : a.facts.slots.length = b.facts.slots.length := by
    simpa [FactStore.kinds] using hkinds.length_eq
  have hslot : ∀ slot ∈ a.facts.slots, (b.facts.get? slot.1).any (sameFacts slot.2) := by
    intro slot hs
    have hk : slot.1 ∈ b.facts.kinds := hkinds.mem_iff.1 (List.mem_map_of_mem hs)
    obtain ⟨facts, hget⟩ := Option.isSome_iff_exists.1 ((b.facts.contains_iff_mem_kinds _).2 hk)
    have hsame := hfacts slot.1
    rw [factsOf_of_get? (ha.get?_of_mem hs), factsOf_of_get? hget] at hsame
    rw [hget]
    exact hsame
  show same a b = true
  simp only [same, Bool.and_eq_true, beq_iff_eq, List.all_eq_true]
  exact ⟨⟨⟨⟨hlength, hcoordinates⟩, hslots⟩, hslot⟩, hflags⟩

end Artifact

end Clearinghouse
