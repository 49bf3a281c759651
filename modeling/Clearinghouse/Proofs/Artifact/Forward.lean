import Clearinghouse.Proofs.Artifact.Additions
import Clearinghouse.Proofs.Artifact.Representation

/-!
# Artifacts move forward

Facts, coordinates and whole artifacts are added to an artifact, and its policy is changed in
between. Nothing of this takes anything back: the coordinates, files and lines of copyright stay
in front, a kind that is there stays there, the clearing state never falls, a flag that is set
stays set. Main statement: this holds of every run of such steps (`Made.movedOn_after`).

One fact bears on one kind, and of a kind that holds only one it is enough to know what comes of
a meeting (`ask?_addFact`). All else follows, as moving on is reflexive and transitive. Artifacts
that are merged in may be any, so only the facts of the first one have to be storable.
-/

namespace Clearinghouse

/-! ## Meetings of values -/

namespace Fact

/-- Values of the kind that meet, under whatever policy, leave a value that is further on than the
stored one. -/
structure MovesOn (k : FactKind) (further : k.Value → k.Value → Prop) : Prop where
  refl : ∀ v, further v v
  meet : ∀ (policy : MergePolicy) (v u : k.Value), ∃ w,
    meet (policy.ruleFor k) (.ofValue k v) (.ofValue k u) = .ofValue k w ∧ further v w

/-- The lines of the stored statement stay in front. -/
theorem movesOn_copyright :
    MovesOn .copyright fun c d : Copyright => c.lines <+: d.lines where
  refl _ := List.prefix_refl _
  meet policy (c : Copyright) (d : Copyright) := by
    rw [policy.ruleFor_of_mergeRule_ne (by decide)]
    refine ⟨c.union d, rfl, ?_⟩
    obtain ⟨new, hnew⟩ := c.union_eq_append d
    rw [hnew]
    exact List.prefix_append c.lines new

/-- The clearing state does not fall. -/
theorem movesOn_clearingState : MovesOn .clearingState fun s t : ClearingState => s ≤ t where
  refl := ClearingState.le_refl
  meet policy (s : ClearingState) (t : ClearingState) :=
    ⟨s.higher t, meet_ruleFor_clearingState policy s t, s.le_higher_left t⟩

end Fact

namespace Artifact

/-! ## One fact -/

section

variable {a : Artifact}

/-- Of a kind that holds only one, the value that is asked for is all there is. -/
theorem ask?_eq_some_iff {k : FactKind} (h : Storable k (a.factsOf k)) (hk : k ≠ .filename)
    {v : k.Value} : a.ask? k = some v ↔ a.factsOf k = [.ofValue k v] := by
  rw [ask?_eq_bind_head?]
  rcases h.eq_nil_or hk with hnil | ⟨f, hf, -⟩
  · simp [hnil]
  · rw [hf, List.head?_cons, Option.bind_some, Fact.as?_eq_some_iff, List.cons.injEq,
      and_iff_left rfl]

/-- A value that is there moves on when a fact is added. -/
theorem ask?_addFact {k : FactKind} {further : k.Value → k.Value → Prop}
    (hmoves : Fact.MovesOn k further) (hk : k ≠ .filename) (h : Storable k (a.factsOf k))
    (f : Fact) {v : k.Value} (hv : a.ask? k = some v) :
    ∃ w, (a.addFact f).value.ask? k = some w ∧ further v w := by
  rw [ask?_eq_some_iff h hk] at hv
  by_cases hf : f.kind = k
  · obtain ⟨u, rfl⟩ := Fact.exists_ofValue hf
    obtain ⟨w, hmeet, hfurther⟩ := hmoves.meet a.policy v u
    have hstored : Storable k ((a.addFact (.ofValue k u)).value.factsOf k) := by
      rw [factsOf_addFact, if_pos hf.symm]
      exact MergePolicy.storable_absorb h hf
    refine ⟨w, (ask?_eq_some_iff hstored hk).2 ?_, hfurther⟩
    have hkind : (Fact.ofValue k v).kind = k := h.kind _ (hv ▸ List.mem_cons_self)
    rw [factsOf_addFact, if_pos hf.symm, hv, MergePolicy.absorb_singleton hk hkind hf, hmeet]
  · have hsame : (a.addFact f).value.factsOf k = a.factsOf k := by
      rw [factsOf_addFact, if_neg (Ne.symm hf)]
    refine ⟨v, (ask?_eq_some_iff (hsame ▸ h) hk).2 ?_, hmoves.refl v⟩
    rw [hsame, hv]

/-- Files stay in front of one that is added. -/
theorem prefix_factsOf_addFact_filename (h : Storable .filename (a.factsOf .filename))
    (f : Fact) : a.factsOf .filename <+: (a.addFact f).value.factsOf .filename := by
  rw [factsOf_addFact]
  split
  · rename_i hf
    obtain ⟨file, rfl⟩ := Fact.kind_eq_filename_iff.1 hf.symm
    obtain ⟨files, hfiles⟩ := exists_files h.kind
    rw [hfiles, MergePolicy.absorb_filename]
    exact (Distinct.prefix_union files [file]).map _
  · exact List.prefix_refl _

end

/-! ## Moving on -/

/-- `b` says all that `a` says, and what accumulates stands in `b` as it stands in `a`, in front
of what is new. -/
structure MovedOn (a b : Artifact) : Prop where
  source : b.source = a.source
  coordinates : a.coordinates <+: b.coordinates
  kinds : ∀ k, a.hasFact k → b.hasFact k
  files : a.factsOf .filename <+: b.factsOf .filename
  copyright : ∀ c : Copyright, a.ask? .copyright = some c →
    ∃ d : Copyright, b.ask? .copyright = some d ∧ c.lines <+: d.lines
  clearingState : ∀ s : ClearingState, a.ask? .clearingState = some s →
    ∃ t : ClearingState, b.ask? .clearingState = some t ∧ s ≤ t
  flags : ∀ f, a.flags.isSet f → b.flags.isSet f

namespace MovedOn

variable {a b c : Artifact}

/-- An artifact moves on if it keeps its facts and nothing else is taken back. -/
theorem of_facts_eq (hfacts : b.facts = a.facts) (hsource : b.source = a.source)
    (hcoordinates : a.coordinates <+: b.coordinates)
    (hflags : ∀ f, a.flags.isSet f → b.flags.isSet f) : a.MovedOn b where
  source := hsource
  coordinates := hcoordinates
  kinds k hk := by rwa [hasFact, hfacts]
  files := by simp only [factsOf, hfacts, List.prefix_refl]
  copyright d hd := by
    refine ⟨d, ?_, List.prefix_refl _⟩
    rwa [ask?, fact?, hfacts]
  clearingState s hs := by
    refine ⟨s, ?_, s.le_refl⟩
    rwa [ask?, fact?, hfacts]
  flags := hflags

theorem refl (a : Artifact) : a.MovedOn a :=
  of_facts_eq rfl rfl (List.prefix_refl _) fun _ h => h

theorem trans (h : a.MovedOn b) (h' : b.MovedOn c) : a.MovedOn c where
  source := h'.source.trans h.source
  coordinates := h.coordinates.trans h'.coordinates
  kinds k hk := h'.kinds k (h.kinds k hk)
  files := h.files.trans h'.files
  copyright d hd := by
    obtain ⟨e, he, hde⟩ := h.copyright d hd
    obtain ⟨f, hf, hef⟩ := h'.copyright e he
    exact ⟨f, hf, hde.trans hef⟩
  clearingState s hs := by
    obtain ⟨t, ht, hst⟩ := h.clearingState s hs
    obtain ⟨u, hu, htu⟩ := h'.clearingState t ht
    exact ⟨u, hu, ClearingState.le_trans hst htu⟩
  flags f hf := h'.flags f (h.flags f hf)

/-- The coordinate that messages name stays the same. -/
theorem mainCoordinate? (h : a.MovedOn b) {x : Coordinate} (hx : a.mainCoordinate? = some x) :
    b.mainCoordinate? = some x := by
  obtain ⟨new, hnew⟩ := h.coordinates
  rw [Artifact.mainCoordinate?] at hx ⊢
  rw [← hnew, List.head?_append, hx, Option.some_or]

end MovedOn

/-! ## Single steps -/

/-- All facts stand under their kinds, and no more than a kind holds. -/
def Filed (a : Artifact) : Prop := ∀ k, Storable k (a.factsOf k)

section

variable {a : Artifact}

theorem Filed.addFact (h : a.Filed) (f : Fact) : (a.addFact f).value.Filed := by
  intro k
  rw [factsOf_addFact]
  split
  · rename_i hk
    exact MergePolicy.storable_absorb (h k) hk.symm
  · exact h k

theorem Filed.movedOn_addFact (h : a.Filed) (f : Fact) : a.MovedOn (a.addFact f).value where
  source := (frame_addFact a f).source
  coordinates := by simp only [(frame_addFact a f).coordinates, List.prefix_refl]
  kinds k hk := by
    rw [hasFact, FactStore.contains_iff_mem_kinds] at hk ⊢
    rw [kinds_addFact]
    exact (Distinct.prefix_union a.facts.kinds [f.kind]).subset hk
  files := prefix_factsOf_addFact_filename (h .filename) f
  copyright _ hc := ask?_addFact Fact.movesOn_copyright (by decide) (h .copyright) f hc
  clearingState _ hs :=
    ask?_addFact Fact.movesOn_clearingState (by decide) (h .clearingState) f hs
  flags g hg := by rwa [(frame_addFact a f).flags]

theorem filed_and_movedOn_addAll (h : a.Filed) (fs : List Fact) :
    (a.addAll fs).Filed ∧ a.MovedOn (a.addAll fs) := by
  induction fs generalizing a with
  | nil => exact ⟨h, .refl a⟩
  | cons f fs ih =>
    obtain ⟨hfiled, hmoved⟩ := ih (h.addFact f)
    exact ⟨hfiled, (h.movedOn_addFact f).trans hmoved⟩

/-- Whatever is merged in. -/
theorem filed_and_movedOn_mergeWith (h : a.Filed) (b : Artifact) :
    (a.mergeWith b).value.Filed ∧ a.MovedOn (a.mergeWith b).value := by
  have hcoordinates : (b.coordinates.foldl addCoordinate a).Filed ∧
      a.MovedOn (b.coordinates.foldl addCoordinate a) := by
    rw [foldl_addCoordinate]
    exact ⟨h, .of_facts_eq rfl rfl (Distinct.prefix_union a.coordinates b.coordinates)
      fun _ hf => hf⟩
  obtain ⟨hfiled, hfacts⟩ := filed_and_movedOn_addAll hcoordinates.1 b.allFacts
  have hmoved := hcoordinates.2.trans hfacts
  rw [value_mergeWith]
  refine ⟨hfiled, { hmoved with flags := fun f hf => ?_ }⟩
  rw [Flags.isSet_merge, hf, Bool.true_or]

end

end Artifact

/-! ## Runs -/

/-- What can be done to an artifact without taking anything back. -/
inductive Addition
  | addFact (f : Fact)
  /-- A fact that is refused leaves the artifact as it is. -/
  | tryAddFact (f : Fact)
  | mergeWith (b : Artifact)
  | addCoordinate (c : Coordinate)
  | setPolicy (policy : MergePolicy)

def Addition.apply (a : Artifact) : Addition → Artifact
  | addFact f => (a.addFact f).value
  | tryAddFact f =>
    match a.tryAddFact f with
    | .ok b => b
    | .error _ => a
  | mergeWith b => (a.mergeWith b).value
  | addCoordinate c => a.addCoordinate c
  | setPolicy policy => { a with policy }

namespace Artifact

/-- The artifact after some steps in order. -/
def after (a : Artifact) (steps : List Addition) : Artifact := steps.foldl Addition.apply a

variable {a : Artifact}

theorem filed_and_movedOn_apply (h : a.Filed) (step : Addition) :
    (step.apply a).Filed ∧ a.MovedOn (step.apply a) := by
  cases step with
  | addFact f => exact ⟨h.addFact f, h.movedOn_addFact f⟩
  | tryAddFact f =>
    rw [Addition.apply]
    cases htry : a.tryAddFact f with
    | ok b =>
      obtain rfl := value_addFact_of_tryAddFact htry
      exact ⟨h.addFact f, h.movedOn_addFact f⟩
    | error conflict => exact ⟨h, .refl a⟩
  | mergeWith b => exact filed_and_movedOn_mergeWith h b
  | addCoordinate c =>
    exact ⟨h, .of_facts_eq rfl rfl (Distinct.prefix_union a.coordinates [c]) fun _ hf => hf⟩
  | setPolicy policy => exact ⟨h, .of_facts_eq rfl rfl (List.prefix_refl _) fun _ hf => hf⟩

theorem movedOn_foldl_apply (h : a.Filed) (steps : List Addition) : a.MovedOn (a.after steps) := by
  induction steps generalizing a with
  | nil => exact .refl a
  | cons step steps ih =>
    obtain ⟨hfiled, hmoved⟩ := filed_and_movedOn_apply h step
    exact hmoved.trans (ih hfiled)

/-- Whatever is added or merged in, and however the policy changes in between, an artifact moves
on, and messages name it as before. -/
theorem Made.movedOn_after (h : a.Made) (steps : List Addition) :
    a.MovedOn (a.after steps) ∧
      ∀ c, a.mainCoordinate? = some c → (a.after steps).mainCoordinate? = some c := by
  have hmoved := movedOn_foldl_apply h.tidy.storable steps
  exact ⟨hmoved, fun _ hc => hmoved.mainCoordinate? hc⟩

end Artifact

namespace Samples

/-- An approved archive under a strict policy. -/
def certified : Artifact :=
  (((Artifact.fresh .strict "ledger").addCoordinate (.of "npm" "" "lib" "1.2")).addAll
    [.filename ⟨some "lib.tgz", none⟩, .sourceUrl "https://one.example",
      .copyright (.ofText "(c) Ada"), .clearingState .osmApproved]).setFlag .proprietary true

/-- What a later scan knows: another file, a lower state, other lines and a flag that is not
set. -/
def rescan : Artifact :=
  (((Artifact.fresh .keepExisting "rescan").addCoordinate (.of "npm" "" "library" "1.2")).addAll
    [.clearingState .initial, .copyright (.ofText "(c) Bob\n(c) Ada"),
      .filename ⟨some "lib-1.2.tgz", none⟩]).setFlag .proprietary false

/-- The first URL is refused and the second one is stored. -/
def recertification : List Addition :=
  [.tryAddFact (.sourceUrl "https://two.example"), .mergeWith rescan, .setPolicy .overwrite,
    .addCoordinate (.of "npm" "" "lib" "1.2"), .addFact (.sourceUrl "https://three.example"),
    .addFact (.clearingState .projectApproved)]

end Samples

open Samples in
/-- Only the URL is another one, as the last policy has it. -/
theorem movedOn_after_recertification :
    certified.Made ∧ certified.MovedOn (certified.after recertification) ∧
      (certified.after recertification).coordinates =
        [.of "npm" "" "lib" "1.2", .of "npm" "" "library" "1.2"] ∧
      (certified.after recertification).allFacts =
        [.filename ⟨some "lib.tgz", none⟩, .filename ⟨some "lib-1.2.tgz", none⟩,
          .sourceUrl "https://three.example", .copyright ⟨["(c) Ada", "(c) Bob"]⟩,
          .clearingState .osmApproved] ∧
      (certified.after recertification).flags.isSet .proprietary = true := by
  have hfresh : (Artifact.fresh .strict "ledger").Reachable :=
    .setPolicy (.ofSource "ledger") .strict
  have hcertified : certified.Reachable := by
    refine .setFlag (.addAll (.addCoordinate hfresh _) ?_) _ _
    simp only [List.forall_mem_cons]
    exact ⟨trivial, trivial, .ofText _, trivial, by simp⟩
  exact ⟨hcertified.made, (hcertified.made.movedOn_after recertification).1, rfl, rfl, rfl⟩

end Clearinghouse
