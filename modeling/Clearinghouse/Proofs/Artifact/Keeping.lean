import Clearinghouse.Proofs.Artifact.Merging

/-!
# What merging keeps

A fact keeps another one if it says at least as much: the same file, all the lines, a clearing
state at least as high; of the other kinds only one value can stay, so that there is one is all
that is kept. Main statement: whatever the policies, a merged artifact keeps all that either of
the two said (`Reachable.keptIn_mergeWith_left`, `Reachable.keptIn_mergeWith_right`).

Keeping is reflexive and transitive, so what is kept by one step is kept by a run. Where facts
meet it is enough to know the rule of the kinds that accumulate, which no policy changes.
-/

namespace Clearinghouse

/-! ## Facts -/

namespace Fact

/-- `g` says at least what `f` says of a file, of lines or of a clearing state, and else is of
the same kind. -/
def KeptBy : Fact → Fact → Prop
  | filename file, g => g = filename file
  | copyright c, g => ∃ d, g = copyright d ∧ c.lines ⊆ d.lines
  | clearingState s, g => ∃ t, g = clearingState t ∧ s ≤ t
  | f, g => g.kind = f.kind

section

variable {f g h : Fact}

theorem KeptBy.refl (f : Fact) : f.KeptBy f := by
  cases f with
  | copyright c => exact ⟨c, rfl, List.Subset.refl c.lines⟩
  | clearingState s => exact ⟨s, rfl, s.le_refl⟩
  | _ => rfl

theorem KeptBy.kind_eq (hfg : f.KeptBy g) : g.kind = f.kind := by
  cases f with
  | filename file => exact congrArg kind hfg
  | copyright c =>
    obtain ⟨d, rfl, -⟩ := hfg
    rfl
  | clearingState s =>
    obtain ⟨t, rfl, -⟩ := hfg
    rfl
  | _ => exact hfg

theorem KeptBy.trans (hfg : f.KeptBy g) (hgh : g.KeptBy h) : f.KeptBy h := by
  cases f with
  | filename file =>
    obtain rfl := hfg
    exact hgh
  | copyright c =>
    obtain ⟨d, rfl, hcd⟩ := hfg
    obtain ⟨e, rfl, hde⟩ := hgh
    exact ⟨e, rfl, List.Subset.trans hcd hde⟩
  | clearingState s =>
    obtain ⟨t, rfl, hst⟩ := hfg
    obtain ⟨u, rfl, htu⟩ := hgh
    exact ⟨u, rfl, ClearingState.le_trans hst htu⟩
  | _ => exact hgh.kind_eq.trans hfg

/-- A kind that does not accumulate keeps no more than that there is a fact. -/
theorem keptBy_of_kind_eq {k : FactKind} (hfile : k ≠ .filename) (hcopyright : k ≠ .copyright)
    (hstate : k ≠ .clearingState) (hf : f.kind = k) (hg : g.kind = k) : f.KeptBy g := by
  subst hf
  cases f with
  | filename file => exact absurd rfl hfile
  | copyright c => exact absurd rfl hcopyright
  | clearingState s => exact absurd rfl hstate
  | _ => exact hg

/-- Statements that are united keep the lines of both. -/
theorem keptBy_meet_copyright (c : Copyright) {d : Copyright} (hd : d.Made) :
    (copyright c).KeptBy (meet .union (copyright c) (copyright d)) ∧
      (copyright d).KeptBy (meet .union (copyright c) (copyright d)) := by
  have hlines := hd.lines_union c
  refine ⟨⟨c.union d, rfl, ?_⟩, ⟨c.union d, rfl, fun line hline => ?_⟩⟩
  · rw [hlines]
    exact (Distinct.prefix_union c.lines d.lines).subset
  · rw [hlines, ← List.contains_iff_mem, Distinct.contains_union, Distinct.contains_of_mem hline,
      Bool.or_true]

/-- The higher of two clearing states keeps both. -/
theorem keptBy_meet_clearingState (s t : ClearingState) :
    (clearingState s).KeptBy (meet .keepHigher (clearingState s) (clearingState t)) ∧
      (clearingState t).KeptBy (meet .keepHigher (clearingState s) (clearingState t)) := by
  rw [meet_keepHigher_clearingState]
  exact ⟨⟨_, rfl, s.le_higher_left t⟩, ⟨_, rfl, s.le_higher_right t⟩⟩

/-- Whatever the policy, what comes of a meeting keeps both facts. -/
theorem Made.keptBy_meet (hmade : g.Made) (policy : MergePolicy) {k : FactKind}
    (hk : k ≠ .filename) (hf : f.kind = k) (hg : g.kind = k) :
    f.KeptBy (meet (policy.ruleFor k) f g) ∧ g.KeptBy (meet (policy.ruleFor k) f g) := by
  by_cases hcopyright : k = .copyright
  · subst hcopyright
    obtain ⟨c, rfl⟩ := kind_eq_copyright_iff.1 hf
    obtain ⟨d, rfl⟩ := kind_eq_copyright_iff.1 hg
    rw [policy.ruleFor_of_mergeRule_ne (by decide)]
    exact keptBy_meet_copyright c hmade
  by_cases hstate : k = .clearingState
  · subst hstate
    obtain ⟨s, rfl⟩ := kind_eq_clearingState_iff.1 hf
    obtain ⟨t, rfl⟩ := kind_eq_clearingState_iff.1 hg
    rw [policy.ruleFor_of_mergeRule_ne (by decide)]
    exact keptBy_meet_clearingState s t
  -- only one value of the other kinds can stay, and there is one
  have hmeet : (meet (policy.ruleFor k) f g).kind = k := kind_meet hf hg
  exact ⟨keptBy_of_kind_eq hk hcopyright hstate hf hmeet,
    keptBy_of_kind_eq hk hcopyright hstate hg hmeet⟩

end

/-- Every one of the facts is kept by some fact of `kept`. -/
def Kept (facts kept : List Fact) : Prop := ∀ f ∈ facts, ∃ g ∈ kept, f.KeptBy g

theorem kept_refl (facts : List Fact) : Kept facts facts := fun f hf => ⟨f, hf, .refl f⟩

theorem Kept.trans {facts kept others : List Fact} (h : Kept facts kept) (h' : Kept kept others) :
    Kept facts others := by
  intro f hf
  obtain ⟨g, hg, hfg⟩ := h f hf
  obtain ⟨e, he, hge⟩ := h' g hg
  exact ⟨e, he, hfg.trans hge⟩

theorem kept_append {facts others kept : List Fact} :
    Kept (facts ++ others) kept ↔ Kept facts kept ∧ Kept others kept := List.forall_mem_append

theorem kept_singleton {f g : Fact} : Kept [f] [g] ↔ f.KeptBy g := by simp [Kept]

end Fact

/-! ## Facts of one kind -/

namespace MergePolicy

variable {policy : MergePolicy} {k : FactKind} {facts : List Fact}

/-- A fact that is taken in is kept, and so is what was there. -/
theorem kept_absorb {f : Fact} (h : Storable k facts) (hf : f.kind = k) (hmade : f.Made) :
    Fact.Kept (facts ++ [f]) (policy.absorb facts f) := by
  by_cases hk : k = .filename
  · subst hk
    obtain ⟨files, rfl⟩ := exists_files h.kind
    obtain ⟨file, rfl⟩ := Fact.kind_eq_filename_iff.1 hf
    have hmem : ∀ g ∈ files.map Fact.filename ++ [.filename file],
        g ∈ policy.absorb (files.map .filename) (.filename file) := by
      intro g hg
      rw [← List.map_singleton, ← List.map_append] at hg
      obtain ⟨x, hx, rfl⟩ := List.mem_map.1 hg
      rw [absorb_filename]
      refine List.mem_map_of_mem ?_
      rw [← List.contains_iff_mem, Distinct.contains_insert]
      simpa using hx
    exact fun g hg => ⟨g, hmem g hg, .refl g⟩
  · rcases h.eq_nil_or hk with rfl | ⟨g, rfl, hg⟩
    · rw [absorb_nil]
      exact Fact.kept_refl [f]
    · rw [absorb_singleton hk hg hf]
      obtain ⟨hleft, hright⟩ := hmade.keptBy_meet policy hk hg hf
      exact Fact.kept_append.2 ⟨Fact.kept_singleton.2 hleft, Fact.kept_singleton.2 hright⟩

/-- Facts that are taken in one by one are kept, and so is what was there. -/
theorem kept_foldl_absorb {new : List Fact} (h : Storable k facts)
    (hnew : ∀ f ∈ new, f.kind = k ∧ f.Made) :
    Fact.Kept (facts ++ new) (new.foldl policy.absorb facts) := by
  induction new generalizing facts with
  | nil =>
    rw [List.append_nil]
    exact Fact.kept_refl facts
  | cons f new ih =>
    obtain ⟨⟨hf, hmade⟩, hrest⟩ := List.forall_mem_cons.1 hnew
    have hfirst : Fact.Kept (facts ++ [f]) (policy.absorb facts f) := kept_absorb h hf hmade
    obtain ⟨hthere, hthen⟩ := Fact.kept_append.1 (ih (storable_absorb h hf) hrest)
    rw [List.append_cons, Fact.kept_append]
    exact ⟨hfirst.trans hthere, hthen⟩

end MergePolicy

/-! ## Artifacts -/

namespace Artifact

/-- `a` has the coordinates, the kinds of facts and the set flags of `r`, and its facts keep
those of `r`. -/
structure KeptIn (r a : Artifact) : Prop where
  coordinates : ∀ c, r.coordinates.contains c → a.coordinates.contains c
  kinds : ∀ k, r.hasFact k → a.hasFact k
  facts : ∀ k, Fact.Kept (r.factsOf k) (a.factsOf k)
  flags : ∀ f, r.flags.isSet f → a.flags.isSet f

theorem KeptIn.refl (a : Artifact) : a.KeptIn a :=
  ⟨fun _ h => h, fun _ h => h, fun k => Fact.kept_refl (a.factsOf k), fun _ h => h⟩

theorem KeptIn.trans {r a b : Artifact} (h : r.KeptIn a) (h' : a.KeptIn b) : r.KeptIn b where
  coordinates c hc := h'.coordinates c (h.coordinates c hc)
  kinds k hk := h'.kinds k (h.kinds k hk)
  facts k := (h.facts k).trans (h'.facts k)
  flags f hf := h'.flags f (h.flags f hf)

theorem hasFact_mergeWith (a : Artifact) {b : Artifact} (hb : b.facts.WellFormed)
    (k : FactKind) : (a.mergeWith b).value.hasFact k = (a.hasFact k || b.hasFact k) := by
  rw [Bool.eq_iff_iff, Bool.or_eq_true]
  simp only [hasFact, FactStore.contains_iff_mem_kinds]
  rw [kinds_mergeWith a hb, ← List.contains_iff_mem, Distinct.contains_union, Bool.or_eq_true,
    List.contains_iff_mem, List.contains_iff_mem]

namespace Reachable

variable {a b : Artifact}

theorem kept_factsOf_mergeWith (ha : a.Reachable) (hb : b.Reachable) (k : FactKind) :
    Fact.Kept (a.factsOf k ++ b.factsOf k) ((a.mergeWith b).value.factsOf k) := by
  rw [factsOf_mergeWith a hb.tidy.wellFormed]
  exact MergePolicy.kept_foldl_absorb (ha.tidy.storable k)
    fun f hf => ⟨(hb.tidy.storable k).kind f hf, hb.facts k f hf⟩

/-- A merged artifact keeps what it said before. -/
theorem keptIn_mergeWith_left (ha : a.Reachable) (hb : b.Reachable) :
    a.KeptIn (a.mergeWith b).value where
  coordinates c hc := by rw [contains_coordinates_mergeWith, hc, Bool.true_or]
  kinds k hk := by rw [hasFact_mergeWith a hb.tidy.wellFormed, hk, Bool.true_or]
  facts k := (Fact.kept_append.1 (ha.kept_factsOf_mergeWith hb k)).1
  flags f hf := by rw [flags_mergeWith, Flags.isSet_merge, hf, Bool.true_or]

/-- A merged artifact keeps what was merged in. -/
theorem keptIn_mergeWith_right (ha : a.Reachable) (hb : b.Reachable) :
    b.KeptIn (a.mergeWith b).value where
  coordinates c hc := by rw [contains_coordinates_mergeWith, hc, Bool.or_true]
  kinds k hk := by rw [hasFact_mergeWith a hb.tidy.wellFormed, hk, Bool.or_true]
  facts k := (Fact.kept_append.1 (ha.kept_factsOf_mergeWith hb k)).2
  flags f hf := by rw [flags_mergeWith, Flags.isSet_merge, hf, Bool.or_true]

end Reachable

end Artifact

end Clearinghouse
