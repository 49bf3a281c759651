import Clearinghouse.Proofs.Artifact.Absorption

/-!
# Runs of additions

An artifact that was told facts one after the other says of every kind what the facts of this
kind say together: every file and every line of copyright once, the clearing state that is
furthest on, and of any other kind the last fact or the first one, as the policy has it. Main
statement: this holds of every run, and the kinds stand in the order in which they first came
(`accumulated_addFacts`).

What is there of a kind depends on the facts of the kind alone (`factsOf_addAll`), so each kind
is a fold of its own over the facts of the run.
-/

namespace Clearinghouse

/-! ## The facts of one kind in a run -/

namespace Fact

/-- The facts of a kind are those that `read?` reads and `make` makes. -/
theorem filter_kind_eq {α : Type} {k : FactKind} {make : α → Fact} {read? : Fact → Option α}
    (hkind : ∀ {f : Fact}, f.kind = k ↔ ∃ x, f = make x)
    (hread : ∀ f x, read? f = some x ↔ f = make x) (fs : List Fact) :
    fs.filter (·.kind = k) = (fs.filterMap read?).map make := by
  induction fs with
  | nil => rfl
  | cons f fs ih =>
    by_cases hk : f.kind = k
    · obtain ⟨x, rfl⟩ := hkind.1 hk
      have hsome : read? (make x) = some x := (hread _ x).2 rfl
      rw [List.filter_cons_of_pos (by simpa using hk), List.filterMap_cons_some hsome,
        List.map_cons, ih]
    · have hnone : read? f = none := Option.eq_none_iff_forall_ne_some.2 fun x hx =>
        hk (hkind.2 ⟨x, (hread f x).1 hx⟩)
      rw [List.filter_cons_of_neg (by simpa using hk), List.filterMap_cons_none hnone, ih]

theorem filter_filename (fs : List Fact) :
    fs.filter (·.kind = .filename) = (fs.filterMap filename?).map filename :=
  filter_kind_eq kind_eq_filename_iff (fun f _ => by cases f <;> simp [filename?]) fs

theorem filter_copyright (fs : List Fact) :
    fs.filter (·.kind = .copyright) = (fs.filterMap copyright?).map copyright :=
  filter_kind_eq kind_eq_copyright_iff (fun f _ => by cases f <;> simp [copyright?]) fs

theorem filter_clearingState (fs : List Fact) :
    fs.filter (·.kind = .clearingState) = (fs.filterMap clearingState?).map clearingState :=
  filter_kind_eq kind_eq_clearingState_iff (fun f _ => by cases f <;> simp [clearingState?]) fs

/-! ## What comes of meeting in turn -/

/-- If every fact replaces the one before it, the last one is there. -/
theorem foldl_meet_overwrite (f : Fact) (fs : List Fact) :
    some (fs.foldl (meet .overwrite) f) = (f :: fs).getLast? := by
  induction fs generalizing f with
  | nil => rfl
  | cons g fs ih => rw [List.foldl_cons, List.getLast?_cons_cons, ← ih]; rfl

/-- If the stored fact always stays, it is the first one. -/
theorem foldl_meet_of_stays (rule : MergeRule) (h : ∀ f g, meet rule f g = f) (f : Fact)
    (fs : List Fact) : fs.foldl (meet rule) f = f := by
  induction fs with
  | nil => rfl
  | cons g fs ih => rw [List.foldl_cons, h, ih]

/-- Of clearing states the highest is there. -/
theorem foldl_meet_clearingState (s : ClearingState) (states : List ClearingState) :
    ∃ top ∈ s :: states, (∀ t ∈ s :: states, t ≤ top) ∧
      (states.map clearingState).foldl (meet .keepHigher) (.clearingState s) =
        .clearingState top := by
  induction states generalizing s with
  | nil => exact ⟨s, List.mem_cons_self, by simp [ClearingState.le_refl], rfl⟩
  | cons t states ih =>
    obtain ⟨top, hmem, hle, hfold⟩ := ih (s.higher t)
    have htop := hle (s.higher t) List.mem_cons_self
    refine ⟨top, ?_, ?_, ?_⟩
    · rcases List.mem_cons.1 hmem with rfl | hmem
      · rcases s.higher_eq_or t with h | h <;> rw [h] <;> simp
      · exact List.mem_cons_of_mem s (List.mem_cons_of_mem t hmem)
    · rw [List.forall_mem_cons, List.forall_mem_cons]
      exact ⟨ClearingState.le_trans (s.le_higher_left t) htop,
        ClearingState.le_trans (s.le_higher_right t) htop,
        fun u hu => hle u (List.mem_cons_of_mem _ hu)⟩
    · rw [List.map_cons, List.foldl_cons, meet_keepHigher_clearingState, hfold]

/-- Of copyright statements every line is there once. -/
theorem foldl_meet_copyright (c : Copyright) {statements : List Copyright}
    (h : ∀ d ∈ statements, d.Made) :
    (statements.map copyright).foldl (meet .union) (.copyright c) =
      .copyright ⟨Distinct.union c.lines (statements.flatMap (·.lines))⟩ := by
  induction statements generalizing c with
  | nil => rfl
  | cons d statements ih =>
    have hmeet : meet .union (.copyright c) (.copyright d) = .copyright (c.union d) := rfl
    rw [List.map_cons, List.foldl_cons, hmeet, ih _ fun e he => h e (List.mem_cons_of_mem d he),
      (h d List.mem_cons_self).lines_union, List.flatMap_cons, Distinct.union_append]

end Fact

/-! ## The order of the kinds -/

namespace Artifact

/-- A kind that is added comes last, unless it is there. -/
theorem kinds_addFact (a : Artifact) (f : Fact) :
    (a.addFact f).value.facts.kinds = Distinct.insert a.facts.kinds f.kind := by
  have hput (facts : List Fact) :
      (a.put f.kind facts).facts.kinds = Distinct.insert a.facts.kinds f.kind := by
    rw [Distinct.insert]
    simp only [List.contains_iff_mem]
    exact a.facts.kinds_put f.kind facts
  rcases value_addFact a f with h | ⟨h, hsame⟩
  · rw [h, hput]
  · -- nothing changed, so the kind had a fact before
    have hmem : f.kind ∈ a.facts.kinds := by
      rw [← FactStore.contains_iff_mem_kinds, FactStore.contains]
      have hne : a.factsOf f.kind ≠ [] := hsame ▸ MergePolicy.absorb_ne_nil _ f
      cases hget : a.facts.get? f.kind with
      | some facts => rfl
      | none =>
        refine absurd ?_ hne
        rw [factsOf, FactStore.factsOf, hget]
        rfl
    rw [h, Distinct.insert_of_contains (List.contains_iff_mem.2 hmem)]

theorem kinds_addAll (a : Artifact) (fs : List Fact) :
    (a.addAll fs).facts.kinds = Distinct.union a.facts.kinds (fs.map (·.kind)) := by
  induction fs generalizing a with
  | nil => rfl
  | cons f fs ih => rw [addAll_cons, ih, kinds_addFact, List.map_cons, Distinct.union_cons]

/-! ## Runs from nothing -/

/-- What an artifact says that was told these facts in order, kind by kind. -/
structure Accumulated (policy : MergePolicy) (fs : List Fact) (a : Artifact) : Prop where
  /-- A kind is there if a fact of it was told. -/
  hasFact : ∀ k, a.hasFact k = true ↔ ∃ f ∈ fs, f.kind = k
  /-- Every file is there once, in the order in which they came. -/
  files : a.factsOf .filename = (fs.filterMap Fact.filename?).eraseDups.map .filename
  /-- One statement has every line of copyright once, in the order in which they came. -/
  copyright : (∃ f ∈ fs, f.kind = .copyright) → a.factsOf .copyright =
    [.copyright ⟨((fs.filterMap Fact.copyright?).flatMap (·.lines)).eraseDups⟩]
  /-- Of the clearing states the highest is there. -/
  clearingState : (∃ f ∈ fs, f.kind = .clearingState) →
    ∃ s, a.factsOf .clearingState = [.clearingState s] ∧ .clearingState s ∈ fs ∧
      ∀ t, .clearingState t ∈ fs → t ≤ s
  /-- Of any other kind the policy chooses one fact. -/
  other : ∀ k, k ≠ .filename → k ≠ .copyright → k ≠ .clearingState →
    a.factsOf k =
      match policy with
      | .overwrite => (fs.filter (·.kind = k)).getLast?.toList
      | .keepExisting | .strict => (fs.filter (·.kind = k)).head?.toList
  /-- The kinds stand in the order in which they first came. -/
  order : a.allFacts = (fs.map (·.kind)).eraseDups.flatMap a.factsOf

theorem exists_cons_of_kind {α : Type} {k : FactKind} {make : α → Fact} {xs : List α}
    {fs : List Fact} (hfs : fs.filter (·.kind = k) = xs.map make) (h : ∃ f ∈ fs, f.kind = k) :
    ∃ x rest, xs = x :: rest := by
  obtain ⟨f, hf, hk⟩ := h
  have hmem : f ∈ xs.map make := hfs ▸ List.mem_filter.2 ⟨hf, decide_eq_true hk⟩
  obtain ⟨x, hx, -⟩ := List.mem_map.1 hmem
  exact List.exists_cons_of_ne_nil (List.ne_nil_of_mem hx)

/-- Of a kind that holds only one the first fact meets the others in turn. -/
theorem factsOf_addAll_of_cons {a : Artifact} {k : FactKind} (hk : k ≠ .filename)
    (hnone : a.factsOf k = []) {fs rest : List Fact} {f : Fact}
    (hfs : fs.filter (·.kind = k) = f :: rest) :
    (a.addAll fs).factsOf k = [rest.foldl (Fact.meet (a.policy.ruleFor k)) f] := by
  have hkind : ∀ g ∈ f :: rest, g.kind = k := by
    intro g hg
    rw [← hfs] at hg
    simpa using List.of_mem_filter hg
  rw [factsOf_addAll, hfs, hnone, List.foldl_cons, MergePolicy.absorb_nil]
  exact MergePolicy.foldl_absorb_singleton hk (hkind f List.mem_cons_self)
    fun g hg => hkind g (List.mem_cons_of_mem f hg)

/-- An artifact about which nothing is known, under a policy. -/
def fresh (policy : MergePolicy) (source : String) : Artifact := { ofSource source with policy }

section

variable (policy : MergePolicy) (source : String) {fs : List Fact}

theorem kinds_addAll_fresh (fs : List Fact) :
    ((fresh policy source).addAll fs).facts.kinds = (fs.map (·.kind)).eraseDups :=
  (kinds_addAll _ fs).trans (Distinct.nil_union _)

theorem factsOf_addAll_fresh_filename (fs : List Fact) :
    ((fresh policy source).addAll fs).factsOf .filename =
      (fs.filterMap Fact.filename?).eraseDups.map .filename := by
  rw [factsOf_addAll, Fact.filter_filename, ← Distinct.nil_union]
  exact MergePolicy.foldl_absorb_filenames [] _

theorem factsOf_addAll_fresh_copyright (h : ∀ f ∈ fs, f.Made)
    (hmem : ∃ f ∈ fs, f.kind = .copyright) :
    ((fresh policy source).addAll fs).factsOf .copyright =
      [.copyright ⟨((fs.filterMap Fact.copyright?).flatMap (·.lines)).eraseDups⟩] := by
  have hfs := Fact.filter_copyright fs
  have hmade : ∀ c ∈ fs.filterMap Fact.copyright?, c.Made := by
    intro c hc
    have hcopyright : Fact.copyright c ∈ fs.filter (·.kind = .copyright) :=
      hfs ▸ List.mem_map_of_mem hc
    exact h _ (List.mem_of_mem_filter hcopyright)
  obtain ⟨c, rest, hstatements⟩ := exists_cons_of_kind hfs hmem
  rw [hstatements] at hfs hmade ⊢
  have hlines : Distinct.union [] c.lines = c.lines :=
    Distinct.nil_union_of_nodup (hmade c List.mem_cons_self).nodup
  rw [factsOf_addAll_of_cons (by decide) rfl hfs, List.flatMap_cons, ← Distinct.nil_union,
    Distinct.union_append, hlines]
  exact congrArg (fun f => [f])
    (Fact.foldl_meet_copyright c fun d hd => hmade d (List.mem_cons_of_mem c hd))

theorem factsOf_addAll_fresh_clearingState (hmem : ∃ f ∈ fs, f.kind = .clearingState) :
    ∃ s, ((fresh policy source).addAll fs).factsOf .clearingState = [.clearingState s] ∧
      .clearingState s ∈ fs ∧ ∀ t, .clearingState t ∈ fs → t ≤ s := by
  have hfs := Fact.filter_clearingState fs
  have hstate (s : ClearingState) :
      .clearingState s ∈ fs ↔ s ∈ fs.filterMap Fact.clearingState? := by
    have hmap : .clearingState s ∈ fs.filter (·.kind = .clearingState) ↔ .clearingState s ∈ fs := by
      rw [List.mem_filter]
      exact and_iff_left (decide_eq_true rfl)
    rw [← hmap, hfs, List.mem_map_of_injective fun _ _ => Fact.clearingState.inj]
  obtain ⟨first, rest, hstates⟩ := exists_cons_of_kind hfs hmem
  rw [hstates] at hfs hstate
  obtain ⟨top, htop, hle, hfold⟩ := Fact.foldl_meet_clearingState first rest
  refine ⟨top, ?_, (hstate top).2 htop, fun t ht => hle t ((hstate t).1 ht)⟩
  rw [factsOf_addAll_of_cons (by decide) rfl hfs]
  exact congrArg (fun f => [f]) hfold

theorem factsOf_addAll_fresh_other {k : FactKind} (hfile : k ≠ .filename)
    (hcopyright : k ≠ .copyright) (hstate : k ≠ .clearingState) (fs : List Fact) :
    ((fresh policy source).addAll fs).factsOf k =
      match policy with
      | .overwrite => (fs.filter (·.kind = k)).getLast?.toList
      | .keepExisting | .strict => (fs.filter (·.kind = k)).head?.toList := by
  have hrule : k.mergeRule = .overwrite := by
    cases k <;> first | rfl | contradiction
  cases hfs : fs.filter (·.kind = k) with
  | nil =>
    rw [factsOf_addAll, hfs]
    cases policy <;> rfl
  | cons f rest =>
    rw [factsOf_addAll_of_cons hfile rfl hfs]
    cases policy with
    | overwrite =>
      have hlast := Fact.foldl_meet_overwrite f rest
      simp only [fresh, MergePolicy.ruleFor, hrule, ← hlast, Option.toList_some]
    | keepExisting =>
      have hfirst := Fact.foldl_meet_of_stays .keepExisting (fun _ _ => rfl) f rest
      simp only [fresh, MergePolicy.ruleFor, hrule, hfirst, List.head?_cons, Option.toList_some]
    | strict =>
      have hfirst := Fact.foldl_meet_of_stays .rejectOnConflict (fun _ _ => rfl) f rest
      simp only [fresh, MergePolicy.ruleFor, hrule, hfirst, List.head?_cons, Option.toList_some]

/-- A run of additions leaves of every kind what the facts of the kind say together. -/
theorem accumulated_addFacts (h : ∀ f ∈ fs, f.Made) :
    Accumulated policy fs (fs.foldlM addFact (fresh policy source)).value where
  hasFact k := by
    have hkinds := kinds_addAll_fresh policy source fs
    show ((fresh policy source).addAll fs).facts.contains k = true ↔ _
    rw [FactStore.contains_iff_mem_kinds, hkinds, List.mem_eraseDups, List.mem_map]
  files := factsOf_addAll_fresh_filename policy source fs
  copyright := factsOf_addAll_fresh_copyright policy source h
  clearingState := factsOf_addAll_fresh_clearingState policy source
  other _ hfile hcopyright hstate :=
    factsOf_addAll_fresh_other policy source hfile hcopyright hstate fs
  order := by
    have hkinds := kinds_addAll_fresh policy source fs
    have hwell := wellFormed_addAll (a := fresh policy source) FactStore.wellFormed_empty fs
    exact hwell.toList_eq.trans (by rw [hkinds]; rfl)

end

end Artifact

namespace Samples

/-- What two scans tell about one archive. -/
def scans : List Fact := [
  .copyright (.ofText "(c) Ada\n(c) Bob"), .sourceUrl "https://one.example",
  .clearingState .projectApproved, .filename ⟨some "a.jar", none⟩,
  .copyright (.ofText "(c) Bob\n(c) Cy"), .sourceUrl "https://two.example",
  .clearingState .initial, .filename ⟨some "a.jar", none⟩, .filename (.ofHash "c0ffee")]

end Samples

open Samples in
/-- The second URL is refused; the lower state and the file that is known leave no trace. -/
theorem accumulated_addFacts_scans :
    (∀ f ∈ scans, f.Made) ∧
      Artifact.Accumulated .strict scans
        (scans.foldlM Artifact.addFact (.fresh .strict "scanner")).value ∧
      (scans.foldlM Artifact.addFact (.fresh .strict "scanner")).value.allFacts = [
        .copyright ⟨["(c) Ada", "(c) Bob", "(c) Cy"]⟩, .sourceUrl "https://one.example",
        .clearingState .projectApproved, .filename ⟨some "a.jar", none⟩,
        .filename (.ofHash "c0ffee")] := by
  have hmade : ∀ f ∈ scans, f.Made := by
    simp only [scans, List.forall_mem_cons]
    exact ⟨.ofText _, trivial, trivial, trivial, .ofText _, trivial, trivial, trivial, trivial,
      by simp⟩
  refine ⟨hmade, Artifact.accumulated_addFacts .strict "scanner" hmade, ?_⟩
  rfl

end Clearinghouse
