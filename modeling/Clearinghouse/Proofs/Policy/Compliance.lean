import Clearinghouse.Proofs.Artifact.Keeping
import Clearinghouse.Proofs.Artifact.Representation
import Clearinghouse.Reconcile

/-!
# Policies and merging

Two rules ask for what merging never takes away: a clearing that has come far enough, and a source
URL or the mark that an artifact is proprietary. Main statement: whatever the policies, a merged
artifact passes such a rule if one of the two does, so one more record brings no violation into an
artifact that is there (`Rule.Cumulative.passes_mergeWith_and_reconcile`). Licenses that are merged
in may be forbidden, so the third rule is not of this kind.

Of the clearing states of both the higher one is there, a source URL is there if one of the two
had one, and flags are set if they were set in one of the two.
-/

namespace Clearinghouse

namespace Rule

/-- The rule asks for what merging never takes away. -/
inductive Cumulative : Rule → Prop
  | minimumClearingState (minimum : ClearingState) : Cumulative (.minimumClearingState minimum)
  | sourceUrlRequired : Cumulative .sourceUrlRequired

end Rule

/-! ## What rules look at -/

/-- Facts under the kind of clearing states that take in others leave the higher state. -/
theorem MergePolicy.clearingState?_foldl_absorb (policy : MergePolicy) {facts new : List Fact}
    (h : Storable .clearingState facts) (h' : Storable .clearingState new) :
    (new.foldl policy.absorb facts).head?.bind (·.clearingState?) =
      Option.merge ClearingState.higher (facts.head?.bind (·.clearingState?))
        (new.head?.bind (·.clearingState?)) := by
  have hkind : FactKind.clearingState ≠ .filename := by decide
  rw [foldl_absorb_eq_merge h h' hkind]
  rcases h.eq_nil_or hkind with rfl | ⟨f, rfl, hf⟩
  · cases new.head? with
    | none => rfl
    | some g => exact (Option.merge_none_left).symm
  · obtain ⟨s, rfl⟩ := Fact.kind_eq_clearingState_iff.1 hf
    rcases h'.eq_nil_or hkind with rfl | ⟨g, rfl, hg⟩
    · rfl
    · obtain ⟨t, rfl⟩ := Fact.kind_eq_clearingState_iff.1 hg
      exact congrArg Fact.clearingState? (Fact.meet_ruleFor_clearingState policy s t)

namespace Artifact

section

variable {a b : Artifact}

theorem Tidy.clearingStateOf_mergeWith (ha : a.Tidy) (hb : b.Tidy) :
    Rule.clearingStateOf (a.mergeWith b).value =
      Option.merge ClearingState.higher (Rule.clearingStateOf a) (Rule.clearingStateOf b) := by
  rw [Rule.clearingStateOf, fact?_eq_head?, factsOf_mergeWith a hb.wellFormed,
    a.policy.clearingState?_foldl_absorb (ha.storable _) (hb.storable _)]
  rfl

theorem isProprietary_mergeWith (a b : Artifact) :
    (a.mergeWith b).value.isProprietary = (a.isProprietary || b.isProprietary) := by
  rw [isProprietary, flags_mergeWith, Flags.isSet_merge]
  rfl

theorem exists_fact?_iff (h : a.facts.WellFormed) {k : FactKind} :
    (∃ f, a.fact? k = some f) ↔ a.hasFact k := by
  rw [hasFact_iff_factsOf_ne_nil h, fact?_eq_head?]
  cases a.factsOf k <;> simp

/-! ## Merging -/

/-- A merged artifact meets a rule that asks for what merging never takes away if one of the two
meets it. -/
theorem Made.holds_mergeWith_iff (ha : a.Made) (hb : b.Made) {r : Rule} (hr : r.Cumulative) :
    r.Holds (a.mergeWith b).value ↔ r.Holds a ∨ r.Holds b := by
  cases hr with
  | minimumClearingState minimum =>
    simp only [Rule.Holds]
    rw [ha.tidy.clearingStateOf_mergeWith hb.tidy]
    cases Rule.clearingStateOf a <;> cases Rule.clearingStateOf b <;>
      simp [Option.merge, ClearingState.le_higher_iff]
  | sourceUrlRequired =>
    simp only [Rule.Holds]
    rw [exists_fact?_iff (ha.mergeWith hb).tidy.wellFormed, exists_fact?_iff ha.tidy.wellFormed,
      exists_fact?_iff hb.tidy.wellFormed, isProprietary_mergeWith,
      hasFact_mergeWith a hb.tidy.wellFormed, Bool.or_eq_true, Bool.or_eq_true, or_or_or_comm]

end

/-! ## Reconciling -/

/-- What violates the rule once one more record is there violated it before at the same place,
unless it is the record. -/
theorem violates_before_reconcileFrom {r : Rule} (hr : r.Cumulative) {incoming : Artifact}
    (hincoming : incoming.Made) {known : List Artifact} (hknown : ∀ a ∈ known, a.Made)
    (index : Nat) {i : Nat} {x : Artifact}
    (hx : (reconcileFrom index incoming known).value.1[i]? = some x) (hviolates : ¬ r.Holds x) :
    (∃ a, known[i]? = some a ∧ ¬ r.Holds a) ∨ i = known.length ∧ x = incoming := by
  induction known generalizing index i with
  | nil =>
    cases i with
    | zero => exact .inr ⟨rfl, (Option.some.inj hx).symm⟩
    | succ i => cases hx
  | cons a known ih =>
    obtain ⟨ha, hrest⟩ := List.forall_mem_cons.1 hknown
    unfold reconcileFrom at hx
    split at hx
    · cases i with
      | zero =>
        obtain rfl : (a.mergeWith incoming).value = x := Option.some.inj hx
        rw [ha.holds_mergeWith_iff hincoming hr, not_or] at hviolates
        exact .inl ⟨a, rfl, hviolates.1⟩
      | succ i => exact .inl ⟨x, hx, hviolates⟩
    · cases i with
      | zero =>
        obtain rfl : a = x := Option.some.inj hx
        exact .inl ⟨a, rfl, hviolates⟩
      | succ i =>
        rcases ih hrest (index + 1) hx with hbefore | ⟨rfl, rfl⟩
        · exact .inl hbefore
        · exact .inr ⟨rfl, rfl⟩

end Artifact

/-- A rule that asks for what merging never takes away is passed by a merged artifact if one of
the two passes it, and no artifact that is there comes to violate it through one more record. -/
theorem Rule.Cumulative.passes_mergeWith_and_reconcile {r : Rule} (hr : r.Cumulative) :
    (∀ {a b : Artifact}, a.Made → b.Made →
      (r.violation? (a.mergeWith b).value = none ↔
        r.violation? a = none ∨ r.violation? b = none)) ∧
    ∀ {known : List Artifact} {incoming : Artifact}, (∀ a ∈ known, a.Made) → incoming.Made →
      ∀ {i : Nat} {x : Artifact}, (reconcile known incoming).value.1[i]? = some x →
        r.violation? x ≠ none →
          (∃ a, known[i]? = some a ∧ r.violation? a ≠ none) ∨ i = known.length ∧ x = incoming := by
  simp only [ne_eq, violation?_eq_none_iff]
  exact ⟨fun ha hb => ha.holds_mergeWith_iff hb hr, fun hknown hincoming _ _ hx =>
    Artifact.violates_before_reconcileFrom hr hincoming hknown 0 hx⟩

namespace Samples

/-- A library with a source URL whose clearing has just begun. -/
def begun : Artifact :=
  ((Artifact.fresh .keepExisting "list").addCoordinate (.of "npm" "" "lib" "1.2")).addAll
    [.sourceUrl "https://one.example", .clearingState .initial]

/-- The same library after its review. -/
def reviewed : Artifact :=
  ((Artifact.fresh .strict "review").addCoordinate (.of "npm" "" "lib" "1.2")).addAll
    [.clearingState .projectApproved]

/-- Another library, of which nothing else is known. -/
def unknownLibrary : Artifact :=
  (Artifact.fresh .strict "list").addCoordinate (.of "npm" "" "left-pad" "1.0")

end Samples

open Samples in
/-- The record brings the clearing and the list the URL; the other library goes on violating. -/
theorem passes_mergeWith_and_reconcile_reviewed :
    let minimum := Rule.minimumClearingState .autoExtract
    begun.Made ∧ reviewed.Made ∧ unknownLibrary.Made ∧
      minimum.Cumulative ∧ Rule.sourceUrlRequired.Cumulative ∧
      minimum.violation? begun ≠ none ∧ Rule.sourceUrlRequired.violation? reviewed ≠ none ∧
      minimum.violation? (begun.mergeWith reviewed).value = none ∧
      Rule.sourceUrlRequired.violation? (begun.mergeWith reviewed).value = none ∧
      (reconcile [unknownLibrary, begun] reviewed).value.2 = .merged 1 ∧
      minimum.violation? unknownLibrary ≠ none ∧
      ∀ {i : Nat} {x : Artifact},
        (reconcile [unknownLibrary, begun] reviewed).value.1[i]? = some x →
          minimum.violation? x ≠ none →
            (∃ a, [unknownLibrary, begun][i]? = some a ∧ minimum.violation? a ≠ none) ∨
              i = 2 ∧ x = reviewed := by
  have hlist (policy : MergePolicy) (source : String) : (Artifact.fresh policy source).Made :=
    .setPolicy (.ofSource source) policy
  have hbegun : begun.Made := .addAll (.addCoordinate (hlist _ _) _) _
  have hreviewed : reviewed.Made := .addAll (.addCoordinate (hlist _ _) _) _
  have hunknown : unknownLibrary.Made := .addCoordinate (hlist _ _) _
  have hminimum := Rule.Cumulative.minimumClearingState .autoExtract
  have hsource := Rule.Cumulative.sourceUrlRequired
  have hknown : ∀ a ∈ [unknownLibrary, begun], a.Made := by simp [hunknown, hbegun]
  exact ⟨hbegun, hreviewed, hunknown, hminimum, hsource, by decide, by decide,
    (hminimum.passes_mergeWith_and_reconcile.1 hbegun hreviewed).2 (.inr rfl),
    (hsource.passes_mergeWith_and_reconcile.1 hbegun hreviewed).2 (.inl rfl), rfl, by decide,
    hminimum.passes_mergeWith_and_reconcile.2 hknown hreviewed⟩

end Clearinghouse
