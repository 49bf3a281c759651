import Clearinghouse.Proofs.Artifact.Additions
import Clearinghouse.Proofs.Artifact.Representation

/-!
# Refused facts

A fact is refused by a strict artifact only, and only if it would overwrite another fact. Main
statement: a refusal leaves the artifact as it was and names the stored fact and the incoming one,
and a fact that is taken bears on nothing but its kind (`Made.amended_tryAddInPlace`).

Adding in place comes to adding (`run_tryAddInPlace`): nothing was changed by the time a fact is
refused, so the fact that is looked up for the report is the one that was met.
-/

namespace Clearinghouse

/-! ## Stores -/

namespace FactStore

/-- Storing the facts of a kind once more changes nothing. -/
theorem putSlot_of_findSlot? {k : FactKind} {facts : List Fact}
    {slots : List (FactKind × List Fact)} (h : findSlot? k slots = some facts) :
    putSlot k facts slots = slots := by
  induction slots with
  | nil => cases h
  | cons first slots ih =>
    obtain ⟨k', facts'⟩ := first
    rw [findSlot?] at h
    rw [putSlot]
    split at h
    · rename_i hk
      rw [if_pos hk, hk, Option.some.inj h]
    · rename_i hk
      rw [if_neg hk, ih h]

theorem put_factsOf_self {s : FactStore} {k : FactKind} (h : s.factsOf k ≠ []) :
    s.put k (s.factsOf k) = s := by
  cases hget : s.get? k with
  | none =>
    rw [factsOf, hget] at h
    exact absurd rfl h
  | some facts =>
    rw [factsOf, hget]
    exact congrArg FactStore.mk (putSlot_of_findSlot? hget)

theorem filter_putSlot (k : FactKind) (facts : List Fact) (slots : List (FactKind × List Fact)) :
    (putSlot k facts slots).filter (·.1 ≠ k) = slots.filter (·.1 ≠ k) := by
  induction slots with
  | nil => simp [putSlot]
  | cons first slots ih => grind [putSlot]

/-- What is stored under a kind bears on no other kind, nor on the order of the others. -/
theorem erase_put (s : FactStore) (k : FactKind) (facts : List Fact) :
    (s.put k facts).erase k = s.erase k :=
  congrArg FactStore.mk (filter_putSlot k facts s.slots)

end FactStore

/-! ## Refusing -/

/-- A policy rejects facts of a kind if it is strict and the kind would be overwritten. -/
theorem MergePolicy.ruleFor_eq_rejectOnConflict_iff {policy : MergePolicy} {k : FactKind} :
    policy.ruleFor k = .rejectOnConflict ↔ policy = .strict ∧ k.mergeRule = .overwrite := by
  cases policy <;> cases k <;> decide

/-- A fact that meets another one of its kind is refused if the rule rejects it and they differ. -/
theorem Fact.mergeWith_eq_conflict_iff {f g incoming : Fact} {rule : MergeRule}
    (hk : f.kind = g.kind) :
    f.mergeWith g rule = .conflict incoming ↔
      rule = .rejectOnConflict ∧ (f == g) = false ∧ incoming = f := by
  unfold mergeWith
  rw [if_neg (not_not.2 hk)]
  cases rule with
  | rejectOnConflict => cases f == g <;> simp [eq_comm]
  | keepHigher => cases f.isLowerThan g <;> simp
  | overwrite | keepExisting | union => simp

namespace Artifact

variable {a b : Artifact} {f : Fact}

/-- A fact that meets a stored one is refused if the meeting is a conflict. -/
theorem tryAddFact_eq_error_iff_of_stored (hk : f.kind ≠ .filename) {stored : Fact}
    (h : a.factsOf f.kind = [stored]) {c : FactConflict} :
    a.tryAddFact f = .error c ↔
      ∃ incoming, f.mergeWith stored (a.policy.ruleFor f.kind) = .conflict incoming ∧
        c = ⟨f.kind, stored, incoming⟩ := by
  have hfact : a.fact? f.kind = some stored := by rw [fact?_eq_head?, h]; rfl
  rw [tryAddFact, if_neg (by simp [FactKind.isMultiValued_eq_false hk]), hfact]
  cases hmerge : f.mergeWith stored (a.policy.ruleFor f.kind) with
  | replace merged => simp [hmerge]
  | keep => simp [hmerge]
  | conflict incoming =>
    simp only [hmerge, Except.error.injEq, Fact.MergeOutcome.conflict.injEq, exists_eq_left']
    exact eq_comm

/-- A fact is refused by a strict artifact if it would overwrite a fact that differs from it. -/
theorem tryAddFact_eq_error_iff (h : Storable f.kind (a.factsOf f.kind)) {c : FactConflict} :
    a.tryAddFact f = .error c ↔ a.policy = .strict ∧ f.kind.mergeRule = .overwrite ∧
      ∃ stored, a.factsOf f.kind = [stored] ∧ (f == stored) = false ∧ c = ⟨f.kind, stored, f⟩ := by
  by_cases hfile : f.kind = .filename
  · -- files are gathered, whatever the policy
    rw [tryAddFact, hfile]
    simp [FactKind.mergeRule, FactKind.isMultiValued]
  rcases h.eq_nil_or hfile with hnone | ⟨stored, hstored, hkind⟩
  · have hfact : a.fact? f.kind = none := by rw [fact?_eq_head?, hnone]; rfl
    rw [tryAddFact, if_neg (by simp [FactKind.isMultiValued_eq_false hfile]), hfact, hnone]
    simp
  · simp only [tryAddFact_eq_error_iff_of_stored hfile hstored,
      Fact.mergeWith_eq_conflict_iff hkind.symm, MergePolicy.ruleFor_eq_rejectOnConflict_iff,
      hstored]
    constructor
    · rintro ⟨_, ⟨⟨hstrict, hrule⟩, hdiffer, rfl⟩, rfl⟩
      exact ⟨hstrict, hrule, stored, rfl, hdiffer, rfl⟩
    · rintro ⟨hstrict, hrule, _, heq, hdiffer, rfl⟩
      obtain rfl := (List.cons.inj heq).1
      exact ⟨f, ⟨⟨hstrict, hrule⟩, hdiffer, rfl⟩, rfl⟩

theorem exists_tryAddFact_eq_error_iff (h : Storable f.kind (a.factsOf f.kind)) :
    (∃ c, a.tryAddFact f = .error c) ↔ a.policy = .strict ∧ f.kind.mergeRule = .overwrite ∧
      ∃ stored ∈ a.factsOf f.kind, (f == stored) = false := by
  simp only [tryAddFact_eq_error_iff h]
  constructor
  · rintro ⟨_, hstrict, hrule, stored, hstored, hdiffer, rfl⟩
    exact ⟨hstrict, hrule, stored, hstored ▸ List.mem_cons_self, hdiffer⟩
  · rintro ⟨hstrict, hrule, stored, hmem, hdiffer⟩
    have hfile : f.kind ≠ .filename := by
      intro hfile
      rw [hfile] at hrule
      cases hrule
    rcases h.eq_nil_or hfile with hnone | ⟨g, hg, -⟩
    · rw [hnone] at hmem
      cases hmem
    · rw [hg, List.mem_singleton] at hmem
      exact ⟨_, hstrict, hrule, stored, hmem ▸ hg, hdiffer, rfl⟩

/-- A fact that is taken bears only on the facts of its kind, and leaves one there. -/
theorem of_tryAddFact (h : a.tryAddFact f = .ok b) :
    Frame a b ∧ b.facts.erase f.kind = a.facts.erase f.kind ∧ b.factsOf f.kind ≠ [] := by
  have hkept : b.factsOf f.kind = a.policy.absorb (a.factsOf f.kind) f := by
    rw [← value_addFact_of_tryAddFact h, factsOf_addFact, if_pos rfl]
  have herase : b.facts.erase f.kind = a.facts.erase f.kind := by
    rw [← value_addFact_of_tryAddFact h]
    rcases value_addFact a f with hput | ⟨hsame, -⟩
    · rw [hput]
      exact a.facts.erase_put f.kind _
    · rw [hsame]
  refine ⟨?_, herase, ?_⟩
  · rw [← value_addFact_of_tryAddFact h]
    exact frame_addFact a f
  · rw [hkept]
    exact MergePolicy.absorb_ne_nil _ f

/-! ## In place -/

theorem run_get_bind {α : Type} (act : Artifact → Amending α) (a : Artifact) :
    (get >>= act).run.run a = (act a).run.run a := rfl

/-- Adding in place leaves what adding gives, or refuses the fact and leaves the artifact. -/
theorem run_tryAddInPlace (a : Artifact) (f : Fact) :
    (tryAddInPlace f).run.run a =
      match a.tryAddFact f with
      | .ok b => (.ok (), b)
      | .error c => (.error c, a) := by
  rw [tryAddInPlace, run_get_bind, tryAddFact]
  by_cases hmulti : f.kind.isMultiValued
  · rw [if_pos hmulti, if_pos hmulti]
    dsimp only
    by_cases hthere : (a.factsOf f.kind).contains f
    · -- a file that is there is not stored again, which comes to the same
      have hne : a.factsOf f.kind ≠ [] := by
        obtain ⟨g, hg, -⟩ := List.contains_iff_exists_mem_beq.1 hthere
        exact List.ne_nil_of_mem hg
      have hsame : a.put f.kind (a.factsOf f.kind) = a := by
        rw [put, factsOf, FactStore.put_factsOf_self hne]
      rw [if_pos hthere, if_pos hthere, hsame]
      rfl
    · rw [if_neg hthere, if_neg hthere]
      rfl
  · rw [if_neg hmulti, if_neg hmulti]
    cases hfact : a.fact? f.kind with
    | none => rfl
    | some existing =>
      dsimp only
      cases f.mergeWith existing (a.policy.ruleFor f.kind) with
      | replace merged => rfl
      | keep => rfl
      | conflict incoming =>
        -- the stored fact is found again, for nothing was changed
        dsimp only
        rw [run_get_bind, hfact]
        rfl

/-- What an addition in place says, and what it leaves of the artifact. -/
structure Amended (a : Artifact) (f : Fact) (said : Except FactConflict Unit)
    (left : Artifact) : Prop where
  /-- A fact is refused by a strict artifact that has another one of a kind that would be
  overwritten. -/
  refuses_iff : (∃ c, said = .error c) ↔ a.policy = .strict ∧ f.kind.mergeRule = .overwrite ∧
    ∃ stored ∈ a.factsOf f.kind, (f == stored) = false
  /-- A refusal changes nothing, and reports the stored fact and the incoming one. -/
  refused : ∀ c, said = .error c →
    left = a ∧ ∃ stored, a.factsOf f.kind = [stored] ∧ c = ⟨f.kind, stored, f⟩
  /-- A fact that is taken leaves the other kinds as they stand, and all that is no fact. -/
  taken : said = .ok () →
    Frame a left ∧ left.facts.erase f.kind = a.facts.erase f.kind ∧ left.factsOf f.kind ≠ []

/-- Conflicts are reported exactly and change nothing, and what is taken bears on its kind only. -/
theorem Made.amended_tryAddInPlace (h : a.Made) (f : Fact) :
    a.Amended f ((tryAddInPlace f).run.run a).1 ((tryAddInPlace f).run.run a).2 := by
  have hstorable := h.tidy.storable f.kind
  have hiff := exists_tryAddFact_eq_error_iff hstorable
  rw [run_tryAddInPlace]
  cases htry : a.tryAddFact f with
  | ok b =>
    rw [htry] at hiff
    exact ⟨by simpa using hiff, fun c hc => (nomatch hc), fun _ => of_tryAddFact htry⟩
  | error c =>
    rw [htry] at hiff
    obtain ⟨-, -, stored, hstored, -, hc⟩ := (tryAddFact_eq_error_iff hstorable).1 htry
    refine ⟨by simpa using hiff, fun d hd => ⟨rfl, stored, hstored, ?_⟩, fun hok => nomatch hok⟩
    rw [← hc]
    exact (Except.error.inj hd).symm

end Artifact

namespace Samples

/-- An entry of a register that is strict. -/
def entry : Artifact :=
  (Artifact.fresh .strict "register").addAll
    [.declaredLicense (.license (.ofId "MIT")), .clearingState .initial]

end Samples

open Samples in
/-- Another license is refused. The same one under its long name is not another one and stays as
it was, and a clearing state is not overwritten but raised. -/
theorem amended_tryAddInPlace_entry :
    let isc : Fact := .declaredLicense (.license (.ofId "ISC"))
    let run (f : Fact) := (Artifact.tryAddInPlace f).run.run entry
    entry.Made ∧ entry.Amended isc (run isc).1 (run isc).2 ∧
      run isc = (.error ⟨.declaredLicense, .declaredLicense (.license (.ofId "MIT")), isc⟩, entry) ∧
      run (.declaredLicense (.license ⟨"MIT", some "MIT License", none⟩)) = (.ok (), entry) ∧
      run (.clearingState .osmApproved) =
        (.ok (), entry.put .clearingState [.clearingState .osmApproved]) := by
  have hmade : entry.Made := .addAll (.setPolicy (.ofSource "register") .strict) _
  exact ⟨hmade, hmade.amended_tryAddInPlace _, rfl, rfl, rfl⟩

end Clearinghouse
