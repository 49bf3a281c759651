import Clearinghouse.Error
import Mathlib.Data.List.Forall2

/-!
# Results

What is done in steps gives a result if every step does (`bind_eq_ok_iff`), and what is done for
every element of a list gives the list of the single results (`mapM_eq_ok_iff`).
-/

namespace Clearinghouse

variable {ε α β : Type}

theorem bind_eq_ok_iff {x : Except ε α} {f : α → Except ε β} {b : β} :
    x >>= f = .ok b ↔ ∃ a, x = .ok a ∧ f a = .ok b := by
  cases x <;> simp [bind, Except.bind]

/-- A step and what follows succeed if the step does and what follows does, whatever the step
gives. -/
theorem exists_bind_iff {x : Except ε α} {f : α → Except ε β} {P Q : Prop}
    (hx : (∃ a, x = .ok a) ↔ P) (hf : ∀ a, (∃ b, f a = .ok b) ↔ Q) :
    (∃ b, x >>= f = .ok b) ↔ P ∧ Q := by
  simp only [bind_eq_ok_iff]
  constructor
  · rintro ⟨b, a, ha, hb⟩
    exact ⟨hx.1 ⟨a, ha⟩, (hf a).1 ⟨b, hb⟩⟩
  · rintro ⟨hp, hq⟩
    obtain ⟨a, ha⟩ := hx.2 hp
    obtain ⟨b, hb⟩ := (hf a).2 hq
    exact ⟨b, a, ha, hb⟩

/-- A check stands before what succeeds if the check does not fail and the rest succeeds. -/
theorem check_eq_ok_iff {γ : Type} {c : Prop} [Decidable c] {e : ε} {f : γ → Except ε α}
    {x : Except ε α} {a : α} :
    (if c then (.error e : Except ε γ) >>= f else x) = .ok a ↔ ¬ c ∧ x = .ok a := by
  by_cases h : c
  · simp [h, bind, Except.bind]
  · simp [h]

theorem map_eq_ok_iff {x : Except ε α} {f : α → β} {b : β} :
    x.map f = .ok b ↔ ∃ a, x = .ok a ∧ f a = b := by
  cases x <;> simp [Except.map]

theorem exists_error_iff {x : Except ε α} : (∃ e, x = .error e) ↔ ¬ ∃ a, x = .ok a := by
  cases x <;> simp

theorem inContext_eq_ok_iff {context : String} {x : Except Error α} {a : α} :
    inContext context x = .ok a ↔ x = .ok a := by
  cases x <;> simp [inContext, Except.mapError]

theorem mapM_eq_ok_iff {f : α → Except ε β} {as : List α} {bs : List β} :
    as.mapM f = .ok bs ↔ List.Forall₂ (fun a b => f a = .ok b) as bs := by
  induction as generalizing bs with
  | nil =>
    rw [List.mapM_nil, List.forall₂_nil_left_iff]
    exact ⟨fun h => (Except.ok.inj h).symm, fun h => congrArg Except.ok h.symm⟩
  | cons a as ih =>
    rw [List.mapM_cons, bind_eq_ok_iff, List.forall₂_cons_left_iff]
    simp only [bind_eq_ok_iff, ih]
    constructor
    · rintro ⟨b, hb, bs, hbs, heq⟩
      exact ⟨b, bs, hb, hbs, (Except.ok.inj heq).symm⟩
    · rintro ⟨b, bs, hb, hbs, rfl⟩
      exact ⟨b, hb, bs, hbs, rfl⟩

/-- Every element has a partner if all of them have one together. -/
theorem exists_forall₂_iff {R : α → β → Prop} {as : List α} :
    (∃ bs, List.Forall₂ R as bs) ↔ ∀ a ∈ as, ∃ b, R a b := by
  induction as with
  | nil => simp
  | cons a as ih =>
    rw [List.forall_mem_cons, ← ih]
    constructor
    · rintro ⟨bs, h⟩
      obtain ⟨b, bs, hb, hbs, -⟩ := List.forall₂_cons_left_iff.1 h
      exact ⟨⟨b, hb⟩, bs, hbs⟩
    · rintro ⟨⟨b, hb⟩, bs, hbs⟩
      exact ⟨b :: bs, .cons hb hbs⟩

end Clearinghouse
