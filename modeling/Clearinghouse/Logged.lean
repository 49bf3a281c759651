/-!
# Values with a log

A computation that has something to report along the way gives its value together with the
reports, in order. Reports never influence the value (`value_foldlM`).
-/

namespace Clearinghouse

/-- A value, and what was reported while it was made. -/
structure Logged (ω : Type) (α : Type) where
  value : α
  log : List ω

namespace Logged

variable {ω α β : Type}

instance : Monad (Logged ω) where
  pure a := ⟨a, []⟩
  bind x f := ⟨(f x.value).value, x.log ++ (f x.value).log⟩

/-- Report something. -/
def report (message : ω) : Logged ω Unit := ⟨(), [message]⟩

@[simp] theorem value_pure (a : α) : (pure a : Logged ω α).value = a := rfl

@[simp] theorem value_bind (x : Logged ω α) (f : α → Logged ω β) :
    (x >>= f).value = (f x.value).value := rfl

@[simp] theorem value_map (f : α → β) (x : Logged ω α) : (f <$> x).value = f x.value := rfl

@[simp] theorem log_pure (a : α) : (pure a : Logged ω α).log = [] := rfl

@[simp] theorem log_bind (x : Logged ω α) (f : α → Logged ω β) :
    (x >>= f).log = x.log ++ (f x.value).log := rfl

/-- The value of a loop is the loop over the values. -/
@[simp] theorem value_foldlM (f : α → β → Logged ω α) (a : α) (bs : List β) :
    (bs.foldlM f a).value = bs.foldl (fun a b => (f a b).value) a := by
  induction bs generalizing a with
  | nil => rfl
  | cons b bs ih => rw [List.foldlM_cons, value_bind, ih]; rfl

end Logged

end Clearinghouse
