import Clearinghouse.Proofs.PackageUrl.Weight

/-!
# What is passed on

Every step of reading a package URL passes a text on: as it is, or lighter than before. The steps
compose (`Passes.trans`, `Passes.append`), so if what comes out in the end weighs as much as what
went in, then no step has changed anything (`Passes.eq_and`).
-/

namespace Clearinghouse

open Text

/-- The text `cs` is passed on as `ds`: as it is, and then `P` is the case, or lighter. -/
def Passes (cs ds : List Char) (P : Prop) : Prop := (ds = cs ∧ P) ∨ weight ds < weight cs

namespace Passes

variable {cs ds es : List Char} {P Q : Prop}

theorem refl (cs : List Char) : Passes cs cs True := .inl ⟨rfl, trivial⟩

theorem weight_le (h : Passes cs ds P) : weight ds ≤ weight cs := by
  rcases h with ⟨rfl, -⟩ | h
  · exact Nat.le_refl _
  · exact Nat.le_of_lt h

/-- What is not lighter was passed on as it is. -/
theorem eq_and (h : Passes cs ds P) (hle : weight cs ≤ weight ds) : ds = cs ∧ P :=
  h.resolve_right (Nat.not_lt.2 hle)

theorem imp (h : Passes cs ds P) (hPQ : ds = cs → P → Q) : Passes cs ds Q :=
  Or.imp_left (fun hP => ⟨hP.1, hPQ hP.1 hP.2⟩) h

theorem trans (h : Passes cs ds P) (h' : Passes ds es Q) : Passes cs es (P ∧ Q) := by
  have hle := h.weight_le
  rcases h' with ⟨rfl, hQ⟩ | hlt
  · exact h.imp fun _ hP => ⟨hP, hQ⟩
  · exact .inr (by omega)

theorem append {cs' ds' : List Char} (h : Passes cs ds P) (h' : Passes cs' ds' Q) :
    Passes (cs ++ cs') (ds ++ ds') (P ∧ Q) := by
  have hle := h.weight_le
  have hle' := h'.weight_le
  unfold Passes
  rw [weight_append, weight_append]
  rcases h with ⟨rfl, hP⟩ | hlt
  · rcases h' with ⟨rfl, hQ⟩ | hlt'
    · exact .inl ⟨rfl, hP, hQ⟩
    · exact .inr (by omega)
  · exact .inr (by omega)

theorem of_append_left {front : List Char} (h : Passes (front ++ cs) (front ++ ds) P) :
    Passes cs ds P := by
  rcases h with ⟨heq, hP⟩ | hlt
  · exact .inl ⟨List.append_cancel_left heq, hP⟩
  · rw [weight_append, weight_append] at hlt
    exact .inr (by omega)

/-- What is cut off has weight, if it is anything. -/
theorem of_append {front cs tail : List Char} (hfront : front = [] ∨ 0 < weight front)
    (htail : tail = [] ∨ 0 < weight tail) : Passes (front ++ cs ++ tail) cs True := by
  rw [Passes, weight_append, weight_append]
  rcases hfront with rfl | hfront
  · rcases htail with rfl | htail
    · exact .inl ⟨by simp, trivial⟩
    · exact .inr (by omega)
  · exact .inr (by omega)

/-- Marks can be stripped from the front. -/
theorem of_dropWhile (mark : Char) (hmark : 0 < charWeight mark) (cs : List Char) :
    Passes cs (cs.dropWhile (· == mark)) True := by
  have hmarks : ∀ c ∈ cs.takeWhile (· == mark), c = mark := fun c hc =>
    beq_iff_eq.1 (List.mem_takeWhile_imp (p := (· == mark)) hc)
  have h : Passes (cs.takeWhile (· == mark) ++ cs.dropWhile (· == mark) ++ []) _ True :=
    of_append (nil_or_weight_pos hmark hmarks) (.inl rfl)
  rwa [List.append_nil, List.takeWhile_append_dropWhile] at h

/-- Marks can be stripped from both ends. -/
theorem of_trimMatches (mark : Char) (hmark : 0 < charWeight mark) (cs : List Char) :
    Passes (cs.dropWhile (· == mark)) (trimMatches (· == mark) cs) True := by
  have hmarks : ∀ c ∈ (cs.dropWhile (· == mark)).rtakeWhile (· == mark), c = mark := fun c hc =>
    beq_iff_eq.1 (List.mem_rtakeWhile_imp (p := (· == mark)) hc)
  have hcs : trimMatches (· == mark) cs ++ (cs.dropWhile (· == mark)).rtakeWhile (· == mark) =
      cs.dropWhile (· == mark) :=
    List.rdropWhile_append_rtakeWhile
  have h : Passes ([] ++ trimMatches (· == mark) cs ++ _) _ True :=
    of_append (.inl rfl) (nil_or_weight_pos hmark hmarks)
  rwa [List.nil_append, hcs] at h

theorem of_decode? {s t : String} (h : Percent.decode? s = some t) :
    Passes s.toList t.toList (Percent.decode? s = some s) := by
  rcases Percent.decode?_eq_or h with rfl | hle
  · exact .inl ⟨rfl, h⟩
  · exact .inr (by omega)

end Passes

end Clearinghouse
