import Clearinghouse.Artifact.Typed
import Clearinghouse.Proofs.Fact.Meeting

/-!
# Equal facts

Facts are equal if they are of one kind and their values are (`ofValue_beq`), so equality of facts
is an equivalence. It leaves out what comes along with the id of a license and how a path is
written. Main statement: what comes of a meeting does not depend on what equality leaves out
(`meet_congr`).
-/

namespace Clearinghouse

/-! ## Values -/

namespace FactKind

instance : (k : FactKind) → BEq k.Value
  | declaredLicense | observedLicense | overriddenLicense | configuredLicense =>
    inferInstanceAs (BEq LicenseTree)
  | sourceUrl | releaseTagUrl => inferInstanceAs (BEq String)
  | softwareHeritageId => inferInstanceAs (BEq SoftwareHeritageId)
  | clearingState => inferInstanceAs (BEq ClearingState)
  | changeStatus => inferInstanceAs (BEq ChangeStatus)
  | cpe => inferInstanceAs (BEq Cpe)
  | filename => inferInstanceAs (BEq FileName)
  | sourceFile | clearingDocument => inferInstanceAs (BEq Path)
  | copyright => inferInstanceAs (BEq Copyright)
  | matchingMetadata => inferInstanceAs (BEq MatchState)

instance : (k : FactKind) → EquivBEq k.Value
  | declaredLicense | observedLicense | overriddenLicense | configuredLicense =>
    inferInstanceAs (EquivBEq LicenseTree)
  | sourceUrl | releaseTagUrl => inferInstanceAs (EquivBEq String)
  | softwareHeritageId => inferInstanceAs (EquivBEq SoftwareHeritageId)
  | clearingState => inferInstanceAs (EquivBEq ClearingState)
  | changeStatus => inferInstanceAs (EquivBEq ChangeStatus)
  | cpe => inferInstanceAs (EquivBEq Cpe)
  | filename => inferInstanceAs (EquivBEq FileName)
  | sourceFile | clearingDocument => inferInstanceAs (EquivBEq Path)
  | copyright => inferInstanceAs (EquivBEq Copyright)
  | matchingMetadata => inferInstanceAs (EquivBEq MatchState)

end FactKind

namespace Fact

/-! ## Facts -/

theorem kind_ofValue (k : FactKind) (v : k.Value) : (ofValue k v).kind = k := by cases k <;> rfl

/-- Facts of one kind are equal if their values are. -/
theorem ofValue_beq (k : FactKind) (v w : k.Value) : (ofValue k v == ofValue k w) = (v == w) := by
  cases k <;> rfl

/-- Equal facts are of one kind. -/
theorem kind_eq_of_beq {f g : Fact} (h : (f == g) = true) : f.kind = g.kind := by
  cases f <;> cases g <;> first | rfl | cases h

theorem exists_values_of_beq {f g : Fact} (h : (f == g) = true) :
    ∃ (k : FactKind) (v w : k.Value), f = ofValue k v ∧ g = ofValue k w ∧ (v == w) = true := by
  have hkind := kind_eq_of_beq h
  generalize hk : g.kind = k at hkind
  obtain ⟨v, rfl⟩ := exists_ofValue hkind
  obtain ⟨w, rfl⟩ := exists_ofValue hk
  exact ⟨k, v, w, rfl, rfl, (ofValue_beq k v w).symm.trans h⟩

instance : PartialEquivBEq Fact where
  symm h := by
    obtain ⟨k, v, w, rfl, rfl, hvw⟩ := exists_values_of_beq h
    rw [ofValue_beq]
    exact BEq.symm hvw
  trans h h' := by
    obtain ⟨k, v, w, rfl, rfl, hvw⟩ := exists_values_of_beq h
    obtain ⟨u, rfl⟩ := exists_ofValue ((kind_eq_of_beq h').symm.trans (kind_ofValue k w))
    rw [ofValue_beq] at h' ⊢
    exact BEq.trans hvw h'

instance : EquivBEq Fact where

/-- Of the kinds that have a rule of their own, equality leaves nothing out. -/
theorem eq_of_beq_of_mergeRule_ne {f g : Fact} (h : (f == g) = true)
    (hrule : f.kind.mergeRule ≠ .overwrite) : f = g := by
  obtain ⟨k, v, w, rfl, rfl, hvw⟩ := exists_values_of_beq h
  rw [kind_ofValue] at hrule
  cases k with
  | clearingState => exact congrArg clearingState (eq_of_beq (α := ClearingState) hvw)
  | copyright => exact congrArg copyright (eq_of_beq (α := Copyright) hvw)
  | filename => exact congrArg filename (eq_of_beq (α := FileName) hvw)
  | _ => exact absurd rfl hrule

/-- What comes of a meeting does not depend on what equality leaves out. -/
theorem meet_congr {rule : MergeRule} {k : FactKind} {f f' g g' : Fact} (hf : f.kind = k)
    (hg : g.kind = k) (hff' : (f == f') = true) (hgg' : (g == g') = true) :
    (meet rule f g == meet rule f' g') = true := by
  -- a rule that looks at values looks only at those of which equality leaves nothing out
  have hplain (hrule : k.mergeRule ≠ .overwrite) :
      (meet rule f g == meet rule f' g') = true := by
    rw [eq_of_beq_of_mergeRule_ne hff' (hf ▸ hrule), eq_of_beq_of_mergeRule_ne hgg' (hg ▸ hrule)]
    exact beq_self _
  have hg' : g'.kind = k := (kind_eq_of_beq hgg').symm.trans hg
  cases rule with
  | overwrite => exact hgg'
  | keepExisting | rejectOnConflict => exact hff'
  | keepHigher =>
    by_cases hk : k = .clearingState
    · exact hplain (hk ▸ by decide)
    · have hlower := isLowerThan_of_kind_ne (hg.trans_ne hk) f
      have hlower' := isLowerThan_of_kind_ne (hg'.trans_ne hk) f'
      simpa only [meet, hlower, hlower', Bool.false_eq_true, if_false] using hgg'
  | union =>
    by_cases hk : k = .copyright
    · exact hplain (hk ▸ by decide)
    · have hunite := unite_of_kind_ne (hg.trans_ne hk) f
      have hunite' := unite_of_kind_ne (hg'.trans_ne hk) f'
      simpa only [meet, hunite, hunite'] using hgg'

end Fact

end Clearinghouse
