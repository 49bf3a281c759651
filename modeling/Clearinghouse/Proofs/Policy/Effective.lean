import Clearinghouse.Policy.Rule
import Clearinghouse.Proofs.License.Ids

/-!
# The license that counts

Which licenses of an artifact count is said here of its facts and of the leaves of their trees
(`Counts`): the overridden license, else the configured one, else what was declared and what was
observed, where a license without a leaf that says something is as good as none. The license that
an artifact is under joins those that count, so a rule that forbids licenses, which looks at the
ids only, finds the ids in them (`hasId_effectiveLicense?`).
-/

namespace Clearinghouse.Artifact

open LicenseTree

/-- A fact of the kind gives the license, and some leaf of it says something. -/
structure States (a : Artifact) (k : FactKind) (t : LicenseTree) : Prop where
  fact : ∃ f, a.fact? k = some f ∧ f.license? = some t
  leaf : ∃ l, IsLeaf l t ∧ l.isEmpty = false

/-- The license is one of those that count. -/
inductive Counts (a : Artifact) (t : LicenseTree) : Prop
  | overridden (h : a.States .overriddenLicense t)
  | configured (hoverridden : ∀ u, ¬ a.States .overriddenLicense u)
      (h : a.States .configuredLicense t)
  | detected (hoverridden : ∀ u, ¬ a.States .overriddenLicense u)
      (hconfigured : ∀ u, ¬ a.States .configuredLicense u)
      (h : a.States .declaredLicense t ∨ a.States .observedLicense t)

variable {a : Artifact} {t : LicenseTree} {id : String}

/-! ## Licenses that are stated -/

theorem states_iff {k : FactKind} : a.States k t ↔ a.license? k = some t := by
  rw [license?, Option.filter_eq_some_iff, Option.bind_eq_some_iff, Bool.not_eq_true',
    ← exists_isLeaf_iff]
  exact ⟨fun h => ⟨h.fact, h.leaf⟩, fun h => ⟨h.1, h.2⟩⟩

theorem forall_not_states_iff {k : FactKind} : (∀ t, ¬ a.States k t) ↔ a.license? k = none := by
  simp only [states_iff, Option.eq_none_iff_forall_ne_some, Ne]

/-! ## Licenses that count -/

theorem counts_of_overridden {u : LicenseTree} (h : a.license? .overriddenLicense = some u) :
    a.Counts t ↔ t = u := by
  have hstates := states_iff.2 h
  constructor
  · rintro (ht | ⟨hnone, -⟩ | ⟨hnone, -, -⟩)
    · rw [states_iff, h, Option.some.injEq] at ht
      exact ht.symm
    · exact absurd hstates (hnone u)
    · exact absurd hstates (hnone u)
  · rintro rfl
    exact .overridden hstates

theorem counts_of_configured {u : LicenseTree} (hoverridden : a.license? .overriddenLicense = none)
    (h : a.license? .configuredLicense = some u) : a.Counts t ↔ t = u := by
  have hstates := states_iff.2 h
  have hnone := forall_not_states_iff.2 hoverridden
  constructor
  · rintro (ht | ⟨-, ht⟩ | ⟨-, hunset, -⟩)
    · exact absurd ht (hnone t)
    · rw [states_iff, h, Option.some.injEq] at ht
      exact ht.symm
    · exact absurd hstates (hunset u)
  · rintro rfl
    exact .configured hnone hstates

theorem counts_of_detected (hoverridden : a.license? .overriddenLicense = none)
    (hconfigured : a.license? .configuredLicense = none) :
    a.Counts t ↔
      t ∈ (a.license? .declaredLicense).toList ++ (a.license? .observedLicense).toList := by
  have hnone := forall_not_states_iff.2 hoverridden
  have hunset := forall_not_states_iff.2 hconfigured
  rw [List.mem_append, Option.mem_toList, Option.mem_toList, ← states_iff, ← states_iff]
  constructor
  · rintro (ht | ⟨-, ht⟩ | ⟨-, -, ht⟩)
    · exact absurd ht (hnone t)
    · exact absurd ht (hunset t)
    · exact ht
  · exact .detected hnone hunset

/-! ## Forbidden ids -/

/-- The ids in what was declared and observed are those in both. -/
theorem hasId_detectedLicense? :
    (∃ t, a.detectedLicense? = some t ∧ HasId id t) ↔
      ∃ t ∈ (a.license? .declaredLicense).toList ++ (a.license? .observedLicense).toList,
        HasId id t := by
  unfold detectedLicense?
  cases a.license? .declaredLicense with
  | none => cases a.license? .observedLicense <;> simp
  | some declared =>
    cases a.license? .observedLicense with
    | none => simp
    | some observed =>
      simp only [Option.toList_some, List.singleton_append, List.mem_cons, List.not_mem_nil,
        or_false, exists_eq_or_imp, exists_eq_left]
      split
      · rename_i heq
        simp [hasId_congr heq]
      · simp [hasId_statement]

/-- The ids in the license that an artifact is under are those in the licenses that count. -/
theorem hasId_effectiveLicense? :
    (∃ t, a.effectiveLicense? = some t ∧ HasId id t) ↔ ∃ t, a.Counts t ∧ HasId id t := by
  unfold effectiveLicense?
  cases hoverridden : a.license? .overriddenLicense with
  | some t => simp [counts_of_overridden hoverridden]
  | none =>
    cases hconfigured : a.license? .configuredLicense with
    | some t => simp [counts_of_configured hoverridden hconfigured]
    | none =>
      simp only [counts_of_detected hoverridden hconfigured]
      exact hasId_detectedLicense?

/-- Licenses are forbidden by their ids. -/
theorem forbiddenLicense_holds_iff_counts {ids : List String} :
    (Rule.forbiddenLicense ids).Holds a ↔ ∀ id ∈ ids, ¬ ∃ t, a.Counts t ∧ HasId id t := by
  constructor
  · intro hholds id hid hhas
    obtain ⟨t, ht, l, hl, rfl⟩ := hasId_effectiveLicense?.2 hhas
    exact hholds t ht l hl hid
  · intro hnone t ht l hl hid
    exact hnone l.id hid (hasId_effectiveLicense?.1 ⟨t, ht, l, hl, rfl⟩)

end Clearinghouse.Artifact
