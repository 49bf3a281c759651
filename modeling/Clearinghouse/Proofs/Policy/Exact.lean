import Clearinghouse.Proofs.Artifact.Representation
import Clearinghouse.Proofs.Policy.Effective
import Clearinghouse.Proofs.Policy.Verdict

/-!
# Exact reports

What a configured policy asks of an artifact is said here of the artifact's values and of the
leaves of its licenses (`PolicyConfig.Violates`), without the rules that check it. Main statement:
a report lists the artifacts that violate something, in order, each with the ids of what it
violates, and its exit code tells whether there is more than a missing source URL
(`Report.exact_check`).

There is one rule for every setting that asks for something, so each statement about rules is one
about the three settings (`exists_mem_rules_iff`).
-/

namespace Clearinghouse

/-- A missing source URL is no error, and all else is one. -/
theorem Rule.severity_eq_error_iff (r : Rule) :
    r.severity = .error ↔ r.id ≠ "source-url-required" := by
  cases r <;> simp [severity, Rule.id]

/-! ## What a policy asks for -/

namespace PolicyConfig

/-- The clearing has not begun, or has not come as far as it must. -/
def BelowMinimum (c : PolicyConfig) (a : Artifact) : Prop :=
  ∃ minimum, c.minimumClearingState = some minimum ∧
    ∀ s : ClearingState, a.ask? .clearingState = some s → s < minimum

/-- A leaf of a license that counts has a forbidden id. -/
def HasForbidden (c : PolicyConfig) (a : Artifact) : Prop :=
  ∃ id ∈ c.forbiddenLicenses, ∃ t, a.Counts t ∧ ∃ l,
    LicenseTree.IsLeaf l t ∧ l.isEmpty = false ∧ l.id = Text.trim id

/-- The sources must have a place and have none. -/
def LacksSource (c : PolicyConfig) (a : Artifact) : Prop :=
  c.requireSourceUrl = true ∧ a.isProprietary = false ∧ a.fact? .sourceUrl = none

/-- The artifact violates what the policy asks for under this id. -/
inductive Violates (c : PolicyConfig) (a : Artifact) : String → Prop
  | clearingState (h : c.BelowMinimum a) : Violates c a "minimum-clearing-state"
  | license (h : c.HasForbidden a) : Violates c a "forbidden-license"
  | sourceUrl (h : c.LacksSource a) : Violates c a "source-url-required"

/-- The ids in the order of the settings. -/
def ruleIds : List String := ["minimum-clearing-state", "forbidden-license", "source-url-required"]

/-! ## The rules of a policy -/

variable {c : PolicyConfig} {a : Artifact}

/-- There is one rule for every setting that asks for something. -/
theorem exists_mem_rules_iff {motive : Rule → Prop} :
    (∃ r ∈ c.rules, motive r) ↔
      (∃ minimum, c.minimumClearingState = some minimum ∧ motive (.minimumClearingState minimum)) ∨
      (c.forbiddenLicenses ≠ [] ∧
        motive (.forbiddenLicense (c.forbiddenLicenses.map Text.trim))) ∨
      (c.requireSourceUrl = true ∧ motive .sourceUrlRequired) := by
  obtain ⟨minimum, forbidden, url⟩ := c
  cases minimum <;> cases forbidden <;> cases url <;> simp [rules]

theorem sublist_ruleIds : (c.rules.map (·.id)).Sublist ruleIds := by
  obtain ⟨minimum, forbidden, url⟩ := c
  cases minimum <;> cases forbidden <;> cases url <;> simp [rules, ruleIds, Rule.id]

theorem belowMinimum_iff :
    c.BelowMinimum a ↔ ∃ minimum, c.minimumClearingState = some minimum ∧
      ¬ (Rule.minimumClearingState minimum).Holds a := by
  refine exists_congr fun minimum => and_congr_right fun _ => ?_
  rw [Rule.Holds, Artifact.clearingStateOf_eq_ask?]
  push Not
  exact forall₂_congr fun s _ => Nat.not_le.symm

theorem hasForbidden_iff :
    c.HasForbidden a ↔ c.forbiddenLicenses ≠ [] ∧
      ¬ (Rule.forbiddenLicense (c.forbiddenLicenses.map Text.trim)).Holds a := by
  have hids : (Rule.forbiddenLicense (c.forbiddenLicenses.map Text.trim)).Holds a ↔
      ¬ c.HasForbidden a := by
    rw [Artifact.forbiddenLicense_holds_iff_counts, List.forall_mem_map, HasForbidden]
    simp only [LicenseTree.hasId_iff_isLeaf]
    push Not
    rfl
  rw [hids, not_not]
  refine (and_iff_right_of_imp ?_).symm
  rintro ⟨id, hid, -⟩
  exact List.ne_nil_of_mem hid

theorem lacksSource_iff :
    c.LacksSource a ↔ c.requireSourceUrl = true ∧ ¬ Rule.sourceUrlRequired.Holds a := by
  rw [LacksSource, Rule.Holds, ← Option.isSome_iff_exists]
  simp

/-- What is violated is what some rule complains about under its id. -/
theorem violates_iff {id : String} :
    c.Violates a id ↔ ∃ r ∈ c.rules, r.id = id ∧ ¬ r.Holds a := by
  rw [exists_mem_rules_iff]
  constructor
  · rintro (h | h | h)
    · obtain ⟨minimum, hminimum, h⟩ := belowMinimum_iff.1 h
      exact .inl ⟨minimum, hminimum, rfl, h⟩
    · obtain ⟨hne, h⟩ := hasForbidden_iff.1 h
      exact .inr (.inl ⟨hne, rfl, h⟩)
    · obtain ⟨hrequired, h⟩ := lacksSource_iff.1 h
      exact .inr (.inr ⟨hrequired, rfl, h⟩)
  · rintro (⟨minimum, hminimum, rfl, h⟩ | ⟨hne, rfl, h⟩ | ⟨hrequired, rfl, h⟩)
    · exact .clearingState (belowMinimum_iff.2 ⟨minimum, hminimum, h⟩)
    · exact .license (hasForbidden_iff.2 ⟨hne, h⟩)
    · exact .sourceUrl (lacksSource_iff.2 ⟨hrequired, h⟩)

theorem exists_error_iff :
    (∃ r ∈ c.rules, r.severity = .error ∧ ¬ r.Holds a) ↔ c.BelowMinimum a ∨ c.HasForbidden a := by
  rw [exists_mem_rules_iff, belowMinimum_iff, hasForbidden_iff]
  simp [Rule.severity]

/-- There is no error if at most a source URL is missing. -/
theorem forall_error_iff :
    (∀ r ∈ c.rules, r.severity = .error → r.Holds a) ↔
      ∀ id, c.Violates a id → id = "source-url-required" := by
  constructor
  · intro h id hviolates
    obtain ⟨r, hr, rfl, hviolated⟩ := violates_iff.1 hviolates
    by_contra hne
    exact hviolated (h r hr (r.severity_eq_error_iff.2 hne))
  · intro h r hr herror
    by_contra hviolated
    exact r.severity_eq_error_iff.1 herror (h r.id (violates_iff.2 ⟨r, hr, rfl, hviolated⟩))

theorem mem_violated_iff {id : String} :
    id ∈ (Rule.violated c.rules a).map (·.id) ↔ c.Violates a id := by
  rw [violates_iff, List.mem_map]
  refine exists_congr fun r => ?_
  rw [Rule.violated, List.mem_filter, r.isSome_violation?_iff]
  tauto

end PolicyConfig

/-! ## Reports -/

namespace Report

/-- The report lists what violates the policy and nothing else. -/
structure Exact (c : PolicyConfig) (as : List Artifact) (r : Report) : Prop where
  /-- A place is reported if the artifact there violates something. -/
  reported : ∀ i, (∃ f ∈ r.findings, f.index = i) ↔ ∃ a, as[i]? = some a ∧ ∃ id, c.Violates a id
  increasing : r.findings.Pairwise fun f g => f.index < g.index
  /-- A finding has the ids of what its artifact violates, each once and in order. -/
  ruleIds : ∀ f ∈ r.findings, ∃ a, as[f.index]? = some a ∧
    (f.violations.map (·.ruleId)).Sublist PolicyConfig.ruleIds ∧
      ∀ id, id ∈ f.violations.map (·.ruleId) ↔ c.Violates a id
  fails : r.exitCode = 1 ↔ ∃ a ∈ as, c.BelowMinimum a ∨ c.HasForbidden a
  passes : r.exitCode = 0 ↔ ∀ a ∈ as, ∀ id, c.Violates a id → id = "source-url-required"

variable (c : PolicyConfig) (as : List Artifact)

theorem exists_index_check_iff (i : Nat) :
    (∃ f ∈ (check c.rules as).findings, f.index = i) ↔
      ∃ a, as[i]? = some a ∧ ∃ id, c.Violates a id := by
  have hfound {a : Artifact} : (finding? c.rules i a).isSome ↔ ∃ id, c.Violates a id := by
    rw [isSome_finding?_iff]
    simp only [PolicyConfig.violates_iff]
    constructor
    · rintro ⟨r, hr, h⟩
      exact ⟨r.id, r, hr, rfl, h⟩
    · rintro ⟨_, r, hr, -, h⟩
      exact ⟨r, hr, h⟩
  constructor
  · rintro ⟨f, hf, rfl⟩
    obtain ⟨i, a, ha, hf⟩ := (mem_findingsFrom_iff c.rules).1 hf
    rw [Nat.zero_add] at hf
    obtain rfl := index_of_mem_finding? c.rules hf
    exact ⟨a, ha, hfound.1 (Option.isSome_of_eq_some hf)⟩
  · rintro ⟨a, ha, h⟩
    obtain ⟨f, hf⟩ := Option.isSome_iff_exists.1 (hfound.2 h)
    have hindex := index_of_mem_finding? c.rules hf
    rw [← Nat.zero_add i] at hf
    exact ⟨f, (mem_findingsFrom_iff c.rules).2 ⟨i, a, ha, hf⟩, hindex⟩

/-- A finding lists the rules that the artifact at its place violates. -/
theorem ruleIds_of_mem_findings {f : Finding} (hf : f ∈ (check c.rules as).findings) :
    ∃ a, as[f.index]? = some a ∧
      f.violations.map (·.ruleId) = (Rule.violated c.rules a).map (·.id) := by
  obtain ⟨i, a, ha, hf⟩ := (mem_findingsFrom_iff c.rules).1 hf
  have hindex := index_of_mem_finding? c.rules hf
  rw [Nat.zero_add] at hindex
  refine ⟨a, by rwa [hindex], ?_⟩
  rw [violations_of_finding? c.rules hf]
  exact Rule.map_violations (fun id _ => id) c.rules a

/-- Every report on a configured policy is exact. -/
theorem exact_check : Exact c as (check c.rules as) where
  reported := exists_index_check_iff c as
  increasing := pairwise_index_findingsFrom c.rules 0 as
  ruleIds f hf := by
    obtain ⟨a, ha, hids⟩ := ruleIds_of_mem_findings c as hf
    refine ⟨a, ha, ?_, fun id => ?_⟩
    · rw [hids]
      exact (List.filter_sublist.map _).trans PolicyConfig.sublist_ruleIds
    · rw [hids, PolicyConfig.mem_violated_iff]
  fails := by
    rw [exitCode_check_eq_one_iff]
    exact exists_congr fun a => and_congr_right fun _ => PolicyConfig.exists_error_iff
  passes := by
    rw [exitCode_check_eq_zero_iff]
    exact forall₂_congr fun a _ => PolicyConfig.forall_error_iff

/-- A forbidden id is found beside a leaf that says nothing, and a missing source URL alone does
not fail. -/
example :
    let nested := LicenseTree.statement [.license (.ofId " "),
      .statement [.license (.ofId "GPL-2.0"), .license (.ofId "MIT")] (some .or)] (some .and)
    let known (fs : List Fact) :=
      (Artifact.ofSource "list").addAll (.clearingState .osmApproved :: fs)
    let strict : PolicyConfig := ⟨some .projectApproved, [" GPL-2.0 "], true⟩
    let found := check strict.rules [known [.observedLicense nested], known [.sourceUrl "https://a"],
      .ofSource "scan"]
    let warned := check strict.rules [known []]
    found.findings.map (fun f => (f.index, f.violations.map (·.ruleId))) =
        [(0, ["forbidden-license", "source-url-required"]),
          (2, ["minimum-clearing-state", "source-url-required"])] ∧
      found.exitCode = 1 ∧
      warned.findings.map (fun f => (f.index, f.violations.map (·.ruleId))) =
        [(0, ["source-url-required"])] ∧ warned.exitCode = 0 :=
  ⟨rfl, rfl, rfl, rfl⟩

end Report

end Clearinghouse
