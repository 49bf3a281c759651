import Clearinghouse.Policy.Report
import Mathlib.Data.List.Basic

/-!
# Verdicts

The verdict of a report is its exit code and, for every artifact, the ids of the rules that it
violates. It depends only on which rules hold of which artifacts (`sameVerdict_of_holds_iff`), and
the verdicts of a single rule tell of which artifacts it holds (`holds_iff_of_sameVerdict`).
-/

namespace Clearinghouse

namespace Rule

/-- The rules that an artifact violates, in order. -/
def violated (rules : List Rule) (a : Artifact) : List Rule :=
  rules.filter fun r => (r.violation? a).isSome

theorem isSome_violation?_iff (r : Rule) (a : Artifact) :
    (r.violation? a).isSome ↔ ¬ r.Holds a := by
  rw [← r.violation?_eq_none_iff a, Option.isSome_iff_ne_none]

theorem of_violation? {r : Rule} {a : Artifact} {v : Violation} (h : r.violation? a = some v) :
    v.ruleId = r.id ∧ v.severity = r.severity := by
  obtain ⟨message, -, rfl⟩ := Option.map_eq_some_iff.1 h
  exact ⟨rfl, rfl⟩

/-- The violations of an artifact are those of the rules that it violates. -/
theorem map_violations {α : Type} (f : String → Severity → α) (rules : List Rule) (a : Artifact) :
    (rules.filterMap (·.violation? a)).map (fun v => f v.ruleId v.severity) =
      (violated rules a).map fun r => f r.id r.severity := by
  induction rules with
  | nil => rfl
  | cons r rules ih =>
    rw [violated] at ih ⊢
    cases h : r.violation? a with
    | none => simp [h, ih]
    | some v =>
      obtain ⟨hid, hseverity⟩ := of_violation? h
      simp [h, ih, hid, hseverity]

theorem violated_congr {rules : List Rule} {a b : Artifact}
    (h : ∀ r ∈ rules, r.Holds a ↔ r.Holds b) : violated rules a = violated rules b := by
  refine List.filter_congr fun r hr => ?_
  rw [Bool.eq_iff_iff, isSome_violation?_iff, isSome_violation?_iff, h r hr]

end Rule

namespace Report

/-- The ids of the rules that the artifact at a place violates. -/
def ruleIdsAt (r : Report) (index : Nat) : List String :=
  (r.findings.filter (·.index = index)).flatMap fun f => f.violations.map (·.ruleId)

/-- Two reports give the same exit code and, for every place, the same rule ids. -/
structure SameVerdict (r r' : Report) : Prop where
  exitCode_eq : r.exitCode = r'.exitCode
  ruleIdsAt_eq : ∀ index, r.ruleIdsAt index = r'.ruleIdsAt index

variable (rules : List Rule)

theorem index_of_mem_finding? {index : Nat} {a : Artifact} {f : Finding}
    (h : f ∈ finding? rules index a) : f.index = index := by
  unfold finding? at h
  split at h
  · cases h
  · rename_i heq
    rw [Option.mem_some] at h
    rw [← h]

/-- An artifact is found if it violates a rule. -/
theorem isSome_finding?_iff {index : Nat} {a : Artifact} :
    (finding? rules index a).isSome ↔ ∃ r ∈ rules, ¬ r.Holds a := by
  have hfound : (finding? rules index a).isSome ↔ rules.filterMap (·.violation? a) ≠ [] := by
    unfold finding?
    split
    · rename_i hnil
      simp [hnil]
    · rename_i hne
      simpa using hne
  rw [hfound, ne_eq, List.filterMap_eq_nil_iff]
  push Not
  exact exists_congr fun r => and_congr_right fun _ => not_congr (r.violation?_eq_none_iff a)

theorem violations_of_finding? {index : Nat} {a : Artifact} {f : Finding}
    (h : finding? rules index a = some f) : f.violations = rules.filterMap (·.violation? a) := by
  unfold finding? at h
  split at h
  · cases h
  · cases h
    rfl

/-- The violations in the finding of an artifact are all that it has. -/
theorem flatMap_finding? {α : Type} (f : Violation → α) (index : Nat) (a : Artifact) :
    ((finding? rules index a).toList.flatMap fun finding => finding.violations.map f) =
      (rules.filterMap (·.violation? a)).map f := by
  unfold finding?
  split
  · rename_i heq
    rw [heq]
    rfl
  · rename_i heq
    rw [Option.toList_some, List.flatMap_singleton]

theorem index_of_mem_findingsFrom {start : Nat} {as : List Artifact} {f : Finding}
    (h : f ∈ findingsFrom rules start as) : start ≤ f.index := by
  induction as generalizing start with
  | nil => cases h
  | cons a as ih =>
    rcases List.mem_append.1 h with h | h
    · exact Nat.le_of_eq (index_of_mem_finding? rules (Option.mem_toList.1 h)).symm
    · exact Nat.le_of_succ_le (ih h)

/-- A finding is that of the artifact at its place. -/
theorem mem_findingsFrom_iff {start : Nat} {as : List Artifact} {f : Finding} :
    f ∈ findingsFrom rules start as ↔
      ∃ i a, as[i]? = some a ∧ finding? rules (start + i) a = some f := by
  induction as generalizing start with
  | nil => simp [findingsFrom]
  | cons a as ih =>
    rw [findingsFrom, List.mem_append, Option.mem_toList, ih]
    constructor
    · rintro (h | ⟨i, b, hb, h⟩)
      · exact ⟨0, a, rfl, h⟩
      · rw [Nat.add_right_comm] at h
        exact ⟨i + 1, b, hb, h⟩
    · rintro ⟨i, b, hb, h⟩
      cases i with
      | zero =>
        cases hb
        exact .inl h
      | succ i =>
        rw [← Nat.add_assoc, Nat.add_right_comm] at h
        exact .inr ⟨i, b, hb, h⟩

/-- Findings come in the order of the artifacts. -/
theorem pairwise_index_findingsFrom (start : Nat) (as : List Artifact) :
    (findingsFrom rules start as).Pairwise fun f g => f.index < g.index := by
  induction as generalizing start with
  | nil => exact .nil
  | cons a as ih =>
    refine List.pairwise_append.2 ⟨?_, ih (start + 1), fun f hf g hg => ?_⟩
    · cases finding? rules start a with
      | none => exact .nil
      | some f => exact List.pairwise_singleton _ f
    · rw [index_of_mem_finding? rules (Option.mem_toList.1 hf)]
      exact index_of_mem_findingsFrom rules hg

theorem flatMap_filter_findingsFrom (start index : Nat) (as : List Artifact) :
    ((findingsFrom rules start as).filter (·.index = start + index)).flatMap
        (fun f => f.violations.map (·.ruleId)) =
      (as[index]?.toList).flatMap fun a => (Rule.violated rules a).map (·.id) := by
  induction as generalizing start index with
  | nil => rfl
  | cons a as ih =>
    rw [findingsFrom, List.filter_append, List.flatMap_append]
    cases index with
    | zero =>
      have hfirst : (finding? rules start a).toList.filter (·.index = start + 0) =
          (finding? rules start a).toList :=
        List.filter_eq_self.2 fun f hf => by
          simpa using index_of_mem_finding? rules (Option.mem_toList.1 hf)
      have hrest : (findingsFrom rules (start + 1) as).filter (·.index = start + 0) = [] :=
        List.filter_eq_nil_iff.2 fun f hf => by
          have := index_of_mem_findingsFrom rules hf
          simp
          omega
      rw [hfirst, hrest, flatMap_finding?, List.flatMap_nil, List.append_nil,
        Rule.map_violations fun id _ => id]
      simp
    | succ index =>
      have hfirst : (finding? rules start a).toList.filter (·.index = start + (index + 1)) = [] :=
        List.filter_eq_nil_iff.2 fun f hf => by
          have := index_of_mem_finding? rules (Option.mem_toList.1 hf)
          simp
          omega
      have hnext := ih (start + 1) index
      rw [Nat.add_right_comm, Nat.add_assoc] at hnext
      rw [hfirst, List.flatMap_nil, List.nil_append, hnext]
      rfl

/-- The artifact at a place is reported for the rules that it violates. -/
theorem ruleIdsAt_check (as : List Artifact) (index : Nat) :
    (check rules as).ruleIdsAt index =
      (as[index]?.toList).flatMap fun a => (Rule.violated rules a).map (·.id) := by
  have h := flatMap_filter_findingsFrom rules 0 index as
  rwa [Nat.zero_add] at h

theorem flatMap_findingsFrom {α : Type} (f : Violation → α) (start : Nat) (as : List Artifact) :
    ((findingsFrom rules start as).flatMap fun finding => finding.violations.map f) =
      as.flatMap fun a => (rules.filterMap (·.violation? a)).map f := by
  induction as generalizing start with
  | nil => rfl
  | cons a as ih => rw [findingsFrom, List.flatMap_append, flatMap_finding?, ih, List.flatMap_cons]

/-- The severities in a report are those of the violated rules. -/
theorem severities_check (as : List Artifact) :
    (check rules as).violations.map (·.severity) =
      as.flatMap fun a => (Rule.violated rules a).map (·.severity) := by
  rw [violations, List.map_flatMap]
  refine (flatMap_findingsFrom rules _ 0 as).trans (List.flatMap_congr fun a _ => ?_)
  exact Rule.map_violations (fun _ severity => severity) rules a

/-- Only a violated rule of the highest severity makes a check fail. -/
theorem hasErrors_check_iff (as : List Artifact) :
    (check rules as).hasErrors ↔ ∃ a ∈ as, ∃ r ∈ rules, r.severity = .error ∧ ¬ r.Holds a := by
  have hany : (check rules as).hasErrors =
      ((check rules as).violations.map (·.severity)).any (· == .error) := by
    rw [List.any_map]
    rfl
  rw [hany, severities_check, List.any_eq_true]
  constructor
  · rintro ⟨severity, hmem, herror⟩
    obtain ⟨a, ha, hmem⟩ := List.mem_flatMap.1 hmem
    obtain ⟨r, hr, rfl⟩ := List.mem_map.1 hmem
    obtain ⟨hr, hviolated⟩ := List.mem_filter.1 hr
    exact ⟨a, ha, r, hr, beq_iff_eq.1 herror, (r.isSome_violation?_iff a).1 hviolated⟩
  · rintro ⟨a, ha, r, hr, herror, hviolated⟩
    refine ⟨r.severity, List.mem_flatMap.2 ⟨a, ha, List.mem_map_of_mem ?_⟩, beq_iff_eq.2 herror⟩
    exact List.mem_filter.2 ⟨hr, (r.isSome_violation?_iff a).2 hviolated⟩

theorem exitCode_check_eq_one_iff (as : List Artifact) :
    (check rules as).exitCode = 1 ↔ ∃ a ∈ as, ∃ r ∈ rules, r.severity = .error ∧ ¬ r.Holds a := by
  rw [← hasErrors_check_iff, exitCode]
  cases (check rules as).hasErrors <;> simp

theorem exitCode_check_eq_zero_iff (as : List Artifact) :
    (check rules as).exitCode = 0 ↔ ∀ a ∈ as, ∀ r ∈ rules, r.severity = .error → r.Holds a := by
  have hzero : (check rules as).exitCode = 0 ↔ ¬ (check rules as).hasErrors := by
    rw [exitCode]
    cases (check rules as).hasErrors <;> simp
  rw [hzero, hasErrors_check_iff]
  push Not
  rfl

variable {rules} {as : List Artifact} {g : Artifact → Artifact}

/-- The verdict depends only on which rules hold of which artifacts. -/
theorem sameVerdict_of_holds_iff (h : ∀ a ∈ as, ∀ r ∈ rules, r.Holds a ↔ r.Holds (g a)) :
    SameVerdict (check rules as) (check rules (as.map g)) := by
  have hviolated : ∀ a ∈ as, Rule.violated rules a = Rule.violated rules (g a) :=
    fun a ha => Rule.violated_congr (h a ha)
  constructor
  · have herrors : (check rules as).hasErrors = (check rules (as.map g)).hasErrors := by
      rw [Bool.eq_iff_iff, hasErrors_check_iff, hasErrors_check_iff]
      simp only [List.mem_map, exists_exists_and_eq_and]
      exact exists_congr fun a => and_congr_right fun ha => exists_congr fun r =>
        and_congr_right fun hr => and_congr_right fun _ => not_congr (h a ha r hr)
    rw [exitCode, exitCode, herrors]
  · intro index
    rw [ruleIdsAt_check, ruleIdsAt_check, List.getElem?_map]
    cases ha : as[index]? with
    | none => rfl
    | some a => simp [hviolated a (List.mem_of_getElem? ha)]

/-- The verdicts of a rule tell of which artifacts it holds. -/
theorem holds_iff_of_sameVerdict {r : Rule}
    (h : SameVerdict (check [r] as) (check [r] (as.map g))) {a : Artifact} (ha : a ∈ as) :
    r.Holds a ↔ r.Holds (g a) := by
  obtain ⟨index, hindex⟩ := List.getElem?_of_mem ha
  have hids := h.ruleIdsAt_eq index
  rw [ruleIdsAt_check, ruleIdsAt_check, List.getElem?_map, hindex] at hids
  have hsome : (r.violation? a).isSome = (r.violation? (g a)).isSome := by
    cases hv : (r.violation? a).isSome <;> cases hv' : (r.violation? (g a)).isSome <;>
      simp [Rule.violated, hv, hv'] at hids ⊢
  rw [← not_iff_not, ← r.isSome_violation?_iff, ← r.isSome_violation?_iff, hsome]

end Report

end Clearinghouse
