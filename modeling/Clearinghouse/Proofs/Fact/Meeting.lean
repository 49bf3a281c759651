import Clearinghouse.Fact.Basic
import Clearinghouse.Proofs.Distinct
import Clearinghouse.Proofs.Fact.Copyright
import Clearinghouse.Proofs.License.Tree

/-!
# Facts that meet

When a fact meets the stored one of its kind, the rule of the kind says which fact is there
afterwards (`Fact.meet`). Main statements: among facts of one kind it does not matter which two
meet first (`meet_assoc`), and a fact that can be made stays as it is when it meets itself
(`Made.settled`, `Settled.meet_self`).

The rules that choose one of the two facts are plain. Lines of copyright statements are gathered
without repetition, and of two clearing states the higher one stays.
-/

namespace Clearinghouse

open Text

/-! ## Copyright statements -/

namespace Copyright

theorem trimmed?_trimmed {line trimmed : String} (h : trimmed? line = some trimmed) :
    trimmed? trimmed = some trimmed := by
  obtain ⟨rfl, hne⟩ := trimmed?_eq_some_iff.1 h
  exact trimmed?_of_trimmed (trimmed_trim line) hne

/-- To add a statement to which a line was added is to add the statement and then the line. -/
theorem union_push (c d : Copyright) (line : String) :
    c.union (d.push line) = (c.union d).push line := by
  cases h : trimmed? line with
  | none => rw [push_of_eq_none h, push_of_eq_none h]
  | some trimmed =>
    have hself := trimmed?_trimmed h
    refine ext_lines ?_
    rw [lines_push h, union, union, lines_pushAll, lines_pushAll, lines_push h]
    by_cases hmem : d.lines.contains trimmed
    · have hmem' : trimmed ∈ d.lines.filterMap trimmed? :=
        List.mem_filterMap.2 ⟨trimmed, List.contains_iff_mem.1 hmem, hself⟩
      rw [Distinct.insert_of_contains hmem, Distinct.insert_of_contains]
      rw [Distinct.contains_union, Distinct.contains_of_mem hmem', Bool.or_true]
    · rw [Distinct.insert_of_not_contains hmem, List.filterMap_append, Distinct.union_append,
        List.filterMap_cons_some hself]
      rfl

theorem union_pushAll (c d : Copyright) (lines : List String) :
    c.union (d.pushAll lines) = (c.union d).pushAll lines := by
  induction lines generalizing d with
  | nil => rfl
  | cons line lines ih => rw [pushAll_cons, pushAll_cons, ih, union_push]

theorem union_assoc (c d e : Copyright) : c.union (d.union e) = (c.union d).union e :=
  union_pushAll c d e.lines

end Copyright

/-! ## Clearing states -/

/-- The state that is further on; of equal ones it does not matter which. -/
def ClearingState.higher (s t : ClearingState) : ClearingState := if t < s then s else t

namespace ClearingState

theorem rank_higher (s t : ClearingState) : (s.higher t).rank = max s.rank t.rank := by
  unfold higher
  by_cases h : t < s
  · rw [if_pos h, max_eq_left (Nat.le_of_lt h)]
  · rw [if_neg h, max_eq_right (Nat.le_of_not_lt h)]

theorem higher_assoc (s t u : ClearingState) :
    (s.higher t).higher u = s.higher (t.higher u) := by
  apply rank_injective
  simp only [rank_higher]
  omega

theorem higher_comm (s t : ClearingState) : s.higher t = t.higher s := by
  apply rank_injective
  rw [rank_higher, rank_higher, max_comm]

theorem higher_eq_or (s t : ClearingState) : s.higher t = s ∨ s.higher t = t := by
  unfold higher
  split
  · exact .inl rfl
  · exact .inr rfl

theorem le_refl (s : ClearingState) : s ≤ s := Nat.le_refl s.rank

theorem le_trans {s t u : ClearingState} (h : s ≤ t) (h' : t ≤ u) : s ≤ u := Nat.le_trans h h'

/-- The higher state has come as far as one of the two has. -/
theorem le_higher_iff {s t u : ClearingState} : u ≤ s.higher t ↔ u ≤ s ∨ u ≤ t := by
  show u.rank ≤ (s.higher t).rank ↔ u.rank ≤ s.rank ∨ u.rank ≤ t.rank
  rw [rank_higher]
  omega

theorem le_higher_left (s t : ClearingState) : s ≤ s.higher t := le_higher_iff.2 (.inl s.le_refl)

theorem le_higher_right (s t : ClearingState) : t ≤ s.higher t := le_higher_iff.2 (.inr t.le_refl)

end ClearingState

/-! ## Equality -/

namespace Fact

theorem beq_self (f : Fact) : (f == f) = true := by
  cases f with
  | declaredLicense t | observedLicense t | overriddenLicense t | configuredLicense t =>
    exact BEq.rfl (a := t)
  | sourceFile p | clearingDocument p => exact BEq.rfl (a := p)
  | _ x => exact BEq.rfl (a := x)

instance : ReflBEq Fact where
  rfl := beq_self _

/-! ## Meeting -/

theorem kind_eq_copyright_iff {f : Fact} : f.kind = .copyright ↔ ∃ c, f = .copyright c := by
  cases f <;> simp [kind]

theorem kind_eq_clearingState_iff {f : Fact} :
    f.kind = .clearingState ↔ ∃ s, f = .clearingState s := by
  cases f <;> simp [kind]

theorem kind_eq_filename_iff {f : Fact} : f.kind = .filename ↔ ∃ file, f = .filename file := by
  cases f <;> simp [kind]

theorem unite_of_kind_ne {f : Fact} (h : f.kind ≠ .copyright) (g : Fact) : f.unite g = f := by
  cases f <;> first | rfl | exact absurd rfl h

theorem isLowerThan_of_kind_ne {f : Fact} (h : f.kind ≠ .clearingState) (g : Fact) :
    f.isLowerThan g = false := by
  cases f <;> first | rfl | exact absurd rfl h

/-- The fact that is there once a fact has met the stored one of its kind. -/
def meet (rule : MergeRule) (stored incoming : Fact) : Fact :=
  match rule with
  | .overwrite => incoming
  | .keepExisting | .rejectOnConflict => stored
  | .keepHigher => if incoming.isLowerThan stored then stored else incoming
  | .union => incoming.unite stored

section

variable {rule : MergeRule} {f g h m : Fact}

/-- A fact is stored as what it makes of the one that it meets, or that one stays. -/
theorem mergeWith_eq_or (hk : g.kind = f.kind) :
    g.mergeWith f rule = .replace (meet rule f g) ∨
      meet rule f g = f ∧ ∀ m, g.mergeWith f rule ≠ .replace m := by
  unfold mergeWith meet
  simp only [hk, ne_eq, not_true_eq_false, if_false]
  cases rule with
  | overwrite => exact .inl rfl
  | union => exact .inl rfl
  | keepExisting => exact .inr ⟨rfl, by simp⟩
  | rejectOnConflict =>
    refine .inr ⟨rfl, fun m hm => ?_⟩
    dsimp only at hm
    split at hm <;> cases hm
  | keepHigher =>
    cases g.isLowerThan f with
    | true => exact .inr ⟨rfl, by simp⟩
    | false => exact .inl rfl

/-- What is stored is the incoming fact or what it makes of the stored one. -/
theorem eq_or_eq_unite_of_mergeWith (h : g.mergeWith f rule = .replace m) :
    m = g ∨ m = g.unite f := by
  unfold mergeWith at h
  split at h
  · cases h
    exact .inl rfl
  · cases rule with
    | overwrite => cases h; exact .inl rfl
    | keepExisting => cases h
    | rejectOnConflict => dsimp only at h; split at h <;> cases h
    | keepHigher => dsimp only at h; split at h <;> cases h; exact .inl rfl
    | union => cases h; exact .inr rfl

theorem meet_keepHigher_clearingState (s t : ClearingState) :
    meet .keepHigher (.clearingState s) (.clearingState t) = .clearingState (s.higher t) := by
  unfold meet ClearingState.higher
  by_cases h : t < s <;> simp [isLowerThan, h]

/-- No policy changes that the higher of two clearing states stays. -/
theorem meet_ruleFor_clearingState (policy : MergePolicy) (s t : ClearingState) :
    meet (policy.ruleFor .clearingState) (.clearingState s) (.clearingState t) =
      .clearingState (s.higher t) := by
  rw [policy.ruleFor_of_mergeRule_ne (by decide)]
  exact meet_keepHigher_clearingState s t

theorem kind_meet {k : FactKind} (hf : f.kind = k) (hg : g.kind = k) :
    (meet rule f g).kind = k := by
  cases rule with
  | overwrite => exact hg
  | keepExisting | rejectOnConflict => exact hf
  | union => exact (kind_unite g f).trans hg
  | keepHigher =>
    show (if g.isLowerThan f then f else g).kind = k
    split
    · exact hf
    · exact hg

/-- It does not matter which two of three facts of a kind meet first. -/
theorem meet_assoc {k : FactKind} (hf : f.kind = k) (hg : g.kind = k) (hh : h.kind = k) :
    meet rule (meet rule f g) h = meet rule f (meet rule g h) := by
  cases rule with
  | overwrite | keepExisting | rejectOnConflict => rfl
  | keepHigher =>
    by_cases hk : k = .clearingState
    · obtain ⟨s, rfl⟩ := kind_eq_clearingState_iff.1 (hf.trans hk)
      obtain ⟨t, rfl⟩ := kind_eq_clearingState_iff.1 (hg.trans hk)
      obtain ⟨u, rfl⟩ := kind_eq_clearingState_iff.1 (hh.trans hk)
      simp only [meet_keepHigher_clearingState, ClearingState.higher_assoc]
    · have hg := isLowerThan_of_kind_ne (hg.trans_ne hk)
      have hh := isLowerThan_of_kind_ne (hh.trans_ne hk)
      simp only [meet, hg, hh, Bool.false_eq_true, if_false]
  | union =>
    by_cases hk : k = .copyright
    · obtain ⟨c, rfl⟩ := kind_eq_copyright_iff.1 (hf.trans hk)
      obtain ⟨d, rfl⟩ := kind_eq_copyright_iff.1 (hg.trans hk)
      obtain ⟨e, rfl⟩ := kind_eq_copyright_iff.1 (hh.trans hk)
      exact congrArg copyright (Copyright.union_assoc c d e).symm
    · have hg := unite_of_kind_ne (hg.trans_ne hk)
      have hh := unite_of_kind_ne (hh.trans_ne hk)
      simp only [meet, hg, hh]

end

/-! ## Facts that can be made -/

/-- The fact is one that can be made: a copyright statement is made from texts. -/
def Made : Fact → Prop
  | copyright c => c.Made
  | _ => True

theorem Made.unite {f g : Fact} (hf : f.Made) (hg : g.Made) : (f.unite g).Made := by
  unfold Fact.unite
  split
  · exact .union hg hf
  · exact hf

/-- A fact that stays as it is when it is united with itself. -/
def Settled (f : Fact) : Prop := f.unite f = f

theorem settled_of_copyright {f : Fact} (h : ∀ c, f = .copyright c → c.union c = c) :
    f.Settled := by
  cases f with
  | copyright c => exact congrArg copyright (h c rfl)
  | _ => rfl

theorem Made.settled {f : Fact} (h : f.Made) : f.Settled := by
  refine settled_of_copyright fun c hc => ?_
  subst hc
  exact Copyright.Made.union_self h

/-- A settled fact that meets itself stays as it is. -/
theorem Settled.meet_self {f : Fact} (h : f.Settled) (rule : MergeRule) : meet rule f f = f := by
  cases rule with
  | overwrite | keepExisting | rejectOnConflict => rfl
  | keepHigher => exact ite_self f
  | union => exact h

end Fact

end Clearinghouse
