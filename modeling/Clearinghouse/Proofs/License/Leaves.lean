import Clearinghouse.Proofs.Distinct
import Clearinghouse.Proofs.License.Tree
import Mathlib.Data.List.Basic

/-!
# The licenses in a tree

A tree lists the licenses of its leaves, from left to right, without those that say nothing and
without those whose id came before. Main statement: `licenses_flatten`, which also says what a
further child adds to the list of a statement.

Repetitions are taken out at every level of a tree. To take in a list without its repetitions is
to take in the list (`Distinct.union_flatMap_union`), so the levels do not show.
-/

namespace Clearinghouse.LicenseTree

/-! ## Leaves -/

mutual

/-- The licenses at the leaves, from left to right. -/
def leaves : LicenseTree → List License
  | license l => [l]
  | statement children _ => leavesAll children

def leavesAll : List LicenseTree → List License
  | [] => []
  | t :: ts => t.leaves ++ leavesAll ts

end

theorem leavesAll_eq_flatMap (ts : List LicenseTree) : leavesAll ts = ts.flatMap leaves := by
  induction ts with
  | nil => rfl
  | cons t ts ih => rw [leavesAll, List.flatMap_cons, ih]

/-- The leaves that say something. -/
def tellingLeaves (t : LicenseTree) : List License := t.leaves.filter (!·.isEmpty)

theorem tellingLeaves_license (l : License) :
    (license l).tellingLeaves = if l.isEmpty then [] else [l] := by
  rw [tellingLeaves, leaves]
  cases h : l.isEmpty <;> simp [h]

theorem tellingLeaves_statement (children : List LicenseTree) (op : Option Junction) :
    (statement children op).tellingLeaves = children.flatMap tellingLeaves := by
  rw [tellingLeaves, leaves, leavesAll_eq_flatMap, List.filter_flatMap]
  rfl

/-- A tree says nothing if no leaf does. -/
theorem tellingLeaves_eq_nil_iff {t : LicenseTree} : t.tellingLeaves = [] ↔ t.isEmpty := by
  induction t using LicenseTree.induction with
  | license l =>
    rw [tellingLeaves_license, isEmpty]
    cases l.isEmpty <;> simp
  | statement children op ih =>
    rw [tellingLeaves_statement, isEmpty, allEmpty_eq_all, List.flatMap_eq_nil_iff,
      List.all_eq_true]
    exact forall₂_congr ih

/-! ## Lists of licenses -/

theorem extend_eq_union (seen ls : List License) : extend seen ls = Distinct.union seen ls := rfl

theorem licensesAfter_eq_union (seen : List License) (ts : List LicenseTree) :
    licensesAfter seen ts = Distinct.union seen (ts.flatMap licenses) := by
  induction ts generalizing seen with
  | nil => rfl
  | cons t ts ih =>
    rw [licensesAfter, ih, extend_eq_union, List.flatMap_cons, Distinct.union_append]

theorem licenses_statement (children : List LicenseTree) (op : Option Junction) :
    (statement children op).licenses = Distinct.union [] (children.flatMap licenses) := by
  rw [licenses, licensesAfter_eq_union]

/-- Taking out repetitions at every level comes to taking them out once. -/
theorem licenses_eq_union (t : LicenseTree) : t.licenses = Distinct.union [] t.tellingLeaves := by
  induction t using LicenseTree.induction with
  | license l =>
    rw [licenses, tellingLeaves_license]
    cases l.isEmpty <;> rfl
  | statement children op ih =>
    rw [licenses_statement, List.flatMap_congr ih, Distinct.union_flatMap_union,
      tellingLeaves_statement]

/-- No two licenses in the list have one id. -/
theorem pairwise_licenses (t : LicenseTree) :
    t.licenses.Pairwise fun l m => (l == m) = false := by
  rw [licenses_eq_union]
  exact Distinct.pairwise_union List.Pairwise.nil t.tellingLeaves

theorem licenses_eq_nil_iff {t : LicenseTree} : t.licenses = [] ↔ t.isEmpty := by
  rw [licenses_eq_union, Distinct.nil_union, ← tellingLeaves_eq_nil_iff]
  cases t.tellingLeaves <;> simp [List.eraseDups_cons]

/-- What a child adds to the list of a statement: its licenses with new ids, in their order. -/
theorem licenses_add (children : List LicenseTree) (op : Option Junction) (t : LicenseTree) :
    ((statement children op).add t).licenses =
      (statement children op).licenses ++
        t.licenses.filter fun l => !(statement children op).licenses.contains l := by
  have hadd : ((statement children op).add t).licenses =
      Distinct.union (statement children op).licenses t.licenses := by
    rw [add, licenses_statement, licenses_statement, LicenseTree.children, List.flatMap_append,
      List.flatMap_singleton, Distinct.union_append]
  rw [hadd, Distinct.union_eq_append_filter t.pairwise_licenses]

theorem contains_eq_decide (ls : List License) (l : License) :
    ls.contains l = decide (l.id ∈ ls.map License.id) := by
  rw [Bool.eq_iff_iff, decide_eq_true_iff, List.contains_iff_exists_mem_beq, List.mem_map]
  exact exists_congr fun m => and_congr_right fun _ => License.beq_iff_id_eq.trans eq_comm

/-- The licenses in `ls` have the ids that are found in `all`, each once and in the order in which
they come, and each license is the first one of `all` with its id. -/
structure FirstAppearances (all ls : List License) : Prop where
  ids : ls.map License.id = (all.map License.id).eraseDups
  first : ∀ l ∈ ls, all.find? (·.id == l.id) = some l

theorem firstAppearances_licenses (t : LicenseTree) :
    FirstAppearances t.tellingLeaves t.licenses where
  ids := by
    have hids : ∀ l m : License, (l.id == m.id) = (l == m) := fun _ _ => rfl
    rw [licenses_eq_union, Distinct.map_union hids, List.map_nil, Distinct.nil_union]
  first l hl := by
    rw [licenses_eq_union] at hl
    exact (Distinct.find?_of_mem_union hl List.not_mem_nil).2

/-- A tree lists the leaves that say something, of those with one id only the first, and a tree
that says nothing lists none. A further child of a statement adds to its list, behind all that is
there, the licenses of the child with new ids. -/
theorem licenses_flatten (t : LicenseTree) :
    FirstAppearances t.tellingLeaves t.licenses ∧ (t.licenses = [] ↔ t.isEmpty) ∧
      ∀ children op, let before := (statement children op).licenses
        ((statement children op).add t).licenses =
          before ++ t.licenses.filter fun l => l.id ∉ before.map License.id := by
  refine ⟨t.firstAppearances_licenses, licenses_eq_nil_iff, fun children op => ?_⟩
  rw [licenses_add]
  refine congrArg _ (List.filter_congr fun l _ => ?_)
  rw [decide_not, contains_eq_decide]

end Clearinghouse.LicenseTree
