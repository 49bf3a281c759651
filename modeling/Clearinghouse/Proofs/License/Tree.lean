import Clearinghouse.License.Basic

/-!
# Induction over license trees

The functions on trees go through a tree and the list of its children side by side. Here they
are said once through lists: a statement says nothing if no child does (`allEmpty_eq_all`), and
it prints the children that say something (`renderAll_eq_map`). Equality of trees is an
equivalence.
-/

namespace Clearinghouse.LicenseTree

/-- What holds of single licenses, and of statements if it holds of their children, holds of all
trees. -/
theorem induction {motive : LicenseTree → Prop} (license : ∀ l, motive (.license l))
    (statement : ∀ children op, (∀ t ∈ children, motive t) → motive (.statement children op))
    (t : LicenseTree) : motive t :=
  LicenseTree.rec (motive_1 := motive) (motive_2 := fun ts => ∀ t ∈ ts, motive t) license statement
    (fun _ h => absurd h List.not_mem_nil)
    (fun _ _ h hs t ht => (List.mem_cons.1 ht).elim (fun e => e ▸ h) (hs t)) t

theorem allEmpty_eq_all (ts : List LicenseTree) : allEmpty ts = ts.all isEmpty := by
  induction ts with
  | nil => rfl
  | cons t ts ih => rw [allEmpty, List.all_cons, ih]

theorem renderAll_eq_map (leaf : License → String) (ts : List LicenseTree) :
    renderAll leaf ts = (ts.filter (!·.isEmpty)).map (render leaf) := by
  induction ts with
  | nil => rfl
  | cons t ts ih => by_cases h : t.isEmpty <;> simp [renderAll, h, ih]

/-- The children that say something. -/
def telling (ts : List LicenseTree) : List LicenseTree := ts.filter (!·.isEmpty)

theorem telling_eq_nil_iff {ts : List LicenseTree} : telling ts = [] ↔ allEmpty ts := by
  simp [telling, allEmpty_eq_all]

theorem mem_telling {t : LicenseTree} {ts : List LicenseTree} :
    t ∈ telling ts ↔ t ∈ ts ∧ t.isEmpty = false := by
  simp [telling]

@[simp] theorem evaluate_license (l : License) : (license l).evaluate = l.id := rfl

theorem evaluate_statement {children : List LicenseTree} {op : Option Junction}
    (h : telling children ≠ []) :
    (statement children op).evaluate = enclose op ((telling children).map evaluate) := by
  have hne : ¬ allEmpty children := mt telling_eq_nil_iff.2 h
  rw [evaluate, render, if_neg hne, renderAll_eq_map]
  rfl

theorem evaluate_of_isEmpty_statement {children : List LicenseTree} {op : Option Junction}
    (h : allEmpty children) : (statement children op).evaluate = "" :=
  render_of_isEmpty License.id h

/-! ## Equality -/

mutual

/-- The tree with nothing but the ids of its licenses. -/
def bare : LicenseTree → LicenseTree
  | license l => license (.ofId l.id)
  | statement children op => statement (bareAll children) op

def bareAll : List LicenseTree → List LicenseTree
  | [] => []
  | t :: ts => t.bare :: bareAll ts

end

theorem bareAll_eq_map (ts : List LicenseTree) : bareAll ts = ts.map bare := by
  induction ts with
  | nil => rfl
  | cons t ts ih => rw [bareAll, List.map_cons, ih]

theorem license_beq {l m : License} : (license l == license m) = (l == m) := rfl

theorem statement_beq {as bs : List LicenseTree} {op op' : Option Junction} :
    (statement as op == statement bs op') = (op == op' && sameAll as bs) := rfl

theorem sameAll_iff {as : List LicenseTree}
    (h : ∀ a ∈ as, ∀ b, (a == b) = true ↔ a.bare = b.bare) (bs : List LicenseTree) :
    sameAll as bs ↔ as.map bare = bs.map bare := by
  induction as generalizing bs with
  | nil => cases bs <;> simp [sameAll]
  | cons a as ih =>
    cases bs with
    | nil => simp [sameAll]
    | cons b bs =>
      have ha : same a b = true ↔ a.bare = b.bare := h a List.mem_cons_self b
      rw [sameAll, Bool.and_eq_true, ha, ih (fun a h' => h a (List.mem_cons_of_mem _ h')),
        List.map_cons, List.map_cons, List.cons.injEq]

/-- Trees are equal if they are the same up to what comes along with an id. -/
theorem beq_iff_bare_eq {t u : LicenseTree} : (t == u) = true ↔ t.bare = u.bare := by
  induction t using LicenseTree.induction generalizing u with
  | license l =>
    cases u with
    | license m =>
      rw [license_beq, License.beq_iff_id_eq, bare, bare, license.injEq]
      simp [License.ofId]
    | statement others op' => exact iff_of_false Bool.false_ne_true (by simp [bare])
  | statement children op ih =>
    cases u with
    | license m => exact iff_of_false Bool.false_ne_true (by simp [bare])
    | statement others op' =>
      rw [statement_beq, Bool.and_eq_true, beq_iff_eq, sameAll_iff (fun a h b => ih a h), bare,
        bare, bareAll_eq_map, bareAll_eq_map, statement.injEq, and_comm]

instance : EquivBEq LicenseTree where
  rfl := beq_iff_bare_eq.2 rfl
  symm h := beq_iff_bare_eq.2 (beq_iff_bare_eq.1 h).symm
  trans h k := beq_iff_bare_eq.2 ((beq_iff_bare_eq.1 h).trans (beq_iff_bare_eq.1 k))

theorem isEmpty_bare (t : LicenseTree) : t.bare.isEmpty = t.isEmpty := by
  induction t using LicenseTree.induction with
  | license l => rfl
  | statement children op ih =>
    rw [bare, isEmpty, isEmpty, bareAll_eq_map, allEmpty_eq_all, allEmpty_eq_all, List.all_map,
      Bool.eq_iff_iff, List.all_eq_true, List.all_eq_true]
    exact forall₂_congr fun t ht => by rw [Function.comp_apply, ih t ht]

theorem evaluate_bare (t : LicenseTree) : t.bare.evaluate = t.evaluate := by
  induction t using LicenseTree.induction with
  | license l => rfl
  | statement children op ih =>
    have htell : telling (children.map bare) = (telling children).map bare := by
      rw [telling, telling, List.filter_map]
      exact congrArg _ (List.filter_congr fun t _ => by rw [Function.comp_apply, isEmpty_bare])
    have hparts : (telling (children.map bare)).map evaluate = (telling children).map evaluate := by
      rw [htell, List.map_map]
      exact List.map_congr_left fun t ht => ih t (mem_telling.1 ht).1
    rw [bare, bareAll_eq_map]
    by_cases hnil : telling children = []
    · have hnil' : telling (children.map bare) = [] := by rw [htell, hnil, List.map_nil]
      rw [evaluate_of_isEmpty_statement (telling_eq_nil_iff.1 hnil),
        evaluate_of_isEmpty_statement (telling_eq_nil_iff.1 hnil')]
    · have hnil' : telling (children.map bare) ≠ [] := by simpa [htell] using hnil
      rw [evaluate_statement hnil, evaluate_statement hnil', hparts]

/-- Equal trees say the same. -/
theorem isEmpty_congr {t u : LicenseTree} (h : (t == u) = true) : t.isEmpty = u.isEmpty := by
  rw [← isEmpty_bare t, beq_iff_bare_eq.1 h, isEmpty_bare]

theorem evaluate_congr {t u : LicenseTree} (h : (t == u) = true) : t.evaluate = u.evaluate := by
  rw [← evaluate_bare t, beq_iff_bare_eq.1 h, evaluate_bare]

end Clearinghouse.LicenseTree
