import Clearinghouse.Proofs.License.Reparse

/-!
# The normal form of a license tree

A printed tree is read as its normal form: what says nothing is gone, every operator is given,
and a statement around another statement is that statement. Main statement: a tree with plain
ids is read as its normal form if its parentheses nest no deeper than is allowed, and not at all
if they nest deeper (`parse_evaluate_beq_normal`).

`reread` follows the reader, `normal` follows the tree alone; both give equal trees
(`reread_beq_normal`). A tree that says nothing prints blanks, which are read as the tree that
says nothing (`parse_evaluate_of_isEmpty`).
-/

namespace Clearinghouse.LicenseTree

open Text License License.Token

/-- A statement of these children: a single license comes under `AND`, a single statement stays
as it is. -/
def wrap (op : Junction) : List LicenseTree → LicenseTree
  | [license l] => statement [license l] (some .and)
  | [statement children op'] => statement children op'
  | ts => statement ts (some op)

mutual

/-- The tree without children that say nothing, without missing operators and without
statements around a single statement. -/
def normal : LicenseTree → LicenseTree
  | license l => if l.isEmpty then empty else license l
  | statement children op =>
    if allEmpty children then empty else wrap (op.getD .and) (normalAll children)

def normalAll : List LicenseTree → List LicenseTree
  | [] => []
  | t :: ts => if t.isEmpty then normalAll ts else t.normal :: normalAll ts

end

theorem normalAll_eq_map (ts : List LicenseTree) : normalAll ts = (telling ts).map normal := by
  induction ts with
  | nil => rfl
  | cons t ts ih => by_cases h : t.isEmpty <;> simp [normalAll, telling, h, ih]

theorem normal_statement {children : List LicenseTree} {op : Option Junction}
    (h : telling children ≠ []) :
    normal (statement children op) = wrap (op.getD .and) ((telling children).map normal) := by
  rw [normal, if_neg (mt telling_eq_nil_iff.2 h), normalAll_eq_map]

/-! ## The normal form is what is read -/

/-- Several children stay under their operator. -/
theorem wrap_cons_cons (op : Junction) (t u : LicenseTree) (ts : List LicenseTree) :
    wrap op (t :: u :: ts) = statement (t :: u :: ts) (some op) := by
  cases t <;> rfl

theorem parenthesize_collapse (op : Junction) (ts : List LicenseTree) :
    parenthesize (collapse op ts) = wrap op ts := by
  match ts with
  | [] => rfl
  | [license l] => rfl
  | [statement children op'] => rfl
  | t :: u :: ts => rw [wrap_cons_cons]; rfl

/-- Names that come along with ids do not decide what is wrapped. -/
theorem bare_wrap (op : Junction) (ts : List LicenseTree) :
    (wrap op ts).bare = wrap op (ts.map bare) := by
  match ts with
  | [] => rfl
  | [license l] => rfl
  | [statement children op'] => rfl
  | t :: u :: ts =>
    rw [wrap_cons_cons, bare, bareAll_eq_map, List.map_cons, List.map_cons, wrap_cons_cons]

/-- Reading a printed tree normalizes it. -/
theorem reread_beq_normal (t : LicenseTree) : (t.reread == t.normal) = true := by
  rw [beq_iff_bare_eq]
  induction t using LicenseTree.induction with
  | license l =>
    rw [reread, normal]
    split <;> rfl
  | statement children op ih =>
    by_cases hnil : telling children = []
    · have hempty := telling_eq_nil_iff.1 hnil
      rw [reread, normal, if_pos hempty, if_pos hempty]
    · have hchildren : ((telling children).map reread).map bare =
          ((telling children).map normal).map bare := by
        rw [List.map_map, List.map_map]
        exact List.map_congr_left fun t ht => ih t (mem_telling.1 ht).1
      rw [reread_statement hnil, normal_statement hnil, parenthesize_collapse, bare_wrap,
        bare_wrap, hchildren]

/-! ## Trees that say nothing -/

theorem scan_eq_nil_of_forall {s : String} (h : ∀ c ∈ s.toList, isBlank c) : scan s = [] := by
  rw [scan_eq, tokensOf_of_forall fun c hc => isParen_of_isBlank (h c hc), wordsOf_eq_nil_iff.2 h,
    List.map_nil]

/-- A tree that says nothing prints no token. -/
theorem scan_evaluate_of_isEmpty {t : LicenseTree} (h : t.isEmpty) : scan t.evaluate = [] := by
  cases t with
  | license l => exact scan_eq_nil_of_forall (List.all_eq_true.1 h)
  | statement children op =>
    rw [evaluate_of_isEmpty_statement h]
    rfl

theorem normal_of_isEmpty {t : LicenseTree} (h : t.isEmpty) : t.normal = empty := by
  cases t with
  | license l => exact if_pos h
  | statement children op => exact if_pos h

theorem parse_evaluate_of_isEmpty {t : LicenseTree} (h : t.isEmpty) :
    parse t.evaluate = .ok t.normal := by
  rw [normal_of_isEmpty h]
  exact parse_eq_ok_iff.2 (.inl ⟨scan_evaluate_of_isEmpty h, rfl⟩)

/-! ## Printing and reading -/

/-- What a tree with plain ids prints is read as the normal form of the tree up to the nesting
that is allowed, and is an error beyond it. -/
theorem parse_evaluate_beq_normal {t : LicenseTree} (h : Plain t) :
    (nesting t.evaluate ≤ maxDepth →
      ∃ r, parse t.evaluate = .ok r ∧ (r == t.normal) = true) ∧
    (maxDepth < nesting t.evaluate → ∃ e, parse t.evaluate = .error e) := by
  constructor
  · intro hn
    cases hempty : t.isEmpty with
    | true => exact ⟨t.normal, parse_evaluate_of_isEmpty hempty, beq_self_eq_true _⟩
    | false => exact ⟨t.reread, parse_evaluate_eq_reread h hempty hn, reread_beq_normal t⟩
  · intro hn
    cases hparse : parse t.evaluate with
    | error e => exact ⟨e, rfl⟩
    | ok r => exact absurd (nesting_le_of_parse hparse) (Nat.not_le_of_lt hn)

/-- A blank license, an empty statement, a statement around a single license and one around a
statement, under no operator. -/
def cluttered : LicenseTree :=
  statement
    [license (.ofId " "), empty, statement [license (.ofId "GPL-2.0 WITH Classpath")] (some .or),
      statement [statement [license (.ofId "MIT"), license (.ofId "BSD 3 Clause")] (some .or)] none]
    none

theorem plain_cluttered : Plain cluttered := by
  have hblank : Plain (license (.ofId " ")) := .license fun h => absurd h (by decide +kernel)
  have hempty : Plain empty := .statement fun t ht => absurd ht List.not_mem_nil
  have hexception : Plain (license (.ofId "GPL-2.0 WITH Classpath")) :=
    .license fun _ => .inr ⟨["GPL-2.0"], ["Classpath"], by decide +kernel⟩
  have hword : Plain (license (.ofId "MIT")) := .license fun _ => .ofWord (by decide +kernel)
  have hwords : Plain (license (.ofId "BSD 3 Clause")) :=
    .license fun _ => .inl ⟨["BSD", "3", "Clause"], by decide +kernel⟩
  have hsingle : Plain (statement [license (.ofId "GPL-2.0 WITH Classpath")] (some .or)) :=
    .statement (by simpa using hexception)
  have hpair : Plain (statement [license (.ofId "MIT"), license (.ofId "BSD 3 Clause")]
      (some .or)) := .statement (by simpa using ⟨hword, hwords⟩)
  have houter : Plain (statement [statement [license (.ofId "MIT"), license (.ofId "BSD 3 Clause")]
      (some .or)] none) := .statement (by simpa using hpair)
  exact .statement (by simpa using ⟨hblank, hempty, hsingle, houter⟩)

theorem plain_ladderTree {n : Nat} (h : n ≤ maxDepth) : Plain (ladderTree n) := by
  rcases settled_of_parse (parse_ladder h) with hempty | hs
  · have := isEmpty_ladderTree n
    rw [hempty] at this
    cases this
  · exact hs.plain

/-- Two statements are left of the cluttered tree; a ladder of 33 rungs prints too deep. -/
theorem parse_evaluate_cluttered :
    (Plain cluttered ∧ ∃ r, parse cluttered.evaluate = .ok r ∧
      (r == statement
        [statement [license (.ofId "GPL-2.0 WITH Classpath")] (some .and),
          statement [license (.ofId "MIT"), license (.ofId "BSD 3 Clause")] (some .or)]
        (some .and)) = true) ∧
    Plain (ladderTree 33) ∧ ∃ e, parse (ladderTree 33).evaluate = .error e := by
  have hshallow : nesting cluttered.evaluate ≤ maxDepth := by decide +kernel
  have hdeep : maxDepth < nesting (ladderTree 33).evaluate := by
    rw [nesting_eq, (balanced_ladderTree 33).deepest_eq]
    decide
  have hladder := plain_ladderTree (n := 33) (by decide)
  exact ⟨⟨plain_cluttered, (parse_evaluate_beq_normal plain_cluttered).1 hshallow⟩, hladder,
    (parse_evaluate_beq_normal hladder).2 hdeep⟩

end Clearinghouse.LicenseTree
