import Clearinghouse.Proofs.License.Leaves
import Clearinghouse.Proofs.License.Reparse

/-!
# The ids in a tree

An id is in a tree if a leaf that says something has it (`hasId_iff_isLeaf`), so it is in a
statement if it is in one of the children, and equal trees have the same ids. The ids in a tree
that has been read are plain (`Plain.plainId`), and a plain id is read as itself
(`parse_plainId`).
-/

namespace Clearinghouse.LicenseTree

open License License.Token

/-- The id is that of a license in the tree. -/
def HasId (id : String) (t : LicenseTree) : Prop := ∃ l ∈ t.licenses, l.id = id

variable {id : String}

theorem hasId_license {l : License} : HasId id (license l) ↔ l.isEmpty = false ∧ l.id = id := by
  unfold HasId licenses
  cases l.isEmpty <;> simp

theorem hasId_iff_exists_tellingLeaf {t : LicenseTree} :
    HasId id t ↔ ∃ l ∈ t.tellingLeaves, l.id = id := by
  rw [HasId, ← List.mem_map, t.firstAppearances_licenses.ids, List.mem_eraseDups, List.mem_map]

/-- The ids in a statement are those in its children. -/
theorem hasId_statement {children : List LicenseTree} {op : Option Junction} :
    HasId id (statement children op) ↔ ∃ t ∈ children, HasId id t := by
  simp only [hasId_iff_exists_tellingLeaf, tellingLeaves_statement, List.mem_flatMap]
  constructor
  · rintro ⟨l, ⟨t, ht, hl⟩, hid⟩
    exact ⟨t, ht, l, hl, hid⟩
  · rintro ⟨t, ht, l, hl, hid⟩
    exact ⟨l, ⟨t, ht, hl⟩, hid⟩

/-- The license stands somewhere in the tree. -/
inductive IsLeaf (l : License) : LicenseTree → Prop
  | license : IsLeaf l (.license l)
  | statement {children : List LicenseTree} {op : Option Junction} {t : LicenseTree}
      (ht : t ∈ children) (h : IsLeaf l t) : IsLeaf l (.statement children op)

theorem isLeaf_iff_mem_leaves {l : License} {t : LicenseTree} : IsLeaf l t ↔ l ∈ t.leaves := by
  induction t using LicenseTree.induction with
  | license m =>
    rw [leaves, List.mem_singleton]
    constructor
    · rintro ⟨⟩
      rfl
    · rintro rfl
      exact .license
  | statement children op ih =>
    rw [leaves, leavesAll_eq_flatMap, List.mem_flatMap]
    constructor
    · intro h
      cases h with
      | statement ht hleaf => exact ⟨_, ht, (ih _ ht).1 hleaf⟩
    · rintro ⟨t, ht, hleaf⟩
      exact .statement ht ((ih t ht).2 hleaf)

/-- A tree says something if a leaf does. -/
theorem exists_isLeaf_iff {t : LicenseTree} :
    (∃ l, IsLeaf l t ∧ l.isEmpty = false) ↔ t.isEmpty = false := by
  rw [← Bool.not_eq_true, ← tellingLeaves_eq_nil_iff, tellingLeaves, List.filter_eq_nil_iff]
  push Not
  simp only [isLeaf_iff_mem_leaves, Bool.not_eq_true']

/-- An id is in a tree if a leaf that says something has it. Of leaves with one id only the first
is listed. -/
theorem hasId_iff_isLeaf {t : LicenseTree} :
    HasId id t ↔ ∃ l, IsLeaf l t ∧ l.isEmpty = false ∧ l.id = id := by
  rw [hasId_iff_exists_tellingLeaf]
  simp only [tellingLeaves, List.mem_filter, isLeaf_iff_mem_leaves, Bool.not_eq_true', and_assoc]

theorem hasId_bare {t : LicenseTree} : HasId id t.bare ↔ HasId id t := by
  induction t using LicenseTree.induction with
  | license l =>
    rw [bare, hasId_license, hasId_license]
    rfl
  | statement children op ih =>
    rw [bare, bareAll_eq_map, hasId_statement, hasId_statement]
    simp only [List.mem_map, exists_exists_and_eq_and]
    exact exists_congr fun t => and_congr_right fun ht => ih t ht

/-- Equal trees have the same ids. -/
theorem hasId_congr {t u : LicenseTree} (h : (t == u) = true) : HasId id t ↔ HasId id u := by
  rw [← hasId_bare, beq_iff_bare_eq.1 h, hasId_bare]

/-- A tree that says something has an id. -/
theorem exists_hasId {t : LicenseTree} (h : t.isEmpty = false) : ∃ id, HasId id t := by
  have hne : t.licenses ≠ [] := mt licenses_eq_nil_iff.1 (by simp [h])
  obtain ⟨l, ls, heq⟩ := List.exists_cons_of_ne_nil hne
  exact ⟨l.id, l, heq ▸ List.mem_cons_self, rfl⟩

theorem Plain.plainId {t : LicenseTree} (hp : Plain t) (h : HasId id t) : PlainId id := by
  induction t using LicenseTree.induction with
  | license l =>
    obtain ⟨hne, rfl⟩ := hasId_license.1 h
    cases hp with
    | license hl => exact hl hne
  | statement children op ih =>
    obtain ⟨t, ht, hid⟩ := hasId_statement.1 h
    cases hp with
    | statement hch => exact ih t ht (hch t ht) hid

/-- A plain id is read as the license that it names. -/
theorem parse_plainId (h : PlainId id) : parse id = .ok (license (known id)) := by
  refine parse_eq_ok_iff.2 (.inr ?_)
  rw [derives_eq]
  exact .one (.one (h.atom _))

theorem hasId_ladderTree (n : Nat) : HasId "A" (ladderTree n) := by
  have hlast : HasId "A" (license (known "A")) :=
    hasId_license.2 ⟨plainId_A.isEmpty_eq_false, rfl⟩
  cases n with
  | zero => exact hlast
  | succ n => exact hasId_statement.2 ⟨license (known "A"), by simp, hlast⟩

end Clearinghouse.LicenseTree
