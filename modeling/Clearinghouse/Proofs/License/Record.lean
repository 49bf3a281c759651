import Clearinghouse.License.Record
import Clearinghouse.Proofs.License.Tree

/-!
# License trees and their JSON values

Main statement: `LicenseTree.read_toJson`, a tree is read back from the value that it is written
as, down to the names and texts of its leaves.

The value carries no tag. A license is tried first and must have an id, and a statement is written
without one (`LicenseTree.license_ofJson?_statement`).
-/

namespace Clearinghouse

theorem License.ofJson?_toJson (l : License) : License.ofJson? l.toJson = some l := by
  obtain ⟨id, longName, text⟩ := l
  cases longName <;> cases text <;> rfl

/-- An operator is found behind the children, or found to be left out. -/
theorem Junction.optional?_lookup (children : Json) (op : Option Junction) :
    Junction.optional? (List.lookup "op" <|
      ("licenses", children) :: Json.field? "op" (op.map (.string ·.word))) = some op := by
  rcases op with _ | _ | _ <;> rfl

namespace LicenseTree

/-- The license that the tree consists of, if it is a single one. -/
def single? : LicenseTree → Option License
  | license l => some l
  | statement _ _ => none

variable (children : List LicenseTree) (op : Option Junction)

theorem license_ofJson?_statement : License.ofJson? (statement children op).toJson = none := by
  cases op <;> rfl

/-- Where no license is read, the fields of a statement are. -/
theorem ofJson?_statement : ofJson? (statement children op).toJson =
    (ofJsonAll? (toJsonAll children)).map (statement · op) := by
  have hlicense := license_ofJson?_statement children op
  rw [toJson] at hlicense ⊢
  rw [ofJson?, hlicense]
  simp only [childrenField?, beq_self_eq_true, if_true, ofJsonItems?, Junction.optional?_lookup]
  cases ofJsonAll? (toJsonAll children) <;> rfl

variable {children} in
theorem ofJsonAll?_toJsonAll (h : ∀ t ∈ children, ofJson? t.toJson = some t) :
    ofJsonAll? (toJsonAll children) = some children := by
  induction children with
  | nil => rfl
  | cons t ts ih =>
    have hts := ih fun u hu => h u (List.mem_cons_of_mem t hu)
    rw [toJsonAll, ofJsonAll?, h t List.mem_cons_self, hts]
    rfl

/-- A tree is read back from the value that it is written as, and a license is read from that
value only if the tree is one. -/
theorem read_toJson (t : LicenseTree) :
    ofJson? t.toJson = some t ∧ License.ofJson? t.toJson = t.single? := by
  induction t using LicenseTree.induction with
  | license l =>
    have hl : License.ofJson? (license l).toJson = some l := l.ofJson?_toJson
    refine ⟨?_, hl⟩
    rw [toJson, License.toJson, ofJson?, ← License.toJson, l.ofJson?_toJson]
  | statement children op ih =>
    have hread := ofJsonAll?_toJsonAll fun t ht => (ih t ht).1
    exact ⟨by rw [ofJson?_statement, hread, Option.map_some], license_ofJson?_statement children op⟩

/-- A license inside a statement keeps its name, and an empty statement beside it stays one. -/
example : ofJson? (toJson (statement
    [license ⟨"MIT", some "MIT License", none⟩, statement [] none] (some .or))) =
    some (statement [license ⟨"MIT", some "MIT License", none⟩, statement [] none] (some .or)) := by
  rfl

end LicenseTree

end Clearinghouse
