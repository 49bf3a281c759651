import Clearinghouse.Proofs.License.Ids
import Clearinghouse.Proofs.Table.Rows

/-!
# Licenses in cells

A cell that is no expression is the id of one license, so every cell gives a license
(`ofCell_readLicense`). Written to a cell and read again it is the same, unless it is a statement
that prints too deep: then it is the id of one license (`readLicense_evaluate`). The ids in one
or two licenses tell whether that has happened (`shallow_of_hasId_iff`).
-/

namespace Clearinghouse

open Text

namespace LicenseTree

open License License.Token

/-- If the tree is a statement, it prints no deeper than can be read. -/
def Shallow (t : LicenseTree) : Prop :=
  ∀ children op, t = statement children op → nesting t.evaluate ≤ maxDepth

/-- The tree is one that a cell gives: it has been read, or it is the text of the cell. -/
inductive OfCell : LicenseTree → Prop
  | settled {t : LicenseTree} (h : Settled t) : OfCell t
  | unread {text : String} (ht : Trimmed text) (hne : text ≠ "")
      (h : ∀ t, parse text ≠ .ok t) : OfCell (license (.ofId text))

/-- What is read from a text with something in it is settled. -/
theorem settled_of_parse_of_trimmed {text : String} {t : LicenseTree} (ht : Trimmed text)
    (hne : text ≠ "") (h : parse text = .ok t) : Settled t := by
  rcases parse_eq_ok_iff.1 h with ⟨hnil, -⟩ | hderives
  · have hblank : isAllBlank text = true :=
      List.all_eq_true.2 (isBlank_of_scan_eq_nil hnil)
    exact absurd (ht.symm.trans (trim_eq_empty_iff.2 hblank)) hne
  · exact settles_derives maxDepth _ _ (fun w hw => isWord_of_mem_scan hw) hderives

theorem isEmpty_ofId {text : String} (ht : Trimmed text) (hne : text ≠ "") :
    (license (.ofId text)).isEmpty = false :=
  Bool.eq_false_iff.2 fun hempty => hne (ht.symm.trans (trim_eq_empty_iff.2 hempty))

theorem OfCell.isEmpty_eq_false {t : LicenseTree} (h : OfCell t) : t.isEmpty = false := by
  cases h with
  | settled h => exact h.tells
  | unread ht hne h => exact isEmpty_ofId ht hne

theorem OfCell.trimmed_evaluate {t : LicenseTree} (h : OfCell t) :
    Trimmed t.evaluate ∧ t.evaluate ≠ "" := by
  cases h with
  | settled h => exact LicenseTree.trimmed_evaluate h.plain h.tells
  | unread ht hne h => exact ⟨ht, hne⟩

end LicenseTree

namespace Table

open LicenseTree

theorem ofCell_readLicense {text : String} (ht : Trimmed text) (hne : text ≠ "") :
    (readLicense text).OfCell := by
  by_cases h : ∃ t, LicenseTree.parse text = .ok t
  · obtain ⟨t, h⟩ := h
    rw [readLicense_of_parse h]
    exact .settled (settled_of_parse_of_trimmed ht hne h)
  · have hunread : ∀ t, LicenseTree.parse text ≠ .ok t := not_exists.1 h
    rw [readLicense_of_error hunread]
    exact .unread ht hne hunread

/-- Written to a cell, a license that does not print too deep is read again. -/
theorem readLicense_evaluate {t : LicenseTree} (h : t.OfCell) (hs : t.Shallow) :
    readLicense t.evaluate = t := by
  cases h with
  | settled h =>
    cases t with
    | license l =>
      have hid : l.isEmpty = false := h.tells
      cases h.plain with
      | license hplain =>
        rw [evaluate_license, readLicense_of_parse (parse_plainId (hplain hid)),
          ← reread_license hid]
        exact h.reread_eq
    | statement children op =>
      exact readLicense_of_parse (parse_evaluate_of_settled h (hs children op rfl))
  | unread ht hne h => exact readLicense_of_error h

/-- A license that prints too deep is a settled statement, and what it prints is not read. -/
theorem of_not_shallow {t : LicenseTree} (h : t.OfCell) (hs : ¬ t.Shallow) :
    t.Settled ∧ ∀ u, LicenseTree.parse t.evaluate ≠ .ok u := by
  obtain ⟨children, op, rfl, hdeep⟩ : ∃ children op, t = .statement children op ∧
      License.maxDepth < License.nesting t.evaluate := by
    simpa [Shallow] using hs
  cases h with
  | settled h =>
    exact ⟨h, fun u hu => absurd (nesting_le_of_parse hu) (Nat.not_le.2 hdeep)⟩

/-- The ids in a license from a cell can be read, or the license is the text of the cell. -/
theorem parse_of_hasId {t : LicenseTree} (h : t.OfCell) {id : String} (hid : HasId id t) :
    (∃ u, LicenseTree.parse id = .ok u) ∨ t = .license (.ofId id) := by
  cases h with
  | settled h => exact .inl ⟨_, parse_plainId (h.plain.plainId hid)⟩
  | unread ht hne h =>
    obtain ⟨-, rfl⟩ := hasId_license.1 hid
    exact .inr rfl

/-- Where there are no more than two, any two different ones are all. -/
theorem eq_or_eq_of_mem {α : Type} {as : List α} (hlength : as.length ≤ 2) {a b c : α}
    (ha : a ∈ as) (hb : b ∈ as) (hne : a ≠ b) (hc : c ∈ as) : c = a ∨ c = b := by
  match as, hlength with
  | [x], _ =>
    rw [List.mem_singleton] at ha hb
    exact absurd (ha.trans hb.symm) hne
  | [x, y], _ =>
    simp only [List.mem_cons, List.not_mem_nil, or_false] at ha hb hc
    grind

/-- If one or two licenses have the same ids after they were written to cells and read again,
then none of them printed too deep. -/
theorem shallow_of_hasId_iff {ts : List LicenseTree} (hlength : ts.length ≤ 2)
    (hts : ∀ t ∈ ts, t.OfCell)
    (hids : ∀ id, Trimmed id →
      ((∃ t ∈ ts, HasId id t) ↔ ∃ t ∈ ts, HasId id (readLicense t.evaluate)))
    {t : LicenseTree} (ht : t ∈ ts) : t.Shallow := by
  by_contra hdeep
  obtain ⟨hsettled, hunread⟩ := of_not_shallow (hts t ht) hdeep
  obtain ⟨htrim, hne⟩ := (hts t ht).trimmed_evaluate
  have htext : readLicense t.evaluate = .license (.ofId t.evaluate) :=
    readLicense_of_error hunread
  have honly {id : String} : HasId id (.license (.ofId t.evaluate)) ↔ t.evaluate = id := by
    rw [hasId_license]
    exact and_iff_right (isEmpty_ofId htrim hne)
  -- the text of `t` is an id after reading, so it was one before, and not in `t` itself
  obtain ⟨u, hu, hhas⟩ := (hids _ htrim).2 ⟨t, ht, htext ▸ honly.2 rfl⟩
  have huid : u = .license (.ofId t.evaluate) :=
    (parse_of_hasId (hts u hu) hhas).resolve_left fun ⟨v, hv⟩ => hunread v hv
  -- so the ids of `t` are gone: what is left are `t` and `u`, both of them this text
  obtain ⟨id, hid⟩ := exists_hasId hsettled.tells
  have hplain := hsettled.plain.plainId hid
  obtain ⟨v, hv, hvid⟩ := (hids id (trimmed_plainId hplain).1).1 ⟨t, ht, hid⟩
  have hgone : ¬ HasId id (.license (.ofId t.evaluate)) := by
    rw [honly]
    rintro rfl
    exact hunread _ (parse_plainId hplain)
  have hureread : readLicense u.evaluate = .license (.ofId t.evaluate) := by
    rw [huid]
    exact readLicense_of_error hunread
  have hdiff : t ≠ u := by
    rintro rfl
    rw [huid] at hid
    exact hgone hid
  rcases eq_or_eq_of_mem hlength ht hu hdiff hv with rfl | rfl
  · exact hgone (htext ▸ hvid)
  · exact hgone (hureread ▸ hvid)

end Table

end Clearinghouse
