import Clearinghouse.Proofs.Fact.Meeting
import Clearinghouse.Proofs.Text.Lines

/-!
# Uniting copyright statements

Statements that are made from texts form an idempotent monoid under `union`, and making them
takes a line feed between two texts to the union of their statements. Main statement:
`unionLaws_of_made`.

1. The lines of a text are added one by one (`ofText_eq_pushAll_lines`), so the lines of a text
   after another are added to what the first one makes (`ofText_append`).
2. A statement keeps its lines in front when another one is united with it; what the other one
   has comes after them, each line once (`Made.lines_union`).
-/

namespace Clearinghouse

open Text

namespace Copyright

variable {c d : Copyright}

/-! ## Texts -/

theorem push_dropReturn (c : Copyright) (line : String) : c.push (dropReturn line) = c.push line := by
  rw [push, push, trimmed?_dropReturn]

theorem pushAll_endLines (c : Copyright) (pieces : List String) :
    c.pushAll (endLines pieces) = c.pushAll pieces := by
  induction pieces generalizing c with
  | nil => rfl
  | cons line pieces ih =>
    by_cases hpieces : pieces = []
    · subst hpieces
      unfold endLines
      split
      · rename_i hempty
        rw [hempty, pushAll_cons, push_of_eq_none trimmed?_empty]
      · rfl
    · rw [endLines_cons hpieces, pushAll_cons, pushAll_cons, push_dropReturn, ih]

/-- A statement takes in the lines of its text, whether or not they end with a carriage return
and whether or not the last one is ended. -/
theorem ofText_eq_pushAll_lines (s : String) : ofText s = empty.pushAll (Text.lines s) :=
  (pushAll_endLines empty (splitAt '\n' s)).symm

theorem ofText_empty : ofText "" = empty := by decide

/-- The statement of a text after another adds the lines of the one to the other. -/
theorem ofText_append (s t : String) : ofText (s ++ "\n" ++ t) = (ofText s).union (ofText t) := by
  show empty.pushAll (splitAt '\n' (s ++ "\n" ++ t)) = (ofText s).union (ofText t)
  have hpieces : splitAt '\n' (s ++ "\n" ++ t) = splitAt '\n' s ++ splitAt '\n' t :=
    splitAt_append '\n' s t
  calc empty.pushAll (splitAt '\n' (s ++ "\n" ++ t))
      = (ofText s).pushAll (splitAt '\n' t) := by rw [hpieces, pushAll_append]; rfl
    _ = ((ofText s).union empty).pushAll (splitAt '\n' t) := by rw [union_empty]
    _ = (ofText s).union (ofText t) := (union_pushAll _ _ _).symm

/-- What has no lines has the empty text, and so is read back as well. -/
theorem Made.ofText_toText_eq (hc : c.Made) : Copyright.ofText c.toText = c := by
  by_cases hnil : c.lines = []
  · have hempty : c = empty := ext_lines hnil
    subst hempty
    exact ofText_empty
  · exact hc.ofText_toText hnil

/-! ## Unions -/

theorem Made.empty_union (hc : c.Made) : empty.union c = c :=
  ext_lines ((hc.lines_union empty).trans (Distinct.nil_union_of_nodup hc.nodup))

theorem Made.mem_union_iff (hd : d.Made) (c : Copyright) (line : String) :
    line ∈ (c.union d).lines ↔ line ∈ c.lines ∨ line ∈ d.lines := by
  rw [hd.lines_union c, ← List.contains_iff_mem, Distinct.contains_union, Bool.or_eq_true,
    List.contains_iff_mem, List.contains_iff_mem]

/-- Statements are united like the texts that they are made from. -/
structure UnionLaws (c d : Copyright) : Prop where
  assoc : ∀ e, c.union (d.union e) = (c.union d).union e
  empty_union : empty.union c = c
  union_empty : c.union empty = c
  union_self : c.union c = c
  /-- The lines of the first statement keep their places. -/
  keeps : c.lines <+: (c.union d).lines
  mem_iff : ∀ line, line ∈ (c.union d).lines ↔ line ∈ c.lines ∨ line ∈ d.lines
  nodup : (c.union d).lines.Nodup
  /-- A statement is read back from its text. -/
  reread : ofText c.toText = c

/-- A line feed between two texts unites their statements, and statements that are made from
texts form an idempotent monoid. -/
theorem unionLaws_of_made (s t : String) (hc : c.Made) (hd : d.Made) :
    ofText (s ++ "\n" ++ t) = (ofText s).union (ofText t) ∧ UnionLaws c d := by
  refine ⟨ofText_append s t, ?_⟩
  exact {
    assoc := union_assoc c d
    empty_union := hc.empty_union
    union_empty := union_empty c
    union_self := hc.union_self
    keeps := (union_eq_append c d).elim fun new h => ⟨new, h.symm⟩
    mem_iff := hd.mem_union_iff c
    nodup := nodup_union hc.nodup d
    reread := hc.ofText_toText_eq }

end Copyright

namespace Samples

/-- A text with carriage returns, a blank line, and a line that comes twice. -/
def notice : String := "2020 A\r\n\t\r\n  2021 B \r\n2020 A"

def notes : String := "2022 C\n2021 B\n"

end Samples

open Samples in
theorem Copyright.unionLaws_notice :
    (ofText notice).union (ofText notes) = ⟨["2020 A", "2021 B", "2022 C"]⟩ ∧
      ofText (notice ++ "\n" ++ notes) = (ofText notice).union (ofText notes) ∧
      UnionLaws (ofText notice) (ofText notes) :=
  ⟨by decide +kernel, unionLaws_of_made notice notes (.ofText notice) (.ofText notes)⟩

end Clearinghouse
