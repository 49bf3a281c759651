import Clearinghouse.Fact.Copyright
import Clearinghouse.Proofs.Distinct
import Clearinghouse.Proofs.Text.Trimmed
import Mathlib.Data.List.Induction

/-!
# Copyright statements as text

Statements are made from texts and united (`Copyright.Made`). Their lines are trimmed, not
blank, on one line, and each there once. Main statements: such a statement is read back from its
own text (`ofText_toText`), and uniting it with itself changes nothing (`union_self`).
-/

namespace Clearinghouse

open Text

/-! ## Lines of a text -/

namespace Text

theorem splitWhere_join {p : Char → Bool} {c : Char} (hc : p c) {pieces : List (List Char)}
    (hne : pieces ≠ []) (h : ∀ piece ∈ pieces, ∀ d ∈ piece, p d = false) :
    splitWhere p ([c].intercalate pieces) = pieces := by
  induction pieces with
  | nil => exact absurd rfl hne
  | cons piece pieces ih =>
    have hpiece := splitWhere_of_forall (h piece List.mem_cons_self)
    cases pieces with
    | nil => rw [List.intercalate_singleton, hpiece]
    | cons next pieces =>
      have hrest := ih (by simp) fun piece hm => h piece (List.mem_cons_of_mem _ hm)
      rw [List.intercalate_cons_cons, List.append_assoc, List.singleton_append,
        splitWhere_append p _ hc, hpiece, hrest]
      rfl

/-- Joined lines are cut into the same lines. -/
theorem splitAt_join {c : Char} {lines : List String} (hne : lines ≠ [])
    (h : ∀ line ∈ lines, c ∉ line.toList) : splitAt c (join (.singleton c) lines) = lines := by
  have hlines : ∀ piece ∈ lines.map String.toList, ∀ d ∈ piece, (d == c) = false := by
    intro piece hp d hd
    obtain ⟨line, hl, rfl⟩ := List.mem_map.1 hp
    simpa using fun heq : d = c => h line hl (heq ▸ hd)
  have hchars : (join (.singleton c) lines).toList = [c].intercalate (lines.map String.toList) := by
    rw [join, String.toList_intercalate, String.toList_singleton]
  rw [splitAt, hchars, splitWhere_join (by simp) (by simpa using hne) hlines, List.map_map]
  simp

end Text

namespace Copyright

/-- The statement is one that can be made: from a text, or by uniting such. -/
inductive Made : Copyright → Prop
  | ofText (s : String) : Made (ofText s)
  | union {c d : Copyright} (hc : Made c) (hd : Made d) : Made (c.union d)

/-- A line that is there: trimmed, not blank, and no more than one. -/
structure IsLine (line : String) : Prop where
  trimmed : Trimmed line
  ne_empty : line ≠ ""
  single : '\n' ∉ line.toList

/-! ## Adding lines -/

theorem push_of_eq_none {line : String} (h : trimmed? line = none) (c : Copyright) :
    c.push line = c := by
  rw [push, h]

theorem lines_push {line trimmed : String} (h : trimmed? line = some trimmed) (c : Copyright) :
    (c.push line).lines = Distinct.insert c.lines trimmed := by
  rw [push, h, Distinct.insert]
  dsimp only
  split <;> rfl

/-- The lines that are there, then what is new among those that are added. -/
theorem lines_pushAll (c : Copyright) (lines : List String) :
    (c.pushAll lines).lines = Distinct.union c.lines (lines.filterMap trimmed?) := by
  induction lines generalizing c with
  | nil => rfl
  | cons line lines ih =>
    rw [pushAll_cons, ih]
    cases h : trimmed? line with
    | none => rw [push_of_eq_none h, List.filterMap_cons_none h]
    | some trimmed => rw [lines_push h, List.filterMap_cons_some h, Distinct.union_cons]

theorem filterMap_trimmed? {lines : List String} (h : ∀ line ∈ lines, IsLine line) :
    lines.filterMap trimmed? = lines := by
  have hself : ∀ line ∈ lines, trimmed? line = some line := fun line hl =>
    trimmed?_of_trimmed (h line hl).trimmed (h line hl).ne_empty
  rw [List.filterMap_congr hself, List.filterMap_some]

theorem isLine_of_mem_pushAll {c : Copyright} (hc : ∀ line ∈ c.lines, IsLine line)
    {lines : List String} (h : ∀ line ∈ lines, '\n' ∉ line.toList) :
    ∀ line ∈ (c.pushAll lines).lines, IsLine line := by
  intro l hl
  rw [lines_pushAll] at hl
  rcases Distinct.mem_of_mem_union hl with hl | hl
  · exact hc l hl
  · obtain ⟨line, hline, ht⟩ := List.mem_filterMap.1 hl
    obtain ⟨rfl, hne⟩ := trimmed?_eq_some_iff.1 ht
    refine ⟨trimmed_trim line, hne, fun hmem => h line hline ?_⟩
    rw [trim, String.toList_ofList] at hmem
    exact mem_of_mem_trimChars hmem

/-- A text that is not blank makes a line. -/
theorem lines_ofText_ne_nil {s : String} (h : trim s ≠ "") : (ofText s).lines ≠ [] := by
  obtain ⟨c, hc, hblank⟩ := isAllBlank_eq_false_iff.1
    (Bool.eq_false_iff.2 fun hall => h (trim_eq_empty_iff.2 hall))
  have hcut : (c == '\n') = false := by
    rw [beq_eq_false_iff_ne]
    rintro rfl
    exact absurd hblank (by decide +kernel)
  obtain ⟨piece, hpiece, hmem⟩ := exists_mem_splitWhere (p := (· == '\n')) hc hcut
  have hkept : trimmed? (.ofList piece) = some (trim (.ofList piece)) := by
    refine trimmed?_eq_some_iff.2 ⟨rfl, fun heq => ?_⟩
    have hall := List.all_eq_true.1 (trim_eq_empty_iff.1 heq) c (by simpa using hmem)
    rw [hblank] at hall
    cases hall
  have hline : trim (.ofList piece) ∈ (splitAt '\n' s).filterMap trimmed? :=
    List.mem_filterMap.2 ⟨_, List.mem_map_of_mem hpiece, hkept⟩
  intro hnil
  have hcontains := Distinct.contains_union [] ((splitAt '\n' s).filterMap trimmed?)
    (trim (.ofList piece))
  rw [show Distinct.union [] _ = [] from (lines_pushAll empty _).symm.trans hnil,
    Distinct.contains_of_mem hline] at hcontains
  cases hcontains

theorem Made.isLine {c : Copyright} (h : Made c) : ∀ line ∈ c.lines, IsLine line := by
  induction h with
  | ofText s =>
    refine isLine_of_mem_pushAll (by simp [empty]) fun line hl hmem => ?_
    obtain ⟨piece, hp, rfl⟩ := List.mem_map.1 hl
    rw [String.toList_ofList] at hmem
    simpa using not_of_mem_splitWhere hp hmem
  | union _ _ hc hd => exact isLine_of_mem_pushAll hc fun line hl => (hd line hl).single

theorem Made.nodup {c : Copyright} (h : Made c) : c.lines.Nodup := by
  induction h with
  | ofText s => exact nodup_pushAll List.nodup_nil _
  | union _ _ hc _ => exact nodup_union hc _

/-- The lines of a union: those of the first statement, then what is new in the second. -/
theorem Made.lines_union {d : Copyright} (h : d.Made) (c : Copyright) :
    (c.union d).lines = Distinct.union c.lines d.lines := by
  rw [Copyright.union, lines_pushAll, filterMap_trimmed? h.isLine]

theorem ext_lines {c d : Copyright} (h : c.lines = d.lines) : c = d := congrArg Copyright.mk h

/-- A statement that is united with itself stays as it is. -/
theorem Made.union_self {c : Copyright} (h : Made c) : c.union c = c :=
  ext_lines ((h.lines_union c).trans (Distinct.union_self c.lines))

/-- A statement is read back from its own text. -/
theorem Made.ofText_toText {c : Copyright} (h : Made c) (hne : c.lines ≠ []) :
    Copyright.ofText c.toText = c := by
  have hsplit : splitAt '\n' c.toText = c.lines :=
    splitAt_join hne fun line hl => (h.isLine line hl).single
  refine ext_lines ?_
  rw [Copyright.ofText, hsplit, lines_pushAll, filterMap_trimmed? h.isLine]
  exact Distinct.nil_union_of_nodup h.nodup

theorem Made.trimmed_toText {c : Copyright} (h : Made c) (hne : c.lines ≠ []) :
    Trimmed c.toText ∧ c.toText ≠ "" :=
  trimmed_join "\n" hne fun line hl => ⟨(h.isLine line hl).trimmed, (h.isLine line hl).ne_empty⟩

end Copyright

end Clearinghouse
