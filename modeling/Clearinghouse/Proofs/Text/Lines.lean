import Clearinghouse.Proofs.Text.Trimmed

/-!
# Lines of a text

A line feed ends a line, alone or after a carriage return. What follows the last line feed is a
line too, unless nothing does. Main statements: texts that are each ended by a line feed have
their lines in turn (`lines_join_ended`), so they have one line each if and only if none of them
holds a line feed (`length_lines_join_ended_iff`).
-/

namespace Clearinghouse.Text

/-- The line without the carriage return at its end. -/
def dropReturn (line : String) : String :=
  if line.toList.getLast? = some '\r' then .ofList line.toList.dropLast else line

/-- The lines, from the pieces between line feeds: a line feed ends all of them but the last. -/
def endLines : List String → List String
  | [] => []
  | [rest] => if rest = "" then [] else [rest]
  | line :: next :: pieces => dropReturn line :: endLines (next :: pieces)

def lines (s : String) : List String := endLines (splitAt '\n' s)

/-! ## Pieces -/

theorem splitAt_append (c : Char) (s t : String) :
    splitAt c (s ++ .singleton c ++ t) = splitAt c s ++ splitAt c t := by
  have hchars : (s ++ .singleton c ++ t).toList = s.toList ++ c :: t.toList := by simp
  rw [splitAt, hchars, splitWhere_append (· == c) s.toList (beq_self_eq_true c), List.map_append]
  rfl

theorem splitAt_of_not_mem {c : Char} {s : String} (h : c ∉ s.toList) : splitAt c s = [s] := by
  have hnone : ∀ d ∈ s.toList, (d == c) = false :=
    fun d hd => beq_eq_false_iff_ne.2 fun heq => h (heq ▸ hd)
  rw [splitAt, splitWhere_of_forall hnone, List.map_singleton, String.ofList_toList]

/-- There is one piece more than there are cuts. -/
theorem length_splitWhere (p : Char → Bool) (cs : List Char) :
    (splitWhere p cs).length = cs.countP p + 1 := by
  induction cs with
  | nil => rfl
  | cons c cs ih =>
    unfold splitWhere
    by_cases hc : p c
    · rw [if_pos hc, List.length_cons, ih, List.countP_cons_of_pos hc]
    · obtain ⟨piece, pieces, hpieces⟩ := List.exists_cons_of_ne_nil (splitWhere_ne_nil p cs)
      rw [if_neg hc, List.countP_cons_of_neg hc, ← ih, hpieces]
      rfl

theorem length_splitAt (c : Char) (s : String) :
    (splitAt c s).length = s.toList.count c + 1 := by
  rw [splitAt, List.length_map, length_splitWhere]
  rfl

/-! ## Texts without a line feed -/

/-- There is no line feed in the text. -/
def OneLine (s : String) : Prop := '\n' ∉ s.toList

instance (s : String) : Decidable (OneLine s) := inferInstanceAs (Decidable (_ ∉ _))

@[simp] theorem oneLine_append {s t : String} : OneLine (s ++ t) ↔ OneLine s ∧ OneLine t := by
  simp [OneLine, not_or]

theorem oneLine_join {sep : String} (hsep : OneLine sep) {parts : List String} :
    OneLine (join sep parts) ↔ ∀ part ∈ parts, OneLine part := by
  induction parts with
  | nil => exact iff_of_true (by simp [OneLine, join]) (by simp)
  | cons first parts ih =>
    cases parts with
    | nil => simp [join_singleton]
    | cons second parts =>
      rw [List.forall_mem_cons, ← ih]
      unfold OneLine at hsep ⊢
      simp [toList_join_cons_cons, hsep]

/-- A text of characters that are no blanks is on one line. -/
theorem oneLine_of_solid {s : String} (h : ∀ c ∈ s.toList, isBlank c = false) : OneLine s :=
  fun hmem => absurd (h '\n' hmem) (by decide)

/-! ## Carriage returns -/

/-- A text that a line begins with stays there, if it does not itself end with the return. -/
theorem prefix_dropReturn {start line : String} (hstart : start.toList.getLast? ≠ some '\r')
    (h : start.toList <+: line.toList) : start.toList <+: (dropReturn line).toList := by
  unfold dropReturn
  split
  · rename_i hlast
    obtain ⟨rest, hrest⟩ := h
    have hne : rest ≠ [] := by
      rintro rfl
      rw [List.append_nil] at hrest
      exact hstart (hrest ▸ hlast)
    rw [String.toList_ofList, ← hrest, List.dropLast_append_of_ne_nil hne]
    exact List.prefix_append _ _
  · exact h

/-- Trimming takes a carriage return away in any case. -/
theorem trim_dropReturn (line : String) : trim (dropReturn line) = trim line := by
  unfold dropReturn
  split
  · rename_i hlast
    obtain ⟨front, hline⟩ := List.getLast?_eq_some_iff.1 hlast
    have hreturn : isBlank '\r' = true := by decide
    have hend (cs : List Char) : trimEnd (cs ++ ['\r']) = trimEnd cs := by
      simp [trimEnd, hreturn]
    rw [trim, trim, hline, String.toList_ofList, List.dropLast_concat, trimChars, trimChars,
      trimStart, trimStart, List.dropWhile_append]
    split
    · rename_i hnil
      rw [List.isEmpty_iff.1 hnil]
      simp [hreturn]
    · rw [hend]
  · rfl

theorem trimmed?_dropReturn (line : String) : trimmed? (dropReturn line) = trimmed? line := by
  refine Option.ext fun u => ?_
  rw [trimmed?_eq_some_iff, trimmed?_eq_some_iff, trim_dropReturn]

/-! ## Ended lines -/

theorem endLines_cons {pieces : List String} (h : pieces ≠ []) (line : String) :
    endLines (line :: pieces) = dropReturn line :: endLines pieces := by
  obtain ⟨next, pieces, rfl⟩ := List.exists_cons_of_ne_nil h
  rfl

theorem endLines_ended (pieces : List String) :
    endLines (pieces ++ [""]) = pieces.map dropReturn := by
  induction pieces with
  | nil => rfl
  | cons line pieces ih => rw [List.cons_append, endLines_cons (by simp), ih, List.map_cons]

theorem splitAt_join_ended (texts : List String) :
    splitAt '\n' (String.join (texts.map (· ++ "\n"))) = texts.flatMap (splitAt '\n') ++ [""] := by
  induction texts with
  | nil => rfl
  | cons text texts ih =>
    rw [List.map_cons, String.join_cons, List.flatMap_cons, List.append_assoc, ← ih]
    exact splitAt_append '\n' text _

/-- Texts that are each ended by a line feed have their lines in turn. -/
theorem lines_join_ended (texts : List String) :
    lines (String.join (texts.map (· ++ "\n"))) =
      (texts.flatMap (splitAt '\n')).map dropReturn := by
  rw [lines, splitAt_join_ended, endLines_ended]

theorem lines_join_ended_of_single {texts : List String} (h : ∀ s ∈ texts, OneLine s) :
    lines (String.join (texts.map (· ++ "\n"))) = texts.map dropReturn := by
  rw [lines_join_ended, List.flatMap_congr fun s hs => splitAt_of_not_mem (h s hs),
    List.flatMap_singleton' texts]

/-- A line feed within one of the texts makes a line more. -/
theorem length_lines_join_ended (texts : List String) :
    (lines (String.join (texts.map (· ++ "\n")))).length =
      (String.join texts).toList.count '\n' + texts.length := by
  rw [lines_join_ended, List.length_map]
  induction texts with
  | nil => rfl
  | cons text texts ih =>
    rw [List.flatMap_cons, List.length_append, length_splitAt, ih, String.join_cons,
      String.toList_append, List.count_append, List.length_cons]
    omega

/-- Texts that are each ended by a line feed have one line each if and only if there is no other
line feed. -/
theorem length_lines_join_ended_iff (texts : List String) :
    (lines (String.join (texts.map (· ++ "\n")))).length = texts.length ↔
      ∀ s ∈ texts, OneLine s := by
  rw [length_lines_join_ended, Nat.add_eq_right, List.count_eq_zero, String.toList_join,
    List.mem_flatMap, not_exists]
  exact forall_congr' fun s => not_and

end Clearinghouse.Text
