import Clearinghouse.Text.Blank
import Mathlib.Data.List.DropRight
import Mathlib.Data.List.TakeWhile

/-!
# Where a text is cut

A cut at a mark is known by its halves: the text is the two halves around the mark, and the mark
is not in the half that the cut must not pass (`cutFirst?_eq_some_iff`, `cutLast?_eq_some_iff`).
-/

namespace Clearinghouse.Text

/-! ## At the first place -/

theorem cutFirst?_append {p : Char → Bool} {before : List Char} (h : ∀ c ∈ before, p c = false)
    {mark : Char} (hmark : p mark) (after : List Char) :
    cutFirst? p (before ++ mark :: after) = some (before, after) := by
  induction before with
  | nil => simp [cutFirst?, hmark]
  | cons c before ih =>
    have hc : p c = false := h c List.mem_cons_self
    rw [List.cons_append, cutFirst?, hc, ih fun d hd => h d (List.mem_cons_of_mem c hd)]
    rfl

theorem cutFirst?_eq_none_iff {p : Char → Bool} {cs : List Char} :
    cutFirst? p cs = none ↔ ∀ c ∈ cs, p c = false := by
  induction cs with
  | nil => simp [cutFirst?]
  | cons c cs ih =>
    rw [cutFirst?]
    cases hc : p c <;> simp [hc, ih]

theorem cutFirst?_eq_some_iff {mark : Char} {cs before after : List Char} :
    cutFirst? (· == mark) cs = some (before, after) ↔
      cs = before ++ mark :: after ∧ mark ∉ before := by
  constructor
  · intro h
    obtain ⟨c, hc, heq, hbefore⟩ := eq_of_cutFirst? h
    rw [beq_iff_eq.1 hc] at heq
    exact ⟨heq, fun hmem => absurd (hbefore mark hmem) (by simp)⟩
  · rintro ⟨rfl, hbefore⟩
    refine cutFirst?_append (p := (· == mark)) (fun c hc => beq_false_of_ne ?_)
      (beq_self_eq_true mark) after
    rintro rfl
    exact hbefore hc

/-- A text is cut in one way at the first mark. -/
theorem eq_of_first_cut {mark : Char} {before before' after after' : List Char}
    (h : before ++ mark :: after = before' ++ mark :: after') (hbefore : mark ∉ before)
    (hbefore' : mark ∉ before') : before = before' ∧ after = after' := by
  have hcut := cutFirst?_eq_some_iff.2 ⟨h, hbefore'⟩
  rwa [cutFirst?_eq_some_iff.2 ⟨rfl, hbefore⟩, Option.some.injEq, Prod.mk.injEq] at hcut

/-! ## At the last place -/

theorem cutLast?_eq_none_iff {mark : Char} {cs : List Char} :
    cutLast? (· == mark) cs = none ↔ mark ∉ cs := by
  rw [cutLast?, Option.map_eq_none_iff, cutFirst?_eq_none_iff]
  constructor
  · intro h hmem
    exact absurd (h mark (List.mem_reverse.2 hmem)) (by simp)
  · intro h c hc
    refine beq_false_of_ne ?_
    rintro rfl
    exact h (List.mem_reverse.1 hc)

theorem cutLast?_eq_some_iff {mark : Char} {cs before after : List Char} :
    cutLast? (· == mark) cs = some (before, after) ↔
      cs = before ++ mark :: after ∧ mark ∉ after := by
  rw [cutLast?, Option.map_eq_some_iff]
  constructor
  · rintro ⟨⟨front, back⟩, hcut, heq⟩
    obtain ⟨hrev, hfront⟩ := cutFirst?_eq_some_iff.1 hcut
    simp only [Prod.mk.injEq] at heq
    obtain ⟨rfl, rfl⟩ := heq
    refine ⟨?_, fun hmem => hfront (List.mem_reverse.1 hmem)⟩
    rw [← List.reverse_reverse cs, hrev]
    simp
  · rintro ⟨rfl, hafter⟩
    refine ⟨(after.reverse, before.reverse), cutFirst?_eq_some_iff.2 ⟨by simp, ?_⟩, by simp⟩
    exact fun hmem => hafter (List.mem_reverse.1 hmem)

/-- A text is cut in one way at the last mark. -/
theorem eq_of_last_cut {mark : Char} {before before' after after' : List Char}
    (h : before ++ mark :: after = before' ++ mark :: after') (hafter : mark ∉ after)
    (hafter' : mark ∉ after') : before = before' ∧ after = after' := by
  have hcut := cutLast?_eq_some_iff.2 ⟨h, hafter'⟩
  rwa [cutLast?_eq_some_iff.2 ⟨rfl, hafter⟩, Option.some.injEq, Prod.mk.injEq] at hcut

/-! ## At a known start -/

theorem stripStart?_eq_some_iff {start cs rest : List Char} :
    stripStart? start cs = some rest ↔ cs = start ++ rest := by
  rw [stripStart?]
  constructor
  · intro h
    split at h
    · rename_i hstart
      obtain ⟨tail, rfl⟩ := List.isPrefixOf_iff_prefix.1 hstart
      rw [List.drop_left, Option.some.injEq] at h
      rw [h]
    · cases h
  · rintro rfl
    rw [if_pos (List.isPrefixOf_iff_prefix.2 (List.prefix_append start rest)), List.drop_left]

/-! ## Stripping -/

theorem trimMatches_prefix (p : Char → Bool) (cs : List Char) :
    trimMatches p cs <+: cs.dropWhile p :=
  List.rdropWhile_prefix p _

theorem mem_trimMatches {p : Char → Bool} {cs : List Char} {c : Char} (hc : c ∈ cs)
    (hp : p c = false) : c ∈ trimMatches p cs := by
  have hkept {ds : List Char} (hd : c ∈ ds) : c ∈ ds.dropWhile p := by
    rw [← List.takeWhile_append_dropWhile (p := p) (l := ds), List.mem_append] at hd
    refine hd.resolve_left fun htake => ?_
    rw [List.mem_takeWhile_imp htake] at hp
    cases hp
  exact List.mem_reverse.2 (hkept (List.mem_reverse.2 (hkept hc)))

theorem dropWhile_eq_self {p : Char → Bool} {cs : List Char} (h : ∀ c ∈ cs.head?, p c = false) :
    cs.dropWhile p = cs := by
  cases cs with
  | nil => rfl
  | cons c cs => simp [h c rfl]

theorem trimMatches_eq_self {p : Char → Bool} {cs : List Char}
    (h : ∀ c ∈ cs.head?, p c = false) (h' : ∀ c ∈ cs.getLast?, p c = false) :
    trimMatches p cs = cs := by
  rw [trimMatches, dropWhile_eq_self h, dropWhile_eq_self (by rwa [List.head?_reverse]),
    List.reverse_reverse]

end Clearinghouse.Text
