/-!
# Lists without repetition

Coordinates, kinds of facts, files and lines of a copyright statement are gathered in the same
way: what comes in is added at the end, unless something equal is there already. Main
statements: a list keeps what it had in front, and what it takes in follows, each element at its
first appearance (`union_eq_append`); to take in what another list has taken in is to take in
both in turn (`union_union`).

Two such lists have the same elements in whatever order (`SameSet`) if they are as long and one
has all that is in the other (`length_eq_and_contains_iff`).
-/

namespace Clearinghouse.Distinct

variable {α : Type} [BEq α]

/-- Add `x` at the end, unless it is there already. -/
def insert (xs : List α) (x : α) : List α := if xs.contains x then xs else xs ++ [x]

/-- Add the elements of `ys` in order. -/
def union (xs ys : List α) : List α := ys.foldl insert xs

@[simp] theorem union_nil (xs : List α) : union xs [] = xs := rfl

@[simp] theorem union_cons (xs ys : List α) (y : α) :
    union xs (y :: ys) = union (insert xs y) ys := rfl

theorem union_append (xs ys zs : List α) : union xs (ys ++ zs) = union (union xs ys) zs :=
  List.foldl_append

theorem insert_of_contains {xs : List α} {x : α} (h : xs.contains x) : insert xs x = xs :=
  if_pos h

theorem insert_of_not_contains {xs : List α} {x : α} (h : ¬ xs.contains x) :
    insert xs x = xs ++ [x] := if_neg h

theorem mem_of_mem_insert {xs : List α} {x z : α} (h : z ∈ insert xs x) : z ∈ xs ∨ z = x := by
  unfold insert at h
  split at h
  · exact .inl h
  · exact (List.mem_append.1 h).imp_right List.mem_singleton.1

theorem mem_of_mem_union {xs ys : List α} {z : α} (h : z ∈ union xs ys) : z ∈ xs ∨ z ∈ ys := by
  induction ys generalizing xs with
  | nil => exact .inl h
  | cons y ys ih =>
    rcases ih h with h | h
    · rcases mem_of_mem_insert h with h | rfl
      · exact .inl h
      · exact .inr List.mem_cons_self
    · exact .inr (List.mem_cons_of_mem y h)

/-- What is taken in follows what was there, each element at its first appearance. -/
theorem union_eq_append (xs ys : List α) : union xs ys = xs ++ (ys.removeAll xs).eraseDups := by
  induction ys generalizing xs with
  | nil => simp
  | cons y ys ih =>
    rw [union_cons, ih]
    by_cases h : xs.contains y
    · rw [insert_of_contains h, List.cons_removeAll, if_neg (by simp [h])]
    · have hrest : (ys.removeAll xs).filter (fun z => !z == y) = ys.removeAll (xs ++ [y]) := by
        simp only [List.removeAll, List.filter_filter]
        refine List.filter_congr fun z _ => ?_
        simp [List.contains_eq_any_beq, Bool.and_comm]
      rw [insert_of_not_contains h, List.cons_removeAll, if_pos (by simpa using h),
        List.eraseDups_cons, hrest, List.append_assoc, List.singleton_append]

/-- A list that starts from nothing has the first appearances. -/
theorem nil_union (ys : List α) : union [] ys = ys.eraseDups := by
  rw [union_eq_append, List.removeAll_nil, List.nil_append]

theorem prefix_union (xs ys : List α) : xs <+: union xs ys := by
  rw [union_eq_append]
  exact List.prefix_append _ _

/-- What is there already adds nothing. -/
theorem union_eq_self {xs ys : List α} (h : ∀ y ∈ ys, xs.contains y) : union xs ys = xs := by
  induction ys with
  | nil => rfl
  | cons y ys ih =>
    rw [union_cons, insert_of_contains (h y List.mem_cons_self)]
    exact ih fun z hz => h z (List.mem_cons_of_mem y hz)

/-- A key that tells elements apart as equality does may be taken before or after. -/
theorem map_union {β : Type} [BEq β] {key : α → β} (hkey : ∀ x y, (key x == key y) = (x == y))
    (xs ys : List α) : (union xs ys).map key = union (xs.map key) (ys.map key) := by
  have hcontains (xs : List α) (y : α) : (xs.map key).contains (key y) = xs.contains y := by
    simp only [List.contains_eq_any_beq, List.any_map, Function.comp_def, hkey]
  have hinsert (xs : List α) (y : α) : (insert xs y).map key = insert (xs.map key) (key y) := by
    rw [insert, insert, hcontains]
    split
    · rfl
    · rw [List.map_append, List.map_singleton]
  induction ys generalizing xs with
  | nil => rfl
  | cons y ys ih => rw [List.map_cons, union_cons, union_cons, ih, hinsert]

section

variable [EquivBEq α]

theorem contains_of_mem {xs : List α} {x : α} (h : x ∈ xs) : xs.contains x :=
  List.contains_iff_exists_mem_beq.2 ⟨x, h, BEq.rfl⟩

theorem contains_insert (xs : List α) (x y : α) :
    (insert xs x).contains y = (xs.contains y || y == x) := by
  by_cases h : xs.contains x
  · rw [insert_of_contains h]
    cases hy : y == x with
    | false => rw [Bool.or_false]
    | true =>
      obtain ⟨z, hz, hxz⟩ := List.contains_iff_exists_mem_beq.1 h
      rw [List.contains_iff_exists_mem_beq.2 ⟨z, hz, BEq.trans hy hxz⟩, Bool.true_or]
  · rw [insert_of_not_contains h]
    simp [List.contains_eq_any_beq]

theorem contains_union (xs ys : List α) (z : α) :
    (union xs ys).contains z = (xs.contains z || ys.contains z) := by
  induction ys generalizing xs with
  | nil => simp
  | cons y ys ih => rw [union_cons, ih, contains_insert, List.contains_cons, Bool.or_assoc]

/-- An element that comes several times in a row comes once. -/
theorem union_flatMap {xs ys : List α} {runs : α → List α} (hne : ∀ y ∈ ys, runs y ≠ [])
    (hruns : ∀ y ∈ ys, ∀ z ∈ runs y, z = y) : union xs (ys.flatMap runs) = union xs ys := by
  induction ys generalizing xs with
  | nil => rfl
  | cons y ys ih =>
    have hall := hruns y List.mem_cons_self
    obtain ⟨z, rest, hrun⟩ := List.exists_cons_of_ne_nil (hne y List.mem_cons_self)
    rw [hrun, List.forall_mem_cons] at hall
    obtain ⟨rfl, hrest⟩ := hall
    have hself : union (insert xs z) rest = insert xs z := by
      refine union_eq_self fun w hw => ?_
      rw [hrest w hw, contains_insert, BEq.rfl, Bool.or_true]
    rw [List.flatMap_cons, hrun, union_append, union_cons, hself, union_cons]
    exact ih (fun w hw => hne w (List.mem_cons_of_mem z hw))
      fun w hw => hruns w (List.mem_cons_of_mem z hw)

/-- To take in a list that has taken in `z` is to take in the list and then `z`. -/
theorem union_insert (xs ys : List α) (z : α) :
    union xs (insert ys z) = insert (union xs ys) z := by
  by_cases h : ys.contains z
  · have hz : (union xs ys).contains z := by rw [contains_union, h, Bool.or_true]
    rw [insert_of_contains h, insert_of_contains hz]
  · rw [insert_of_not_contains h, union_append]
    rfl

/-- To take in what another list has taken in is to take in both in turn. -/
theorem union_union (xs ys zs : List α) :
    union xs (union ys zs) = union (union xs ys) zs := by
  induction zs generalizing ys with
  | nil => rfl
  | cons z zs ih => rw [union_cons, ih, union_insert, union_cons]

/-- Different elements are all added. -/
theorem union_of_pairwise {xs ys : List α} (h : (xs ++ ys).Pairwise fun x y => (x == y) = false) :
    union xs ys = xs ++ ys := by
  induction ys generalizing xs with
  | nil => rw [union_nil, List.append_nil]
  | cons y ys ih =>
    have hy : ¬ xs.contains y := by
      rw [List.contains_iff_exists_mem_beq]
      rintro ⟨x, hx, heq⟩
      have hne := (List.pairwise_append.1 h).2.2 x hx y List.mem_cons_self
      rw [BEq.symm heq] at hne
      cases hne
    rw [union_cons, insert_of_not_contains hy, ih, List.append_assoc, List.singleton_append]
    rwa [List.append_assoc, List.singleton_append]

/-- Different elements stay different. -/
theorem pairwise_union {xs : List α} (h : xs.Pairwise fun x y => (x == y) = false)
    (ys : List α) : (union xs ys).Pairwise fun x y => (x == y) = false := by
  induction ys generalizing xs with
  | nil => exact h
  | cons y ys ih =>
    refine ih ?_
    unfold insert
    split
    · exact h
    · rename_i hy
      refine List.pairwise_append.2 ⟨h, List.pairwise_singleton _ y, fun x hx z hz => ?_⟩
      rw [List.mem_singleton.1 hz, ← Bool.not_eq_true]
      exact fun heq => hy (List.contains_iff_exists_mem_beq.2 ⟨x, hx, BEq.symm heq⟩)

/-- Of a list that is taken in without the repetitions in its parts, none but these is missed. -/
theorem union_flatMap_union (xs : List α) {β : Type} (ys : List β) (parts : β → List α) :
    union xs (ys.flatMap fun y => union [] (parts y)) = union xs (ys.flatMap parts) := by
  induction ys generalizing xs with
  | nil => rfl
  | cons y ys ih =>
    rw [List.flatMap_cons, List.flatMap_cons, union_append, union_append, union_union, union_nil, ih]

/-- Different elements are added if they are new, in their order. -/
theorem union_eq_append_filter {xs ys : List α} (h : ys.Pairwise fun x y => (x == y) = false) :
    union xs ys = xs ++ ys.filter fun y => !xs.contains y := by
  have hnew : (ys.filter fun y => !xs.contains y).eraseDups = ys.filter fun y => !xs.contains y := by
    rw [← nil_union]
    exact union_of_pairwise (h.sublist List.filter_sublist)
  rw [union_eq_append, ← hnew]
  rfl

/-- What is taken in is the first of the elements that equal it. -/
theorem find?_of_mem_union {xs ys : List α} {z : α} (h : z ∈ union xs ys) (hz : z ∉ xs) :
    ¬ xs.contains z ∧ ys.find? (· == z) = some z := by
  induction ys generalizing xs with
  | nil => exact absurd h hz
  | cons y ys ih =>
    by_cases hmem : z ∈ insert xs y
    · obtain rfl := (mem_of_mem_insert hmem).resolve_left hz
      refine ⟨fun hthere => ?_, List.find?_cons_of_pos BEq.rfl⟩
      rw [insert_of_contains hthere] at hmem
      exact hz hmem
    · obtain ⟨hnew, hfind⟩ := ih h hmem
      rw [contains_insert, Bool.or_eq_true, not_or] at hnew
      have hne : ¬ (y == z) = true := fun hy => hnew.2 (BEq.symm hy)
      exact ⟨hnew.1, (List.find?_cons_of_neg (p := (· == z)) hne).trans hfind⟩

theorem union_self (xs : List α) : union xs xs = xs :=
  union_eq_self fun _ => contains_of_mem

theorem contains_congr (xs : List α) {x y : α} (h : (x == y) = true) :
    xs.contains x = xs.contains y := by
  rw [Bool.eq_iff_iff, List.contains_iff_exists_mem_beq, List.contains_iff_exists_mem_beq]
  exact exists_congr fun z => by rw [BEq.congr_left h]

/-- Different elements that are all in `ys` are no more than those of `ys`. -/
theorem length_le_of_contains {xs ys : List α} (h : xs.Pairwise fun x y => (x == y) = false)
    (hin : ∀ x ∈ xs, ys.contains x) : xs.length ≤ ys.length := by
  induction xs generalizing ys with
  | nil => exact Nat.zero_le _
  | cons x xs ih =>
    obtain ⟨hx, hxs⟩ := List.pairwise_cons.1 h
    obtain ⟨hfirst, hrest⟩ := List.forall_mem_cons.1 hin
    -- the others are still there when all that equals `x` is left out
    have hothers : ∀ z ∈ xs, (ys.filter fun y => !x == y).contains z := by
      intro z hz
      obtain ⟨y, hy, hzy⟩ := List.contains_iff_exists_mem_beq.1 (hrest z hz)
      have hxy : (x == y) = false := (BEq.congr_right hzy).symm.trans (hx z hz)
      refine List.contains_iff_exists_mem_beq.2 ⟨y, List.mem_filter.2 ⟨hy, ?_⟩, hzy⟩
      rw [hxy, Bool.not_false]
    obtain ⟨y, hy, hxy⟩ := List.contains_iff_exists_mem_beq.1 hfirst
    have hfewer : (ys.filter fun y => !x == y).length < ys.length :=
      List.length_filter_lt_length_iff_exists.2 ⟨y, hy, by simp [hxy]⟩
    rw [List.length_cons]
    exact Nat.lt_of_le_of_lt (ih hxs hothers) hfewer

end

/-! ## The same elements -/

/-- What is in the one list is in the other, in whatever order and however often. -/
def SameSet (xs ys : List α) : Prop := ∀ z, xs.contains z = ys.contains z

namespace SameSet

variable {xs ys zs : List α}

theorem refl (xs : List α) : SameSet xs xs := fun _ => rfl

theorem symm (h : SameSet xs ys) : SameSet ys xs := fun z => (h z).symm

theorem trans (h : SameSet xs ys) (h' : SameSet ys zs) : SameSet xs zs :=
  fun z => (h z).trans (h' z)

variable [EquivBEq α]

theorem contains_of_mem (h : SameSet xs ys) {x : α} (hx : x ∈ xs) : ys.contains x := by
  rw [← h x]
  exact Distinct.contains_of_mem hx

theorem eq_nil (h : SameSet [] ys) : ys = [] := by
  cases ys with
  | nil => rfl
  | cons y ys => exact absurd (h.symm.contains_of_mem List.mem_cons_self) (by simp)

theorem union {xs' ys' : List α} (h : SameSet xs xs') (h' : SameSet ys ys') :
    SameSet (Distinct.union xs ys) (Distinct.union xs' ys') := by
  intro z
  rw [contains_union, contains_union, h z, h' z]

end SameSet

section

variable [EquivBEq α]

theorem sameSet_singleton {x y : α} : SameSet [x] [y] ↔ (x == y) = true := by
  constructor
  · intro h
    simpa using h.contains_of_mem List.mem_cons_self
  · intro h z
    simp only [List.contains_cons, List.contains_nil, Bool.or_false]
    exact BEq.congr_right h

theorem sameSet_union_comm (xs ys : List α) : SameSet (union xs ys) (union ys xs) := by
  intro z
  rw [contains_union, contains_union, Bool.or_comm]

/-- Different elements of `ys` that are as many as those of `ys` are all that there is. -/
theorem contains_of_length_eq {xs ys : List α} (h : xs.Pairwise fun x y => (x == y) = false)
    (hlength : xs.length = ys.length) (hin : ∀ x ∈ xs, ys.contains x) {z : α}
    (hz : ys.contains z) : xs.contains z := by
  refine Decidable.byContradiction fun hmissing => ?_
  -- with `z` there would be more elements than there are in `ys`
  have hmore : (xs ++ [z]).length ≤ ys.length := by
    rw [← insert_of_not_contains hmissing]
    refine length_le_of_contains (pairwise_union h [z]) fun x hx => ?_
    rcases mem_of_mem_insert hx with hx | rfl
    · exact hin x hx
    · exact hz
  rw [List.length_append, List.length_singleton] at hmore
  omega

/-- Lists without repetition have the same elements if they are as long and one has all that is in
the other. -/
theorem length_eq_and_contains_iff {xs ys : List α}
    (h : xs.Pairwise fun x y => (x == y) = false) (h' : ys.Pairwise fun x y => (x == y) = false) :
    (xs.length = ys.length ∧ ∀ x ∈ xs, ys.contains x) ↔ SameSet xs ys := by
  constructor
  · rintro ⟨hlength, hin⟩ z
    rw [Bool.eq_iff_iff]
    refine ⟨fun hz => ?_, contains_of_length_eq h hlength hin⟩
    obtain ⟨x, hx, hzx⟩ := List.contains_iff_exists_mem_beq.1 hz
    rw [contains_congr ys hzx]
    exact hin x hx
  · intro hsame
    have hle := length_le_of_contains h fun x => hsame.contains_of_mem
    have hge := length_le_of_contains h' fun y => hsame.symm.contains_of_mem
    exact ⟨Nat.le_antisymm hle hge, fun x => hsame.contains_of_mem⟩

end

/-! ## Lists of which `==` is equality -/

section

variable [LawfulBEq α] {xs ys : List α}

theorem pairwise_beq_iff_nodup : (xs.Pairwise fun x y => (x == y) = false) ↔ xs.Nodup := by
  simp only [beq_eq_false_iff_ne]
  rfl

/-- A list without repetition is taken in as it is. -/
theorem nil_union_of_nodup (h : xs.Nodup) : union [] xs = xs :=
  union_of_pairwise (pairwise_beq_iff_nodup.2 h)

/-- Which of two lists takes the other one in bears only on the order. -/
theorem union_perm_comm (h : xs.Nodup) (h' : ys.Nodup) : (union xs ys).Perm (union ys xs) := by
  have hnodup {zs : List α} (hz : zs.Nodup) (others : List α) : (union zs others).Nodup :=
    pairwise_beq_iff_nodup.1 (pairwise_union (pairwise_beq_iff_nodup.2 hz) others)
  refine (List.perm_ext_iff_of_nodup (hnodup h ys) (hnodup h' xs)).2 fun z => ?_
  rw [← List.contains_iff_mem, ← List.contains_iff_mem, sameSet_union_comm xs ys z]

end

end Clearinghouse.Distinct
