import Clearinghouse.Artifact.Store
import Mathlib.Data.List.Nodup

/-!
# Well-formed stores

In a store every kind is there once, with facts of its own and at least one; storing keeps it
so (`WellFormed.put`). Then the kinds are those that have a fact (`WellFormed.mem_kinds_iff`),
and the facts of a kind among all facts are those that are found under the kind
(`WellFormed.filter_toList`).
-/

namespace Clearinghouse.FactStore

/-- Every kind is there once, with facts of its own, at least one. -/
structure WellFormed (s : FactStore) : Prop where
  nodup : s.kinds.Nodup
  kind_eq : ∀ slot ∈ s.slots, ∀ f ∈ slot.2, f.kind = slot.1
  ne_nil : ∀ slot ∈ s.slots, slot.2 ≠ []

theorem wellFormed_empty : empty.WellFormed where
  nodup := List.nodup_nil
  kind_eq := by simp [empty]
  ne_nil := by simp [empty]

theorem mem_putSlot {k : FactKind} {facts : List Fact} {slots : List (FactKind × List Fact)}
    {slot : FactKind × List Fact} (h : slot ∈ putSlot k facts slots) :
    slot = (k, facts) ∨ slot ∈ slots := by
  induction slots with
  | nil => exact .inl (List.mem_singleton.1 h)
  | cons first slots ih =>
    obtain ⟨k', facts'⟩ := first
    rw [putSlot] at h
    split at h
    · exact (List.mem_cons.1 h).imp_right (List.mem_cons_of_mem _)
    · rcases List.mem_cons.1 h with rfl | h
      · exact .inr List.mem_cons_self
      · exact (ih h).imp_right (List.mem_cons_of_mem _)

theorem WellFormed.put {s : FactStore} (h : s.WellFormed) {k : FactKind} {facts : List Fact}
    (hk : ∀ f ∈ facts, f.kind = k) (hne : facts ≠ []) : (s.put k facts).WellFormed where
  nodup := by
    rw [kinds_put]
    split
    · exact h.nodup
    · rename_i hmem
      exact List.nodup_append.2 ⟨h.nodup, by simp, by
        rintro a ha b hb rfl
        exact hmem (List.mem_singleton.1 hb ▸ ha)⟩
  kind_eq := by
    intro slot hslot
    rcases mem_putSlot hslot with rfl | hslot
    · exact hk
    · exact h.kind_eq slot hslot
  ne_nil := by
    intro slot hslot
    rcases mem_putSlot hslot with rfl | hslot
    · exact hne
    · exact h.ne_nil slot hslot

theorem findSlot?_filter (k k' : FactKind) (slots : List (FactKind × List Fact)) :
    findSlot? k' (slots.filter (·.1 ≠ k)) = if k' = k then none else findSlot? k' slots := by
  induction slots with
  | nil => simp [findSlot?]
  | cons slot slots ih => grind [findSlot?]

theorem factsOf_erase (s : FactStore) (k k' : FactKind) :
    (s.erase k).factsOf k' = if k' = k then [] else s.factsOf k' := by
  rw [factsOf, get?, erase, findSlot?_filter]
  split <;> rfl

theorem WellFormed.erase {s : FactStore} (h : s.WellFormed) (k : FactKind) :
    (s.erase k).WellFormed where
  nodup := h.nodup.sublist (List.filter_sublist.map _)
  kind_eq slot hslot := h.kind_eq slot (List.mem_of_mem_filter hslot)
  ne_nil slot hslot := h.ne_nil slot (List.mem_of_mem_filter hslot)

theorem factsOf_put (s : FactStore) (k k' : FactKind) (facts : List Fact) :
    (s.put k facts).factsOf k' = if k' = k then facts else s.factsOf k' := by
  rw [factsOf, get?_put]
  split <;> rfl

theorem findSlot?_of_mem {slots : List (FactKind × List Fact)} (h : (slots.map (·.1)).Nodup)
    {k : FactKind} {facts : List Fact} (hm : (k, facts) ∈ slots) :
    findSlot? k slots = some facts := by
  induction slots with
  | nil => cases hm
  | cons first slots ih =>
    obtain ⟨k', facts'⟩ := first
    rw [List.map_cons, List.nodup_cons] at h
    rw [findSlot?]
    rcases List.mem_cons.1 hm with heq | hm
    · cases heq
      exact if_pos rfl
    · have hne : k' ≠ k := by
        rintro rfl
        exact h.1 (List.mem_map.2 ⟨_, hm, rfl⟩)
      rw [if_neg hne]
      exact ih h.2 hm

theorem mem_of_findSlot? {slots : List (FactKind × List Fact)} {k : FactKind} {facts : List Fact}
    (h : findSlot? k slots = some facts) : (k, facts) ∈ slots := by
  induction slots with
  | nil => cases h
  | cons first slots ih =>
    obtain ⟨k', facts'⟩ := first
    rw [findSlot?] at h
    split at h
    · rename_i heq
      cases h
      exact heq ▸ List.mem_cons_self
    · exact List.mem_cons_of_mem _ (ih h)

namespace WellFormed

variable {s : FactStore} (h : s.WellFormed)
include h

/-- The kinds are those that have a fact. -/
theorem mem_kinds_iff (k : FactKind) : k ∈ s.kinds ↔ s.factsOf k ≠ [] := by
  rw [← contains_iff_mem_kinds, contains, factsOf, get?]
  cases hf : findSlot? k s.slots with
  | none => simp
  | some facts => simpa using h.ne_nil _ (mem_of_findSlot? hf)

theorem get?_of_mem {slot : FactKind × List Fact} (hm : slot ∈ s.slots) :
    s.get? slot.1 = some slot.2 := findSlot?_of_mem h.nodup hm

theorem kind_of_mem_factsOf {k : FactKind} {f : Fact} (hf : f ∈ s.factsOf k) : f.kind = k := by
  rw [factsOf, get?] at hf
  cases hs : findSlot? k s.slots with
  | none => rw [hs] at hf; cases hf
  | some facts =>
    rw [hs] at hf
    exact h.kind_eq _ (mem_of_findSlot? hs) f hf

theorem slots_eq : s.slots = s.kinds.map fun k => (k, s.factsOf k) := by
  have hslot : ∀ slot ∈ s.slots, (slot.1, s.factsOf slot.1) = slot := by
    intro slot hslot
    rw [factsOf, h.get?_of_mem hslot]
    rfl
  rw [kinds, List.map_map]
  exact (List.map_congr_left hslot).trans (List.map_id' _) |>.symm

/-- The facts stand kind by kind, in the order in which the kinds came. -/
theorem toList_eq : s.toList = s.kinds.flatMap s.factsOf := by
  rw [toList, h.slots_eq, List.flatMap_map]

/-- Stores are equal if they have the same facts of the same kinds in the same order. -/
theorem ext {t : FactStore} (ht : t.WellFormed) (hkinds : s.kinds = t.kinds)
    (hfacts : ∀ k, s.factsOf k = t.factsOf k) : s = t := by
  have hslots : s.slots = t.slots := by
    rw [h.slots_eq, ht.slots_eq, hkinds, funext hfacts]
  exact congrArg FactStore.mk hslots

end WellFormed

/-- The facts of a kind among all facts are those that the store has of the kind. -/
theorem WellFormed.filter_toList {s : FactStore} (h : s.WellFormed) (k : FactKind) :
    s.toList.filter (·.kind = k) = s.factsOf k := by
  obtain ⟨slots⟩ := s
  induction slots with
  | nil => rfl
  | cons first slots ih =>
    obtain ⟨k', facts⟩ := first
    have htail : WellFormed ⟨slots⟩ :=
      ⟨(List.nodup_cons.1 h.nodup).2, fun slot hs => h.kind_eq slot (List.mem_cons_of_mem _ hs),
        fun slot hs => h.ne_nil slot (List.mem_cons_of_mem _ hs)⟩
    have hkind : ∀ f ∈ facts, f.kind = k' := h.kind_eq _ List.mem_cons_self
    have hsplit : toList ⟨(k', facts) :: slots⟩ = facts ++ toList ⟨slots⟩ := rfl
    rw [hsplit, List.filter_append, ih htail]
    by_cases hk : k' = k
    · subst hk
      have hnone : factsOf ⟨slots⟩ k' = [] := by
        have := mt (htail.mem_kinds_iff k').2 (List.nodup_cons.1 h.nodup).1
        simpa using this
      have hall : facts.filter (·.kind = k') = facts :=
        List.filter_eq_self.2 fun f hf => by simpa using hkind f hf
      rw [hnone, hall, List.append_nil, factsOf, get?, findSlot?, if_pos rfl]
      rfl
    · have hnot : facts.filter (·.kind = k) = [] :=
        List.filter_eq_nil_iff.2 fun f hf => by simpa [hkind f hf] using hk
      rw [hnot, List.nil_append, factsOf, factsOf, get?, get?, findSlot?, if_neg hk]

end Clearinghouse.FactStore
