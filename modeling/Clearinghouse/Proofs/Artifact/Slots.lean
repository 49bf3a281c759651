import Clearinghouse.Proofs.Artifact.Representation
import Mathlib.Logic.Function.Basic

/-!
# Slots of two shapes

A store has a list of facts for every kind. A program may also tell the kinds apart by the shape
of their slots: files are in a list, and the fact of any other kind stands by itself. Then it has
to say what is done where a slot has the wrong shape, and it starts a new list wherever it finds
no list of files.

The slots of an artifact are those of its store (`Artifact.slotStore`). Main statements: whatever
is done to an artifact is done to its slots, with the same refusals (`slotStore_tryAddFact`,
`slotStore_addFact`, `slotStore_overrideFact`, `slotStore_removeFacts`, `slotStore_mergeWith`),
and slots show what artifacts are asked for (`isSome_slot?_slotStore_iff`,
`bind_first?_slotStore`, `factsOf_slotStore`). So a single file in a slot is never met.
-/

namespace Clearinghouse

/-! ## Slots -/

/-- A slot that shows whether its kind can hold several facts. -/
inductive Slot
  | one (fact : Fact)
  | many (facts : List Fact)

namespace Slot

def facts : Slot → List Fact
  | one f => [f]
  | many facts => facts

def first? (slot : Slot) : Option Fact := slot.facts.head?

/-- The slot for a fact that is the only one of its kind. -/
def holding (f : Fact) : Slot := if f.kind.isMultiValued then many [f] else one f

/-- The slot for the facts of a kind, if there are any. -/
def ofFacts? (k : FactKind) : List Fact → Option Slot
  | [] => none
  | f :: facts => some (if k.isMultiValued then many (f :: facts) else one f)

theorem ofFacts?_singleton (f : Fact) : ofFacts? f.kind [f] = some (holding f) := rfl

theorem bind_first?_ofFacts? (k : FactKind) (facts : List Fact) :
    (ofFacts? k facts).bind first? = facts.head? := by
  cases facts with
  | nil => rfl
  | cons f facts =>
    rw [ofFacts?]
    split <;> rfl

/-- No fact is lost in a slot. -/
theorem facts_ofFacts? {k : FactKind} {facts : List Fact} (h : Storable k facts) :
    (ofFacts? k facts).elim [] Slot.facts = facts := by
  cases facts with
  | nil => rfl
  | cons f facts =>
    cases hk : k.isMultiValued with
    | true => simp [ofFacts?, hk, Slot.facts]
    | false =>
      obtain rfl : facts = [] := by simpa using h.single hk
      simp [ofFacts?, hk, Slot.facts]

end Slot

/-! ## Stores of slots -/

/-- The kinds in the order in which they came, and the slot of every kind. -/
@[ext] structure SlotStore where
  kinds : List FactKind
  slot? : FactKind → Option Slot

namespace SlotStore

def factsOf (s : SlotStore) (k : FactKind) : List Fact := (s.slot? k).elim [] Slot.facts

def toList (s : SlotStore) : List Fact := s.kinds.flatMap s.factsOf

/-- Replace the slot of a kind in its place, or add the kind at the end. -/
def insert (s : SlotStore) (k : FactKind) (slot : Slot) : SlotStore where
  kinds := if k ∈ s.kinds then s.kinds else s.kinds ++ [k]
  slot? := Function.update s.slot? k (some slot)

/-- Remove a kind; the others stay in order. -/
def remove (s : SlotStore) (k : FactKind) : SlotStore where
  kinds := s.kinds.filter (· ≠ k)
  slot? := Function.update s.slot? k none

theorem slot?_insert (s : SlotStore) (k k' : FactKind) (slot : Slot) :
    (s.insert k slot).slot? k' = if k' = k then some slot else s.slot? k' :=
  Function.update_apply s.slot? k (some slot) k'

theorem slot?_remove (s : SlotStore) (k k' : FactKind) :
    (s.remove k).slot? k' = if k' = k then none else s.slot? k' :=
  Function.update_apply s.slot? k none k'

/-- Add a fact to the slot of its kind, which may be missing. Where a list is due and something
else is found, a new list is started. -/
def tryAdd (policy : MergePolicy) (s : SlotStore) (f : Fact) : Except FactConflict SlotStore :=
  if f.kind.isMultiValued then
    match s.slot? f.kind with
    | some (.many facts) =>
      .ok (s.insert f.kind (.many (if facts.contains f then facts else facts ++ [f])))
    | _ => .ok (s.insert f.kind (.many [f]))
  else
    match (s.slot? f.kind).bind (·.first?) with
    | none => .ok (s.insert f.kind (.one f))
    | some existing =>
      match f.mergeWith existing (policy.ruleFor f.kind) with
      | .replace merged => .ok (s.insert f.kind (.one merged))
      | .keep => .ok s
      | .conflict incoming => .error ⟨f.kind, existing, incoming⟩

/-- Add a fact, unless it is refused. -/
def add (policy : MergePolicy) (s : SlotStore) (f : Fact) : SlotStore :=
  match s.tryAdd policy f with
  | .ok s => s
  | .error _ => s

def override (s : SlotStore) (f : Fact) : SlotStore := s.insert f.kind (.holding f)

/-- Add the facts of another store, slot by slot. -/
def merge (policy : MergePolicy) (s t : SlotStore) : SlotStore := t.toList.foldl (add policy) s

end SlotStore

/-! ## The slots of an artifact -/

namespace Artifact

def slotStore (a : Artifact) : SlotStore where
  kinds := a.facts.kinds
  slot? k := Slot.ofFacts? k (a.factsOf k)

theorem slot?_slotStore (a : Artifact) (k : FactKind) :
    a.slotStore.slot? k = Slot.ofFacts? k (a.factsOf k) := rfl

/-! ### Asking -/

theorem bind_first?_slotStore (a : Artifact) (k : FactKind) :
    (a.slotStore.slot? k).bind (·.first?) = a.fact? k :=
  Slot.bind_first?_ofFacts? k (a.factsOf k)

/-- A slot has the facts of its kind, which are those that removing the kind takes out. -/
theorem factsOf_slotStore {a : Artifact} (h : a.Made) (k : FactKind) :
    a.slotStore.factsOf k = a.factsOf k :=
  Slot.facts_ofFacts? (h.tidy.storable k)

theorem toList_slotStore {a : Artifact} (h : a.Made) : a.slotStore.toList = a.allFacts := by
  rw [SlotStore.toList, funext (factsOf_slotStore h)]
  exact h.tidy.wellFormed.toList_eq.symm

/-- A kind is there if it has a slot. -/
theorem isSome_slot?_slotStore_iff {a : Artifact} (h : a.Made) (k : FactKind) :
    (a.slotStore.slot? k).isSome ↔ a.hasFact k := by
  rw [hasFact_iff_factsOf_ne_nil h.tidy.wellFormed, slot?_slotStore]
  cases a.factsOf k <;> simp [Slot.ofFacts?]

/-! ### Changing -/

theorem slotStore_put (a : Artifact) {k : FactKind} {facts : List Fact} {slot : Slot}
    (h : Slot.ofFacts? k facts = some slot) :
    (a.put k facts).slotStore = a.slotStore.insert k slot := by
  refine SlotStore.ext (a.facts.kinds_put k facts) (funext fun k' => ?_)
  show Slot.ofFacts? k' ((a.facts.put k facts).factsOf k') = _
  rw [FactStore.factsOf_put, SlotStore.slot?_insert]
  split
  · rename_i hk
    rw [hk, h]
  · rfl

/-- A fact is added to the slot of its kind, or refused there. -/
theorem slotStore_tryAddFact (a : Artifact) (f : Fact) :
    (a.tryAddFact f).map slotStore = a.slotStore.tryAdd a.policy f := by
  unfold tryAddFact SlotStore.tryAdd
  cases hmulti : f.kind.isMultiValued with
  | true =>
    rw [if_pos rfl, if_pos rfl]
    cases hfacts : a.factsOf f.kind with
    | nil =>
      have hslot : a.slotStore.slot? f.kind = none := by
        rw [slot?_slotStore, hfacts, Slot.ofFacts?]
      rw [hslot]
      exact congrArg Except.ok (slotStore_put a (by simp [Slot.ofFacts?, hmulti]))
    | cons g facts =>
      have hslot : a.slotStore.slot? f.kind = some (.many (g :: facts)) := by
        rw [slot?_slotStore, hfacts, Slot.ofFacts?, if_pos hmulti]
      rw [hslot]
      refine congrArg Except.ok (slotStore_put a ?_)
      split <;> simp [Slot.ofFacts?, hmulti]
  | false =>
    have hone (g : Fact) : Slot.ofFacts? f.kind [g] = some (.one g) := by
      simp [Slot.ofFacts?, hmulti]
    rw [if_neg Bool.false_ne_true, if_neg Bool.false_ne_true, bind_first?_slotStore]
    cases a.fact? f.kind with
    | none => exact congrArg Except.ok (slotStore_put a (hone f))
    | some existing =>
      dsimp only
      cases f.mergeWith existing (a.policy.ruleFor f.kind) with
      | replace merged => exact congrArg Except.ok (slotStore_put a (hone merged))
      | keep => rfl
      | conflict incoming => rfl

theorem slotStore_addFact (a : Artifact) (f : Fact) :
    (a.addFact f).value.slotStore = a.slotStore.add a.policy f := by
  rw [SlotStore.add, ← slotStore_tryAddFact, addFact]
  cases a.tryAddFact f <;> rfl

theorem slotStore_addAll (a : Artifact) (fs : List Fact) :
    (a.addAll fs).slotStore = fs.foldl (SlotStore.add a.policy) a.slotStore := by
  induction fs generalizing a with
  | nil => rfl
  | cons f fs ih =>
    rw [addAll_cons, ih, (frame_addFact a f).policy, slotStore_addFact, List.foldl_cons]

theorem slotStore_overrideFact (a : Artifact) (f : Fact) :
    (a.overrideFact f).slotStore = a.slotStore.override f :=
  slotStore_put a (Slot.ofFacts?_singleton f)

theorem slotStore_removeFacts (a : Artifact) (k : FactKind) :
    (a.removeFacts k).slotStore = a.slotStore.remove k := by
  refine SlotStore.ext ?_ (funext fun k' => ?_)
  · show (a.facts.slots.filter (·.1 ≠ k)).map (·.1) = (a.facts.slots.map (·.1)).filter (· ≠ k)
    rw [List.filter_map]
    rfl
  · show Slot.ofFacts? k' ((a.facts.erase k).factsOf k') = _
    rw [FactStore.factsOf_erase, SlotStore.slot?_remove]
    split <;> rfl

/-- The slots of another artifact are added one by one. -/
theorem slotStore_mergeWith (a : Artifact) {b : Artifact} (hb : b.Made) :
    (a.mergeWith b).value.slotStore = a.slotStore.merge a.policy b.slotStore := by
  rw [SlotStore.merge, toList_slotStore hb, value_mergeWith, foldl_addCoordinate]
  exact slotStore_addAll _ b.allFacts

end Artifact

end Clearinghouse
