import Clearinghouse.Fact.Basic

/-!
# Fact stores

A store keeps, for every kind that is present, the facts of that kind. Kinds stand in the order
in which they first came. Main statements: storing under a kind changes what is found under this
kind and no other (`get?_put`), and the order of the kinds only grows at the end (`kinds_put`).
-/

namespace Clearinghouse

structure FactStore where
  slots : List (FactKind × List Fact)
  deriving Repr, Inhabited

namespace FactStore

def empty : FactStore := ⟨[]⟩

def findSlot? (k : FactKind) : List (FactKind × List Fact) → Option (List Fact)
  | [] => none
  | (k', facts) :: slots => if k' = k then some facts else findSlot? k slots

/-- The facts of a kind, if the kind is present. -/
def get? (s : FactStore) (k : FactKind) : Option (List Fact) := findSlot? k s.slots

/-- The facts of a kind; none if the kind is absent. -/
def factsOf (s : FactStore) (k : FactKind) : List Fact := (s.get? k).getD []

/-- The first fact of a kind. -/
def first? (s : FactStore) (k : FactKind) : Option Fact := (s.factsOf k).head?

def contains (s : FactStore) (k : FactKind) : Bool := (s.get? k).isSome

/-- The kinds that are present, in the order in which they came. -/
def kinds (s : FactStore) : List FactKind := s.slots.map (·.1)

/-- All facts, kind by kind. -/
def toList (s : FactStore) : List Fact := s.slots.flatMap (·.2)

/-- Replace the facts of a kind in its place, or add the kind at the end. -/
def putSlot (k : FactKind) (facts : List Fact) :
    List (FactKind × List Fact) → List (FactKind × List Fact)
  | [] => [(k, facts)]
  | (k', facts') :: slots =>
    if k' = k then (k, facts) :: slots else (k', facts') :: putSlot k facts slots

def put (s : FactStore) (k : FactKind) (facts : List Fact) : FactStore := ⟨putSlot k facts s.slots⟩

/-- Remove a kind; the others stay in order. -/
def erase (s : FactStore) (k : FactKind) : FactStore := ⟨s.slots.filter (·.1 ≠ k)⟩

/-! ## Laws -/

@[simp] theorem get?_empty (k : FactKind) : empty.get? k = none := rfl

theorem findSlot?_putSlot (k k' : FactKind) (facts : List Fact)
    (slots : List (FactKind × List Fact)) :
    findSlot? k' (putSlot k facts slots) = if k' = k then some facts else findSlot? k' slots := by
  induction slots with
  | nil => grind [putSlot, findSlot?]
  | cons slot slots ih => grind [putSlot, findSlot?]

theorem get?_put (s : FactStore) (k k' : FactKind) (facts : List Fact) :
    (s.put k facts).get? k' = if k' = k then some facts else s.get? k' :=
  findSlot?_putSlot k k' facts s.slots

@[simp] theorem get?_put_self (s : FactStore) (k : FactKind) (facts : List Fact) :
    (s.put k facts).get? k = some facts := by simp [get?_put]

/-- A kind that is there keeps its place; one that is not comes last. -/
theorem kinds_put (s : FactStore) (k : FactKind) (facts : List Fact) :
    (s.put k facts).kinds = if k ∈ s.kinds then s.kinds else s.kinds ++ [k] := by
  obtain ⟨slots⟩ := s
  simp only [put, kinds]
  induction slots with
  | nil => simp [putSlot]
  | cons slot slots ih => grind [putSlot]

/-- A kind is present if it is found. -/
theorem contains_iff_mem_kinds (s : FactStore) (k : FactKind) : s.contains k ↔ k ∈ s.kinds := by
  obtain ⟨slots⟩ := s
  simp only [contains, get?, kinds]
  induction slots with
  | nil => simp [findSlot?]
  | cons slot slots ih => grind [findSlot?]

end FactStore

end Clearinghouse
