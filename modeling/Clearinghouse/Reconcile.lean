import Clearinghouse.Selector.Artifact

/-!
# Reconciliation

Records that share a coordinate are about the same artifact. An incoming record is merged into
the first known artifact that shares one of its coordinates; a record about nothing known is
added. Main statement: every record is counted once (`length_reconcileAll`).
-/

namespace Clearinghouse

/-- What became of a record, with the place of the artifact it went to. -/
inductive Placement
  | merged (index : Nat)
  | added (index : Nat)
  deriving DecidableEq, Repr

/-- How many records were added and how many merged. -/
structure Tally where
  added : Nat
  merged : Nat
  deriving DecidableEq, Repr, Inhabited

namespace Tally

def zero : Tally := ⟨0, 0⟩

def count (t : Tally) : Placement → Tally
  | .merged _ => { t with merged := t.merged + 1 }
  | .added _ => { t with added := t.added + 1 }

def add (s t : Tally) : Tally := ⟨s.added + t.added, s.merged + t.merged⟩

end Tally

/-- The artifacts, and what became of the records that led to them. -/
structure Reconciled where
  artifacts : List Artifact
  tally : Tally

/-- Merge a record into the first of the artifacts that shares a coordinate with it; the first
of them stands at `index`. -/
def reconcileFrom (index : Nat) (incoming : Artifact) :
    List Artifact → Logged Warning (List Artifact × Placement)
  | [] => pure ([incoming], .added index)
  | a :: known =>
    if a.sharesCoordinate incoming.coordinates then do
      return ((← a.mergeWith incoming) :: known, .merged index)
    else do
      let (known, placement) ← reconcileFrom (index + 1) incoming known
      return (a :: known, placement)

/-- Merge or add one record. -/
def reconcile (known : List Artifact) (incoming : Artifact) :
    Logged Warning (List Artifact × Placement) :=
  reconcileFrom 0 incoming known

/-- Merge or add one more record. -/
def Reconciled.take (r : Reconciled) (incoming : Artifact) : Logged Warning Reconciled := do
  let (artifacts, placement) ← reconcile r.artifacts incoming
  return ⟨artifacts, r.tally.count placement⟩

/-- Merge or add records in order. -/
def reconcileAll (known incoming : List Artifact) : Logged Warning Reconciled :=
  incoming.foldlM Reconciled.take ⟨known, .zero⟩

/-- Merge or add the records of a source, which are treated as `policy` says. -/
def Reconciled.takeSource (policy : MergePolicy) (r : Reconciled) (source : List Artifact) :
    Logged Warning Reconciled := do
  let batch ← reconcileAll r.artifacts (source.map fun a => { a with policy })
  return ⟨batch.artifacts, r.tally.add batch.tally⟩

/-- Merge sources in order, from the first on. -/
def mergeSources (sources : List (List Artifact)) (policy : MergePolicy) :
    Logged Warning Reconciled :=
  sources.foldlM (Reconciled.takeSource policy) ⟨[], .zero⟩

/-! ## Counting -/

theorem length_reconcileFrom (index : Nat) (incoming : Artifact) (known : List Artifact) :
    (reconcileFrom index incoming known).value.1.length =
      known.length + (Tally.zero.count (reconcileFrom index incoming known).value.2).added := by
  induction known generalizing index with
  | nil => rfl
  | cons a known ih =>
    unfold reconcileFrom
    split
    · rfl
    · have h := ih (index + 1)
      simp only [Logged.value_bind, Logged.value_pure, List.length_cons] at h ⊢
      omega

/-- Every record is either added or merged. -/
theorem Tally.total_count (t : Tally) (p : Placement) :
    (t.count p).added + (t.count p).merged = t.added + t.merged + 1 := by
  cases p <;> simp only [count] <;> omega

theorem total_foldl_take (incoming : List Artifact) (r : Reconciled) :
    (incoming.foldlM Reconciled.take r).value.tally.added +
        (incoming.foldlM Reconciled.take r).value.tally.merged =
      r.tally.added + r.tally.merged + incoming.length := by
  induction incoming generalizing r with
  | nil => rfl
  | cons a incoming ih =>
    rw [List.foldlM_cons, Logged.value_bind, ih]
    have h : (r.take a).value.tally = r.tally.count (reconcile r.artifacts a).value.2 := rfl
    rw [h, Tally.total_count, List.length_cons]
    omega

theorem length_reconcileAll (known incoming : List Artifact) :
    (reconcileAll known incoming).value.tally.added +
      (reconcileAll known incoming).value.tally.merged = incoming.length :=
  (total_foldl_take incoming ⟨known, .zero⟩).trans (Nat.zero_add _)

end Clearinghouse
