import Clearinghouse.Proofs.Artifact.Keeping
import Clearinghouse.Proofs.Reconcile.Apart
import Clearinghouse.Proofs.Reconcile.Interleaving

/-!
# Nothing is lost

Reconciling takes records in and forgets nothing. Main statement: every record is counted, every
known artifact stays in its place, where it only grows, the coordinates are those that were known
and those of the records, and some artifact keeps all that a record said
(`conserves_reconcileAll`).

One record grows at most one artifact (`Reachable.conserves_reconcileFrom`). What two batches
conserve one after the other they conserve together (`Conserves.trans`), so the records may have
any coordinates and any policies.
-/

namespace Clearinghouse

/-! ## Artifacts that grow -/

/-- `b` is `a` with more said about it. -/
structure Artifact.GrownTo (a b : Artifact) : Prop where
  coordinates : a.coordinates <+: b.coordinates
  source : b.source = a.source
  kept : a.KeptIn b

namespace Artifact

theorem GrownTo.refl (a : Artifact) : a.GrownTo a := ⟨List.prefix_refl _, rfl, .refl a⟩

theorem GrownTo.trans {a b c : Artifact} (h : a.GrownTo b) (h' : b.GrownTo c) : a.GrownTo c where
  coordinates := h.coordinates.trans h'.coordinates
  source := h'.source.trans h.source
  kept := h.kept.trans h'.kept

theorem Reachable.grownTo_mergeWith {a b : Artifact} (ha : a.Reachable) (hb : b.Reachable) :
    a.GrownTo (a.mergeWith b).value where
  coordinates := by
    rw [coordinates_mergeWith]
    exact Distinct.prefix_union a.coordinates b.coordinates
  source := source_mergeWith a b
  kept := ha.keptIn_mergeWith_left hb

end Artifact

/-! ## What a batch conserves -/

/-- Every known artifact grows in its place, the coordinates are those of the known artifacts
and of the records, and every record is kept in some artifact. -/
structure Conserves (known records result : List Artifact) : Prop where
  places : ∀ (i : Nat) (a : Artifact), known[i]? = some a →
    ∃ b, result[i]? = some b ∧ a.GrownTo b
  coordinates : ∀ c, (coordinatesOf result).contains c =
    ((coordinatesOf known).contains c || (coordinatesOf records).contains c)
  kept : ∀ r ∈ records, ∃ a ∈ result, r.KeptIn a

namespace Conserves

variable {known records middle others result : List Artifact}

/-- What was known is kept. -/
theorem kept_known (h : Conserves known records result) :
    ∀ a ∈ known, ∃ b ∈ result, a.KeptIn b := by
  intro a ha
  obtain ⟨i, hi⟩ := List.mem_iff_getElem?.1 ha
  obtain ⟨b, hb, hgrown⟩ := h.places i a hi
  exact ⟨b, List.mem_of_getElem? hb, hgrown.kept⟩

theorem refl (known : List Artifact) : Conserves known [] known where
  places _ a ha := ⟨a, ha, .refl a⟩
  coordinates _ := (Bool.or_false _).symm
  kept _ hr := absurd hr List.not_mem_nil

/-- Two batches in turn conserve what they conserve together. -/
theorem trans (h : Conserves known records middle) (h' : Conserves middle others result) :
    Conserves known (records ++ others) result where
  places i a ha := by
    obtain ⟨b, hb, hab⟩ := h.places i a ha
    obtain ⟨c, hc, hbc⟩ := h'.places i b hb
    exact ⟨c, hc, hab.trans hbc⟩
  coordinates c := by
    rw [h'.coordinates, h.coordinates, Bool.or_assoc]
    simp only [coordinatesOf, List.flatMap_append, List.contains_append]
  kept := by
    refine List.forall_mem_append.2 ⟨fun r hr => ?_, h'.kept⟩
    obtain ⟨a, ha, hra⟩ := h.kept r hr
    obtain ⟨b, hb, hab⟩ := h'.kept_known a ha
    exact ⟨b, hb, hra.trans hab⟩

/-- What is conserved does not depend on an artifact that is passed by. -/
theorem cons (h : Conserves known records result) (a : Artifact) :
    Conserves (a :: known) records (a :: result) where
  places i b hb := by
    cases i with
    | zero => exact ⟨b, hb, .refl b⟩
    | succ i => exact h.places i b hb
  coordinates c := by
    have hc := h.coordinates c
    simp only [coordinatesOf, List.flatMap_cons, List.contains_append] at hc ⊢
    rw [hc, Bool.or_assoc]
  kept r hr := by
    obtain ⟨b, hb, hrb⟩ := h.kept r hr
    exact ⟨b, List.mem_cons_of_mem a hb, hrb⟩

end Conserves

/-! ## One record -/

namespace Artifact.Reachable

variable {r : Artifact} {known : List Artifact} (hr : r.Reachable)
  (hknown : ∀ a ∈ known, a.Reachable)
include hr

/-- A record that is merged into an artifact is conserved there. -/
theorem conserves_mergeWith {a : Artifact} (ha : a.Reachable) (known : List Artifact) :
    Conserves (a :: known) [r] ((a.mergeWith r).value :: known) where
  places i b hb := by
    cases i with
    | zero =>
      obtain rfl : a = b := Option.some.inj hb
      exact ⟨_, rfl, ha.grownTo_mergeWith hr⟩
    | succ i => exact ⟨b, hb, .refl b⟩
  coordinates c := by
    simp only [coordinatesOf, List.flatMap_cons, List.flatMap_nil, List.append_nil,
      List.contains_append, contains_coordinates_mergeWith]
    rw [Bool.or_right_comm]
  kept := List.forall_mem_singleton.2 ⟨_, List.mem_cons_self, ha.keptIn_mergeWith_right hr⟩

include hknown

/-- One record, whatever it touches. -/
theorem conserves_reconcileFrom (index : Nat) :
    Conserves known [r] (reconcileFrom index r known).value.1 := by
  induction known generalizing index with
  | nil =>
    refine ⟨fun _ _ ha => ?_, fun _ => (Bool.false_or _).symm,
      List.forall_mem_singleton.2 ⟨r, List.mem_cons_self, .refl r⟩⟩
    cases ha
  | cons a known ih =>
    obtain ⟨ha, hknown⟩ := List.forall_mem_cons.1 hknown
    unfold reconcileFrom
    split
    · exact hr.conserves_mergeWith ha known
    · exact (ih hknown (index + 1)).cons a

theorem reachable_of_mem_reconcileFrom (index : Nat) :
    ∀ a ∈ (reconcileFrom index r known).value.1, a.Reachable := by
  induction known generalizing index with
  | nil => exact List.forall_mem_singleton.2 hr
  | cons a known ih =>
    obtain ⟨ha, hknown⟩ := List.forall_mem_cons.1 hknown
    unfold reconcileFrom
    split
    · exact List.forall_mem_cons.2 ⟨ha.mergeWith hr, hknown⟩
    · exact List.forall_mem_cons.2 ⟨ha, ih hknown (index + 1)⟩

end Artifact.Reachable

/-! ## All records -/

/-- What a batch leaves is reachable and conserves what went in. -/
theorem reachable_and_conserves_reconcileAll {known records : List Artifact}
    (hknown : ∀ a ∈ known, a.Reachable) (hrecords : ∀ r ∈ records, r.Reachable) :
    (∀ a ∈ (reconcileAll known records).value.artifacts, a.Reachable) ∧
      Conserves known records (reconcileAll known records).value.artifacts := by
  induction records using List.reverseRecOn with
  | nil => exact ⟨hknown, .refl known⟩
  | append_singleton records r ih =>
    obtain ⟨hrecords, hr⟩ := List.forall_mem_append.1 hrecords
    obtain ⟨hreachable, hconserves⟩ := ih hrecords
    have hr : r.Reachable := hr r List.mem_cons_self
    rw [artifacts_reconcileAll_append_singleton, reconcile]
    exact ⟨hr.reachable_of_mem_reconcileFrom hreachable 0,
      hconserves.trans (hr.conserves_reconcileFrom hreachable 0)⟩

/-- Reconciling loses nothing and moves nothing. -/
theorem conserves_reconcileAll {known records : List Artifact}
    (h : ∀ a ∈ known ++ records, a.Reachable) :
    let result := (reconcileAll known records).value
    result.tally.added + result.tally.merged = records.length ∧
      result.artifacts.length = known.length + result.tally.added ∧
      (∀ (i : Nat) (a : Artifact), known[i]? = some a →
        ∃ b, result.artifacts[i]? = some b ∧ a.coordinates <+: b.coordinates ∧
          b.source = a.source ∧ a.KeptIn b) ∧
      (∀ c, (coordinatesOf result.artifacts).contains c =
        ((coordinatesOf known).contains c || (coordinatesOf records).contains c)) ∧
      ∀ r ∈ known ++ records, ∃ a ∈ result.artifacts, r.KeptIn a := by
  obtain ⟨hknown, hrecords⟩ := List.forall_mem_append.1 h
  have hconserves := (reachable_and_conserves_reconcileAll hknown hrecords).2
  refine ⟨length_reconcileAll known records, length_artifacts_reconcileAll known records,
    fun i a ha => ?_, hconserves.coordinates,
    List.forall_mem_append.2 ⟨hconserves.kept_known, hconserves.kept⟩⟩
  obtain ⟨b, hb, hgrown⟩ := hconserves.places i a ha
  exact ⟨b, hb, hgrown.coordinates, hgrown.source, hgrown.kept⟩

namespace Samples

/-- A known archive that is approved. -/
def knownArchive : Artifact :=
  archive.addAll [.copyright (.ofText "(c) Ada"), .sourceUrl "https://one.example",
    .clearingState .osmApproved]

/-- A known plugin of which the first word counts. -/
def knownPlugin : Artifact :=
  { plugin.addAll [.filename ⟨some "bar.jar", none⟩] with policy := .keepExisting }

/-- A record about both, which are proprietary. -/
def proprietaryRecord : Artifact :=
  (archivedPlugin.addAll [.copyright (.ofText "(c) Bob"), .clearingState .initial]).setFlag
    .proprietary true

/-- A record about the plugin. -/
def pluginRecord : Artifact :=
  plugin.addAll [.filename ⟨some "bar-1.0.jar", none⟩, .sourceUrl "https://two.example"]

end Samples

open Samples in
/-- A record that ties two artifacts leads the next one astray, which is not lost either. -/
theorem conserves_reconcileAll_plugin :
    (∀ a ∈ [knownArchive, knownPlugin] ++ [proprietaryRecord, pluginRecord], a.Reachable) ∧
      (∃ a ∈ (reconcileAll [knownArchive, knownPlugin]
        [proprietaryRecord, pluginRecord]).value.artifacts, pluginRecord.KeptIn a) ∧
      (reconcileAll [knownArchive, knownPlugin]
          [proprietaryRecord, pluginRecord]).value.artifacts.map (·.allFacts) =
        [[.copyright ⟨["(c) Ada", "(c) Bob"]⟩, .sourceUrl "https://two.example",
            .clearingState .osmApproved, .filename ⟨some "bar-1.0.jar", none⟩],
          [.filename ⟨some "bar.jar", none⟩]] := by
  have harchive : archive.Reachable := .addCoordinate (.ofSource "") _
  have hplugin : plugin.Reachable := .addCoordinate (.ofSource "") _
  have hknown : knownArchive.Reachable := by
    refine .addAll harchive ?_
    simp only [List.forall_mem_cons]
    exact ⟨.ofText _, trivial, trivial, by simp⟩
  have hknown' : knownPlugin.Reachable := by
    refine .setPolicy (.addAll hplugin ?_) _
    exact List.forall_mem_singleton.2 trivial
  have hrecord : proprietaryRecord.Reachable := by
    refine .setFlag (.addAll (.addCoordinate harchive _) ?_) _ _
    simp only [List.forall_mem_cons]
    exact ⟨.ofText _, trivial, by simp⟩
  have hrecord' : pluginRecord.Reachable := by
    refine .addAll hplugin ?_
    simp only [List.forall_mem_cons]
    exact ⟨trivial, trivial, by simp⟩
  have hall : ∀ a ∈ [knownArchive, knownPlugin] ++ [proprietaryRecord, pluginRecord],
      a.Reachable := by
    simp only [List.forall_mem_append, List.forall_mem_cons]
    exact ⟨⟨hknown, hknown', by simp⟩, hrecord, hrecord', by simp⟩
  exact ⟨hall, (conserves_reconcileAll hall).2.2.2.2 _ (by simp), rfl⟩

end Clearinghouse
