import Clearinghouse.Proofs.Reconcile.Grouping

/-!
# One artifact for one component

Artifacts that share a coordinate are about the same component, so known artifacts should be
apart. A record is merged into the first artifact that it shares a coordinate with, and into no
other. Main statement: artifacts are apart after reconciling exactly if they were before and no
record found two artifacts to share a coordinate with (`apart_reconcileAll_iff`). So records
about a single coordinate keep them apart (`apart_reconcileAll_of_single`).

One step is decided by the artifacts that the record touches (`apart_reconcileFrom_iff`). The
record is merged into the first of them (`reconcile_of_touched`), which shares a coordinate with
each of the others from there on (`tied_reconcile`, `Tied.reconcileAll`), so they are never apart
again (`Tied.not_apart`).
-/

namespace Clearinghouse

/-! ## Shared coordinates -/

namespace Artifact

theorem sharesCoordinate_comm (a b : Artifact) :
    a.sharesCoordinate b.coordinates = b.sharesCoordinate a.coordinates := by
  rw [Bool.eq_iff_iff, sharesCoordinate_iff, sharesCoordinate_iff]
  exact exists_congr fun c => and_comm

/-- More coordinates on either side share no less. -/
theorem sharesCoordinate_mono {a a' : Artifact} {cs cs' : List Coordinate}
    (ha : a.coordinates ⊆ a'.coordinates) (hcs : cs ⊆ cs') (h : a.sharesCoordinate cs) :
    a'.sharesCoordinate cs' := by
  obtain ⟨c, hc, hcs'⟩ := List.any_eq_true.1 h
  obtain ⟨d, hd, heq⟩ := Coordinate.contains_iff.1 hcs'
  exact List.any_eq_true.2 ⟨c, ha hc, Coordinate.contains_iff.2 ⟨d, hcs hd, heq⟩⟩

/-- A merged artifact shares what either of the two shares. -/
theorem sharesCoordinate_mergeWith (a r : Artifact) (cs : List Coordinate) :
    (a.mergeWith r).value.sharesCoordinate cs =
      (a.sharesCoordinate cs || r.sharesCoordinate cs) := by
  rw [Bool.eq_iff_iff, Bool.or_eq_true, sharesCoordinate_iff, sharesCoordinate_iff,
    sharesCoordinate_iff]
  simp only [contains_coordinates_mergeWith, Bool.or_eq_true, or_and_right, exists_or]

end Artifact

/-! ## Artifacts that are apart -/

/-- None of the artifacts has one of the coordinates. -/
def NoneShares (as : List Artifact) (cs : List Coordinate) : Prop :=
  ∀ a ∈ as, a.sharesCoordinate cs = false

/-- No two artifacts in different places share a coordinate. -/
def Apart (as : List Artifact) : Prop :=
  as.Pairwise fun a b => a.sharesCoordinate b.coordinates = false

/-- The artifacts that share a coordinate with the record. -/
def touched (known : List Artifact) (r : Artifact) : List Artifact :=
  known.filter (·.sharesCoordinate r.coordinates)

theorem apart_cons {a : Artifact} {as : List Artifact} :
    Apart (a :: as) ↔ NoneShares as a.coordinates ∧ Apart as := by
  rw [Apart, List.pairwise_cons]
  refine and_congr_left fun _ => forall₂_congr fun b _ => ?_
  rw [Artifact.sharesCoordinate_comm]

theorem noneShares_cons {a : Artifact} {as : List Artifact} {cs : List Coordinate} :
    NoneShares (a :: as) cs ↔ a.sharesCoordinate cs = false ∧ NoneShares as cs :=
  List.forall_mem_cons

theorem noneShares_mergeWith {as : List Artifact} {a r : Artifact} :
    NoneShares as (a.mergeWith r).value.coordinates ↔
      NoneShares as a.coordinates ∧ NoneShares as r.coordinates := by
  unfold NoneShares
  rw [← forall₂_and]
  refine forall₂_congr fun b _ => ?_
  rw [Artifact.sharesCoordinate_comm, Artifact.sharesCoordinate_mergeWith, Bool.or_eq_false_iff,
    a.sharesCoordinate_comm, r.sharesCoordinate_comm]

/-- The artifacts in two places share a coordinate. -/
def Tied (as : List Artifact) (i j : Nat) : Prop :=
  ∃ a b, as[i]? = some a ∧ as[j]? = some b ∧ a.sharesCoordinate b.coordinates

theorem Tied.not_apart {as : List Artifact} {i j : Nat} (h : Tied as i j) (hij : i < j) :
    ¬ Apart as := by
  obtain ⟨a, b, ha, hb, hshares⟩ := h
  obtain ⟨hi, rfl⟩ := List.getElem?_eq_some_iff.1 ha
  obtain ⟨hj, rfl⟩ := List.getElem?_eq_some_iff.1 hb
  intro hapart
  rw [List.pairwise_iff_getElem.1 hapart i j hi hj hij] at hshares
  cases hshares

theorem touched_eq_nil_iff {known : List Artifact} {r : Artifact} :
    touched known r = [] ↔ NoneShares known r.coordinates := by
  simp [touched, NoneShares]

/-! ## One record -/

/-- Reconciling a record adds its coordinates to those that are known. -/
theorem noneShares_reconcileFrom (index : Nat) (r : Artifact) (known : List Artifact)
    (cs : List Coordinate) :
    NoneShares (reconcileFrom index r known).value.1 cs ↔
      NoneShares known cs ∧ r.sharesCoordinate cs = false := by
  induction known generalizing index with
  | nil => simp [reconcileFrom, NoneShares]
  | cons a known ih =>
    rw [reconcileFrom]
    cases a.sharesCoordinate r.coordinates with
    | true =>
      show NoneShares ((a.mergeWith r).value :: known) cs ↔ _
      rw [noneShares_cons, noneShares_cons, Artifact.sharesCoordinate_mergeWith,
        Bool.or_eq_false_iff]
      tauto
    | false =>
      show NoneShares (a :: (reconcileFrom (index + 1) r known).value.1) cs ↔ _
      rw [noneShares_cons, noneShares_cons, ih, and_assoc]

/-- After a record the artifacts are apart if they were before and it touches one at most. -/
theorem apart_reconcileFrom_iff (index : Nat) (r : Artifact) (known : List Artifact) :
    Apart (reconcileFrom index r known).value.1 ↔
      Apart known ∧ (touched known r).length ≤ 1 := by
  induction known generalizing index with
  | nil => simp [reconcileFrom, Apart, touched]
  | cons a known ih =>
    rw [reconcileFrom, touched, List.filter_cons]
    cases hshares : a.sharesCoordinate r.coordinates with
    | true =>
      -- the record goes here, so nothing else may be touched
      have hone : (a :: touched known r).length ≤ 1 ↔ NoneShares known r.coordinates := by
        rw [← touched_eq_nil_iff, List.length_cons, ← List.length_eq_zero_iff]
        omega
      show Apart ((a.mergeWith r).value :: known) ↔
        Apart (a :: known) ∧ (a :: touched known r).length ≤ 1
      rw [apart_cons, apart_cons, noneShares_mergeWith, hone]
      tauto
    | false =>
      have hother : r.sharesCoordinate a.coordinates = false := by
        rw [Artifact.sharesCoordinate_comm, hshares]
      show Apart (a :: (reconcileFrom (index + 1) r known).value.1) ↔
        Apart (a :: known) ∧ (touched known r).length ≤ 1
      rw [apart_cons, apart_cons, noneShares_reconcileFrom, ih]
      tauto

/-- A record is merged into the first artifact that it touches, and the others stay as they
are. -/
theorem value_reconcileFrom_of_shares (index : Nat) {before after : List Artifact}
    {first r : Artifact} (hbefore : NoneShares before r.coordinates)
    (hfirst : first.sharesCoordinate r.coordinates) :
    (reconcileFrom index r (before ++ first :: after)).value =
      (before ++ (first.mergeWith r).value :: after, .merged (index + before.length)) := by
  induction before generalizing index with
  | nil =>
    rw [List.nil_append, reconcileFrom, if_pos hfirst]
    rfl
  | cons a before ih =>
    obtain ⟨ha, hbefore⟩ := noneShares_cons.1 hbefore
    have hplace : index + 1 + before.length = index + (a :: before).length := by
      rw [List.length_cons, Nat.add_right_comm, Nat.add_assoc]
    rw [List.cons_append, reconcileFrom, if_neg (by rw [ha]; exact Bool.false_ne_true),
      Logged.value_bind, ih (index + 1) hbefore, hplace]
    rfl

theorem sharesCoordinate_mergeWith_of_touched {a b r : Artifact}
    (hb : b.sharesCoordinate r.coordinates) :
    (a.mergeWith r).value.sharesCoordinate b.coordinates := by
  rw [Artifact.sharesCoordinate_mergeWith, r.sharesCoordinate_comm, hb, Bool.or_true]

/-- A record that touches artifacts is merged into the first of them and into no other. It takes
its coordinates there, so the first shares one with each of the others. -/
theorem reconcile_of_touched {known others : List Artifact} {first r : Artifact}
    (h : touched known r = first :: others) :
    ∃ before after, known = before ++ first :: after ∧ touched after r = others ∧
      (reconcile known r).value =
        (before ++ (first.mergeWith r).value :: after, .merged before.length) ∧
      ∀ b ∈ others, (first.mergeWith r).value.sharesCoordinate b.coordinates := by
  obtain ⟨before, after, rfl, hbefore, hfirst, hothers⟩ := List.filter_eq_cons_iff.1 h
  refine ⟨before, after, rfl, hothers, ?_, fun b hb => ?_⟩
  · rw [reconcile, value_reconcileFrom_of_shares 0 (fun a ha => by simpa using hbefore a ha) hfirst,
      Nat.zero_add]
  · rw [← hothers] at hb
    exact sharesCoordinate_mergeWith_of_touched (List.mem_filter.1 hb).2

/-- A record that touches two artifacts ties the first that it touches to the other. -/
theorem tied_reconcile {before between after : List Artifact} {first other r : Artifact}
    (hbefore : NoneShares before r.coordinates) (hfirst : first.sharesCoordinate r.coordinates)
    (hother : other.sharesCoordinate r.coordinates) :
    Tied (reconcile (before ++ first :: (between ++ other :: after)) r).value.1
      before.length (before.length + (between.length + 1)) := by
  refine ⟨(first.mergeWith r).value, other, ?_, ?_,
    sharesCoordinate_mergeWith_of_touched hother⟩ <;>
  simp [reconcile, value_reconcileFrom_of_shares 0 hbefore hfirst]

/-- Every artifact stays in its place, where it keeps its coordinates. -/
theorem exists_prefix_reconcileFrom (index : Nat) (r : Artifact) {known : List Artifact} {i : Nat}
    {a : Artifact} (ha : known[i]? = some a) :
    ∃ b, (reconcileFrom index r known).value.1[i]? = some b ∧
      a.coordinates <+: b.coordinates := by
  induction known generalizing index i with
  | nil => cases ha
  | cons first known ih =>
    rw [reconcileFrom]
    cases i with
    | zero =>
      obtain rfl : first = a := Option.some.inj ha
      split
      · refine ⟨(first.mergeWith r).value, rfl, ?_⟩
        rw [Artifact.coordinates_mergeWith]
        exact Distinct.prefix_union first.coordinates r.coordinates
      · exact ⟨first, rfl, List.prefix_refl _⟩
    | succ i =>
      split
      · exact ⟨a, ha, List.prefix_refl _⟩
      · exact ih (index + 1) ha

/-- What is tied stays tied, since artifacts only gain coordinates. -/
theorem Tied.reconcile {known : List Artifact} {i j : Nat} (h : Tied known i j) (r : Artifact) :
    Tied (reconcile known r).value.1 i j := by
  obtain ⟨a, b, ha, hb, hshares⟩ := h
  obtain ⟨a', ha', hprefix⟩ := exists_prefix_reconcileFrom 0 r ha
  obtain ⟨b', hb', hprefix'⟩ := exists_prefix_reconcileFrom 0 r hb
  exact ⟨a', b', ha', hb', Artifact.sharesCoordinate_mono hprefix.subset hprefix'.subset hshares⟩

/-! ## All records -/

/-- What is tied stays tied, whatever records follow. -/
theorem Tied.reconcileAll {known : List Artifact} {i j : Nat} (h : Tied known i j)
    (records : List Artifact) : Tied (reconcileAll known records).value.artifacts i j := by
  induction records using List.reverseRecOn with
  | nil => exact h
  | append_singleton records r ih =>
    rw [artifacts_reconcileAll_append_singleton]
    exact ih.reconcile r

/-- Artifacts are apart after reconciling exactly if they were before, and every record touched
at most one of the artifacts that it found. -/
theorem apart_reconcileAll_iff (known records : List Artifact) :
    Apart (reconcileAll known records).value.artifacts ↔
      Apart known ∧ ∀ before r after, records = before ++ r :: after →
        (touched (reconcileAll known before).value.artifacts r).length ≤ 1 := by
  induction records using List.reverseRecOn with
  | nil => simp [reconcileAll]
  | append_singleton records r ih =>
    rw [artifacts_reconcileAll_append_singleton, reconcile, apart_reconcileFrom_iff, ih, and_assoc]
    refine and_congr_right fun _ => ?_
    constructor
    · rintro ⟨hbefore, hlast⟩ before r' after h
      cases after using List.reverseRecOn with
      | nil =>
        obtain ⟨rfl, hr⟩ := List.append_inj' h rfl
        cases hr
        exact hlast
      | append_singleton after last =>
        rw [← List.cons_append, ← List.append_assoc] at h
        exact hbefore before r' after (List.append_inj' h rfl).1
    · intro h
      refine ⟨fun before r' after hrecords => ?_, h records r [] rfl⟩
      exact h before r' (after ++ [r]) (by rw [hrecords, List.append_assoc, List.cons_append])

/-! ## Records that tie nothing -/

/-- A single coordinate is that of one artifact at most if the artifacts are apart. -/
theorem length_touched_le_one {known : List Artifact} (h : Apart known) {r : Artifact}
    {c : Coordinate} (hr : r.coordinates = [c]) : (touched known r).length ≤ 1 := by
  induction known with
  | nil => exact Nat.zero_le 1
  | cons a known ih =>
    obtain ⟨hnone, hknown⟩ := apart_cons.1 h
    rw [touched, List.filter_cons]
    split
    · rename_i ha
      have hothers : touched known r = [] := by
        rw [touched_eq_nil_iff, hr]
        rw [hr, Artifact.sharesCoordinate_singleton] at ha
        intro b hb
        rw [← Bool.not_eq_true, Artifact.sharesCoordinate_singleton]
        intro hbc
        have hshared := Artifact.sharesCoordinate_iff.2 ⟨c, hbc, ha⟩
        rw [hnone b hb] at hshared
        cases hshared
      show (a :: touched known r).length ≤ 1
      rw [hothers]
      exact Nat.le_refl 1
    · exact ih hknown

/-- Records about a single coordinate keep artifacts apart. -/
theorem apart_reconcileAll_of_single {known records : List Artifact} (h : Apart known)
    (hone : ∀ r ∈ records, ∃ c, r.coordinates = [c]) :
    Apart (reconcileAll known records).value.artifacts := by
  induction records using List.reverseRecOn with
  | nil => exact h
  | append_singleton records r ih =>
    have hrecords := ih fun r hr => hone r (List.mem_append_left _ hr)
    obtain ⟨c, hc⟩ := hone r (List.mem_append_right _ List.mem_cons_self)
    rw [artifacts_reconcileAll_append_singleton, reconcile, apart_reconcileFrom_iff]
    exact ⟨hrecords, length_touched_le_one hrecords hc⟩

/-! ## A record that ties two artifacts -/

namespace Samples

/-- What a repository of archives knows. -/
def archive : Artifact := (Artifact.ofSource "").addCoordinate (.of "maven" "org.foo" "bar" "1.0")

/-- What an update site knows. -/
def plugin : Artifact := (Artifact.ofSource "").addCoordinate (.of "p2" "" "org.foo.bar" "1.0.0")

/-- A record that has the coordinates of both. -/
def archivedPlugin : Artifact := archive.addCoordinate (.of "p2" "" "org.foo.bar" "1.0.0")

end Samples

open Samples in
/-- The record goes to the archive, which then shares a coordinate with the plugin. -/
theorem not_apart_reconcileAll_archivedPlugin :
    Apart [archive, plugin] ∧
      ¬ Apart (reconcileAll [archive, plugin] [archivedPlugin]).value.artifacts := by
  unfold Apart
  decide +kernel

end Clearinghouse
