import Clearinghouse.Artifact.Typed
import Clearinghouse.Policy.Rule
import Clearinghouse.Proofs.Artifact.Reachable

/-!
# How artifacts keep facts

Whatever operations an artifact was assembled by, it keeps what it knows in one way: one slot for
every kind, with facts of this kind, one of them unless they are files; coordinates, files and
copyright lines are there once (`Represented`). So asking for values of a kind finds one if the
kind is there, and leaves no fact out. Main statement: `Assembled.represented_and_asks`. What
rules, selectors and tables look up is asked for in this way (`clearingStateOf_eq_ask?`,
`filterMap_filename?_eq_askAll`).
-/

namespace Clearinghouse

open Text

namespace Artifact

/-! ## Assembling -/

/-- The artifact is assembled from nothing by operations, with facts that can be made. A fact
that is refused leaves the artifact as it was. -/
inductive Assembled : Artifact → Prop
  | ofSource (source : String) : Assembled (.ofSource source)
  | addFact {a : Artifact} (h : Assembled a) {f : Fact} (hf : f.Made) :
      Assembled (a.addFact f).value
  | tryAddFact {a b : Artifact} (h : Assembled a) {f : Fact} (hf : f.Made)
      (hb : a.tryAddFact f = .ok b) : Assembled b
  | overrideFact {a : Artifact} (h : Assembled a) {f : Fact} (hf : f.Made) :
      Assembled (a.overrideFact f)
  | removeFacts {a : Artifact} (h : Assembled a) (k : FactKind) : Assembled (a.removeFacts k)
  | setPolicy {a : Artifact} (h : Assembled a) (policy : MergePolicy) :
      Assembled { a with policy }
  | addCoordinate {a : Artifact} (h : Assembled a) (c : Coordinate) :
      Assembled (a.addCoordinate c)
  | setFlag {a : Artifact} (h : Assembled a) (flag : Flag) (value : Bool) :
      Assembled (a.setFlag flag value)
  | mergeWith {a b : Artifact} (h : Assembled a) (h' : Assembled b) :
      Assembled (a.mergeWith b).value

theorem value_addFact_of_tryAddFact {a b : Artifact} {f : Fact} (h : a.tryAddFact f = .ok b) :
    (a.addFact f).value = b := by
  rw [addFact, h]
  rfl

theorem Assembled.reachable {a : Artifact} (h : a.Assembled) : a.Reachable := by
  induction h with
  | ofSource source => exact .ofSource source
  | addFact _ hf ih => exact ih.addFact hf
  | tryAddFact _ hf hb ih =>
    rw [← value_addFact_of_tryAddFact hb]
    exact ih.addFact hf
  | overrideFact _ hf ih => exact ih.overrideFact hf
  | removeFacts _ k ih => exact ih.removeFacts k
  | setPolicy _ policy ih => exact ih.setPolicy policy
  | addCoordinate _ c ih => exact ih.addCoordinate c
  | setFlag _ flag value ih => exact ih.setFlag flag value
  | mergeWith _ _ ih ih' => exact ih.mergeWith ih'

/-! ## Keeping -/

/-- How an artifact keeps what it knows. -/
structure Represented (a : Artifact) : Prop where
  /-- No kind has two slots. -/
  nodup : a.facts.kinds.Nodup
  kind : ∀ slot ∈ a.facts.slots, ∀ f ∈ slot.2, f.kind = slot.1
  files : ∀ facts, a.facts.get? .filename = some facts →
    facts ≠ [] ∧ facts.Pairwise fun f g => (f == g) = false
  single : ∀ k ≠ .filename, ∀ facts, a.facts.get? k = some facts → ∃ f, facts = [f]
  coordinates : a.coordinates.Pairwise fun c d => (c == d) = false
  copyright : ∀ c, .copyright c ∈ a.allFacts →
    c.lines.Nodup ∧ ∀ line ∈ c.lines, Trimmed line ∧ isAllBlank line = false

theorem mem_factsOf_of_mem_allFacts {a : Artifact} (h : a.facts.WellFormed) {f : Fact}
    (hf : f ∈ a.allFacts) : f ∈ a.factsOf f.kind := by
  rw [factsOf, ← h.filter_toList]
  exact List.mem_filter.2 ⟨hf, by simp⟩

theorem pairwise_beq_of_files {facts : List Fact} (hk : ∀ f ∈ facts, f.kind = .filename)
    (h : facts.Pairwise fun f g => (g == f) = false) :
    facts.Pairwise fun f g => (f == g) = false := by
  obtain ⟨files, rfl⟩ := exists_files hk
  rw [List.pairwise_map] at h ⊢
  exact h.imp fun {file other} hne => (BEq.comm (a := file) (b := other)).trans hne

theorem Reachable.represented {a : Artifact} (h : a.Reachable) : a.Represented where
  nodup := h.tidy.wellFormed.nodup
  kind := h.tidy.wellFormed.kind_eq
  files facts hfacts := by
    have hslot := FactStore.mem_of_findSlot? hfacts
    have hdistinct := (h.tidy.facts .filename).distinct
    rw [factsOf_of_get? hfacts] at hdistinct
    exact ⟨h.tidy.wellFormed.ne_nil _ hslot,
      pairwise_beq_of_files (h.tidy.wellFormed.kind_eq _ hslot) hdistinct⟩
  single k hk facts hfacts := by
    have hne := h.tidy.wellFormed.ne_nil _ (FactStore.mem_of_findSlot? hfacts)
    rcases (h.tidy.storable k).eq_nil_or hk with hnil | ⟨f, hf, -⟩
    · rw [factsOf_of_get? hfacts] at hnil
      exact absurd hnil hne
    · rw [factsOf_of_get? hfacts] at hf
      exact ⟨f, hf⟩
  coordinates := h.tidy.separate
  copyright c hc := by
    have hmade : c.Made := h.facts .copyright _ (mem_factsOf_of_mem_allFacts h.tidy.wellFormed hc)
    refine ⟨hmade.nodup, fun line hline => ⟨(hmade.isLine line hline).trimmed, ?_⟩⟩
    rw [Bool.eq_false_iff]
    intro hblank
    have hempty := trim_eq_empty_iff.2 hblank
    rw [(hmade.isLine line hline).trimmed] at hempty
    exact (hmade.isLine line hline).ne_empty hempty

/-! ## Asking -/

theorem hasFact_iff_factsOf_ne_nil {a : Artifact} (h : a.facts.WellFormed) {k : FactKind} :
    a.hasFact k ↔ a.factsOf k ≠ [] :=
  (a.facts.contains_iff_mem_kinds k).trans (h.mem_kinds_iff k)

theorem ask?_eq_bind_head? (a : Artifact) (k : FactKind) :
    a.ask? k = (a.factsOf k).head?.bind (Fact.as? k) := rfl

/-- Asking for a value finds one if the kind is there. -/
theorem isSome_ask?_iff {a : Artifact} (h : a.facts.WellFormed) (k : FactKind) :
    (a.ask? k).isSome ↔ a.hasFact k := by
  rw [hasFact_iff_factsOf_ne_nil h, ask?_eq_bind_head?]
  cases hfacts : a.factsOf k with
  | nil => simp
  | cons f facts =>
    have hmem : f ∈ a.factsOf k := hfacts ▸ List.mem_cons_self
    have hkind : f.kind = k := h.kind_of_mem_factsOf hmem
    simpa using Fact.isSome_as?_iff.2 hkind

theorem map_ofValue_filterMap {k : FactKind} {facts : List Fact} (h : ∀ f ∈ facts, f.kind = k) :
    (facts.filterMap (Fact.as? k)).map (Fact.ofValue k) = facts := by
  induction facts with
  | nil => rfl
  | cons f facts ih =>
    obtain ⟨v, rfl⟩ := Fact.exists_ofValue (h f List.mem_cons_self)
    rw [List.filterMap_cons_some (Fact.as?_ofValue k v), List.map_cons,
      ih fun g hg => h g (List.mem_cons_of_mem _ hg)]

/-- The values of a kind are those of all its facts. -/
theorem map_ofValue_askAll {a : Artifact} (h : a.facts.WellFormed) (k : FactKind) :
    (a.askAll k).map (Fact.ofValue k) = a.factsOf k :=
  map_ofValue_filterMap fun _ hf => h.kind_of_mem_factsOf hf

/-- Rules ask for the clearing state. -/
theorem clearingStateOf_eq_ask? (a : Artifact) :
    Rule.clearingStateOf a = a.ask? .clearingState :=
  Option.bind_congr fun f _ => f.clearingState?_eq_as?

/-- Selectors and tables ask for all files. -/
theorem filterMap_filename?_eq_askAll (a : Artifact) :
    (a.factsOf .filename).filterMap Fact.filename? = a.askAll .filename :=
  List.filterMap_congr fun f _ => f.filename?_eq_as?

/-- Assembled artifacts keep what they know in one way, so asking for values of a kind finds one
if the kind is there and leaves no fact out. -/
theorem Assembled.represented_and_asks {a : Artifact} (h : a.Assembled) :
    a.Represented ∧ ∀ k,
      ((a.ask? k).isSome ↔ a.hasFact k) ∧ (a.askAll k).map (Fact.ofValue k) = a.factsOf k :=
  ⟨h.reachable.represented, fun k =>
    ⟨isSome_ask?_iff h.reachable.tidy.wellFormed k,
      map_ofValue_askAll h.reachable.tidy.wellFormed k⟩⟩

end Artifact

namespace Samples

/-- A package with two files, of which one was found twice, and a copyright statement that was
found in two places. -/
def parcel : Artifact :=
  let found := ((Artifact.ofSource "scan").addFact (.filename (.ofHash "00"))).value
  let found := (found.addFact (.copyright (.ofText "Copyright B\n\nCopyright A"))).value
  let a := (Artifact.ofSource "list").addCoordinate (.of "npm" "" "parcel" "1.0")
  let a := (a.addFact (.filename (.ofHash "11"))).value
  let a := (a.addFact (.filename (.ofHash "00"))).value
  let a := (a.addFact (.copyright (.ofText "Copyright A"))).value
  let a := (a.overrideFact (.clearingState .projectApproved)).setFlag .proprietary true
  (({ a with policy := .keepExisting }.removeFacts .sourceUrl).mergeWith found).value

theorem assembled_parcel : parcel.Assembled := by
  have hfile (hash : String) : (Fact.filename (.ofHash hash)).Made := trivial
  have htext (text : String) : (Fact.copyright (.ofText text)).Made := Copyright.Made.ofText text
  have hstate : (Fact.clearingState .projectApproved).Made := trivial
  exact .mergeWith
    (.removeFacts (.setPolicy (.setFlag (.overrideFact (.addFact (.addFact (.addFact
      (.addCoordinate (.ofSource _) _) (hfile _)) (hfile _)) (htext _)) hstate) _ _) _) _)
    (.addFact (.addFact (.ofSource _) (hfile _)) (htext _))

end Samples

namespace Artifact

open Samples in
/-- The parcel keeps both files, each once, and the lines of both statements. -/
theorem represented_and_asks_parcel :
    parcel.askAll .filename = [FileName.ofHash "11", .ofHash "00"] ∧
      parcel.ask? .copyright = some (Copyright.mk ["Copyright A", "Copyright B"]) ∧
      parcel.Represented ∧
      ∀ k, ((parcel.ask? k).isSome ↔ parcel.hasFact k) ∧
        (parcel.askAll k).map (Fact.ofValue k) = parcel.factsOf k :=
  ⟨rfl, congrArg some (Copyright.ext_lines (by decide +kernel)),
    assembled_parcel.represented_and_asks⟩

end Artifact

end Clearinghouse
