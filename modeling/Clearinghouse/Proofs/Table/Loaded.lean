import Clearinghouse.Proofs.Artifact.Made
import Clearinghouse.Proofs.Table.Licenses
import Clearinghouse.Proofs.Table.Reread

/-!
# Artifacts from tables

What is read from a table is an artifact that can be made, has coordinates that a row can carry,
no flags, no configured license, and licenses and source URLs as cells give them
(`loaded_of_mem_artifactsOf`). Merging such artifacts gives such an artifact
(`Loaded.mergeWith`), whatever the policies.
-/

namespace Clearinghouse

open Text

namespace Fact

/-- The fact is one that a cell gives. Only licenses and source URLs matter here. -/
def OfCell : Fact → Prop
  | declaredLicense t | observedLicense t | overriddenLicense t => t.OfCell
  | configuredLicense _ => False
  | sourceUrl url => Trimmed url ∧ url ≠ ""
  | _ => True

theorem OfCell.unite {f g : Fact} (h : f.OfCell) : (f.unite g).OfCell := by
  unfold Fact.unite
  split
  · trivial
  · exact h

end Fact

namespace Table

/-- The artifact is one that can come from tables of a format. -/
structure Loaded (f : TableFormat) (a : Artifact) : Prop where
  made : a.Made
  readable : ∀ c ∈ a.coordinates, f.Carries c
  flags : a.flags = .unset
  facts : ∀ k, ∀ x ∈ a.factsOf k, x.OfCell

variable {f : TableFormat} {pathExists : Path → Bool} {baseDir : Path}

theorem Loaded.mergeWith {a b : Artifact} (h : Loaded f a) (h' : Loaded f b) :
    Loaded f (a.mergeWith b).value where
  made := .mergeWith h.made h'.made
  readable c hc := by
    rw [Artifact.coordinates_mergeWith] at hc
    exact (Distinct.mem_of_mem_union hc).elim (h.readable c) (h'.readable c)
  flags := by
    rw [Artifact.flags_mergeWith, h.flags, h'.flags]
    rfl
  facts k := by
    rw [Artifact.factsOf_mergeWith a h'.made.tidy.wellFormed]
    exact MergePolicy.forall_mem_foldl_absorb (fun _ _ hx _ => hx.unite) (h.facts k) (h'.facts k)

theorem Loaded.setPolicy {a : Artifact} (h : Loaded f a) (policy : MergePolicy) :
    Loaded f { a with policy } where
  made := .setPolicy h.made policy
  readable := h.readable
  flags := h.flags
  facts := h.facts

/-- The groups of artifacts from tables are such artifacts, about one coordinate each. -/
theorem loaded_of_mem_groups {records : List Artifact}
    (hone : ∀ r ∈ records, ∃ c, r.coordinates = [c]) (h : ∀ r ∈ records, Loaded f r)
    {a : Artifact} (ha : a ∈ groups records) : Loaded f a ∧ ∃ c, a.coordinates = [c] := by
  obtain ⟨group, hne, hgroup, rfl, hsingle⟩ := exists_of_mem_groups hone ha
  exact ⟨gather_induction hne (fun r hr => h r (hgroup r hr)) fun _ _ => Loaded.mergeWith, hsingle⟩

/-! ## Rows -/

theorem ofCell_of_readCell {c : Column} {text : String} {x : Fact} (ht : Trimmed text)
    (hne : text ≠ "") (h : readCell pathExists baseDir c text = some x) : x.OfCell := by
  cases c with
  | effectiveLicense | declaredLicense | observedLicense =>
    cases h
    exact ofCell_readLicense ht hne
  | sourceUrl =>
    cases h
    exact ⟨ht, hne⟩
  | artifactId | groupId | version | coordinateType => cases h
  | copyrights | hash | releaseTagUrl =>
    cases h
    trivial
  | softwareHeritageId | clearingState | clearingDocument | changeStatus | cpe | fileName =>
    rw [readCell, Option.map_eq_some_iff] at h
    obtain ⟨_, -, rfl⟩ := h
    trivial

theorem ofCell_of_rowFact? {row : Row} {k : FactKind} {x : Fact}
    (h : rowFact? pathExists baseDir row k = some x) : x.OfCell := by
  by_cases hm : k = .matchingMetadata
  · subst hm
    cases h
    trivial
  · rw [rowFact?_eq hm] at h
    obtain ⟨c, -, h⟩ := Option.bind_eq_some_iff.1 h
    obtain ⟨text, htext, h⟩ := Option.bind_eq_some_iff.1 h
    obtain ⟨ht, hne⟩ := trimmed_of_get? htext
    exact ofCell_of_readCell ht hne h

theorem loaded_record {row : Row} {c : Coordinate} (h : rowCoordinate f row = .ok c) :
    Loaded f (record pathExists baseDir f.policy row c) where
  made := .addAll (.setPolicy (.addCoordinate (.ofSource _) c) f.policy) _
  readable d hd := by
    rw [coordinates_record, List.mem_singleton] at hd
    exact hd ▸ legible_of_rowCoordinate h
  flags := flags_record
  facts k x hx := by
    rw [factsOf_record] at hx
    exact ofCell_of_rowFact? (Option.mem_toList.1 hx)

/-- What is read from a table are the groups of the records in its rows. -/
theorem exists_groups_of_artifactsOf {raws : List RawRecord} {as : List Artifact}
    (h : (artifactsOf f pathExists baseDir raws).run.value = .ok as) :
    ∃ records : List Artifact, as = groups records ∧ (∀ r ∈ records, ∃ c, r.coordinates = [c]) ∧
      ∀ r ∈ records, ∃ row c, rowCoordinate f row = .ok c ∧
        r = record pathExists baseDir f.policy row c := by
  cases raws with
  | nil =>
    cases h
    exact ⟨[], rfl, by simp, by simp⟩
  | cons raw raws =>
    cases hheader : decodeRecord 0 raw with
    | error detail =>
      rw [artifactsOf, hheader] at h
      cases h
    | ok header =>
      have hone : ∀ r ∈ (rowArtifacts f pathExists baseDir header 1 raws).value,
          ∃ c, r.coordinates = [c] := by
        intro r hr
        obtain ⟨row, c, -, rfl⟩ := exists_of_mem_rowArtifacts hr
        exact ⟨c, coordinates_record⟩
      rw [value_artifactsOf hheader] at h
      simp only [artifacts_reconcileAll hone, Except.ok.injEq] at h
      exact ⟨_, h.symm, hone, fun r hr => exists_of_mem_rowArtifacts hr⟩

/-- What is read from a table comes from tables, and is about one coordinate. -/
theorem loaded_of_mem_artifactsOf {raws : List RawRecord} {as : List Artifact}
    (h : (artifactsOf f pathExists baseDir raws).run.value = .ok as) {a : Artifact} (ha : a ∈ as) :
    Loaded f a ∧ ∃ c, a.coordinates = [c] := by
  obtain ⟨records, rfl, hone, hrecord⟩ := exists_groups_of_artifactsOf h
  refine loaded_of_mem_groups hone (fun r hr => ?_) ha
  obtain ⟨row, c, hc, rfl⟩ := hrecord r hr
  exact loaded_record hc

/-- Merged sources from tables are from tables too, about different coordinates, one each. -/
theorem loaded_of_mem_mergeSources {sources : List (List Artifact)} {policy : MergePolicy}
    (h : ∀ source ∈ sources, ∀ a ∈ source, Loaded f a ∧ ∃ c, a.coordinates = [c]) :
    (∀ a ∈ (mergeSources sources policy).value.artifacts,
        Loaded f a ∧ ∃ c, a.coordinates = [c]) ∧
      Coordinate.Separate (coordinatesOf (mergeSources sources policy).value.artifacts) := by
  have hrecord : ∀ r ∈ sources.flatten.map fun a => { a with policy },
      Loaded f r ∧ ∃ c, r.coordinates = [c] := by
    intro r hr
    obtain ⟨a, ha, rfl⟩ := List.mem_map.1 hr
    obtain ⟨source, hsource, ha⟩ := List.mem_flatten.1 ha
    obtain ⟨hloaded, hsingle⟩ := h source hsource a ha
    exact ⟨hloaded.setPolicy policy, hsingle⟩
  have hone := fun r hr => (hrecord r hr).2
  rw [artifacts_mergeSources, artifacts_reconcileAll hone]
  exact ⟨fun a ha => loaded_of_mem_groups hone (fun r hr => (hrecord r hr).1) ha,
    separate_groups hone⟩

end Table

end Clearinghouse
