import Clearinghouse.Config.Validation
import Clearinghouse.Proofs.Curation.Compiling
import Clearinghouse.Table.Format

/-!
# Validation and compilation agree

A configuration is looked at twice: once to tell what is wrong with it, and once to compile it.
Both accept the same templates, namely those in which every text can be read, and the same
selectors, so a configuration without faults can be used. Main statement:
`Config.faults_agree_with_compilation`.
-/

namespace Clearinghouse

open Text

/-! ## Faults -/

namespace ConfigFault

theorem ofResult_eq_nil_iff {α : Type} {field : String} {result : Except Error α} :
    ofResult field result = [] ↔ ∃ a, result = .ok a := by
  cases result <;> simp [ofResult]

/-- A section has no faults if none of its entries has one, wherever the entries stand. -/
theorem ofEntries_eq_nil_iff {α : Type} {heading : String} {faults : String → α → List ConfigFault}
    {P : α → Prop} (h : ∀ place entry, faults place entry = [] ↔ P entry) {index : Nat}
    {entries : List α} :
    ofEntries heading faults index entries = [] ↔ ∀ entry ∈ entries, P entry := by
  induction entries generalizing index with
  | nil => simp [ofEntries]
  | cons entry entries ih =>
    rw [ofEntries, List.append_eq_nil_iff, h, ih, List.forall_mem_cons]

theorem ofEntries_within_eq_nil_iff {α : Type} {heading : String} {faults : α → List ConfigFault}
    {entries : List α} :
    ofEntries heading (fun place a => (faults a).map (within place)) 0 entries = [] ↔
      ∀ a ∈ entries, faults a = [] :=
  ofEntries_eq_nil_iff (P := fun a => faults a = []) fun _ _ => List.map_eq_nil_iff

/-- A text that may be absent has no faults if it is absent or has none. -/
theorem flatMap_toList_eq_nil_iff {α β : Type} {f : α → List β} {o : Option α} :
    o.toList.flatMap f = [] ↔ ∀ a ∈ o, f a = [] := by
  cases o <;> simp

end ConfigFault

open ConfigFault

/-! ## Templates -/

/-- Every text in the template can be read. -/
structure Template.Readable (t : Template) : Prop where
  coordinates : ∀ text ∈ t.coordinates, ∃ c, Coordinate.parse text = .ok c
  declaredLicense : ∀ text ∈ t.declaredLicense, ∃ tree, LicenseTree.parse text = .ok tree
  observedLicense : ∀ text ∈ t.observedLicense, ∃ tree, LicenseTree.parse text = .ok tree
  overriddenLicense : ∀ text ∈ t.overriddenLicense, ∃ tree, LicenseTree.parse text = .ok tree
  configuredLicense : ∀ text ∈ t.configuredLicense, ∃ tree, LicenseTree.parse text = .ok tree
  softwareHeritageId :
    ∀ text ∈ t.softwareHeritageId, ∃ id, SoftwareHeritageId.parse text = .ok id
  cpe : ∀ text ∈ t.cpe, ∃ name, Cpe.ofText? text = some name

theorem licenseFaults_eq_nil_iff {field : String} {expression : Option String} :
    licenseFaults field expression = [] ↔
      ∀ text ∈ expression, ∃ tree, LicenseTree.parse text = .ok tree := by
  simp only [licenseFaults, flatMap_toList_eq_nil_iff, ofResult_eq_nil_iff]

theorem cpeFaults_eq_nil_iff {text : String} :
    cpeFaults text = [] ↔ ∃ name, Cpe.ofText? text = some name := by
  rw [← Option.isSome_iff_exists, cpeFaults]
  split <;> simp_all

theorem Template.faults_eq_nil_iff {t : Template} : t.faults = [] ↔ t.Readable := by
  have hcoordinates {entries : List String} :
      ofEntries "coordinates" (fun place text => ofResult place (Coordinate.parse text)) 0
          entries = [] ↔ ∀ text ∈ entries, ∃ c, Coordinate.parse text = .ok c :=
    ofEntries_eq_nil_iff (P := fun text => ∃ c, Coordinate.parse text = .ok c)
      fun _ _ => ofResult_eq_nil_iff
  simp only [faults, List.append_eq_nil_iff, hcoordinates, licenseFaults_eq_nil_iff,
    flatMap_toList_eq_nil_iff, ofResult_eq_nil_iff, cpeFaults_eq_nil_iff]
  constructor
  · rintro ⟨⟨⟨⟨⟨⟨hc, hd⟩, ho⟩, hv⟩, hf⟩, hs⟩, hp⟩
    exact ⟨hc, hd, ho, hv, hf, hs, hp⟩
  · rintro ⟨hc, hd, ho, hv, hf, hs, hp⟩
    exact ⟨⟨⟨⟨⟨⟨hc, hd⟩, ho⟩, hv⟩, hf⟩, hs⟩, hp⟩

namespace Patch

/-- A text that may be absent compiles if it is absent or can be read. -/
theorem exists_optional_iff {α : Type} {read : String → Except Error α} {fact : α → Fact}
    {text : Option String} {P : String → Prop} (h : ∀ s, (∃ a, read s = .ok a) ↔ P s) :
    (∃ facts, optional read fact text = .ok facts) ↔ ∀ s ∈ text, P s := by
  cases text with
  | none => simp [optional]
  | some text => simp [optional, map_eq_ok_iff, ← h]

theorem exists_cpe_iff (text : String) :
    (∃ name, cpe text = .ok name) ↔ ∃ name, Cpe.ofText? text = some name := by
  rw [cpe]
  cases Cpe.ofText? text <;> simp

/-- A template compiles if every text in it can be read. -/
theorem exists_ofTemplate_iff {t : Template} : (∃ p, ofTemplate t = .ok p) ↔ t.Readable := by
  have hcoordinates : (∃ cs, t.coordinates.mapM coordinate = .ok cs) ↔
      ∀ text ∈ t.coordinates, ∃ c, Coordinate.parse text = .ok c := by
    simp only [mapM_eq_ok_iff, exists_forall₂_iff, coordinate, inContext_eq_ok_iff]
  have hlicense {fact : LicenseTree → Fact} {expression : Option String} :
      (∃ facts, optional license fact expression = .ok facts) ↔
        ∀ text ∈ expression, ∃ tree, LicenseTree.parse text = .ok tree :=
    exists_optional_iff fun _ => exists_congr fun _ => inContext_eq_ok_iff
  have hfacts : (∃ facts, factsOf t = .ok facts) ↔ _ :=
    exists_bind_iff hlicense fun _ => exists_bind_iff hlicense fun _ =>
      exists_bind_iff hlicense fun _ => exists_bind_iff hlicense fun _ =>
        exists_bind_iff (exists_optional_iff fun _ => Iff.rfl) fun _ =>
          exists_bind_iff (exists_optional_iff exists_cpe_iff) fun _ =>
            iff_true_intro ⟨_, rfl⟩
  have hpatch : (∃ p, ofTemplate t = .ok p) ↔ _ :=
    exists_bind_iff hcoordinates fun _ => exists_bind_iff hfacts fun _ =>
      iff_true_intro ⟨_, rfl⟩
  rw [hpatch]
  constructor
  · rintro ⟨hc, ⟨hd, ho, hv, hf, hs, hp, -⟩, -⟩
    exact ⟨hc, hd, ho, hv, hf, hs, hp⟩
  · rintro ⟨hc, hd, ho, hv, hf, hs, hp⟩
    exact ⟨hc, ⟨hd, ho, hv, hf, hs, hp, trivial⟩, trivial⟩

end Patch

/-! ## Selectors -/

theorem SelectorConfig.faults_eq_nil_iff {c : SelectorConfig} :
    c.faults = [] ↔ c.isEmpty = false ∧ ∃ q, c.toSelector = .ok q := by
  rw [faults]
  cases c.isEmpty with
  | true => simp
  | false => simp [ofResult_eq_nil_iff]

/-! ## Configurations -/

theorem TableFormat.exists_ofConfig_of_faults {isDirectory : Path → Bool} {c : Config}
    (h : c.table.faults isDirectory = []) : ∃ f, ofConfig c = .ok f := by
  have hdelimiter : isDelimiter c.table.delimiter = true := by
    by_contra hnot
    simp [TableConfig.faults, hnot] at h
  simp only [isDelimiter, Bool.and_eq_true, decide_eq_true_eq] at hdelimiter
  have hbyte : c.table.delimiter.toNat < 256 := by omega
  exact ⟨_, if_pos hbyte⟩

theorem OverrideRule.exists_compileRule_of_faults {r : OverrideRule} (h : r.faults = []) :
    ∃ rule, CurationStep.compileRule r = .ok rule := by
  rw [faults, List.append_eq_nil_iff, List.map_eq_nil_iff, SelectorConfig.faults_eq_nil_iff,
    Template.faults_eq_nil_iff, ← Patch.exists_ofTemplate_iff] at h
  obtain ⟨⟨-, q, hq⟩, p, hp⟩ := h
  exact ⟨(q, p), CurationStep.compileRule_eq_ok_iff.2 ⟨hq, hp⟩⟩

theorem Template.additionFaults_eq_nil_iff {place : String} (t : Template) :
    t.additionFaults place = [] ↔
      t.Readable ∧ (t.coordinates.isEmpty && t.filename.isNone) = false := by
  rw [additionFaults, List.append_eq_nil_iff, List.map_eq_nil_iff, faults_eq_nil_iff]
  refine and_congr_right fun _ => ?_
  cases t.coordinates.isEmpty && t.filename.isNone <;> simp

namespace Config

variable {isDirectory : Path → Bool} {c : Config}

/-- Every entry of a configuration without faults compiles. -/
theorem compiles_of_faults (h : c.faults isDirectory = []) : c.Compiles := by
  simp only [faults, List.append_eq_nil_iff, ofEntries_within_eq_nil_iff] at h
  obtain ⟨⟨⟨⟨-, hoverrides⟩, hadditions⟩, hremovals⟩, hignores⟩ := h
  have hadditions := (ofEntries_eq_nil_iff fun _ t => t.additionFaults_eq_nil_iff).1 hadditions
  exact {
    removals := fun s hs => (SelectorConfig.faults_eq_nil_iff.1 (hremovals s hs)).2
    overrides := fun r hr => OverrideRule.exists_compileRule_of_faults (hoverrides r hr)
    additions := fun t ht => Patch.exists_ofTemplate_iff.2 (hadditions t ht).1
    ignores := fun s hs => (SelectorConfig.faults_eq_nil_iff.1 (hignores s hs)).2 }

/-- Validation and compilation agree: a template has no faults if it compiles to a patch, a
selector that is not empty has none if it compiles to a selector, and a configuration without
faults has a table format and steps, and can be applied to all artifacts. -/
theorem faults_agree_with_compilation :
    (∀ t : Template, t.faults = [] ↔ ∃ p, Patch.ofTemplate t = .ok p) ∧
      (∀ c : SelectorConfig, c.isEmpty = false → (c.faults = [] ↔ ∃ q, c.toSelector = .ok q)) ∧
      ∀ (isDirectory : Path → Bool) (c : Config), c.faults isDirectory = [] →
        (∃ f, TableFormat.ofConfig c = .ok f) ∧
          (∃ steps, CurationStep.ofConfig c = .ok steps) ∧
          ∀ as, ∃ result, CurationStep.curate c as = .ok result := by
  refine ⟨fun t => ?_, fun c hc => ?_, fun isDirectory c h => ?_⟩
  · rw [Template.faults_eq_nil_iff, Patch.exists_ofTemplate_iff]
  · rw [SelectorConfig.faults_eq_nil_iff, hc]
    exact and_iff_right rfl
  · have htable : c.table.faults isDirectory = [] := by
      simp only [faults, List.append_eq_nil_iff] at h
      exact h.1.1.1.1.1
    obtain ⟨steps, hsteps⟩ := CurationStep.exists_ofConfig_iff.2 (compiles_of_faults h)
    refine ⟨TableFormat.exists_ofConfig_of_faults htable, ⟨steps, hsteps⟩, fun as =>
      ⟨CurationStep.applyAll steps as, ?_⟩⟩
    rw [CurationStep.curate, hsteps]
    rfl

end Config

namespace Samples

/-- A configuration that uses every section. -/
def workplan : Config :=
  { Config.standard with
    table := ⟨'\t', some ⟨"/work"⟩⟩
    overrides := [⟨.ofCoordinate "pkg:npm/lib@1.*",
      { Template.standard with declaredLicense := some "MIT OR (Apache-2.0 AND ISC)" }⟩]
    additions := [{ Template.standard with coordinates := ["pkg:npm/tool@1.0"] }]
    removals := [.ofFilename "old.js"]
    ignoreForDownload := [.ofCoordinate "pkg:generic/*"] }

end Samples

open Samples in
/-- The configuration is valid where its directory is there, so it can be used. -/
theorem Config.faults_agree_with_compilation_workplan :
    workplan.faults (fun p => p.text == "/work") = [] ∧
      (∃ f, TableFormat.ofConfig workplan = .ok f) ∧
      (∃ steps, CurationStep.ofConfig workplan = .ok steps) ∧
      ∀ as, ∃ result, CurationStep.curate workplan as = .ok result := by
  have hvalid : workplan.faults (fun p => p.text == "/work") = [] := by decide +kernel
  exact ⟨hvalid, Config.faults_agree_with_compilation.2.2 _ workplan hvalid⟩

end Clearinghouse
