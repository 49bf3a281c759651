import Clearinghouse.Files.Snapshot
import Clearinghouse.Proofs.Command.Product
import Clearinghouse.Proofs.Policy.Rewritten
import Clearinghouse.Proofs.Policy.Verdict
import Clearinghouse.Proofs.Table.Printing

/-!
# Checking a merged table

Inputs are merged to a table, and the table is checked in their place. It loads, as the artifacts
of the inputs rewritten one by one (`artifacts_of_merge`). So the verdicts of all policies are the
same exactly if no license that decides prints too deep to be read again
(`sameVerdict_check_merge_iff`).
-/

namespace Clearinghouse

open Table

/-- The configuration leaves the artifacts alone. -/
structure Config.Uncurated (c : Config) : Prop where
  overrides : c.overrides = []
  additions : c.additions = []
  removals : c.removals = []
  ignoreForDownload : c.ignoreForDownload = []

theorem Config.uncurated_standard : Config.standard.Uncurated := ⟨rfl, rfl, rfl, rfl⟩

theorem Config.Uncurated.curate_eq {c : Config} (h : c.Uncurated) (as : List Artifact) :
    CurationStep.curate c as = .ok (as, 0) := by
  rw [CurationStep.curate, CurationStep.ofConfig, h.overrides, h.additions, h.removals,
    h.ignoreForDownload]
  rfl

theorem TableFormat.ofConfig_comma {c : Config} (h : c.table.delimiter = ',') :
    TableFormat.ofConfig c =
      .ok ⟨0x2C, c.table.baseDir, c.merge.strictTypes, c.merge.policy⟩ := by
  rw [TableFormat.ofConfig, h]
  rfl

/-- A policy that only forbids one license. -/
theorem PolicyConfig.rules_forbidding {id : String} (h : Text.Trimmed id) :
    PolicyConfig.rules ⟨none, [id], false⟩ = [.forbiddenLicense [id]] := by
  show [Rule.forbiddenLicense [Text.trim id]] = _
  rw [h]

theorem separates_comma : Separates 0x2C := ⟨by decide, by decide⟩

theorem isText_comma : Utf8.IsText [0x2C] := ⟨",", rfl⟩

namespace Product

variable {s : Surroundings} {c : Config} {inputs : List Path} {as : List Artifact}
  {format : TableFormat}

/-- Loaded inputs are artifacts from tables, about different coordinates, one each. -/
theorem loaded_of_artifacts (hc : c.Uncurated) (hformat : TableFormat.ofConfig c = .ok format)
    (h : (artifacts s c inputs).run.value = .ok as) :
    (∀ a ∈ as, Loaded format a ∧ ∃ d, a.coordinates = [d]) ∧
      Coordinate.Separate (coordinatesOf as) := by
  obtain ⟨format', hformat', sources, hsources, touched, hcurate⟩ := artifacts_eq_ok_iff.1 h
  obtain rfl := Except.ok.inj (hformat.symm.trans hformat')
  rw [hc.curate_eq] at hcurate
  obtain rfl := congrArg Prod.fst (Except.ok.inj hcurate)
  refine loaded_of_mem_mergeSources fun source hsource a ha => ?_
  obtain ⟨p, -, hp⟩ := exists_of_mem_right hsources hsource
  obtain ⟨bytes, -, hread⟩ := readSource_eq_ok_iff.1 hp
  exact loaded_of_mem_artifactsOf hread ha

/-- A merge of loaded inputs gives out the text of a table. -/
theorem merge_of_artifacts (hd : c.table.delimiter = ',')
    (hformat : TableFormat.ofConfig c = .ok format)
    (h : (artifacts s c inputs).run.value = .ok as) :
    ∃ content, (merge s c inputs).run.value = .ok ⟨content, 0⟩ ∧
      Utf8.encode content = format.exportBytes s as := by
  have hdelimiter : format.delimiter = 0x2C :=
    congrArg TableFormat.delimiter
      (Except.ok.inj (hformat.symm.trans (TableFormat.ofConfig_comma hd)))
  have htext : Utf8.IsText (format.exportBytes s as) := by
    rw [TableFormat.exportBytes, hdelimiter]
    exact isText_print isText_comma _
  obtain ⟨content, hdecode, hencode⟩ := htext.decode?_eq
  exact ⟨content, merge_eq_ok h hformat hdecode, hencode⟩

/-- The artifact as it is read from its rows and merged for a policy. -/
def rewrite (s : Surroundings) (pathExists : Path → Bool) (baseDir : Path) (policy : MergePolicy)
    (a : Artifact) : Artifact :=
  { gather ((linesOf a).map (·.record s pathExists baseDir policy)) with policy }

variable {pathExists : Path → Bool} {baseDir : Path} {policy : MergePolicy} {a : Artifact}
  {main : Coordinate}

theorem rewrite_eq (h : a.coordinates = [main]) :
    rewrite s pathExists baseDir policy a =
      { gather (block s pathExists baseDir policy a main) with policy } := by
  rw [rewrite, linesOf_single h]
  rfl

theorem rewritten_rewrite (h : Loaded format a ∧ ∃ d, a.coordinates = [d]) :
    a.Rewritten (rewrite s pathExists baseDir policy a) := by
  obtain ⟨hloaded, main, hmain⟩ := h
  rw [rewrite_eq hmain]
  exact (rewritten_block hloaded).setPolicy policy

/-- A license with a trimmed text is what this text is read as. -/
theorem license?_rewrite {k : FactKind} {c : Column} {fact : LicenseTree → Fact}
    (hcol : LicenseColumn k c fact) (hmain : a.coordinates = [main])
    (h : ∀ x, a.fact? k = some x →
      ∃ t, x = fact t ∧ t.isEmpty = false ∧ Text.Trimmed t.evaluate ∧ t.evaluate ≠ "") :
    (rewrite s pathExists baseDir policy a).license? k =
      (a.license? k).map fun t => readLicense t.evaluate := by
  rw [rewrite_eq hmain]
  exact license?_block hcol h

theorem coordinates_rewrite (h : ∃ d, a.coordinates = [d]) :
    (rewrite s pathExists baseDir policy a).coordinates = a.coordinates := by
  obtain ⟨main, hmain⟩ := h
  rw [rewrite_eq hmain, hmain]
  exact coordinates_block

/-- Merging the artifacts of one table leaves them alone, as their coordinates are different. -/
theorem artifacts_mergeSources_rewrite (hone : ∀ a ∈ as, ∃ d, a.coordinates = [d])
    (hsep : Coordinate.Separate (coordinatesOf as)) :
    (mergeSources [as.map fun a => gather ((linesOf a).map (·.record s pathExists baseDir policy))]
        policy).value.artifacts =
      as.map (rewrite s pathExists baseDir policy) := by
  have hone' : ∀ b ∈ as.map (rewrite s pathExists baseDir policy),
      ∃ d, b.coordinates = [d] := by
    intro b hb
    obtain ⟨a, ha, rfl⟩ := List.mem_map.1 hb
    rw [coordinates_rewrite (hone a ha)]
    exact hone a ha
  have hcoords : coordinatesOf (as.map (rewrite s pathExists baseDir policy)) =
      coordinatesOf as := by
    rw [coordinatesOf, List.flatMap_map]
    exact List.flatMap_congr fun a ha => coordinates_rewrite (hone a ha)
  rw [artifacts_mergeSources, List.flatten_singleton, List.map_map]
  show (reconcileAll [] (as.map (rewrite s pathExists baseDir policy))).value.artifacts = _
  rw [artifacts_reconcileAll hone', groups_of_separate hone' (hcoords ▸ hsep)]

/-- A table is loaded: its artifacts are those that were exported, rewritten. -/
theorem artifacts_of_exportBytes (hc : c.Uncurated) (hd : Separates format.delimiter)
    (hformat : TableFormat.ofConfig c = .ok format)
    (has : ∀ a ∈ as, (∀ d ∈ a.coordinates, format.Carries d) ∧ ∃ d, a.coordinates = [d])
    (hsep : Coordinate.Separate (coordinatesOf as)) {s' : Surroundings} {out : Path}
    (hout : s'.read out = .ok (format.exportBytes s as)) :
    ∃ baseDir, (artifacts s' c [out]).run.value =
      .ok (as.map (rewrite s s'.pathExists baseDir format.policy)) := by
  have hone : ∀ a ∈ as, ∃ d, a.coordinates = [d] := fun a ha => (has a ha).2
  have hreadable : ∀ d ∈ coordinatesOf as, format.Carries d := by
    intro d hd
    obtain ⟨a, ha, hd⟩ := List.mem_flatMap.1 hd
    exact (has a ha).1 d hd
  have hpolicy : c.merge.policy = format.policy := by
    rw [TableFormat.ofConfig] at hformat
    split at hformat <;> cases hformat
    rfl
  have hread := readSource_eq_ok_iff.2
    ⟨_, hout, value_artifactsOf_single hd hreadable hone hsep⟩
  refine ⟨format.baseDir.getD (TableFormat.directoryOf s' out),
    artifacts_eq_ok_iff.2 ⟨format, hformat, _, .cons hread .nil, 0, ?_⟩⟩
  rw [hc.curate_eq, hpolicy, artifacts_mergeSources_rewrite hone hsep]

/-- The table that inputs are merged to is loaded as what the inputs are loaded as, rewritten. -/
theorem artifacts_of_merge (hd : c.table.delimiter = ',') (hc : c.Uncurated)
    (h : (artifacts s c inputs).run.value = .ok as) :
    ∃ content, (merge s c inputs).run.value = .ok ⟨content, 0⟩ ∧
      ∀ s' out, s'.read out = .ok (Utf8.encode content) →
        ∃ g : Artifact → Artifact, (artifacts s' c [out]).run.value = .ok (as.map g) ∧
          ∀ a ∈ as, a.Rewritten (g a) := by
  have hformat := TableFormat.ofConfig_comma hd
  obtain ⟨hloaded, hsep⟩ := loaded_of_artifacts hc hformat h
  have hreadable : ∀ a ∈ as,
      (∀ d ∈ a.coordinates, TableFormat.Carries _ d) ∧ ∃ d, a.coordinates = [d] :=
    fun a ha => ⟨(hloaded a ha).1.readable, (hloaded a ha).2⟩
  obtain ⟨content, hmerge, hcontent⟩ := merge_of_artifacts hd hformat h
  refine ⟨content, hmerge, fun s' out hout => ?_⟩
  rw [hcontent] at hout
  obtain ⟨baseDir, hartifacts⟩ :=
    artifacts_of_exportBytes hc separates_comma hformat hreadable hsep hout
  exact ⟨_, hartifacts, fun a ha => rewritten_rewrite (hloaded a ha)⟩

/-- The inputs are merged to a table, and the table is checked in their place. Both checks are
made from reports, and the verdicts of all policies are the same if and only if no license that
decides is a statement that prints too deep. -/
theorem sameVerdict_check_merge_iff (hd : c.table.delimiter = ',') (hc : c.Uncurated)
    (h : (artifacts s c inputs).run.value = .ok as) :
    ∃ content, (merge s c inputs).run.value = .ok ⟨content, 0⟩ ∧
      ∀ s' out, s'.read out = .ok (Utf8.encode content) →
        ∃ bs,
          (∀ p format time, (check s { c with policy := p } format time inputs).run.value =
            .ok (ofReport format time (Report.check p.rules as))) ∧
          (∀ p format time, (check s' { c with policy := p } format time [out]).run.value =
            .ok (ofReport format time (Report.check p.rules bs))) ∧
          ((∀ p : PolicyConfig,
              (Report.check p.rules as).SameVerdict (Report.check p.rules bs)) ↔
            ∀ a ∈ as, ∀ t ∈ a.deciding, t.Shallow) := by
  obtain ⟨content, hmerge, hmerged⟩ := artifacts_of_merge hd hc h
  have hcell : ∀ a ∈ as, ∀ t ∈ a.deciding, t.OfCell := fun a ha =>
    ((loaded_of_artifacts hc (TableFormat.ofConfig_comma hd) h).1 a ha).1.ofCell_of_mem_deciding
  refine ⟨content, hmerge, fun s' out hout => ?_⟩
  obtain ⟨g, hartifacts, hrewritten⟩ := hmerged s' out hout
  refine ⟨as.map g, check_eq_ok h, check_eq_ok hartifacts,
    fun hsame a ha t ht => ?_, fun hshallow p => Report.sameVerdict_of_holds_iff fun a ha r _ => ?_⟩
  · refine (hrewritten a ha).shallow_of_holds_iff (hcell a ha) (fun id hid => ?_) ht
    have hverdict := hsame ⟨none, [id], false⟩
    rw [PolicyConfig.rules_forbidding hid] at hverdict
    exact Report.holds_iff_of_sameVerdict hverdict ha
  · exact (hrewritten a ha).holds_iff (hcell a ha) (hshallow a ha) r

end Product

/-! ## A deep license -/

namespace Samples

open Product

/-- An artifact with a text as its declared license. -/
def listing (text : String) : Artifact :=
  ((Artifact.ofSource "").addCoordinate (.of "npm" "" "a" "")).overrideFact
    (.declaredLicense (.license (.ofId text)))

theorem coordinates_listing (text : String) :
    (listing text).coordinates = [.of "npm" "" "a" ""] := rfl

/-- Surroundings in which every file is the table of a listing. -/
def desk (text : String) : Surroundings where
  workingDir := ⟨"/"⟩
  configHome := none
  pathExists _ := true
  isDirectory _ := false
  read _ := .ok (TableFormat.standard.exportBytes (Snapshot.surroundings ⟨⟨"/"⟩, none, []⟩)
    [listing text])

section

variable {text : String} (ht : Text.Trimmed text) (hne : text ≠ "")
include ht hne

theorem deciding_listing : (listing text).deciding = [.license (.ofId text)] := by
  have hdeclared : (listing text).license? .declaredLicense = some (.license (.ofId text)) := by
    show Option.filter _ (some (LicenseTree.license (.ofId text))) = _
    rw [Option.filter_some, LicenseTree.isEmpty_ofId ht hne]
    rfl
  have hoverridden : (listing text).license? .overriddenLicense = none := rfl
  have hobserved : (listing text).license? .observedLicense = none := rfl
  unfold Artifact.deciding
  rw [hoverridden, hdeclared, hobserved]
  rfl

/-- What decides for a listing that was written to a row is what its text is read as. -/
theorem deciding_rewrite_listing (s : Surroundings) (pathExists : Path → Bool) (baseDir : Path)
    (policy : MergePolicy) :
    (rewrite s pathExists baseDir policy (listing text)).deciding = [readLicense text] := by
  have hcolumn {k : FactKind} {c : Column} {fact : LicenseTree → Fact}
      (hcol : LicenseColumn k c fact)
      (h : ∀ x, (listing text).fact? k = some x → x = fact (.license (.ofId text))) :
      (rewrite s pathExists baseDir policy (listing text)).license? k =
        ((listing text).license? k).map fun t => readLicense t.evaluate :=
    license?_rewrite hcol (coordinates_listing text) fun x hx =>
      ⟨_, h x hx, LicenseTree.isEmpty_ofId ht hne, ht, hne⟩
  have hdeciding : (rewrite s pathExists baseDir policy (listing text)).deciding =
      (listing text).deciding.map fun t => readLicense t.evaluate := by
    refine Artifact.deciding_of_license? ?_
    simp only [List.forall_mem_cons]
    exact ⟨hcolumn overriddenLicense_column nofun,
      hcolumn declaredLicense_column fun x hx => (Option.some.inj hx).symm,
      hcolumn observedLicense_column nofun, by simp⟩
  rw [hdeciding, deciding_listing ht hne]
  rfl

/-- What is loaded from the table of a listing. -/
theorem artifacts_desk (input : Path) :
    ∃ a, (artifacts (desk text) .standard [input]).run.value = .ok [a] ∧
      a.deciding = [readLicense text] := by
  have hlegible : (Coordinate.of "npm" "" "a" "").Legible :=
    Coordinate.legible_of (by decide +kernel) (by decide +kernel) (by decide +kernel) fun _ => rfl
  have hreadable : ∀ a ∈ [listing text],
      (∀ d ∈ a.coordinates, TableFormat.standard.Carries d) ∧ ∃ d, a.coordinates = [d] := by
    intro a ha
    rw [List.mem_singleton.1 ha, coordinates_listing]
    refine ⟨fun d hd => ?_, _, rfl⟩
    rw [List.mem_singleton.1 hd]
    exact ⟨hlegible, fun hstrict => by cases hstrict⟩
  have hsep : Coordinate.Separate (coordinatesOf [listing text]) := List.pairwise_singleton _ _
  obtain ⟨baseDir, hartifacts⟩ := artifacts_of_exportBytes Config.uncurated_standard
    separates_comma rfl hreadable hsep (rfl : (desk text).read input = _)
  exact ⟨_, hartifacts, deciding_rewrite_listing ht hne _ _ _ _⟩

end

theorem deciding_ladder : readLicense (LicenseTree.ladder 33) = LicenseTree.ladderTree 33 :=
  readLicense_of_parse (LicenseTree.parse_ladder (by decide))

/-- What a ladder prints is the id of a license when it is read, so nothing else is. -/
theorem not_hasId_printed_ladder :
    ¬ LicenseTree.HasId "A" (readLicense (LicenseTree.ladderTree 33).evaluate) := by
  obtain ⟨-, hunread⟩ := LicenseTree.not_reparses_ladder (n := 33) (by decide) (by decide)
  rw [readLicense_of_error hunread]
  intro hid
  have htext : (LicenseTree.ladderTree 33).evaluate = "A" := (LicenseTree.hasId_license.1 hid).2
  refine hunread (.license (.known "A")) ?_
  rw [htext]
  exact LicenseTree.parse_plainId LicenseTree.plainId_A

end Samples

namespace Product

open Samples

/-- The verdicts on a listing with a license that is an id, before and after a merge. -/
theorem sameVerdict_check_merge_listing :
    ∃ as, (artifacts (desk "MIT") .standard [⟨"/in.csv"⟩]).run.value = .ok as ∧
      ∃ content, (merge (desk "MIT") .standard [⟨"/in.csv"⟩]).run.value = .ok ⟨content, 0⟩ ∧
        ∀ s' out, s'.read out = .ok (Utf8.encode content) →
          ∃ bs,
            (∀ p format time,
              (check (desk "MIT") { Config.standard with policy := p } format time
                  [⟨"/in.csv"⟩]).run.value =
                .ok (ofReport format time (Report.check p.rules as))) ∧
            (∀ p format time,
              (check s' { Config.standard with policy := p } format time [out]).run.value =
                .ok (ofReport format time (Report.check p.rules bs))) ∧
            ((∀ p : PolicyConfig,
                (Report.check p.rules as).SameVerdict (Report.check p.rules bs)) ↔
              ∀ a ∈ as, ∀ t ∈ a.deciding, t.Shallow) := by
  have htrim : Text.Trimmed "MIT" := by decide +kernel
  obtain ⟨a, ha, -⟩ := artifacts_desk htrim (by decide) ⟨"/in.csv"⟩
  exact ⟨[a], ha, sameVerdict_check_merge_iff rfl Config.uncurated_standard ha⟩

/-- A license is forbidden that is on every rung of a ladder. The listing with the ladder fails
the check, and the file that it is merged to passes. -/
theorem exitCode_check_merge_ladder :
    ∃ content,
      (merge (desk (LicenseTree.ladder 33)) .standard [⟨"/in.csv"⟩]).run.value =
          .ok ⟨content, 0⟩ ∧
        ∀ format time, ∃ before after,
          (check (desk (LicenseTree.ladder 33))
              { Config.standard with policy := ⟨none, ["A"], false⟩ } format time
              [⟨"/in.csv"⟩]).run.value = .ok before ∧
            (check { desk (LicenseTree.ladder 33) with read _ := .ok (Utf8.encode content) }
              { Config.standard with policy := ⟨none, ["A"], false⟩ } format time
              [⟨"/out.csv"⟩]).run.value = .ok after ∧
            before.exitCode = 1 ∧ after.exitCode = 0 := by
  obtain ⟨htrim, hne⟩ : Text.Trimmed (LicenseTree.ladder 33) ∧ LicenseTree.ladder 33 ≠ "" :=
    LicenseTree.trimmed_enclose _ _
  obtain ⟨a, ha, hdeciding⟩ := artifacts_desk htrim hne ⟨"/in.csv"⟩
  rw [deciding_ladder] at hdeciding
  obtain ⟨content, hmerge, hmerged⟩ := artifacts_of_merge rfl Config.uncurated_standard ha
  obtain ⟨g, hartifacts, hrewritten⟩ :=
    hmerged { desk (LicenseTree.ladder 33) with read _ := .ok (Utf8.encode content) }
      ⟨"/out.csv"⟩ rfl
  have hg := hrewritten a (List.mem_singleton_self a)
  have hrules := PolicyConfig.rules_forbidding (by decide +kernel : Text.Trimmed "A")
  refine ⟨content, hmerge, fun format time =>
    ⟨_, _, check_eq_ok ha _ format time, check_eq_ok hartifacts _ format time, ?_, ?_⟩⟩
  · rw [exitCode_ofReport, hrules, Report.exitCode_check_eq_one_iff]
    refine ⟨a, List.mem_singleton_self a, _, List.mem_singleton_self _, rfl, fun hholds => ?_⟩
    rw [Artifact.forbiddenLicense_holds_iff hg.unconfigured.1, hdeciding] at hholds
    exact hholds "A" (List.mem_singleton_self _)
      ⟨_, List.mem_singleton_self _, LicenseTree.hasId_ladderTree 33⟩
  · rw [exitCode_ofReport, hrules, Report.exitCode_check_eq_zero_iff]
    simp only [List.map_singleton, List.forall_mem_singleton]
    intro _
    rw [Artifact.forbiddenLicense_holds_iff hg.unconfigured.2, hg.deciding_eq, hdeciding]
    simpa using not_hasId_printed_ladder

end Product

end Clearinghouse
