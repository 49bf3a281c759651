import Clearinghouse.Files.Snapshot
import Clearinghouse.Proofs.Artifact.Made
import Clearinghouse.Proofs.Fact.Identifier
import Clearinghouse.Proofs.License.Reparse
import Clearinghouse.Proofs.Table.Block
import Mathlib.Data.List.Forall2

/-!
# Round trips through a table

Artifacts that a table can represent come back as they were (`importBytes_exportBytes`), under
every merge policy and every delimiter.

1. What the cell of a representable fact stands for is the fact, up to the names of licenses
   (`readCell_toText`).
2. So the full rows of a representable artifact say of every kind what the artifact says
   (`sameFacts_block`), and the rows of all artifacts are read block by block.
-/

namespace Clearinghouse

open Text Table

namespace Fact

/-- The fact is one that the cell of a column can carry. -/
def Representable (s : Surroundings) : Fact → Prop
  | declaredLicense t | observedLicense t | overriddenLicense t =>
    t.isEmpty = false ∧ ∃ u, LicenseTree.parse t.evaluate = .ok u ∧ (u == t) = true
  | configuredLicense _ => False
  | sourceUrl url | releaseTagUrl url => Trimmed url ∧ url ≠ ""
  | softwareHeritageId id => ∃ text, SoftwareHeritageId.parse text = .ok id
  | clearingState _ | changeStatus _ => True
  | cpe name => ∃ text, Cpe.ofText? text = some name
  | filename file => ∃ hash, file = .ofHash hash ∧ Trimmed hash ∧ hash ≠ ""
  | sourceFile path | clearingDocument path =>
    path.isAbsolute ∧ Trimmed path.text ∧ s.pathExists path
  | copyright statement => statement.Made ∧ statement.lines ≠ []
  | matchingMetadata state => state = .exact

/-- The fact with its path, if it holds one, seen from the root. -/
def fromRoot (s : Surroundings) : Fact → Fact
  | sourceFile path => sourceFile (s.absolute path)
  | clearingDocument path => clearingDocument (s.absolute path)
  | f => f

theorem kind_fromRoot (s : Surroundings) (f : Fact) : (f.fromRoot s).kind = f.kind := by
  unfold fromRoot
  split <;> rfl

theorem license?_fromRoot (s : Surroundings) (f : Fact) : (f.fromRoot s).license? = f.license? := by
  unfold fromRoot
  split <;> rfl

/-- A representable fact is seen from the root as it is. -/
theorem fromRoot_eq_self {s : Surroundings} {f : Fact} (h : f.Representable s) :
    f.fromRoot s = f := by
  cases f with
  | sourceFile path => exact congrArg sourceFile (s.absolute_of_isAbsolute h.1)
  | clearingDocument path => exact congrArg clearingDocument (s.absolute_of_isAbsolute h.1)
  | _ => rfl

end Fact

/-- The artifact is one that a table can carry: it has one coordinate and is known to match, its
facts have cells, and no flag is set. -/
structure Artifact.Representable (s : Surroundings) (a : Artifact) : Prop where
  made : a.Made
  single : ∃ c, a.coordinates = [c] ∧ c.Legible
  matched : a.hasFact .matchingMetadata = true
  facts : ∀ f ∈ a.allFacts, f.Representable s
  flags : a.flags.active = []

namespace Table

/-! ## Cells of representable facts -/

/-- A license that is read from its own text is printed trimmed. -/
theorem trimmed_evaluate_of_parse {t u : LicenseTree} (hne : t.isEmpty = false)
    (hu : LicenseTree.parse t.evaluate = .ok u) (hut : (u == t) = true) :
    Trimmed t.evaluate ∧ t.evaluate ≠ "" := by
  rcases LicenseTree.settled_of_parse hu with rfl | hs
  · rw [← LicenseTree.isEmpty_congr hut] at hne
    cases hne
  · rw [← LicenseTree.evaluate_congr hut]
    exact LicenseTree.trimmed_evaluate hs.plain hs.tells

theorem parse_softwareHeritageId {text : String} {id : SoftwareHeritageId}
    (h : SoftwareHeritageId.parse text = .ok id) :
    SoftwareHeritageId.parse id.text = .ok id ∧ Trimmed id.text ∧ id.text ≠ "" := by
  obtain ⟨htext, p, hp⟩ := SoftwareHeritageId.parse_eq_ok_iff.1 h
  refine ⟨SoftwareHeritageId.parse_text h, ?_, ?_⟩
  · rw [htext]
    exact trimmed_trim text
  · rw [htext, ← hp]
    exact p.toText_ne_empty

theorem ofText?_cpe {text : String} {name : Cpe} (h : Cpe.ofText? text = some name) :
    Cpe.ofText? name.text = some name ∧ Trimmed name.text ∧ name.text ≠ "" := by
  rw [Cpe.ofText?] at h
  split at h
  · rename_i hname
    cases h
    refine ⟨?_, trimmed_trim text, fun heq => ?_⟩
    · rw [Cpe.ofText?, trimmed_trim]
      exact if_pos hname
    · rw [show trim text = "" from heq] at hname
      exact absurd hname (by decide)
  · cases h

section

variable {s : Surroundings} {baseDir : Path}

/-- The text of a representable license fact stands for an equal fact. -/
theorem readCell_license {t : LicenseTree} {c : Column} {fact : LicenseTree → Fact}
    (hne : t.isEmpty = false) (ht : ∃ u, LicenseTree.parse t.evaluate = .ok u ∧ (u == t) = true)
    (hread : ∀ text, readCell s.pathExists baseDir c text = some (fact (readLicense text)))
    (hbeq : ∀ u, (fact u == fact t) = (u == t)) :
    trimmed? t.evaluate = some t.evaluate ∧
      ∃ g, readCell s.pathExists baseDir c t.evaluate = some g ∧ (g == fact t) = true := by
  obtain ⟨u, hu, hut⟩ := ht
  obtain ⟨htrim, htext⟩ := trimmed_evaluate_of_parse hne hu hut
  refine ⟨trimmed?_of_trimmed htrim htext, fact u, ?_, ?_⟩
  · rw [hread, readLicense_of_parse hu]
  · rw [hbeq, hut]

/-- The path of a file that is there stands for itself. -/
theorem readPath?_of_isAbsolute {path : Path} (habs : path.isAbsolute)
    (hthere : s.pathExists path) :
    readPath? s.pathExists baseDir path.text = some path := by
  have hjoin : baseDir.join ⟨path.text⟩ = path := if_pos habs
  rw [readPath?, hjoin, if_pos hthere]

theorem text_ne_empty_of_isAbsolute {path : Path} (h : path.isAbsolute) : path.text ≠ "" := by
  intro heq
  rw [Path.isAbsolute, heq] at h
  exact absurd h (by decide)

theorem column_eq {c d : Column} {k : FactKind} (hc : c.kind? = some k) (hd : d.kind? = some k) :
    c = d :=
  Option.some.inj ((Column.ofKind?_eq_some_iff.2 hc).symm.trans (Column.ofKind?_eq_some_iff.2 hd))

variable (baseDir) in
/-- The text of a representable fact, licenses apart, is left alone by trimming and stands for
the fact. -/
theorem readCell_toText_self {f : Fact} (hf : f.Representable s) (hl : f.license? = none)
    (hk : f.kind ≠ .filename) (hm : f.kind ≠ .matchingMetadata) {c : Column}
    (hc : c.kind? = some f.kind) :
    trimmed? f.toText = some f.toText ∧ readCell s.pathExists baseDir c f.toText = some f := by
  cases f with
  | declaredLicense t | observedLicense t | overriddenLicense t | configuredLicense t => cases hl
  | sourceUrl url =>
    obtain rfl := column_eq hc (d := .sourceUrl) rfl
    exact ⟨trimmed?_of_trimmed hf.1 hf.2, rfl⟩
  | releaseTagUrl url =>
    obtain rfl := column_eq hc (d := .releaseTagUrl) rfl
    exact ⟨trimmed?_of_trimmed hf.1 hf.2, rfl⟩
  | softwareHeritageId id =>
    obtain rfl := column_eq hc (d := .softwareHeritageId) rfl
    obtain ⟨text, htext⟩ := hf
    obtain ⟨hparse, htrim, hne⟩ := parse_softwareHeritageId htext
    refine ⟨trimmed?_of_trimmed htrim hne, ?_⟩
    rw [Fact.toText, readCell, hparse]
    rfl
  | clearingState state =>
    obtain rfl := column_eq hc (d := .clearingState) rfl
    obtain ⟨hparse, htrim, hne⟩ := parse_clearingState state
    refine ⟨trimmed?_of_trimmed htrim hne, ?_⟩
    rw [Fact.toText, readCell, hparse]
    rfl
  | changeStatus status =>
    obtain rfl := column_eq hc (d := .changeStatus) rfl
    obtain ⟨hparse, htrim, hne⟩ := parse_changeStatus status
    refine ⟨trimmed?_of_trimmed htrim hne, ?_⟩
    rw [Fact.toText, readCell, hparse]
    rfl
  | cpe name =>
    obtain rfl := column_eq hc (d := .cpe) rfl
    obtain ⟨text, htext⟩ := hf
    obtain ⟨hread, htrim, hne⟩ := ofText?_cpe htext
    refine ⟨trimmed?_of_trimmed htrim hne, ?_⟩
    rw [Fact.toText, readCell, hread]
    rfl
  | filename file => exact absurd rfl hk
  | sourceFile path =>
    obtain rfl := column_eq hc (d := .fileName) rfl
    obtain ⟨habs, htrim, hthere⟩ := hf
    refine ⟨trimmed?_of_trimmed htrim (text_ne_empty_of_isAbsolute habs), ?_⟩
    rw [Fact.toText, readCell, readPath?_of_isAbsolute habs hthere]
    rfl
  | copyright statement =>
    obtain rfl := column_eq hc (d := .copyrights) rfl
    obtain ⟨hmade, hne⟩ := hf
    obtain ⟨htrim, htext⟩ := hmade.trimmed_toText hne
    refine ⟨trimmed?_of_trimmed htrim htext, ?_⟩
    rw [Fact.toText, readCell, hmade.ofText_toText hne]
  | matchingMetadata state => exact absurd rfl hm
  | clearingDocument path =>
    obtain rfl := column_eq hc (d := .clearingDocument) rfl
    obtain ⟨habs, htrim, hthere⟩ := hf
    refine ⟨trimmed?_of_trimmed htrim (text_ne_empty_of_isAbsolute habs), ?_⟩
    rw [Fact.toText, readCell, readPath?_of_isAbsolute habs hthere]
    rfl

variable (baseDir) in
/-- The text of a representable fact is left alone by trimming, and stands for the fact. -/
theorem readCell_toText {f : Fact} (hf : f.Representable s) (hk : f.kind ≠ .filename)
    (hm : f.kind ≠ .matchingMetadata) {c : Column} (hc : c.kind? = some f.kind) :
    trimmed? f.toText = some f.toText ∧
      ∃ g, readCell s.pathExists baseDir c f.toText = some g ∧ (g == f) = true := by
  have hself (hl : f.license? = none) : trimmed? f.toText = some f.toText ∧
      ∃ g, readCell s.pathExists baseDir c f.toText = some g ∧ (g == f) = true :=
    (readCell_toText_self baseDir hf hl hk hm hc).imp_right fun hread => ⟨f, hread, BEq.rfl⟩
  cases f with
  | declaredLicense t =>
    obtain rfl := column_eq hc (d := .declaredLicense) rfl
    exact readCell_license hf.1 hf.2 (fun _ => rfl) fun _ => rfl
  | observedLicense t =>
    obtain rfl := column_eq hc (d := .observedLicense) rfl
    exact readCell_license hf.1 hf.2 (fun _ => rfl) fun _ => rfl
  | overriddenLicense t =>
    obtain rfl := column_eq hc (d := .effectiveLicense) rfl
    exact readCell_license hf.1 hf.2 (fun _ => rfl) fun _ => rfl
  | configuredLicense t => exact hf.elim
  | _ => exact hself rfl

/-! ## One artifact -/

variable {a : Artifact}

theorem kindText_of_fact? {k : FactKind} {x : Fact} (hx : a.fact? k = some x)
    (hk : x.kind = k) : kindText s a k = (x.fromRoot s).toText := by
  have htext : factText a k = x.toText := by
    rw [factText, hx]
    rfl
  cases x with
  | sourceFile path =>
    obtain rfl := hk
    show pathText s a .sourceFile = (s.absolute path).text
    rw [pathText, show a.fact? .sourceFile = _ from hx]
  | clearingDocument path =>
    obtain rfl := hk
    show pathText s a .clearingDocument = (s.absolute path).text
    rw [pathText, show a.fact? .clearingDocument = _ from hx]
  | _ =>
    obtain rfl := hk
    exact htext

theorem kindText_of_factsOf {f : Fact} (hf : f.Representable s) (h : a.factsOf f.kind = [f]) :
    kindText s a f.kind = f.toText := by
  have hfact : a.fact? f.kind = some f := congrArg List.head? h
  rw [kindText_of_fact? hfact rfl, Fact.fromRoot_eq_self hf]

theorem sameFacts_singleton {f g : Fact} (h : (g == f) = true) :
    Artifact.sameFacts [g] [f] = true := by
  simp [Artifact.sameFacts, List.contains_eq_any_beq, h]

theorem mem_allFacts {k : FactKind} {f : Fact} (h : f ∈ a.factsOf k) : f ∈ a.allFacts := by
  rw [Artifact.factsOf, FactStore.factsOf, FactStore.get?] at h
  cases hs : FactStore.findSlot? k a.facts.slots with
  | none =>
    rw [hs] at h
    cases h
  | some facts =>
    rw [hs] at h
    exact List.mem_flatMap.2 ⟨_, FactStore.mem_of_findSlot? hs, h⟩

/-- A kind that holds only one has no fact, or a representable one. -/
theorem factsOf_cases (ha : a.Representable s) {k : FactKind} (hk : k ≠ .filename) :
    a.factsOf k = [] ∨ ∃ f, a.factsOf k = [f] ∧ f.kind = k ∧ f.Representable s := by
  have htidy := ha.made.tidy
  have hlength := (htidy.facts k).single (Bool.eq_false_iff.2 fun h => hk (beq_iff_eq.1 h))
  match hfacts : a.factsOf k, hlength with
  | [], _ => exact .inl rfl
  | [f], _ =>
    have hmem : f ∈ a.factsOf k := hfacts ▸ List.mem_cons_self
    exact .inr ⟨f, rfl, htidy.wellFormed.kind_of_mem_factsOf hmem, ha.facts f (mem_allFacts hmem)⟩

/-- The column for a kind of representable facts. -/
theorem exists_column {f : Fact} (hf : f.Representable s) (hm : f.kind ≠ .matchingMetadata) :
    ∃ c, Column.ofKind? f.kind = some c := by
  cases f with
  | configuredLicense t => exact hf.elim
  | matchingMetadata state => exact absurd rfl hm
  | _ => exact ⟨_, rfl⟩

theorem sameFacts_reread (ha : a.Representable s) {k : FactKind} (hk : k ≠ .filename) :
    Artifact.sameFacts (reread? s s.pathExists baseDir a k).toList (a.factsOf k) = true := by
  rcases factsOf_cases ha hk with hnil | ⟨f, hfacts, rfl, hf⟩
  · by_cases hm : k = .matchingMetadata
    · subst hm
      exact absurd hnil ((ha.made.tidy.wellFormed.mem_kinds_iff _).1
        ((a.facts.contains_iff_mem_kinds _).1 ha.matched))
    · have hnone : reread? s s.pathExists baseDir a k = none :=
        reread?_of_fact?_eq_none hm (congrArg List.head? hnil)
      rw [hnone, hnil]
      rfl
  · by_cases hm : f.kind = .matchingMetadata
    · have hexact : f = .matchingMetadata .exact := by
        cases f with
        | matchingMetadata state => exact congrArg Fact.matchingMetadata hf
        | _ => cases hm
      subst hexact
      rw [hfacts]
      exact sameFacts_singleton rfl
    · obtain ⟨c, hc⟩ := exists_column hf hm
      obtain ⟨htrim, g, hg, hgf⟩ :=
        readCell_toText baseDir hf hk hm (Column.ofKind?_eq_some_iff.1 hc)
      rw [reread?_eq hm, hc, Option.bind_some, kindText_of_factsOf hf hfacts, htrim,
        Option.bind_some, hg, hfacts]
      exact sameFacts_singleton hgf

/-- Files that are representable are different hashes. -/
theorem exists_hashes (ha : a.Tidy) (hrep : ∀ f ∈ a.factsOf .filename, f.Representable s) :
    ∃ hashes : List String, hashes.Nodup ∧ (∀ hash ∈ hashes, Trimmed hash ∧ hash ≠ "") ∧
      a.factsOf .filename = hashes.map fun hash => .filename (.ofHash hash) := by
  have hkind : ∀ f ∈ a.factsOf .filename, f.kind = .filename :=
    fun f hf => ha.wellFormed.kind_of_mem_factsOf hf
  have hdistinct := (ha.facts .filename).distinct
  generalize a.factsOf .filename = facts at hkind hrep hdistinct ⊢
  induction facts with
  | nil => exact ⟨[], List.nodup_nil, by simp, rfl⟩
  | cons f facts ih =>
    obtain ⟨hnew, hdistinct⟩ := List.pairwise_cons.1 hdistinct
    obtain ⟨hashes, hnodup, htrim, rfl⟩ := ih (fun g hg => hkind g (List.mem_cons_of_mem f hg))
      (fun g hg => hrep g (List.mem_cons_of_mem f hg)) hdistinct
    have hf := hrep f List.mem_cons_self
    cases f with
    | filename file =>
      obtain ⟨hash, rfl, hhash⟩ := hf
      refine ⟨hash :: hashes, List.nodup_cons.2 ⟨fun hmem => ?_, hnodup⟩, ?_, rfl⟩
      · have := hnew _ (List.mem_map_of_mem hmem)
        rw [show (Fact.filename (.ofHash hash) == Fact.filename (.ofHash hash)) = true from
          beq_self_eq_true (FileName.ofHash hash)] at this
        cases this
      · simpa using ⟨hhash, htrim⟩
    | _ => cases hkind _ List.mem_cons_self

theorem sameFacts_filenames (hashes : List String) :
    Artifact.sameFacts (hashes.map fun hash => .filename (.ofHash hash))
      (hashes.map fun hash => .filename (.ofHash hash)) = true := by
  rw [Artifact.sameFacts, Bool.and_eq_true, beq_self_eq_true, List.all_eq_true]
  refine ⟨rfl, fun f hf => List.contains_iff_exists_mem_beq.2 ⟨f, hf, ?_⟩⟩
  obtain ⟨hash, -, rfl⟩ := List.mem_map.1 hf
  exact beq_self_eq_true (FileName.ofHash hash)

variable {policy : MergePolicy} {main : Coordinate}

/-- The full rows of a representable artifact say of every kind what the artifact says. -/
theorem sameFacts_block (ha : a.Representable s) (k : FactKind) :
    Artifact.sameFacts ((gather (block s s.pathExists baseDir policy a main)).factsOf k)
      (a.factsOf k) = true := by
  by_cases hk : k = .filename
  · subst hk
    obtain ⟨hashes, hnodup, htrim, hfacts⟩ :=
      exists_hashes ha.made.tidy fun f hf => ha.facts f (mem_allFacts hf)
    rw [factsOf_block_filename hnodup htrim hfacts, hfacts]
    exact sameFacts_filenames hashes
  · rw [factsOf_block hk]
    exact sameFacts_reread ha hk

theorem block_beq (ha : a.Representable s) (hmain : a.coordinates = [main]) :
    (gather (block s s.pathExists baseDir policy a main) == a) = true := by
  refine Artifact.same_of_factsOf wellFormed_block ha.made.tidy.wellFormed ?_ ?_
    (sameFacts_block ha) ?_
  · rw [coordinates_block, hmain]
  · intro c hc
    rw [coordinates_block, List.mem_singleton] at hc
    rw [hc, hmain, Coordinate.contains_iff]
    exact ⟨main, List.mem_cons_self, BEq.rfl⟩
  · rw [flags_block, ha.flags]
    rfl

end

end Table

/-! ## All artifacts -/

/-- Representable artifacts of different coordinates are read from the table that they are
exported to: as many, in order, each equal to the one that was exported. -/
theorem importBytes_exportBytes {f : TableFormat} (hd : Separates f.delimiter)
    (hlenient : f.strictTypes = false) {s : Surroundings} {as : List Artifact}
    (has : ∀ a ∈ as, a.Representable s) (hsep : Coordinate.Separate (coordinatesOf as)) :
    ∃ bs, (f.importBytes s (f.exportBytes s as)).run.value = .ok bs ∧
      List.Forall₂ (fun b a => (b == a) = true) bs as := by
  have hone : ∀ a ∈ as, ∃ c, a.coordinates = [c] := fun a ha =>
    (has a ha).single.imp fun _ hc => hc.1
  have hreadable : ∀ c ∈ coordinatesOf as, f.Carries c := by
    intro c hc
    obtain ⟨a, ha, hc⟩ := List.mem_flatMap.1 hc
    obtain ⟨d, hd, hlegible⟩ := (has a ha).single
    rw [hd, List.mem_singleton] at hc
    exact ⟨hc ▸ hlegible, fun hstrict => absurd hstrict (by simp [hlenient])⟩
  refine ⟨_, value_artifactsOf_single hd hreadable hone hsep, ?_⟩
  rw [List.forall₂_map_left_iff, List.forall₂_same]
  intro a ha
  obtain ⟨main, hmain, -⟩ := (has a ha).single
  rw [linesOf_single hmain]
  exact block_beq (has a ha) hmain

/-! ## Two artifacts -/

namespace Samples

/-- Surroundings with a single file. -/
def workshop : Surroundings :=
  Snapshot.surroundings ⟨⟨"/work"⟩, none, [("/work/lib.js", ⟨true, false, .ok []⟩)]⟩

/-- A library with a license, a copyright statement of two lines, two hashes and a source file. -/
def library : Artifact :=
  let a := (Artifact.ofSource "").addCoordinate (.of "npm" "org" "lib" "1.0")
  let a := a.overrideFact (.matchingMetadata .exact)
  let a := a.overrideFact (.declaredLicense (.license (.known "MIT")))
  let a := a.overrideFact (.clearingState .projectApproved)
  let a := a.overrideFact (.copyright (.ofText "Copyright A\nCopyright B"))
  let a := a.overrideFact (.sourceFile ⟨"/work/lib.js"⟩)
  let a := (a.addFact (.filename (.ofHash "00"))).value
  (a.addFact (.filename (.ofHash "11"))).value

/-- A tool of an ecosystem that is not known by name. -/
def tool : Artifact :=
  let a := (Artifact.ofSource "").addCoordinate (.of "own" "" "tool" "")
  let a := a.overrideFact (.matchingMetadata .exact)
  a.overrideFact (.sourceUrl "https://host/tool?a,b")

theorem plainId_MIT : License.PlainId "MIT" := .ofWord (by decide +kernel)

theorem representable_library : library.Representable workshop where
  made :=
    .addFact (.addFact (.overrideFact (.overrideFact (.overrideFact (.overrideFact (.overrideFact
      (.addCoordinate (.ofSource _) _) _) _) _) _) _) _) _
  single := ⟨.of "npm" "org" "lib" "1.0", rfl,
    Coordinate.legible_of (by decide +kernel) (by decide +kernel) (by decide +kernel)
      (by decide +kernel)⟩
  matched := rfl
  facts := by
    have hfacts : library.allFacts =
        [.matchingMetadata .exact, .declaredLicense (.license (.known "MIT")),
          .clearingState .projectApproved, .copyright (.ofText "Copyright A\nCopyright B"),
          .sourceFile ⟨"/work/lib.js"⟩, .filename (.ofHash "00"), .filename (.ofHash "11")] := rfl
    have hparse : LicenseTree.parse (LicenseTree.license (.known "MIT")).evaluate =
        .ok (.license (.known "MIT")) :=
      LicenseTree.parse_evaluate_of_settled (LicenseTree.settled_plainId plainId_MIT)
        (by decide +kernel)
    rw [hfacts]
    simp only [List.forall_mem_cons]
    exact ⟨rfl, ⟨rfl, _, hparse, beq_self_eq_true _⟩, trivial, ⟨.ofText _, by decide +kernel⟩,
      ⟨rfl, by decide +kernel, rfl⟩, ⟨"00", rfl, by decide +kernel, by decide⟩,
      ⟨"11", rfl, by decide +kernel, by decide⟩, by simp⟩
  flags := rfl

theorem representable_tool : tool.Representable workshop where
  made := .overrideFact (.overrideFact (.addCoordinate (.ofSource _) _) _) _
  single := ⟨.of "own" "" "tool" "", rfl,
    Coordinate.legible_of (by decide +kernel) (by decide +kernel) (by decide +kernel)
      fun _ => rfl⟩
  matched := rfl
  facts := by
    have hfacts : tool.allFacts =
        [.matchingMetadata .exact, .sourceUrl "https://host/tool?a,b"] := rfl
    rw [hfacts]
    simp only [List.forall_mem_cons]
    exact ⟨rfl, ⟨by decide +kernel, by decide⟩, by simp⟩
  flags := rfl

theorem separate_library_tool : Coordinate.Separate (coordinatesOf [library, tool]) := by
  unfold Coordinate.Separate
  decide +kernel

end Samples

open Samples in
/-- The library and the tool come back. -/
theorem importBytes_exportBytes_library_tool :
    ∃ bs, (TableFormat.standard.importBytes workshop
        (TableFormat.standard.exportBytes workshop [library, tool])).run.value = .ok bs ∧
      List.Forall₂ (fun b a => (b == a) = true) bs [library, tool] :=
  importBytes_exportBytes ⟨by decide, by decide⟩ rfl
    (by simpa using ⟨representable_library, representable_tool⟩) separate_library_tool

end Clearinghouse
