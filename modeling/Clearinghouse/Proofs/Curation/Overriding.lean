import Clearinghouse.Proofs.Artifact.View
import Clearinghouse.Proofs.Curation.Application

/-!
# The last override wins

Overrides are applied one after the other, each if it takes the artifact as the ones before left
it. Afterwards, whatever the policy of the artifact, a kind of facts has the one fact of the last
applied override that states the kind, a flag has the value of the last one that sets it, and the
coordinates of all of them are added (`overridden_apply_override`).

1. A template states every kind once, so what its patch leaves of a kind is the fact that it
   states (`Single.get?_apply`).
2. One more patch keeps the account of the patches before it (`Overridden.apply`), hence of a run.
-/

namespace Clearinghouse

open CurationStep

/-! ## Writing under keys -/

section

variable {σ ω κ β : Type} {write : σ → ω → σ} {read : σ → κ → Option β} {key : ω → κ}
  {value : ω → β} [DecidableEq κ]
  (h : ∀ s w k, read (write s w) k = if k = key w then some (value w) else read s k)
include h

theorem read_foldl_of_not_mem {ws : List ω} {k : κ} (hk : ∀ w ∈ ws, key w ≠ k) (s : σ) :
    read (ws.foldl write s) k = read s k := by
  induction ws generalizing s with
  | nil => rfl
  | cons w ws ih =>
    rw [List.forall_mem_cons] at hk
    rw [List.foldl_cons, ih hk.2, h, if_neg (Ne.symm hk.1)]

/-- What is written under a key stays if nothing else is written under it. -/
theorem read_foldl_of_mem {ws : List ω} (hnodup : (ws.map key).Nodup) {w : ω} (hw : w ∈ ws)
    (s : σ) : read (ws.foldl write s) (key w) = some (value w) := by
  induction ws generalizing s with
  | nil => cases hw
  | cons first ws ih =>
    rw [List.map_cons, List.nodup_cons] at hnodup
    rcases List.mem_cons.1 hw with rfl | hw
    · have hrest : ∀ v ∈ ws, key v ≠ key w := fun v hv heq =>
        hnodup.1 (heq ▸ List.mem_map_of_mem hv)
      rw [List.foldl_cons, read_foldl_of_not_mem h hrest, h, if_pos rfl]
    · rw [List.foldl_cons]
      exact ih hnodup.2 hw _

end

/-! ## One patch -/

namespace Patch

variable {p : Patch} {a : Artifact}

/-- Whether the patch states a fact of the kind. -/
def states (p : Patch) (k : FactKind) : Bool := p.facts.any (·.kind = k)

/-- Whether the patch gives the flag a value. -/
def sets (p : Patch) (flag : Flag) : Bool := p.flags.any (·.1 = flag)

/-- The patch states no kind and sets no flag twice. -/
structure Single (p : Patch) : Prop where
  facts : (p.facts.map (·.kind)).Nodup
  flags : (p.flags.map (·.1)).Nodup

/-- What a patch does: its coordinates are added, its facts and flags stored. -/
theorem apply_eq (p : Patch) (a : Artifact) :
    p.apply a =
      { a with
        coordinates := Distinct.union a.coordinates p.coordinates
        facts := p.facts.foldl (fun s f => s.put f.kind [f]) a.facts
        flags := p.flags.foldl (fun fs g => fs.set g.1 g.2) a.flags } := by
  have hfacts (fs : List Fact) (a : Artifact) : fs.foldl Artifact.overrideFact a =
      { a with facts := fs.foldl (fun s f => s.put f.kind [f]) a.facts } := by
    induction fs generalizing a with
    | nil => rfl
    | cons f fs ih => rw [List.foldl_cons, ih]; rfl
  have hflags (gs : List (Flag × Bool)) (a : Artifact) :
      gs.foldl (fun a g => a.setFlag g.1 g.2) a =
        { a with flags := gs.foldl (fun fs g => fs.set g.1 g.2) a.flags } := by
    induction gs generalizing a with
    | nil => rfl
    | cons g gs ih => rw [List.foldl_cons, ih]; rfl
  have happly : p.apply a = p.flags.foldl (fun a g => a.setFlag g.1 g.2)
      (p.facts.foldl Artifact.overrideFact (p.coordinates.foldl Artifact.addCoordinate a)) := rfl
  rw [happly, hflags, hfacts, Artifact.foldl_addCoordinate]
  rfl

/-- Of a kind that is stated the fact is there, and no other. -/
theorem Single.get?_apply (h : p.Single) {f : Fact} (hf : f ∈ p.facts) :
    (p.apply a).facts.get? f.kind = some [f] := by
  rw [apply_eq]
  exact read_foldl_of_mem (fun s f k => s.get?_put f.kind k [f]) h.facts hf a.facts

theorem get?_apply_of_not_states {k : FactKind} (h : p.states k = false) :
    (p.apply a).facts.get? k = a.facts.get? k := by
  have hk : ∀ f ∈ p.facts, f.kind ≠ k := by simpa [states] using h
  rw [apply_eq]
  exact read_foldl_of_not_mem (fun s (f : Fact) k => s.get?_put f.kind k [f]) hk a.facts

theorem Single.flag_apply (h : p.Single) {flag : Flag} {value : Bool}
    (hg : (flag, value) ∈ p.flags) : (p.apply a).flags.get? flag = some value := by
  rw [apply_eq]
  exact read_foldl_of_mem (fun fs (g : Flag × Bool) f => fs.get?_set g.1 f g.2) h.flags hg a.flags

theorem flag_apply_of_not_sets {flag : Flag} (h : p.sets flag = false) :
    (p.apply a).flags.get? flag = a.flags.get? flag := by
  have hflag : ∀ g ∈ p.flags, g.1 ≠ flag := by simpa [sets] using h
  rw [apply_eq]
  exact read_foldl_of_not_mem (fun fs (g : Flag × Bool) f => fs.get?_set g.1 f g.2) hflag a.flags

/-! ## What a template states -/

theorem kinds_optional {α : Type} {read : String → Except Error α} {fact : α → Fact}
    {text : Option String} {facts : List Fact} (h : optional read fact text = .ok facts)
    {k : FactKind} (hk : ∀ x, (fact x).kind = k) : (facts.map (·.kind)).Sublist [k] := by
  cases text with
  | none =>
    cases h
    exact List.nil_sublist [k]
  | some text =>
    obtain ⟨x, -, rfl⟩ := map_eq_ok_iff.1 h
    rw [List.map_singleton, hk]

theorem kinds_toList {α : Type} (fact : α → Fact) (value : Option α) {k : FactKind}
    (hk : ∀ x, (fact x).kind = k) : ((value.map fact).toList.map (·.kind)).Sublist [k] := by
  cases value with
  | none => exact List.nil_sublist [k]
  | some x =>
    rw [Option.map_some, Option.toList_some, List.map_singleton, hk]

theorem kinds_fileFact (t : Template) : ((fileFact t).map (·.kind)).Sublist [.filename] := by
  unfold fileFact
  split
  · exact List.nil_sublist _
  · exact List.Sublist.refl _

/-- The fields of a template are of different kinds. -/
theorem nodup_kinds_factsOf {t : Template} {facts : List Fact} (h : factsOf t = .ok facts) :
    (facts.map (·.kind)).Nodup := by
  simp only [factsOf, bind_eq_ok_iff] at h
  obtain ⟨declared, hdeclared, observed, hobserved, overridden, hoverridden, configured,
    hconfigured, heritage, hheritage, cpe, hcpe, heq⟩ := h
  obtain rfl := Except.ok.inj heq
  have hkinds : ([.filename, .declaredLicense, .observedLicense, .overriddenLicense,
      .configuredLicense, .copyright, .sourceUrl, .releaseTagUrl, .softwareHeritageId,
      .clearingState, .changeStatus, .cpe] : List FactKind).Nodup := by
    decide
  have hparts := (kinds_fileFact t).append (kinds_optional hdeclared fun _ => rfl)
    |>.append (kinds_optional hobserved fun _ => rfl)
    |>.append (kinds_optional hoverridden fun _ => rfl)
    |>.append (kinds_optional hconfigured fun _ => rfl)
    |>.append (kinds_toList (fun text => Fact.copyright (.ofText text)) t.copyrights fun _ => rfl)
    |>.append (kinds_toList .sourceUrl t.sourceUrl fun _ => rfl)
    |>.append (kinds_toList .releaseTagUrl t.releaseTagUrl fun _ => rfl)
    |>.append (kinds_optional hheritage fun _ => rfl)
    |>.append (kinds_toList .clearingState t.clearingState fun _ => rfl)
    |>.append (kinds_toList .changeStatus t.changeStatus fun _ => rfl)
    |>.append (kinds_optional hcpe fun _ => rfl)
  simp only [← List.map_append] at hparts
  exact hkinds.sublist hparts

theorem nodup_flagsOf (t : Template) : ((flagsOf t).map (·.1)).Nodup := by
  unfold flagsOf
  cases t.proprietary <;> cases t.ignoreForDownload <;> simp

/-- A template states every kind and sets every flag once at most. -/
theorem single_of_ofTemplate {t : Template} (h : ofTemplate t = .ok p) : p.Single := by
  simp only [ofTemplate, bind_eq_ok_iff] at h
  obtain ⟨coordinates, -, facts, hfacts, heq⟩ := h
  obtain rfl := Except.ok.inj heq
  exact ⟨nodup_kinds_factsOf hfacts, nodup_flagsOf t⟩

end Patch

/-! ## A run of patches -/

/-- What `a` becomes when these patches are put over it in order. -/
structure Overridden (patches : List Patch) (a b : Artifact) : Prop where
  /-- Of a kind that a patch states the fact of the last such patch is there, and no other. -/
  facts : ∀ k p, (patches.filter (·.states k)).getLast? = some p →
    ∀ f ∈ p.facts, f.kind = k → b.facts.get? k = some [f]
  /-- Of any other kind the facts are as they were. -/
  otherFacts : ∀ k, (∀ p ∈ patches, p.states k = false) → b.facts.get? k = a.facts.get? k
  /-- The coordinates that are new follow, in order and each once. -/
  coordinates : b.coordinates = a.coordinates ++
    ((patches.flatMap (·.coordinates)).removeAll a.coordinates).eraseDups
  /-- A flag that a patch sets has the value that the last such patch gives it. -/
  flags : ∀ flag p, (patches.filter (·.sets flag)).getLast? = some p →
    ∀ value, (flag, value) ∈ p.flags → b.flags.get? flag = some value
  /-- Any other flag is as it was. -/
  otherFlags : ∀ flag, (∀ p ∈ patches, p.sets flag = false) → b.flags.get? flag = a.flags.get? flag
  source : b.source = a.source
  policy : b.policy = a.policy

namespace Overridden

variable {patches : List Patch} {a b : Artifact}

theorem refl (a : Artifact) : Overridden [] a a where
  facts _ _ h := by cases h
  otherFacts _ _ := rfl
  coordinates := by simp
  flags _ _ h := by cases h
  otherFlags _ _ := rfl
  source := rfl
  policy := rfl

/-- The last of the patches that satisfy a test, if one more patch comes. -/
theorem getLast?_filter_concat (test : Patch → Bool) (patches : List Patch) (p : Patch) :
    ((patches ++ [p]).filter test).getLast? =
      if test p then some p else (patches.filter test).getLast? := by
  rw [List.filter_append]
  by_cases h : test p
  · rw [List.filter_cons_of_pos h, if_pos h, List.filter_nil, List.getLast?_concat]
  · rw [List.filter_cons_of_neg h, if_neg h, List.filter_nil, List.append_nil]

/-- One more patch is put over what the others left. -/
theorem apply (h : Overridden patches a b) {p : Patch} (hp : p.Single) :
    Overridden (patches ++ [p]) a (p.apply b) where
  facts k q hq f hf hk := by
    rw [getLast?_filter_concat] at hq
    split at hq
    · cases hq
      rw [← hk]
      exact hp.get?_apply hf
    · rename_i hstates
      rw [Patch.get?_apply_of_not_states (Bool.eq_false_iff.2 hstates)]
      exact h.facts k q hq f hf hk
  otherFacts k hk := by
    rw [List.forall_mem_append, List.forall_mem_singleton] at hk
    rw [Patch.get?_apply_of_not_states hk.2]
    exact h.otherFacts k hk.1
  coordinates := by
    have hcoords := h.coordinates
    rw [← Distinct.union_eq_append] at hcoords ⊢
    rw [Patch.apply_eq, List.flatMap_append, List.flatMap_singleton, Distinct.union_append,
      ← hcoords]
  flags flag q hq value hg := by
    rw [getLast?_filter_concat] at hq
    split at hq
    · cases hq
      exact hp.flag_apply hg
    · rename_i hsets
      rw [Patch.flag_apply_of_not_sets (Bool.eq_false_iff.2 hsets)]
      exact h.flags flag q hq value hg
  otherFlags flag hflag := by
    rw [List.forall_mem_append, List.forall_mem_singleton] at hflag
    rw [Patch.flag_apply_of_not_sets hflag.2]
    exact h.otherFlags flag hflag.1
  source := by
    rw [Patch.apply_eq]
    exact h.source
  policy := by
    rw [Patch.policy_apply]
    exact h.policy

end Overridden

theorem overridden_foldl_apply {patches : List Patch} (h : ∀ p ∈ patches, p.Single)
    (a : Artifact) : Overridden patches a (patches.foldl (fun a p => p.apply a) a) := by
  induction patches using List.reverseRecOn with
  | nil => exact .refl a
  | append_singleton patches p ih =>
    rw [List.forall_mem_append, List.forall_mem_singleton] at h
    rw [List.foldl_concat]
    exact (ih h.1).apply h.2

/-! ## A run of rules -/

/-- The patches that are applied: their selectors take the artifact as the ones before left it. -/
def applied : List (ArtifactSelector × Patch) → Artifact → List Patch
  | [], _ => []
  | rule :: rules, a =>
    if rule.1.takes a then rule.2 :: applied rules (rule.2.apply a) else applied rules a

theorem foldl_applyRule (rules : List (ArtifactSelector × Patch)) (a : Artifact) :
    rules.foldl applyRule a = (applied rules a).foldl (fun a p => p.apply a) a := by
  induction rules generalizing a with
  | nil => rfl
  | cons rule rules ih =>
    rw [List.foldl_cons, ih, applyRule, applied]
    split <;> rfl

theorem mem_of_mem_applied {rules : List (ArtifactSelector × Patch)} {a : Artifact} {p : Patch}
    (h : p ∈ applied rules a) : ∃ rule ∈ rules, rule.2 = p := by
  induction rules generalizing a with
  | nil => cases h
  | cons rule rules ih =>
    rw [applied] at h
    have hrest {b : Artifact} (hp : p ∈ applied rules b) : ∃ r ∈ rule :: rules, r.2 = p := by
      obtain ⟨r, hr, heq⟩ := ih hp
      exact ⟨r, List.mem_cons_of_mem rule hr, heq⟩
    split at h
    · rcases List.mem_cons.1 h with rfl | h
      · exact ⟨rule, List.mem_cons_self, rfl⟩
      · exact hrest h
    · exact hrest h

theorem applied_ne_nil_iff {rules : List (ArtifactSelector × Patch)} {a : Artifact} :
    applied rules a ≠ [] ↔ TakenInTurn rules a := by
  induction rules generalizing a with
  | nil => simp [applied, not_takenInTurn_nil]
  | cons rule rules ih =>
    rw [applied, takenInTurn_cons, ← ih, applyRule]
    by_cases h : rule.1.takes a <;> simp [h]

/-- Compiled rules have compiled patches. -/
theorem single_of_overrideOf {c : Config} {rules : List (ArtifactSelector × Patch)}
    (h : overrideOf c = .ok (.override rules)) : ∀ rule ∈ rules, rule.2.Single := by
  obtain ⟨compiled, hcompiled, heq⟩ := map_eq_ok_iff.1 h
  obtain rfl := CurationStep.override.inj heq
  intro rule hrule
  obtain ⟨i, hi, rfl⟩ := List.getElem_of_mem hrule
  have hforall := compileEach_eq_ok_iff.1 hcompiled
  have hentry := hforall.get (hforall.length_eq ▸ hi) hi
  exact Patch.single_of_ofTemplate (compileRule_eq_ok_iff.1 hentry).2

/-- Compiled overrides leave of every kind that an applied one states the fact of the last such
override, give every flag the value of the last one that sets it, add all coordinates and change
nothing else. The artifacts that some override was applied to are counted. -/
theorem overridden_apply_override {c : Config} {rules : List (ArtifactSelector × Patch)}
    (h : overrideOf c = .ok (.override rules)) (as : List Artifact) :
    let result := (CurationStep.override rules).apply as
    List.Forall₂ (fun a b => Overridden (applied rules a) a b) as result.1 ∧
      result.2 = as.countP (applied rules · ≠ []) := by
  have hresult := apply_override ⟨[], rules, [], []⟩ as
  refine ⟨?_, ?_⟩
  · rw [hresult, List.forall₂_map_right_iff, List.forall₂_same]
    intro a _
    rw [foldl_applyRule]
    refine overridden_foldl_apply (fun p hp => ?_) a
    obtain ⟨rule, hrule, rfl⟩ := mem_of_mem_applied hp
    exact single_of_overrideOf h rule hrule
  · rw [hresult]
    exact List.countP_congr fun a _ => by simp [applied_ne_nil_iff]

namespace Samples

/-- A library that resists: its policy is strict, it is approved, and two files are known. -/
def strictLibrary : Artifact :=
  { libPackage.addAll [.filename ⟨some "old.tgz", none⟩, .filename ⟨some "more.tgz", none⟩,
      .clearingState .osmApproved, .copyright (.ofText "(c) Ada"),
      .releaseTagUrl "https://one.example"] with policy := .strict }

/-- Renames a package with its file, says more about the one of the new name, and about the old
file. -/
def newName : Config :=
  { Config.standard with
    overrides :=
      [⟨.ofCoordinate "npm:lib",
          { Template.standard with
            coordinates := ["pkg:npm/library@1.2"]
            filename := some "new.tgz"
            copyrights := some "(c) Bob"
            sourceUrl := some "https://two.example"
            clearingState := some .initial
            proprietary := some true }⟩,
        ⟨.ofCoordinate "npm:library",
          { Template.standard with
            sourceUrl := some "https://three.example"
            proprietary := some false }⟩,
        ⟨.ofFilename "old.tgz", { Template.standard with copyrights := some "(c) Cy" }⟩] }

end Samples

open Samples in
/-- The second rule sees the new name and has the last word, the third one sees no file of the old
name any more, and the lower state comes through. -/
theorem overridden_apply_override_newName :
    ∃ rules, overrideOf newName = .ok (.override rules) ∧
      ∃ renamed, (CurationStep.override rules).apply [oldPackage, strictLibrary] =
          ([oldPackage, renamed], 1) ∧
        Overridden (applied rules strictLibrary) strictLibrary renamed ∧
        applied rules strictLibrary = (rules.map (·.2)).take 2 ∧
        renamed.coordinates = [.of "npm" "" "lib" "1.2", .of "npm" "" "library" "1.2"] ∧
        renamed.allFacts = [.filename ⟨some "new.tgz", none⟩, .clearingState .initial,
          .copyright ⟨["(c) Bob"]⟩, .releaseTagUrl "https://one.example",
          .sourceUrl "https://three.example"] ∧
        renamed.flags.get? .proprietary = some false := by
  refine ⟨_, rfl, _, rfl, ?_, rfl, rfl, rfl, rfl⟩
  have hoverridden := (overridden_apply_override (c := newName) rfl [oldPackage, strictLibrary]).1
  exact (List.forall₂_cons.1 (List.forall₂_cons.1 hoverridden).2).1

end Clearinghouse
