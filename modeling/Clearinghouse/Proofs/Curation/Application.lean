import Clearinghouse.Curation.Step
import Clearinghouse.Proofs.Curation.Compiling

/-!
# What applying a configuration does

A configuration is applied as a whole or not at all, and artifact by artifact
(`curate_all_or_nothing`).

1. A run of rules leaves one artifact as the rules leave it one after the other, and has touched
   it if one of the rules took what the rules before it had left (`applyRules_eq`).
2. Each step does one thing to every artifact, and a step without entries does nothing; so the
   steps of a plan do what its sections say, in order (`applyAll_steps`).
3. Nothing fails after the entries were compiled, so in place the artifacts are what they were or
   what they should be (`run_curateInPlace`).
-/

namespace Clearinghouse

open CurationStep

/-! ## One artifact -/

/-- The artifact after a rule: patched if the rule takes it. -/
def applyRule (a : Artifact) (rule : ArtifactSelector × Patch) : Artifact :=
  if rule.1.takes a then rule.2.apply a else a

/-- Some rule takes the artifact as the rules before it leave it. -/
def TakenInTurn (rules : List (ArtifactSelector × Patch)) (a : Artifact) : Prop :=
  ∃ before rule after, rules = before ++ rule :: after ∧ rule.1.takes (before.foldl applyRule a)

theorem not_takenInTurn_nil (a : Artifact) : ¬ TakenInTurn [] a := by
  rintro ⟨before, rule, after, h, -⟩
  simp at h

/-- The first rule takes the artifact, or one of the others takes what the first one leaves. -/
theorem takenInTurn_cons {rule : ArtifactSelector × Patch}
    {rules : List (ArtifactSelector × Patch)} {a : Artifact} :
    TakenInTurn (rule :: rules) a ↔ rule.1.takes a ∨ TakenInTurn rules (applyRule a rule) := by
  constructor
  · rintro ⟨before, taking, after, h, htakes⟩
    cases before with
    | nil =>
      obtain ⟨rfl, rfl⟩ := List.cons.inj h
      exact .inl htakes
    | cons first before =>
      obtain ⟨rfl, rfl⟩ := List.cons.inj h
      exact .inr ⟨before, taking, after, rfl, htakes⟩
  · rintro (htakes | ⟨before, taking, after, rfl, htakes⟩)
    · exact ⟨[], rule, rules, rfl, htakes⟩
    · exact ⟨rule :: before, taking, after, rfl, htakes⟩

/-- What is known of an artifact before a rule is what is known after it: the artifact, and
whether a rule has taken it. -/
def followRule (known : Artifact × Bool) (rule : ArtifactSelector × Patch) : Artifact × Bool :=
  if rule.1.takes known.1 then (rule.2.apply known.1, true) else known

theorem followRule_eq (known : Artifact × Bool) (rule : ArtifactSelector × Patch) :
    followRule known rule = (applyRule known.1 rule, known.2 || rule.1.takes known.1) := by
  unfold followRule applyRule
  by_cases h : rule.1.takes known.1 <;> simp [h]

theorem foldl_followRule (rules : List (ArtifactSelector × Patch)) (known : Artifact × Bool) :
    (rules.foldl followRule known).1 = rules.foldl applyRule known.1 ∧
      ((rules.foldl followRule known).2 = true ↔ known.2 = true ∨ TakenInTurn rules known.1) := by
  induction rules generalizing known with
  | nil => simp [not_takenInTurn_nil]
  | cons rule rules ih =>
    obtain ⟨hartifact, htouched⟩ := ih (followRule known rule)
    rw [List.foldl_cons, List.foldl_cons, hartifact, htouched, takenInTurn_cons, followRule_eq,
      Bool.or_eq_true, or_assoc]
    exact ⟨rfl, Iff.rfl⟩

/-- Rules leave the artifact as they leave it one after the other, and have touched it if one of
them took it in turn. -/
theorem applyRules_eq (rules : List (ArtifactSelector × Patch)) (a : Artifact) :
    (applyRules rules a).1 = rules.foldl applyRule a ∧
      ((applyRules rules a).2 = true ↔ TakenInTurn rules a) := by
  have hrun : applyRules rules a = rules.foldl followRule (a, false) := rfl
  rw [hrun]
  simpa using foldl_followRule rules (a, false)

instance (rules : List (ArtifactSelector × Patch)) (a : Artifact) :
    Decidable (TakenInTurn rules a) :=
  decidable_of_iff _ (applyRules_eq rules a).2

/-! ## All artifacts -/

theorem takenByAny_iff {selectors : List ArtifactSelector} {a : Artifact} :
    takenByAny selectors a = true ↔ ∃ q ∈ selectors, q.takes a := List.any_eq_true

theorem takenByAny_eq_decide {selectors : List ArtifactSelector} {a : Artifact} {P : Prop}
    [Decidable P] (h : P ↔ ∃ q ∈ selectors, q.takes a) : takenByAny selectors a = decide P := by
  rw [Bool.eq_iff_iff, decide_eq_true_iff, h]
  exact takenByAny_iff

namespace Plan

variable (p : Plan)

/-- Some removal takes the artifact. -/
def Removes (a : Artifact) : Prop := ∃ q ∈ p.removals, q.takes a

/-- Some selector of artifacts that are not to be downloaded takes the artifact. -/
def Ignores (a : Artifact) : Prop := ∃ q ∈ p.ignores, q.takes a

instance (a : Artifact) : Decidable (p.Removes a) := decidable_of_iff _ takenByAny_iff

instance (a : Artifact) : Decidable (p.Ignores a) := decidable_of_iff _ takenByAny_iff

/-- The artifacts that no removal takes. -/
def kept (as : List Artifact) : List Artifact := as.filter fun a => ¬ p.Removes a

/-- The artifacts that are kept, each after all rules, then the ones that are added. -/
def listed (as : List Artifact) : List Artifact :=
  (p.kept as).map (p.rules.foldl applyRule ·) ++
    p.patches.map (·.toArtifact configurationSource)

def mark (a : Artifact) : Artifact :=
  if p.Ignores a then a.setFlag .ignoreForDownload true else a

end Plan

namespace CurationStep

theorem apply_remove (p : Plan) (as : List Artifact) :
    (remove p.removals).apply as = (p.kept as, as.countP (p.Removes ·)) := by
  have htaken (a : Artifact) : takenByAny p.removals a = decide (p.Removes a) :=
    takenByAny_eq_decide Iff.rfl
  have hkept : as.filter (!takenByAny p.removals ·) = p.kept as :=
    List.filter_congr fun a _ => by rw [htaken, decide_not]
  have hcount : as.length = as.countP (p.Removes ·) + (p.kept as).length := by
    rw [Plan.kept, ← List.countP_eq_length_filter]
    simpa using List.length_eq_countP_add_countP (l := as) (p.Removes ·)
  rw [apply, hkept]
  refine Prod.ext rfl ?_
  show as.length - (p.kept as).length = as.countP (p.Removes ·)
  omega

theorem apply_override (p : Plan) (as : List Artifact) :
    (override p.rules).apply as =
      (as.map (p.rules.foldl applyRule ·), as.countP (TakenInTurn p.rules ·)) := by
  rw [apply, List.map_map, List.countP_map]
  refine Prod.ext (List.map_congr_left fun a _ => (applyRules_eq p.rules a).1) ?_
  refine List.countP_congr fun a _ => ?_
  rw [decide_eq_true_iff]
  exact (applyRules_eq p.rules a).2

theorem apply_ignoreForDownload (p : Plan) (as : List Artifact) :
    (ignoreForDownload p.ignores).apply as = (as.map p.mark, as.countP (p.Ignores ·)) := by
  have htaken (a : Artifact) : takenByAny p.ignores a = decide (p.Ignores a) :=
    takenByAny_eq_decide Iff.rfl
  rw [apply]
  refine Prod.ext (List.map_congr_left fun a _ => ?_) (List.countP_congr fun a _ => by rw [htaken])
  simp [htaken, Plan.mark]

/-! ## All steps -/

/-- What is known after a step: the artifacts, and how many were touched up to now. -/
def followStep (known : List Artifact × Nat) (step : CurationStep) : List Artifact × Nat :=
  ((step.apply known.1).1, known.2 + (step.apply known.1).2)

/-- What was touched before is counted on top. -/
theorem foldl_followStep (steps : List CurationStep) (known : List Artifact × Nat) :
    steps.foldl followStep known =
      ((applyAll steps known.1).1, known.2 + (applyAll steps known.1).2) := by
  induction steps generalizing known with
  | nil => rfl
  | cons step steps ih =>
    have hrun : applyAll (step :: steps) known.1 =
        steps.foldl followStep (followStep (known.1, 0) step) := rfl
    rw [hrun, List.foldl_cons, ih, ih]
    simp only [followStep, Nat.zero_add, Nat.add_assoc]

theorem applyAll_append (steps others : List CurationStep) (as : List Artifact) :
    applyAll (steps ++ others) as =
      ((applyAll others (applyAll steps as).1).1,
        (applyAll steps as).2 + (applyAll others (applyAll steps as).1).2) := by
  have hrun : applyAll (steps ++ others) as = others.foldl followStep (applyAll steps as) :=
    List.foldl_append
  rw [hrun, foldl_followStep]

/-- A step that does nothing without entries can be left out where there are none. -/
theorem applyAll_unlessNil {β : Type} {step : List β → CurationStep}
    (h : ∀ as, (step []).apply as = (as, 0)) (bs : List β) (as : List Artifact) :
    applyAll (unlessNil step bs) as = (step bs).apply as := by
  cases bs with
  | nil => exact (h as).symm
  | cons b bs =>
    have hrun : applyAll (unlessNil step (b :: bs)) as = followStep (as, 0) (step (b :: bs)) := rfl
    rw [hrun, followStep, Nat.zero_add]

theorem apply_nil (as : List Artifact) :
    (remove []).apply as = (as, 0) ∧ (override []).apply as = (as, 0) ∧
      (add []).apply as = (as, 0) ∧ (ignoreForDownload []).apply as = (as, 0) := by
  have hsame : (fun result : Artifact × Bool => result.1) ∘ applyRules [] = id := rfl
  have hnone : (fun result : Artifact × Bool => result.2) ∘ applyRules [] = fun _ => false := rfl
  simp [apply, takenByAny, hsame, hnone]

/-- The steps of a plan keep what no removal takes, apply all rules to each of these, append what
is added and mark what is not to be downloaded; they touch what each section takes. -/
theorem applyAll_steps (p : Plan) (as : List Artifact) :
    applyAll p.steps as =
      ((p.listed as).map p.mark,
        as.countP (p.Removes ·) + (p.kept as).countP (TakenInTurn p.rules ·) +
          p.patches.length + (p.listed as).countP (p.Ignores ·)) := by
  have hadd (bs : List Artifact) : (add p.patches).apply bs =
      (bs ++ p.patches.map (·.toArtifact configurationSource), p.patches.length) := rfl
  rw [Plan.steps, applyAll_append, applyAll_append, applyAll_append,
    applyAll_unlessNil fun as => (apply_nil as).1,
    applyAll_unlessNil fun as => (apply_nil as).2.1,
    applyAll_unlessNil fun as => (apply_nil as).2.2.1,
    applyAll_unlessNil fun as => (apply_nil as).2.2.2,
    apply_remove, apply_override, hadd, apply_ignoreForDownload]
  rfl

/-! ## In place -/

/-- Processing a step leaves what the step makes of the artifacts. -/
theorem run_foldlM_process (steps : List CurationStep) (total : Nat) (as : List Artifact) :
    (steps.foldlM (fun total step => return total + (← step.process)) total :
        Editing Nat).run.run as =
      (.ok (total + (applyAll steps as).2), (applyAll steps as).1) := by
  induction steps generalizing total as with
  | nil => rfl
  | cons step steps ih =>
    have hrun : ((step :: steps).foldlM (fun total step => return total + (← step.process)) total :
          Editing Nat).run.run as =
        (steps.foldlM (fun total step => return total + (← step.process))
          (total + (step.apply as).2) : Editing Nat).run.run (step.apply as).1 := rfl
    have happly : applyAll (step :: steps) as = steps.foldl followStep (followStep (as, 0) step) :=
      rfl
    rw [hrun, ih, happly, foldl_followStep]
    simp only [followStep, Nat.zero_add, Nat.add_assoc]

/-- In place, a configuration leaves the artifacts that it makes of them, or fails and leaves them
as they are. -/
theorem run_curateInPlace (c : Config) (as : List Artifact) :
    (curateInPlace c).run.run as =
      match curate c as with
      | .ok (bs, touched) => (.ok touched, bs)
      | .error e => (.error e, as) := by
  cases hsteps : ofConfig c with
  | error e =>
    have hrun : (curateInPlace c).run.run as = (.error e, as) := by
      unfold curateInPlace
      rw [hsteps]
      rfl
    rw [hrun, curate, hsteps]
    rfl
  | ok steps =>
    have hrun : (curateInPlace c).run.run as = (processAll steps).run.run as := by
      unfold curateInPlace
      rw [hsteps]
      rfl
    rw [hrun, processAll, run_foldlM_process, Nat.zero_add, curate, hsteps]
    rfl

/-! ## Configurations -/

theorem curate_eq_ok_iff {c : Config} {as : List Artifact} {result : List Artifact × Nat} :
    curate c as = .ok result ↔ ∃ p, c.CompilesTo p ∧ applyAll p.steps as = result := by
  rw [curate, map_eq_ok_iff]
  simp only [ofConfig_eq_ok_iff]
  constructor
  · rintro ⟨_, ⟨p, hp, rfl⟩, happly⟩
    exact ⟨p, hp, happly⟩
  · rintro ⟨p, hp, happly⟩
    exact ⟨_, ⟨p, hp, rfl⟩, happly⟩

theorem exists_curate_iff {c : Config} {as : List Artifact} :
    (∃ result, curate c as = .ok result) ↔ c.Compiles := by
  simp only [curate_eq_ok_iff, ← Config.exists_compilesTo_iff]
  constructor
  · rintro ⟨_, p, hp, -⟩
    exact ⟨p, hp⟩
  · rintro ⟨p, hp⟩
    exact ⟨_, p, hp, rfl⟩

end CurationStep

/-- An entry of a section does not compile. -/
theorem Config.not_compiles_iff {c : Config} :
    ¬ c.Compiles ↔
      (∃ s ∈ c.removals, ∃ e, s.toSelector = .error e) ∨
        (∃ r ∈ c.overrides, ∃ e, compileRule r = .error e) ∨
        (∃ t ∈ c.additions, ∃ e, Patch.ofTemplate t = .error e) ∨
        ∃ s ∈ c.ignoreForDownload, ∃ e, s.toSelector = .error e := by
  have hcompiles : c.Compiles ↔
      (∀ s ∈ c.removals, ∃ q, s.toSelector = .ok q) ∧
        (∀ r ∈ c.overrides, ∃ rule, compileRule r = .ok rule) ∧
        (∀ t ∈ c.additions, ∃ patch, Patch.ofTemplate t = .ok patch) ∧
        ∀ s ∈ c.ignoreForDownload, ∃ q, s.toSelector = .ok q :=
    ⟨fun h => ⟨h.removals, h.overrides, h.additions, h.ignores⟩,
      fun ⟨hr, ho, ha, hi⟩ => ⟨hr, ho, ha, hi⟩⟩
  rw [hcompiles]
  simp only [not_and_or, not_forall, exists_prop, exists_error_iff]

/-- A configuration is applied as a whole or not at all. It fails if an entry does not compile,
and then the artifacts are what they were. Otherwise the artifacts that a removal takes are
dropped, every other one goes through all rules by itself, what is added comes after them, and the
ones that are not to be downloaded are marked; the number is that of the artifacts dropped, taken
by a rule, added and marked. -/
theorem curate_all_or_nothing (c : Config) (as : List Artifact) :
    ((∃ e, curate c as = .error e) ↔
        (∃ s ∈ c.removals, ∃ e, s.toSelector = .error e) ∨
          (∃ r ∈ c.overrides, ∃ e, compileRule r = .error e) ∨
          (∃ t ∈ c.additions, ∃ e, Patch.ofTemplate t = .error e) ∨
          ∃ s ∈ c.ignoreForDownload, ∃ e, s.toSelector = .error e) ∧
      (∀ e, curate c as = .error e → (curateInPlace c).run.run as = (.error e, as)) ∧
      ∀ bs total, curate c as = .ok (bs, total) →
        (curateInPlace c).run.run as = (.ok total, bs) ∧
          ∃ p, c.CompilesTo p ∧ bs = (p.listed as).map p.mark ∧
            total = as.countP (p.Removes ·) + (p.kept as).countP (TakenInTurn p.rules ·) +
              c.additions.length + (p.listed as).countP (p.Ignores ·) := by
  refine ⟨?_, fun e he => ?_, fun bs total hok => ?_⟩
  · rw [exists_error_iff, exists_curate_iff, Config.not_compiles_iff]
  · rw [run_curateInPlace, he]
  · rw [run_curateInPlace, hok]
    obtain ⟨p, hp, happly⟩ := curate_eq_ok_iff.1 hok
    rw [applyAll_steps, Prod.mk.injEq, ← hp.additions.length_eq] at happly
    exact ⟨rfl, p, hp, happly.1.symm, happly.2.symm⟩

/-! ## A list that is curated -/

namespace Samples

def oldPackage : Artifact := (Artifact.ofSource "scan").addCoordinate (.of "npm" "" "old" "1.0")

def libPackage : Artifact := (Artifact.ofSource "scan").addCoordinate (.of "npm" "" "lib" "1.2")

/-- Drops a package, renames another one, says more about the one of the new name, and adds a tool
that is not to be downloaded. -/
def springCleaning : Config :=
  { Config.standard with
    removals := [.ofCoordinate "npm:old"]
    overrides :=
      [⟨.ofCoordinate "npm:lib", { Template.standard with coordinates := ["pkg:npm/library@1.2"] }⟩,
        ⟨.ofCoordinate "npm:library",
          { Template.standard with sourceUrl := some "https://host/library" }⟩]
    additions := [{ Template.standard with coordinates := ["pkg:npm/tool@1.0"] }]
    ignoreForDownload := [.ofCoordinate "npm:tool"] }

/-- The same with a selector in the last section that is none. -/
def brokenCleaning : Config :=
  { springCleaning with ignoreForDownload := [.ofCoordinate "tool"] }

end Samples

open Samples in
/-- The second rule sees the new name, and one artifact is counted for each section. A slip in the
last section leaves the list as it is. -/
theorem curate_all_or_nothing_springCleaning :
    (∃ lib tool,
      curate springCleaning [oldPackage, libPackage] = .ok ([lib, tool], 4) ∧
        lib.hasFact .sourceUrl = true ∧ tool.flags.isSet .ignoreForDownload = true ∧
        (curateInPlace springCleaning).run.run [oldPackage, libPackage] =
          (.ok 4, [lib, tool])) ∧
      ∃ e, (curateInPlace brokenCleaning).run.run [oldPackage, libPackage] =
        (.error e, [oldPackage, libPackage]) := by
  constructor
  · obtain ⟨lib, tool, hcurate, hlib, htool⟩ : ∃ lib tool,
        curate springCleaning [oldPackage, libPackage] = .ok ([lib, tool], 4) ∧
          lib.hasFact .sourceUrl = true ∧ tool.flags.isSet .ignoreForDownload = true :=
      ⟨_, _, rfl, rfl, rfl⟩
    exact ⟨lib, tool, hcurate, hlib, htool, ((curate_all_or_nothing _ _).2.2 _ _ hcurate).1⟩
  · obtain ⟨hfails, hunchanged, -⟩ :=
      curate_all_or_nothing brokenCleaning [oldPackage, libPackage]
    obtain ⟨e, he⟩ := hfails.2 (.inr (.inr (.inr ⟨_, List.mem_singleton_self _, _, rfl⟩)))
    exact ⟨e, hunchanged e he⟩

end Clearinghouse
