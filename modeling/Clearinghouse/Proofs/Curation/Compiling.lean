import Clearinghouse.Curation.Step
import Clearinghouse.Proofs.Result

/-!
# What configurations compile to

The entries of a configuration compile one by one, and all of them do or there are no steps. So
the steps of a configuration are those of a plan that has a compiled entry for every entry
(`ofConfig_eq_ok_iff`), and there are steps if every entry compiles (`exists_ofConfig_iff`).
-/

namespace Clearinghouse

/-! ## Plans -/

/-- The compiled entries of all sections. -/
structure Plan where
  removals : List ArtifactSelector
  rules : List (ArtifactSelector × Patch)
  patches : List Patch
  ignores : List ArtifactSelector

namespace CurationStep

/-- A step, if there is something to do. -/
def unlessNil {β : Type} (step : List β → CurationStep) (bs : List β) : List CurationStep :=
  if bs.isEmpty then [] else [step bs]

end CurationStep

open CurationStep

/-- The steps of a plan, in order. -/
def Plan.steps (p : Plan) : List CurationStep :=
  unlessNil remove p.removals ++ unlessNil override p.rules ++ unlessNil add p.patches ++
    unlessNil ignoreForDownload p.ignores

namespace Config

/-- The entries of the configuration compile to those of the plan, one by one. -/
structure CompilesTo (c : Config) (p : Plan) : Prop where
  removals : List.Forall₂ (fun s q => s.toSelector = .ok q) c.removals p.removals
  overrides : List.Forall₂ (fun r rule => compileRule r = .ok rule) c.overrides p.rules
  additions : List.Forall₂ (fun t patch => Patch.ofTemplate t = .ok patch) c.additions p.patches
  ignores : List.Forall₂ (fun s q => s.toSelector = .ok q) c.ignoreForDownload p.ignores

/-- Every entry of the configuration compiles. -/
structure Compiles (c : Config) : Prop where
  removals : ∀ s ∈ c.removals, ∃ q, s.toSelector = .ok q
  overrides : ∀ r ∈ c.overrides, ∃ rule, compileRule r = .ok rule
  additions : ∀ t ∈ c.additions, ∃ patch, Patch.ofTemplate t = .ok patch
  ignores : ∀ s ∈ c.ignoreForDownload, ∃ q, s.toSelector = .ok q

theorem exists_compilesTo_iff {c : Config} : (∃ p, c.CompilesTo p) ↔ c.Compiles := by
  constructor
  · rintro ⟨p, h⟩
    exact ⟨exists_forall₂_iff.1 ⟨_, h.removals⟩, exists_forall₂_iff.1 ⟨_, h.overrides⟩,
      exists_forall₂_iff.1 ⟨_, h.additions⟩, exists_forall₂_iff.1 ⟨_, h.ignores⟩⟩
  · intro h
    obtain ⟨removals, hremovals⟩ := exists_forall₂_iff.2 h.removals
    obtain ⟨rules, hrules⟩ := exists_forall₂_iff.2 h.overrides
    obtain ⟨patches, hpatches⟩ := exists_forall₂_iff.2 h.additions
    obtain ⟨ignores, hignores⟩ := exists_forall₂_iff.2 h.ignores
    exact ⟨⟨removals, rules, patches, ignores⟩, hremovals, hrules, hpatches, hignores⟩

end Config

namespace CurationStep

theorem compileEach_eq_ok_iff {α β : Type} {heading : String} {compile : α → Except Error β}
    {index : Nat} {entries : List α} {bs : List β} :
    compileEach heading compile index entries = .ok bs ↔
      List.Forall₂ (fun a b => compile a = .ok b) entries bs := by
  induction entries generalizing index bs with
  | nil =>
    rw [compileEach, List.forall₂_nil_left_iff, Except.ok.injEq]
    exact eq_comm
  | cons entry entries ih =>
    rw [compileEach, bind_eq_ok_iff, List.forall₂_cons_left_iff]
    simp only [bind_eq_ok_iff, inContext_eq_ok_iff, ih]
    constructor
    · rintro ⟨b, hb, bs, hbs, heq⟩
      exact ⟨b, bs, hb, hbs, (Except.ok.inj heq).symm⟩
    · rintro ⟨b, bs, hb, hbs, rfl⟩
      exact ⟨b, hb, bs, hbs, rfl⟩

theorem compileRule_eq_ok_iff {r : OverrideRule} {rule : ArtifactSelector × Patch} :
    compileRule r = .ok rule ↔
      r.selector.toSelector = .ok rule.1 ∧ Patch.ofTemplate r.changes = .ok rule.2 := by
  obtain ⟨selector, patch⟩ := rule
  rw [compileRule, bind_eq_ok_iff]
  simp only [bind_eq_ok_iff]
  constructor
  · rintro ⟨q, hq, p, hp, heq⟩
    cases heq
    exact ⟨hq, hp⟩
  · rintro ⟨hq, hp⟩
    exact ⟨selector, hq, patch, hp, rfl⟩

/-- A section has the step of its compiled entries, or none if it has no entries. -/
theorem ifAny_eq_ok_iff {α β : Type} {R : α → β → Prop} {entries : List α}
    {result : Except Error (List β)} (h : ∀ bs, result = .ok bs ↔ List.Forall₂ R entries bs)
    {step : List β → CurationStep} {steps : List CurationStep} :
    ifAny entries (result.map step) = .ok steps ↔
      ∃ bs, List.Forall₂ R entries bs ∧ unlessNil step bs = steps := by
  cases entries with
  | nil =>
    simp only [List.forall₂_nil_left_iff, exists_eq_left]
    exact ⟨Except.ok.inj, congrArg Except.ok⟩
  | cons entry entries =>
    rw [ifAny, if_neg (by simp), map_eq_ok_iff]
    simp only [map_eq_ok_iff, h]
    constructor
    · rintro ⟨_, ⟨bs, hbs, rfl⟩, rfl⟩
      obtain ⟨b, bs, -, -, rfl⟩ := List.forall₂_cons_left_iff.1 hbs
      exact ⟨_, hbs, rfl⟩
    · rintro ⟨bs, hbs, rfl⟩
      refine ⟨_, ⟨bs, hbs, rfl⟩, ?_⟩
      obtain ⟨b, bs, -, -, rfl⟩ := List.forall₂_cons_left_iff.1 hbs
      rfl

/-- The steps of a configuration are those of a plan that it compiles to. -/
theorem ofConfig_eq_ok_iff {c : Config} {steps : List CurationStep} :
    ofConfig c = .ok steps ↔ ∃ p, c.CompilesTo p ∧ p.steps = steps := by
  have hselectors (heading : String) (selectors : List SelectorConfig)
      (qs : List ArtifactSelector) :
      inContext heading (compileSelectors selectors) = .ok qs ↔
        List.Forall₂ (fun s q => s.toSelector = .ok q) selectors qs :=
    inContext_eq_ok_iff.trans mapM_eq_ok_iff
  rw [ofConfig]
  simp only [bind_eq_ok_iff, removeOf, overrideOf, addOf, ignoreOf,
    ifAny_eq_ok_iff (hselectors _ _), ifAny_eq_ok_iff fun _ => compileEach_eq_ok_iff]
  constructor
  · rintro ⟨_, ⟨removals, hremovals, rfl⟩, _, ⟨rules, hrules, rfl⟩, _, ⟨patches, hpatches, rfl⟩, _,
      ⟨ignores, hignores, rfl⟩, heq⟩
    exact ⟨⟨removals, rules, patches, ignores⟩, ⟨hremovals, hrules, hpatches, hignores⟩,
      Except.ok.inj heq⟩
  · rintro ⟨p, h, rfl⟩
    exact ⟨_, ⟨_, h.removals, rfl⟩, _, ⟨_, h.overrides, rfl⟩, _, ⟨_, h.additions, rfl⟩, _,
      ⟨_, h.ignores, rfl⟩, rfl⟩

theorem exists_ofConfig_iff {c : Config} : (∃ steps, ofConfig c = .ok steps) ↔ c.Compiles := by
  rw [← Config.exists_compilesTo_iff]
  simp only [ofConfig_eq_ok_iff]
  constructor
  · rintro ⟨_, p, hp, -⟩
    exact ⟨p, hp⟩
  · rintro ⟨p, hp⟩
    exact ⟨_, p, hp, rfl⟩

end CurationStep

end Clearinghouse
