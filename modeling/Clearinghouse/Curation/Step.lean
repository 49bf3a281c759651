import Clearinghouse.Curation.Patch
import Clearinghouse.Selector.Artifact

/-!
# Curation steps

The sections of a configuration are applied to a list of artifacts one after the other: remove,
override, add, ignore. All of them are compiled before any is applied, so a step that exists
cannot fail.

Artifacts may also be kept in one place. Then every step leaves there what it makes of them and
tells how many it touched, and whatever was left there when something fails is still there
afterwards.
-/

namespace Clearinghouse

inductive CurationStep
  /-- Drop the artifacts that a selector takes. -/
  | remove (selectors : List ArtifactSelector)
  /-- Apply every patch to the artifacts that its selector takes. -/
  | override (rules : List (ArtifactSelector × Patch))
  /-- Append artifacts. -/
  | add (patches : List Patch)
  /-- Mark the artifacts that a selector takes. -/
  | ignoreForDownload (selectors : List ArtifactSelector)
  deriving Repr

namespace CurationStep

/-- The source of an artifact that the configuration adds. -/
def configurationSource : String := "Configuration"

def name : CurationStep → String
  | remove _ => "remove"
  | override _ => "override"
  | add _ => "add"
  | ignoreForDownload _ => "ignore-for-download"

/-! ## Compiling -/

/-- Compile the entries of a section; the place of an entry is the context of its error. -/
def compileEach {α β : Type} (heading : String) (compile : α → Except Error β) (index : Nat) :
    List α → Except Error (List β)
  | [] => .ok []
  | entry :: entries => do
    let first ← inContext s!"{heading}[{index}]" (compile entry)
    return first :: (← compileEach heading compile (index + 1) entries)

def compileRule (r : OverrideRule) : Except Error (ArtifactSelector × Patch) := do
  let selector ← r.selector.toSelector
  return (selector, ← Patch.ofTemplate r.changes)

def compileSelectors (selectors : List SelectorConfig) : Except Error (List ArtifactSelector) :=
  selectors.mapM (·.toSelector)

def removeOf (c : Config) : Except Error CurationStep :=
  (inContext "removals" (compileSelectors c.removals)).map remove

def overrideOf (c : Config) : Except Error CurationStep :=
  (compileEach "overrides" compileRule 0 c.overrides).map override

def addOf (c : Config) : Except Error CurationStep :=
  (compileEach "additions" Patch.ofTemplate 0 c.additions).map add

def ignoreOf (c : Config) : Except Error CurationStep :=
  (inContext "ignore_for_download" (compileSelectors c.ignoreForDownload)).map ignoreForDownload

/-- A step, if its section has entries. -/
def ifAny {α : Type} (entries : List α) (step : Except Error CurationStep) :
    Except Error (List CurationStep) :=
  if entries.isEmpty then .ok [] else step.map ([·])

/-- The steps of a configuration, in order. -/
def ofConfig (c : Config) : Except Error (List CurationStep) := do
  let removals ← ifAny c.removals (removeOf c)
  let overrides ← ifAny c.overrides (overrideOf c)
  let additions ← ifAny c.additions (addOf c)
  let ignores ← ifAny c.ignoreForDownload (ignoreOf c)
  return removals ++ overrides ++ additions ++ ignores

/-! ## Applying -/

def takenByAny (selectors : List ArtifactSelector) (a : Artifact) : Bool :=
  selectors.any (·.takes a)

/-- Apply the patches whose selectors take the artifact as the patches before left it, and say
whether there was one. -/
def applyRules (rules : List (ArtifactSelector × Patch)) (a : Artifact) : Artifact × Bool :=
  rules.foldl
    (fun (a, touched) (selector, patch) =>
      if selector.takes a then (patch.apply a, true) else (a, touched))
    (a, false)

/-- The artifacts after the step, and how many it touched. -/
def apply : CurationStep → List Artifact → List Artifact × Nat
  | remove selectors, as =>
    let kept := as.filter (!takenByAny selectors ·)
    (kept, as.length - kept.length)
  | override rules, as =>
    let results := as.map (applyRules rules)
    (results.map (·.1), results.countP (·.2))
  | add patches, as =>
    (as ++ patches.map (·.toArtifact configurationSource), patches.length)
  | ignoreForDownload selectors, as =>
    let mark (a : Artifact) :=
      if takenByAny selectors a then a.setFlag .ignoreForDownload true else a
    (as.map mark, as.countP (takenByAny selectors))

/-- Apply steps in order; the number counts what each of them touched. -/
def applyAll (steps : List CurationStep) (as : List Artifact) : List Artifact × Nat :=
  steps.foldl
    (fun (as, total) step =>
      let (as, touched) := step.apply as
      (as, total + touched))
    (as, 0)

/-- Apply a configuration to a list of artifacts. -/
def curate (c : Config) (as : List Artifact) : Except Error (List Artifact × Nat) :=
  (ofConfig c).map (applyAll · as)

end CurationStep

/-! ## Applying in place -/

/-- What works on artifacts in their place, and may fail. -/
abbrev Editing := ExceptT Error (StateM (List Artifact))

namespace CurationStep

def process (step : CurationStep) : Editing Nat :=
  modifyGet fun as =>
    let (as, touched) := step.apply as
    (touched, as)

/-- Process steps in order, and add up what each of them touched. -/
def processAll (steps : List CurationStep) : Editing Nat :=
  steps.foldlM (fun total step => do return total + (← step.process)) 0

/-- Apply a configuration to the artifacts in their place. -/
def curateInPlace (c : Config) : Editing Nat := do
  let steps ← ExceptT.mk (pure (ofConfig c))
  processAll steps

end CurationStep

end Clearinghouse
