import Clearinghouse.Artifact.Basic
import Clearinghouse.Config.Basic
import Clearinghouse.License.Expression

/-!
# Patches

A template compiles to a patch: the coordinates to add, the facts to store and the flags to set.
Applying a patch cannot fail, and no policy resists it.
-/

namespace Clearinghouse

structure Patch where
  coordinates : List Coordinate
  facts : List Fact
  flags : List (Flag × Bool)
  deriving Repr, Inhabited

namespace Patch

/-! ## Compiling -/

/-- A coordinate as it is written in a template. -/
def coordinate (text : String) : Except Error Coordinate :=
  inContext s!"coordinate '{text}'" (Coordinate.parse text)

/-- A license as it is written in a template. -/
def license (expression : String) : Except Error LicenseTree :=
  inContext s!"license '{expression}'" (LicenseTree.parse expression)

def cpe (text : String) : Except Error Cpe :=
  match Cpe.ofText? text with
  | some name => .ok name
  | none => .error (.validation s!"'{text}' is not a CPE identifier")

/-- The fact that an optional text makes, if it is there. -/
def optional {α : Type} (read : String → Except Error α) (fact : α → Fact) (text : Option String) :
    Except Error (List Fact) :=
  match text with
  | none => .ok []
  | some text => (read text).map fun value => [fact value]

/-- The file fact of a template. -/
def fileFact (t : Template) : List Fact :=
  if t.filename.isNone && t.hash.isNone then [] else [.filename ⟨t.filename, t.hash⟩]

/-- The facts that a template states, in the order of its fields. -/
def factsOf (t : Template) : Except Error (List Fact) := do
  let declared ← optional license .declaredLicense t.declaredLicense
  let observed ← optional license .observedLicense t.observedLicense
  let overridden ← optional license .overriddenLicense t.overriddenLicense
  let configured ← optional license .configuredLicense t.configuredLicense
  let heritage ← optional SoftwareHeritageId.parse .softwareHeritageId t.softwareHeritageId
  let cpe ← optional cpe .cpe t.cpe
  return fileFact t ++ declared ++ observed ++ overridden ++ configured ++
    (t.copyrights.map fun text => Fact.copyright (.ofText text)).toList ++
    (t.sourceUrl.map Fact.sourceUrl).toList ++ (t.releaseTagUrl.map Fact.releaseTagUrl).toList ++
    heritage ++ (t.clearingState.map Fact.clearingState).toList ++
    (t.changeStatus.map Fact.changeStatus).toList ++ cpe

def flagsOf (t : Template) : List (Flag × Bool) :=
  (t.proprietary.map fun value => (Flag.proprietary, value)).toList ++
    (t.ignoreForDownload.map fun value => (Flag.ignoreForDownload, value)).toList

def ofTemplate (t : Template) : Except Error Patch := do
  let coordinates ← t.coordinates.mapM coordinate
  return ⟨coordinates, ← factsOf t, flagsOf t⟩

/-! ## Applying -/

/-- Put the patch over what is known about an artifact. -/
def apply (p : Patch) (a : Artifact) : Artifact :=
  let a := p.coordinates.foldl Artifact.addCoordinate a
  let a := p.facts.foldl Artifact.overrideFact a
  p.flags.foldl (fun a (f, value) => a.setFlag f value) a

/-- An artifact about which only the patch says something. -/
def toArtifact (p : Patch) (source : String) : Artifact :=
  p.apply ((Artifact.ofSource source).overrideFact (.matchingMetadata .exact))

theorem policy_apply (p : Patch) (a : Artifact) : (p.apply a).policy = a.policy := by
  have hc (cs : List Coordinate) (a : Artifact) :
      (cs.foldl Artifact.addCoordinate a).policy = a.policy := by
    induction cs generalizing a with
    | nil => rfl
    | cons c cs ih => rw [List.foldl_cons, ih]; rfl
  have hf (fs : List Fact) (a : Artifact) :
      (fs.foldl Artifact.overrideFact a).policy = a.policy := by
    induction fs generalizing a with
    | nil => rfl
    | cons f fs ih => rw [List.foldl_cons, ih]; rfl
  have hs (gs : List (Flag × Bool)) (a : Artifact) :
      (gs.foldl (fun a (f, value) => a.setFlag f value) a).policy = a.policy := by
    induction gs generalizing a with
    | nil => rfl
    | cons g gs ih => rw [List.foldl_cons, ih]; rfl
  rw [apply, hs, hf, hc]

end Patch

end Clearinghouse
