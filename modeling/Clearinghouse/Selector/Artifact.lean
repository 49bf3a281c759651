import Clearinghouse.Artifact.Basic
import Clearinghouse.Config.Basic
import Clearinghouse.Selector.Coordinate

/-!
# Artifact selectors

An artifact is taken for one of its coordinates or for one of its file names. A selector
without patterns takes nothing. A configured selector is compiled to one that takes artifacts;
blank texts count as absent.
-/

namespace Clearinghouse

structure ArtifactSelector where
  coordinates : List CoordinateSelector
  filename : Option String
  deriving DecidableEq, Repr, Inhabited

/-- Whether a coordinate of the artifact is taken. -/
def CoordinateSelector.takesArtifact (q : CoordinateSelector) (a : Artifact) : Bool :=
  a.coordinates.any q.takes

/-- Whether the artifact has one of these coordinates. -/
def Artifact.sharesCoordinate (a : Artifact) (cs : List Coordinate) : Bool :=
  a.coordinates.any cs.contains

/-- Whether a file of the artifact has this name. -/
def Artifact.hasFile (a : Artifact) (name : String) : Bool :=
  (a.factsOf .filename).any fun f => f.filename?.any (·.answersTo name)

namespace ArtifactSelector

def empty : ArtifactSelector := ⟨[], none⟩

def isEmpty (q : ArtifactSelector) : Bool := q.coordinates.isEmpty && q.filename.isNone

def takes (q : ArtifactSelector) (a : Artifact) : Bool :=
  q.coordinates.any (·.takesArtifact a) || q.filename.any a.hasFile

def toText (q : ArtifactSelector) : String :=
  let files := q.filename.toList.map fun name => s!"file {name}"
  "[" ++ Text.join " | " (q.coordinates.map (·.toText) ++ files) ++ "]"

instance : ToString ArtifactSelector := ⟨toText⟩

end ArtifactSelector

/-! ## Configured selectors -/

namespace SelectorConfig

open Text

/-- The text, unless it is absent or blank. -/
def said (s : Option String) : Option String := s.filter (!isAllBlank ·)

/-- Nothing is selected. -/
def isEmpty (c : SelectorConfig) : Bool := (said c.coordinate).isNone && (said c.filename).isNone

/-- Compile a coordinate pattern. -/
def coordinateSelector (pattern : String) : Except Error CoordinateSelector :=
  inContext s!"selector '{pattern}'" (CoordinateSelector.parse pattern)

def toSelector (c : SelectorConfig) : Except Error ArtifactSelector := do
  let coordinate ← (said c.coordinate).mapM coordinateSelector
  return ⟨coordinate.toList, (said c.filename).map trim⟩

end SelectorConfig

end Clearinghouse
