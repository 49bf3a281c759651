import Clearinghouse.Files.Surroundings

/-!
# Snapshots

What was seen of a file system when it was asked about some paths. Paths that it was not asked
about count as missing.
-/

namespace Clearinghouse

/-- What was seen at a path. -/
structure Sighting where
  isThere : Bool
  isDirectory : Bool
  content : Except FileFault (List UInt8)

structure Snapshot where
  workingDir : Path
  configHome : Option Path
  /-- What was seen, by paths as they are written. -/
  sightings : List (String × Sighting)

namespace Snapshot

/-- Note what was seen at a path. -/
def add (s : Snapshot) (p : Path) (seen : Sighting) : Snapshot :=
  { s with sightings := (p.text, seen) :: s.sightings }

def get? (s : Snapshot) (p : Path) : Option Sighting := s.sightings.lookup p.text

def surroundings (s : Snapshot) : Surroundings where
  workingDir := s.workingDir
  configHome := s.configHome
  pathExists p := (s.get? p).any (·.isThere)
  isDirectory p := (s.get? p).any (·.isDirectory)
  read p := ((s.get? p).map (·.content)).getD (.error .notFound)

end Snapshot

end Clearinghouse
