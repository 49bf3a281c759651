import Clearinghouse.Config.Record
import Clearinghouse.Files.Surroundings
import Clearinghouse.Text.Utf8
import Clearinghouse.Yaml.Document

/-!
# Configuration files

A run is configured by the file that it is told to use, else by a file of a known name in the
working directory, else by one among the files of the user. A file that cannot be used
configures nothing: then the standard configuration holds.
-/

namespace Clearinghouse

namespace Config

/-- The names of configuration files, the preferred one first. -/
def fileNames : List String := [".antenna.yaml", ".antenna.yml", "antenna.yaml", "antenna.yml"]

/-- The configuration files that a directory may hold. -/
def filesIn (dir : Path) : List Path := fileNames.map fun name => dir.join ⟨name⟩

/-- Where a configuration file may be, in the order of preference. -/
def places (s : Surroundings) (explicit : Option Path) : List Path :=
  explicit.toList ++ filesIn s.workingDir ++
    s.configHome.toList.flatMap fun home => filesIn (home.join ⟨"antenna"⟩)

/-- The configuration file of a run. -/
def discover (s : Surroundings) (explicit : Option Path) : Option Path :=
  (places s explicit).find? s.pathExists

/-- Why a configuration file cannot be used. -/
inductive FileTrouble
  | notFound (path : Path)
  | unreadable (detail : String)
  /-- The file is no YAML, or its values are not those of a configuration. -/
  | malformed
  deriving DecidableEq, Repr

def FileTrouble.message : FileTrouble → String
  | notFound path => s!"Config file not found: {path}"
  | unreadable detail => s!"Failed to read config file: {detail}"
  | malformed => "Failed to parse config file"

/-- The configuration in a text. -/
def ofText? (text : String) : Option Config :=
  (Yaml.parse? text).bind Config.read?

/-- The configuration in a file. -/
def load (s : Surroundings) (p : Path) : Except FileTrouble Config :=
  if s.pathExists p then
    match s.read p with
    | .error fault => .error (.unreadable fault.message)
    | .ok bytes =>
      match Utf8.decode? bytes with
      | none => .error (.unreadable "stream did not contain valid UTF-8")
      | some text => (ofText? text).elim (.error .malformed) .ok
  else .error (.notFound p)

/-- The configuration of a run, and the file that it is from. -/
def loadOrStandard (s : Surroundings) (explicit : Option Path) : Config × Option Path :=
  match discover s explicit with
  | none => (.standard, none)
  | some path =>
    match load s path with
    | .ok config => (config, some path)
    | .error _ => (.standard, none)

end Config

end Clearinghouse
