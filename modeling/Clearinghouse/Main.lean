import Clearinghouse.Command.Survey
import Clearinghouse.Files.Snapshot
import Std.Time

/-!
# The command line program

All that touches the world: look at the paths that the run asks about, let it come to its end,
then write the file and show the screen.
-/

namespace Clearinghouse.Program

/-- What an error of the file system means. -/
def faultOf (isDirectory : Bool) : IO.Error → FileFault
  | .noFileOrDirectory .. => .notFound
  | .permissionDenied .. => .other "Permission denied (os error 13)"
  | .noSuchThing .. => .notFound
  | e => if isDirectory then .isADirectory else .other (toString e)

/-- Look at a path. -/
def look (p : Path) : IO Sighting := do
  let file := (← IO.currentDir) / p.text
  let isThere := !p.text.isEmpty && (← file.pathExists)
  let isDirectory := isThere && (← file.isDir)
  let content ←
    if isThere && !isDirectory then
      try pure (.ok (← IO.FS.readBinFile file).data.toList)
      catch e => pure (.error (faultOf isDirectory e))
    else pure (.error (if isDirectory then .isADirectory else .notFound))
  return { isThere, isDirectory, content }

/-- The directory for the configuration files of the user. -/
def configHome : IO (Option Path) := do
  let home := (← IO.getEnv "HOME").map fun home => (Path.mk home).join ⟨".config"⟩
  let named := (← IO.getEnv "XDG_CONFIG_HOME").map Path.mk
  return (named.filter (·.isAbsolute)).or home

/-- Ask all questions of a run. -/
def survey (i : Invocation) (snapshot : Snapshot) : IO Snapshot :=
  Invocation.rounds.foldlM (fun snapshot round => do
    (round snapshot.surroundings i).foldlM (fun snapshot p => return snapshot.add p (← look p))
      snapshot) snapshot

/-- Write the file of an ending and tell which screen it leads to. -/
def write (ending : Ending) : IO Screen := do
  match ending.file with
  | none => return ending.done
  | some (path, content) =>
    let file := (← IO.currentDir) / path.text
    try
      IO.FS.writeFile file content
      return ending.done
    catch e => return ending.refused (faultOf (← file.isDir) e)

/-- The present time. -/
def timeStamp : IO String := do
  let now := (← Std.Time.Timestamp.now).toDurationSinceUnixEpoch
  return (Std.Time.PlainDateTime.ofWallTime (.ofDuration now)).toLeanDateTimeString ++ "Z"

end Clearinghouse.Program

open Clearinghouse Program

def main (args : List String) : IO UInt32 := do
  let time ← timeStamp
  let blank : Snapshot := ⟨⟨(← IO.currentDir).toString⟩, ← configHome, []⟩
  let snapshot ←
    match Invocation.ofArguments args with
    | .ok i => survey i blank
    | .error _ => pure blank
  let ending := Ending.ofArguments snapshot.surroundings time args
  for warning in ending.log do
    IO.eprintln s!"WARN {warning.message}"
  let screen ← write ending.value
  IO.print screen.stdout
  IO.eprint screen.stderr
  return screen.exitCode.toUInt32
