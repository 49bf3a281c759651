import Clearinghouse.Command.Invocation
import Clearinghouse.Config.Discovery
import Clearinghouse.Config.Preset
import Clearinghouse.Config.Sample
import Clearinghouse.Config.Schema
import Clearinghouse.Config.Validation
import Clearinghouse.Json.Pretty

/-!
# How runs end

A run looks at its surroundings but changes nothing before its end: then it may write one file,
and it shows a screen that depends on whether that went well.
-/

namespace Clearinghouse

/-- What is left to see of a run. -/
structure Screen where
  exitCode : Nat
  stdout : String
  stderr : String
  deriving DecidableEq, Repr

structure Ending where
  file : Option (Path × String)
  done : Screen
  /-- The screen if the file could not be written. -/
  refused : FileFault → Screen

namespace Ending

def showing (screen : Screen) : Ending := ⟨none, screen, fun _ => screen⟩

/-- Show an error message. -/
def failing (exitCode : Nat) (message : String) : Screen := ⟨exitCode, "", s!"Error: {message}\n"⟩

def version : String := "antenna 0.1.0\n"

def usage : String :=
  "Usage: antenna [--verbose] [--quiet] [--config PATH] [--preset NAME] COMMAND\n" ++
  "Commands:\n" ++
  "  merge INPUT... [--output PATH]\n" ++
  "  check INPUT... [--format summary|json] [--output PATH]\n" ++
  "  schema [--output PATH]\n" ++
  "  example-config\n"

/-- The end of a run that has no command to carry out. -/
def ofDetour : Detour → Ending
  | .usage => showing ⟨2, "", usage⟩
  | .version => showing ⟨0, version, ""⟩
  | .help => showing ⟨0, usage, ""⟩

/-! ## Configurations -/

/-- The configuration of a preset. -/
def presetConfig (name : String) : Except String Config :=
  match Preset.ofName? name with
  | some preset => .ok preset.config
  | none =>
    let names := Text.join ", " (Preset.all.map (·.name))
    .error s!"unknown preset '{name}' (expected one of: {names})"

/-- The configuration that a run chooses. -/
def chosenConfig (s : Surroundings) (i : Invocation) : Except String Config :=
  match i.preset with
  | some name => presetConfig name
  | none => .ok (Config.loadOrStandard s i.config).1

/-- The configuration of a run, or what is wrong with it. -/
def configOf (s : Surroundings) (i : Invocation) : Except String Config := do
  let config ← chosenConfig s i
  match config.faults s.isDirectory with
  | [] => return config
  | faults => throw ("invalid configuration:" ++ String.join (faults.map fun f => s!"\n  {f}"))

/-! ## Commands -/

/-- Give out what a command has produced. -/
def ofProduct (output : Option Path) : Except Failure Product → Ending
  | .error failure => showing (failing 3 failure.line)
  | .ok product =>
    match output with
    | none => showing ⟨product.exitCode, product.content, ""⟩
    | some path =>
      ⟨some (path, product.content), ⟨product.exitCode, "", ""⟩,
        fun fault => failing 3 (Failure.ofOutput path fault).line⟩

/-- Carry out a command that needs a configuration. -/
def ofWork (s : Surroundings) (i : Invocation) (output : Option Path)
    (work : Config → Product.Work Product) : Logged Warning Ending :=
  match configOf s i with
  | .error message => pure (showing (failing 1 message))
  | .ok config => ofProduct output <$> (work config).run

def ofSchema : Option Path → Ending
  | none => showing ⟨0, Config.schema.pretty ++ "\n", ""⟩
  | some path =>
    ⟨some (path, Config.schema.pretty), ⟨0, "", s!"Schema written to {path}\n"⟩,
      fun fault => failing 1 ((Failure.ofFault fault).within s!"failed to write {path}").block⟩

def ofInvocation (s : Surroundings) (time : String) (i : Invocation) : Logged Warning Ending :=
  match i.command with
  | .merge inputs output => ofWork s i output fun c => Product.merge s c inputs
  | .check inputs format output => ofWork s i output fun c => Product.check s c format time inputs
  | .schema output => pure (ofSchema output)
  | .exampleConfig => pure (showing ⟨0, Config.sample, ""⟩)

/-- How a run with these arguments ends; reports say that they were made at `time`. -/
def ofArguments (s : Surroundings) (time : String) (args : List String) : Logged Warning Ending :=
  match Invocation.ofArguments args with
  | .error detour => pure (ofDetour detour)
  | .ok i => ofInvocation s time i

/-- What an ending leaves behind in a file tree, and the screen that it leads to. -/
def leave (e : Ending) (t : FileTree) : FileTree × Screen :=
  match e.file with
  | none => (t, e.done)
  | some (path, content) =>
    match t.write path (Utf8.encode content) with
    | .ok t => (t, e.done)
    | .error fault => (t, e.refused fault)

end Ending

end Clearinghouse
