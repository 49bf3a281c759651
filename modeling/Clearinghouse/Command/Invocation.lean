import Clearinghouse.Command.Product
import Clearinghouse.Path

/-!
# Invocations

The arguments of a run name a command, its inputs and settings. The settings that hold for
every command may stand before its name or after it; where both say something, what is said
after it counts. Each setting is given at most once on either side.
-/

namespace Clearinghouse

inductive Command
  | merge (inputs : List Path) (output : Option Path)
  | check (inputs : List Path) (format : ReportFormat) (output : Option Path)
  | schema (output : Option Path)
  | exampleConfig
  deriving DecidableEq, Repr

structure Invocation where
  verbose : Bool
  quiet : Bool
  config : Option Path
  preset : Option String
  command : Command
  deriving DecidableEq, Repr

/-- What a run can be asked for instead of a command; `usage` if it is not clear what for. -/
inductive Detour
  | usage
  | version
  | help
  deriving DecidableEq, Repr

/-! ## Settings -/

inductive Setting
  | verbose
  | quiet
  | config
  | preset
  | output
  | format
  deriving DecidableEq, Repr

namespace Setting

/-- The settings that hold for every command. -/
def shared : List Setting := [verbose, quiet, config, preset]

def name : Setting → String
  | verbose => "verbose"
  | quiet => "quiet"
  | config => "config"
  | preset => "preset"
  | output => "output"
  | format => "format"

def letter? : Setting → Option Char
  | verbose => some 'v'
  | quiet => some 'q'
  | config => none
  | preset => none
  | output => some 'o'
  | format => some 'f'

def takesValue : Setting → Bool
  | verbose => false
  | quiet => false
  | _ => true

/-- The values that a setting may have. -/
def allows (value : String) : Setting → Bool
  | config => !value.isEmpty
  | output => !value.isEmpty
  | format => (ReportFormat.ofName? value).isSome
  | _ => true

end Setting

/-! ## Names of commands -/

inductive CommandName
  | merge
  | check
  | schema
  | exampleConfig
  deriving DecidableEq, Repr

namespace CommandName

def all : List CommandName := [merge, check, schema, exampleConfig]

def text : CommandName → String
  | merge => "merge"
  | check => "check"
  | schema => "schema"
  | exampleConfig => "example-config"

def ofText? (s : String) : Option CommandName := all.find? (·.text == s)

/-- The settings that can follow the name. -/
def settings : CommandName → List Setting
  | merge => .output :: Setting.shared
  | check => .format :: .output :: Setting.shared
  | schema => .output :: Setting.shared
  | exampleConfig => Setting.shared

def takesInputs : CommandName → Bool
  | merge => true
  | check => true
  | _ => false

end CommandName

/-! ## Arguments -/

inductive Argument
  /-- Two dashes and a name, with a value after an equals sign. -/
  | long (name : String) (value : Option String)
  /-- A dash and letters. -/
  | letters (cs : List Char)
  /-- Two dashes alone. What follows is plain. -/
  | terminator
  | plain (text : String)
  deriving DecidableEq, Repr

def Argument.ofText (s : String) : Argument :=
  match s.toList with
  | ['-', '-'] => terminator
  | '-' :: '-' :: cs =>
    match Text.cutFirst? (· == '=') cs with
    | some (name, value) => long (.ofList name) (some (.ofList value))
    | none => long (.ofList cs) none
  | '-' :: c :: cs => letters (c :: cs)
  | _ => plain s

/-- What the arguments on one side of the name have said. -/
structure Said where
  settings : List (Setting × String)
  inputs : List String
  deriving DecidableEq, Repr

namespace Said

def nothing : Said := ⟨[], []⟩

def get? (said : Said) (setting : Setting) : Option String := said.settings.lookup setting

/-- Give a setting its value, for the first time. -/
def give (said : Said) (setting : Setting) (value : String) : Except Detour Said :=
  if (said.get? setting).isSome || !setting.allows value then .error .usage
  else .ok { said with settings := said.settings ++ [(setting, value)] }

def addInput (said : Said) (input : String) : Except Detour Said :=
  if input.isEmpty then .error .usage else .ok { said with inputs := said.inputs ++ [input] }

/-! ## Reading settings

The setting that still waits for its value, if there is one, is given back as well. -/

def readLong (known : List Setting) (said : Said) (name : String) (value : Option String) :
    Except Detour (Said × Option Setting) :=
  match known.find? (·.name == name), value with
  | none, none => .error (if name == "help" then .help else .usage)
  | none, some _ => .error .usage
  | some setting, none =>
    if setting.takesValue then .ok (said, some setting)
    else (said.give setting "").map (·, none)
  | some setting, some value =>
    if setting.takesValue then (said.give setting value).map (·, none) else .error .usage

/-- The value that is attached to a letter, with or without an equals sign. -/
def attached : List Char → String
  | '=' :: cs => .ofList cs
  | cs => .ofList cs

def readLetters (known : List Setting) (said : Said) :
    List Char → Except Detour (Said × Option Setting)
  | [] => .ok (said, none)
  | c :: cs =>
    match known.find? (·.letter? == some c) with
    | none => .error (if c == 'h' then .help else .usage)
    | some setting =>
      if !setting.takesValue then do readLetters known (← said.give setting "") cs
      else if cs.isEmpty then .ok (said, some setting)
      else (said.give setting (attached cs)).map (·, none)

/-! ## Reading both sides -/

/-- What the words after `help` ask for: help on one command, or on the whole. -/
def helpOn : List String → Detour
  | [] => .help
  | [word] => if word == "help" || (CommandName.ofText? word).isSome then .help else .usage
  | _ => .usage

/-- The arguments up to the name of a command, the name, and what follows it. -/
def readFront (said : Said) (waiting : Option Setting) :
    List String → Except Detour (Said × CommandName × List String)
  | [] => .error .usage
  | arg :: args =>
    match waiting, Argument.ofText arg with
    | some setting, .plain value => do readFront (← said.give setting value) none args
    | some _, _ => .error .usage
    | none, .plain word =>
      match CommandName.ofText? word with
      | some name => .ok (said, name, args)
      | none => .error (if word == "help" then helpOn args else .usage)
    | none, .terminator => .error .usage
    | none, .long name value => do
      if name == "version" && value.isNone then throw .version
      let (said, waiting) ← readLong Setting.shared said name value
      readFront said waiting args
    | none, .letters cs => do
      let flags := cs.takeWhile (· != 'V')
      let (said, waiting) ← readLetters Setting.shared said flags
      if flags.length < cs.length then throw .version
      readFront said waiting args

/-- The arguments after the name of a command. -/
def readBack (name : CommandName) (said : Said) (waiting : Option Setting) :
    List String → Except Detour Said
  | [] => if waiting.isSome then .error .usage else .ok said
  | arg :: args =>
    match waiting, Argument.ofText arg with
    | some setting, .plain value => do readBack name (← said.give setting value) none args
    | some _, _ => .error .usage
    | none, .plain input => do
      if !name.takesInputs then throw .usage
      readBack name (← said.addInput input) none args
    | none, .terminator =>
      if name.takesInputs then args.foldlM addInput said
      else if args.isEmpty then .ok said
      else .error .usage
    | none, .long option value => do
      let (said, waiting) ← readLong name.settings said option value
      readBack name said waiting args
    | none, .letters cs => do
      let (said, waiting) ← readLetters name.settings said cs
      readBack name said waiting args

end Said

/-! ## Invocations -/

namespace Invocation

/-- The command of a name, with what was said after it. -/
def commandOf (name : CommandName) (said : Said) : Command :=
  let inputs := said.inputs.map Path.mk
  let output := (said.get? .output).map Path.mk
  match name with
  | .merge => .merge inputs output
  | .check =>
    .check inputs (((said.get? .format).bind ReportFormat.ofName?).getD .summary) output
  | .schema => .schema output
  | .exampleConfig => .exampleConfig

def ofArguments (args : List String) : Except Detour Invocation := do
  let (front, name, args) ← Said.nothing.readFront none args
  let back ← Said.nothing.readBack name none args
  if name.takesInputs && back.inputs.isEmpty then throw .usage
  let shared setting := (back.get? setting).or (front.get? setting)
  return {
    verbose := (shared .verbose).isSome
    quiet := (shared .quiet).isSome
    config := (shared .config).map Path.mk
    preset := shared .preset
    command := commandOf name back }

end Invocation

end Clearinghouse
