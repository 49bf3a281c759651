import Clearinghouse.License.Expression
import Clearinghouse.Selector.Artifact

/-!
# Validation of configurations

All that a configuration has wrong, each with the path of the field it is about. Whether a
directory exists is asked of the surroundings.
-/

namespace Clearinghouse

open Text

/-- Something that is wrong with a configuration. -/
structure ConfigFault where
  field : String
  message : String
  deriving DecidableEq, Repr

namespace ConfigFault

instance : ToString ConfigFault := ⟨fun f => s!"{f.field}: {f.message}"⟩

/-- The same fault, seen from the record that the field belongs to. -/
def within (outer : String) (f : ConfigFault) : ConfigFault :=
  { f with field := s!"{outer}.{f.field}" }

/-- A fault for what fails. -/
def ofResult {α : Type} (field : String) (result : Except Error α) : List ConfigFault :=
  match result with
  | .ok _ => []
  | .error e => [⟨field, e.message⟩]

/-- The faults of all entries of a section, from the entry at `index` on. -/
def ofEntries {α : Type} (heading : String) (faults : String → α → List ConfigFault)
    (index : Nat) : List α → List ConfigFault
  | [] => []
  | entry :: entries =>
    faults s!"{heading}[{index}]" entry ++ ofEntries heading faults (index + 1) entries

end ConfigFault

open ConfigFault

/-! ## Sections -/

/-- A delimiter that can be told from quotes, line breaks and other text. -/
def isDelimiter (c : Char) : Bool := c.toNat < 128 && c != '"' && c != '\n'

def TableConfig.faults (isDirectory : Path → Bool) (c : TableConfig) : List ConfigFault :=
  let delimiter :=
    if isDelimiter c.delimiter then []
    else
      [⟨"csv.delimiter", "Delimiter must be a single ASCII character other than a quote " ++
        s!"or newline, got {quoteChar c.delimiter}"⟩]
  let baseDir :=
    match c.baseDir with
    | none => []
    | some dir =>
      if isDirectory dir then [] else [⟨"csv.base_dir", s!"Directory does not exist: {dir}"⟩]
  delimiter ++ baseDir

def PolicyConfig.faults (c : PolicyConfig) : List ConfigFault :=
  ofEntries "policy.forbidden_licenses"
    (fun place id => if isAllBlank id then [⟨place, "License id must not be empty"⟩] else [])
    0 c.forbiddenLicenses

def SelectorConfig.faults (c : SelectorConfig) : List ConfigFault :=
  if c.isEmpty then [⟨"selector", "A selector needs a coordinate pattern or a file name"⟩]
  else ofResult "selector.coordinate" c.toSelector

/-- The faults of an optional license expression. -/
def licenseFaults (field : String) (expression : Option String) : List ConfigFault :=
  expression.toList.flatMap fun expression => ofResult field (LicenseTree.parse expression)

def cpeFaults (text : String) : List ConfigFault :=
  if (Cpe.ofText? text).isSome then []
  else [⟨"cpe", s!"'{text}' does not start with 'cpe:2.3:' or 'cpe:/'"⟩]

def Template.faults (t : Template) : List ConfigFault :=
  ofEntries "coordinates" (fun place text => ofResult place (Coordinate.parse text)) 0
      t.coordinates ++
    licenseFaults "declared_license" t.declaredLicense ++
    licenseFaults "observed_license" t.observedLicense ++
    licenseFaults "overridden_license" t.overriddenLicense ++
    licenseFaults "configured_license" t.configuredLicense ++
    t.softwareHeritageId.toList.flatMap
      (fun text => ofResult "software_heritage_id" (SoftwareHeritageId.parse text)) ++
    t.cpe.toList.flatMap cpeFaults

/-- The faults of an artifact to add, which must be identified by something. -/
def Template.additionFaults (place : String) (t : Template) : List ConfigFault :=
  t.faults.map (within place) ++
    (if t.coordinates.isEmpty && t.filename.isNone then
      [⟨place, "An added artifact needs a coordinate or a file name"⟩]
    else [])

def OverrideRule.faults (r : OverrideRule) : List ConfigFault :=
  r.selector.faults ++ r.changes.faults.map (within "set")

/-! ## Whole configurations -/

def Config.faults (isDirectory : Path → Bool) (c : Config) : List ConfigFault :=
  c.table.faults isDirectory ++ c.policy.faults ++
    ofEntries "overrides" (fun place r => r.faults.map (within place)) 0 c.overrides ++
    ofEntries "additions" Template.additionFaults 0 c.additions ++
    ofEntries "removals" (fun place s => s.faults.map (within place)) 0 c.removals ++
    ofEntries "ignore_for_download" (fun place s => s.faults.map (within place)) 0
      c.ignoreForDownload

end Clearinghouse
