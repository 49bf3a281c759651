import Clearinghouse.Artifact.Flags
import Clearinghouse.Artifact.Store
import Clearinghouse.Coordinate.Basic
import Clearinghouse.Logged
import Clearinghouse.Warning

/-!
# Artifacts

An artifact is known by its coordinates and described by facts and flags. A fact that arrives
meets the stored fact of its kind under the rule that the artifact's policy gives the kind; a
refused fact is reported and changes nothing.

An artifact may also be kept in one place and take up facts there. Whatever stands in the place
when a fact is refused is still there afterwards, so a refusal that came after a change would show.
-/

namespace Clearinghouse

structure Artifact where
  /-- Where the data come from. -/
  source : String
  coordinates : List Coordinate
  facts : FactStore
  flags : Flags
  policy : MergePolicy
  deriving Repr, Inhabited

namespace Artifact

/-- An artifact about which nothing is known. -/
def ofSource (source : String) : Artifact := ⟨source, [], .empty, .unset, .overwrite⟩

/-! ## Asking -/

/-- The first fact of a kind. -/
def fact? (a : Artifact) (k : FactKind) : Option Fact := a.facts.first? k

def factsOf (a : Artifact) (k : FactKind) : List Fact := a.facts.factsOf k

def hasFact (a : Artifact) (k : FactKind) : Bool := a.facts.contains k

/-- All facts, in the order in which their kinds came. -/
def allFacts (a : Artifact) : List Fact := a.facts.toList

def licenseFacts (a : Artifact) : List Fact := a.allFacts.filter (·.kind.isLicense)

def mainCoordinate? (a : Artifact) : Option Coordinate := a.coordinates.head?

def isProprietary (a : Artifact) : Bool := a.flags.isSet .proprietary

/-- The license of a kind, if it is there and says something. -/
def license? (a : Artifact) (k : FactKind) : Option LicenseTree :=
  ((a.fact? k).bind (·.license?)).filter (!·.isEmpty)

/-- What was declared and what was observed, which need not be said twice. -/
def detectedLicense? (a : Artifact) : Option LicenseTree :=
  match a.license? .declaredLicense, a.license? .observedLicense with
  | some declared, some observed =>
    if declared == observed then some declared
    else some (.statement [declared, observed] (some .and))
  | some license, none | none, some license => some license
  | none, none => none

/-- The license that counts: the overridden one, else the configured one, else what was
declared and observed. -/
def effectiveLicense? (a : Artifact) : Option LicenseTree :=
  (a.license? .overriddenLicense).or ((a.license? .configuredLicense).or a.detectedLicense?)

/-- How messages name the artifact: by its main coordinate, else by a file name. -/
def toText (a : Artifact) : String :=
  match a.mainCoordinate? with
  | some c => c.toPurl
  | none =>
    ((a.factsOf .filename).findSome? fun f => f.filename?.bind (·.name)).getD
      "<unidentified artifact>"

instance : ToString Artifact := ⟨toText⟩

/-! ## Changing -/

def setFlag (a : Artifact) (f : Flag) (value : Bool) : Artifact :=
  { a with flags := a.flags.set f value }

def addCoordinate (a : Artifact) (c : Coordinate) : Artifact :=
  { a with coordinates := Coordinate.insert c a.coordinates }

/-- Store `facts` as the facts of a kind. -/
def put (a : Artifact) (k : FactKind) (facts : List Fact) : Artifact :=
  { a with facts := a.facts.put k facts }

/-- Add a fact under the artifact's policy, unless it is refused. A kind with several values
takes every fact that is not there yet. -/
def tryAddFact (a : Artifact) (f : Fact) : Except FactConflict Artifact :=
  if f.kind.isMultiValued then
    let facts := a.factsOf f.kind
    .ok (a.put f.kind (if facts.contains f then facts else facts ++ [f]))
  else
    match a.fact? f.kind with
    | none => .ok (a.put f.kind [f])
    | some existing =>
      match f.mergeWith existing (a.policy.ruleFor f.kind) with
      | .replace merged => .ok (a.put f.kind [merged])
      | .keep => .ok a
      | .conflict incoming => .error ⟨f.kind, existing, incoming⟩

/-- Add a fact; a refusal is reported. -/
def addFact (a : Artifact) (f : Fact) : Logged Warning Artifact :=
  match a.tryAddFact f with
  | .ok a => pure a
  | .error conflict => do
    Logged.report (.conflict a.toText conflict)
    return a

/-- Store the fact as the only one of its kind, whatever the policy. -/
def overrideFact (a : Artifact) (f : Fact) : Artifact := a.put f.kind [f]

def removeFacts (a : Artifact) (k : FactKind) : Artifact := { a with facts := a.facts.erase k }

/-- Take over all that another artifact says. -/
def mergeWith (a b : Artifact) : Logged Warning Artifact := do
  let a := b.coordinates.foldl addCoordinate a
  let a ← b.allFacts.foldlM addFact a
  return { a with flags := a.flags.merge b.flags }

/-! ## Changing in place -/

/-- What works on an artifact in its place, and may refuse a fact. -/
abbrev Amending := ExceptT FactConflict (StateM Artifact)

/-- Add a fact in place, unless it is refused. The report names the fact that is stored when the
refusal is made. -/
def tryAddInPlace (f : Fact) : Amending Unit := do
  let a ← get
  if f.kind.isMultiValued then
    let facts := a.factsOf f.kind
    unless facts.contains f do
      set (a.put f.kind (facts ++ [f]))
  else
    let outcome : Fact.MergeOutcome :=
      match a.fact? f.kind with
      | none => .replace f
      | some existing => f.mergeWith existing (a.policy.ruleFor f.kind)
    match outcome with
    | .replace merged => set (a.put f.kind [merged])
    | .keep => pure ()
    | .conflict incoming =>
      let existing := ((← get).fact? f.kind).getD incoming
      throw ⟨f.kind, existing, incoming⟩

/-! ## Equality -/

/-- The same facts, in any order. -/
def sameFacts (fs gs : List Fact) : Bool := fs.length == gs.length && fs.all gs.contains

/-- The same coordinates in any order, the same facts of every kind and the same flags set.
Source and policy do not count. -/
def same (a b : Artifact) : Bool :=
  a.coordinates.length == b.coordinates.length &&
    a.coordinates.all b.coordinates.contains &&
    a.facts.slots.length == b.facts.slots.length &&
    a.facts.slots.all (fun (k, facts) => (b.facts.get? k).any (sameFacts facts)) &&
    a.flags.active == b.flags.active

instance : BEq Artifact := ⟨same⟩

/-! ## Printing -/

/-- A line break inside a line is shown as a slash. -/
def onOneLine (s : String) : String :=
  .ofList (s.toList.flatMap fun c => if c == '\n' then [' ', '/', ' '] else [c])

/-- A line under a heading, if there is something to list. -/
def listed (heading : String) (items : List String) : List String :=
  if items.isEmpty then [] else ["  " ++ heading ++ ": " ++ Text.join ", " items ++ "\n"]

/-- The artifact for readers, over several lines. -/
def pretty (a : Artifact) : String :=
  let title := if a.source.isEmpty then "Artifact\n" else s!"Artifact (from {a.source})\n"
  let coordinates := listed "Coordinates" (a.coordinates.map (·.toPurl))
  let facts := a.allFacts.map fun f => s!"  {f.kind.name}: {onOneLine f.toText}\n"
  let flags := listed "Flags" (a.flags.active.map (·.name))
  String.join (title :: coordinates ++ facts ++ flags)

end Artifact

end Clearinghouse
