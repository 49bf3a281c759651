import Clearinghouse.Artifact.Basic
import Clearinghouse.Config.Basic

/-!
# Policy rules

A rule looks at one artifact and finds a violation or none. What a rule asks for is also said as
a proposition of the artifact (`Rule.Holds`), and a violation is found exactly where it does not
hold (`violation?_eq_none_iff`). A configuration has no rules exactly if its section on policies
asks for nothing (`rules_eq_nil_iff`).
-/

namespace Clearinghouse

inductive Severity
  | info
  | warning
  | error
  deriving DecidableEq, Repr, Inhabited

namespace Severity

def all : List Severity := [info, warning, error]

def name : Severity → String
  | info => "info"
  | warning => "warning"
  | error => "error"

def ofName? (s : String) : Option Severity := all.find? (·.name == s)

end Severity

structure Violation where
  ruleId : String
  severity : Severity
  message : String
  deriving DecidableEq, Repr

inductive Rule
  /-- The clearing must have come at least this far. -/
  | minimumClearingState (minimum : ClearingState)
  /-- None of these licenses may be part of the license that counts. -/
  | forbiddenLicense (ids : List String)
  /-- The sources must have a place, unless the artifact is proprietary. -/
  | sourceUrlRequired
  deriving DecidableEq, Repr

namespace Rule

def id : Rule → String
  | minimumClearingState _ => "minimum-clearing-state"
  | forbiddenLicense _ => "forbidden-license"
  | sourceUrlRequired => "source-url-required"

/-- Put `s` in its place among sorted texts, unless it is there already. -/
def insertSorted (s : String) : List String → List String
  | [] => [s]
  | t :: ts => if s < t then s :: t :: ts else if s = t then t :: ts else t :: insertSorted s ts

/-- The different texts in order. -/
def sorted (ss : List String) : List String := ss.foldr insertSorted []

def description : Rule → String
  | minimumClearingState minimum => s!"Clearing state must be at least {minimum}"
  | forbiddenLicense ids => "Effective license must not include " ++ Text.join ", " (sorted ids)
  | sourceUrlRequired => "Non-proprietary artifacts must have a source URL"

def severity : Rule → Severity
  | sourceUrlRequired => .warning
  | _ => .error

/-- The clearing state of an artifact. -/
def clearingStateOf (a : Artifact) : Option ClearingState :=
  (a.fact? .clearingState).bind (·.clearingState?)

/-- The forbidden ids in the license that counts. -/
def hits (ids : List String) (a : Artifact) : List String :=
  match a.effectiveLicense? with
  | none => []
  | some t => (t.licenses.map (·.id)).filter ids.contains

/-- Why the artifact violates the rule, if it does. -/
def complaint? (a : Artifact) : Rule → Option String
  | minimumClearingState minimum =>
    match clearingStateOf a with
    | none => some s!"{a} has no clearing state"
    | some state => if minimum ≤ state then none else some s!"{a} is {state}, below {minimum}"
  | forbiddenLicense ids =>
    let found := hits ids a
    let listed := Text.join ", " found
    let evaluated := (a.effectiveLicense?.map (·.evaluate)).getD ""
    if found.isEmpty then none
    else some s!"{a} is licensed under {evaluated} which includes {listed}"
  | sourceUrlRequired =>
    if a.isProprietary || (a.fact? .sourceUrl).isSome then none else some s!"{a} has no source URL"

def violation? (r : Rule) (a : Artifact) : Option Violation :=
  (r.complaint? a).map fun message => ⟨r.id, r.severity, message⟩

/-! ## What a rule asks for -/

def Holds (a : Artifact) : Rule → Prop
  | minimumClearingState minimum => ∃ state, clearingStateOf a = some state ∧ minimum ≤ state
  | forbiddenLicense ids =>
    ∀ t, a.effectiveLicense? = some t → ∀ l ∈ t.licenses, l.id ∉ ids
  | sourceUrlRequired => a.isProprietary = true ∨ ∃ f, a.fact? .sourceUrl = some f

theorem violation?_eq_none_iff (r : Rule) (a : Artifact) :
    r.violation? a = none ↔ r.Holds a := by
  cases r with
  | minimumClearingState minimum =>
    cases h : clearingStateOf a with
    | none => simp [violation?, complaint?, Holds, h]
    | some state => simp [violation?, complaint?, Holds, h]
  | forbiddenLicense ids =>
    cases h : a.effectiveLicense? with
    | none => simp [violation?, complaint?, hits, Holds, h]
    | some t => simp [violation?, complaint?, hits, Holds, h, List.filter_eq_nil_iff]
  | sourceUrlRequired =>
    simp only [violation?, complaint?, Holds, ← Option.isSome_iff_exists, ← Bool.or_eq_true]
    split <;> simp_all

end Rule

/-! ## Configured rules -/

namespace PolicyConfig

/-- The rules that a configuration asks for, in the order in which they are checked. -/
def rules (c : PolicyConfig) : List Rule :=
  (c.minimumClearingState.map Rule.minimumClearingState).toList ++
    (if c.forbiddenLicenses.isEmpty then []
      else [.forbiddenLicense (c.forbiddenLicenses.map Text.trim)]) ++
    (if c.requireSourceUrl then [.sourceUrlRequired] else [])

theorem rules_eq_nil_iff (c : PolicyConfig) : c.rules = [] ↔ c.isEmpty := by
  obtain ⟨minimum, forbidden, url⟩ := c
  cases minimum <;> cases forbidden <;> cases url <;> simp [rules, isEmpty]

end PolicyConfig

end Clearinghouse
