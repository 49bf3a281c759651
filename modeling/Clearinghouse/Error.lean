import Clearinghouse.Text.Quoted

/-!
# Errors

An error names its cause; the wording is decided here and nowhere else. Callers may put a
context in front of an error, outermost first, which never changes its cause
(`cause_inContext`).
-/

namespace Clearinghouse

/-- Why a text was not read as the value it should be. -/
inductive Malformed
  | packageType (value : String)
  | coordinate (value reason : String)
  | license (expression reason : String)
  | choice (field value : String)
  deriving DecidableEq, Repr

def Malformed.message : Malformed → String
  | .packageType value => s!"Unknown package type '{value}'"
  | .coordinate value reason => s!"Malformed coordinate '{value}': {reason}"
  | .license expression reason => s!"Malformed license expression '{expression}': {reason}"
  | .choice field value => s!"Invalid value '{value}' for {field}"

/-- Every way in which an operation of this library fails. -/
inductive Error
  /-- A text does not spell the value it should. -/
  | parse (context : String) (cause : Malformed)
  /-- The text of a fact does not have the form its kind demands. -/
  | invalidFact (context value expected : String)
  /-- A table could not be read or written. -/
  | table (context detail : String)
  /-- The file system refused. -/
  | io (path : Option String) (context detail : String)
  /-- The configuration cannot be used. -/
  | config (text : String)
  /-- A value is not acceptable where it stands. -/
  | validation (text : String)
  deriving DecidableEq, Repr

namespace Error

/-- A value outside a closed list of names; the field is also the context. -/
def badValue (field value : String) : Error := parse field (.choice field value)

/-- A text that is no JSON value. -/
def badJson (detail : String) : Error := validation s!"JSON serialization: {detail}"

/-- A file system error at a path; its own text is the first context. -/
def atPath (path detail : String) : Error := io (some path) detail detail

/-- How messages show a path that may be absent. -/
def showPath : Option String → String
  | none => "None"
  | some path => s!"Some({Text.quote path})"

def message : Error → String
  | parse context _ => s!"Failed to parse: {context}"
  | invalidFact context _ _ => s!"Invalid fact: {context}"
  | table context _ => s!"CSV error: {context}"
  | io path context _ => s!"IO error at {showPath path}: {context}"
  | config text => s!"Invalid configuration: {text}"
  | validation text => s!"Validation failed: {text}"

/-- The text of what lies beneath the error, if something does. -/
def cause : Error → Option String
  | parse _ cause => some cause.message
  | invalidFact _ value expected =>
    some s!"'{value}' does not match the expected format {expected}"
  | table _ detail => some detail
  | io _ _ detail => some detail
  | config _ => none
  | validation _ => none

/-- The message, then the cause. -/
def chain (e : Error) : List String := e.message :: e.cause.toList

/-- A context in front of what is already said. -/
def prepend (context said : String) : String :=
  if said.isEmpty then context else s!"{context}: {said}"

/-- The same error, seen from further out. -/
def inContext (context : String) : Error → Error
  | parse said cause => parse (prepend context said) cause
  | invalidFact said value expected => invalidFact (prepend context said) value expected
  | table said detail => table (prepend context said) detail
  | io path said detail => io path (prepend context said) detail
  | config said => config (prepend context said)
  | validation said => validation (prepend context said)

theorem cause_inContext (context : String) (e : Error) : (e.inContext context).cause = e.cause := by
  cases e <;> rfl

end Error

/-- What fails, fails in this context. -/
def inContext {α : Type} (context : String) (result : Except Error α) : Except Error α :=
  result.mapError (·.inContext context)

end Clearinghouse
