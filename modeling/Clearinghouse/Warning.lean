import Clearinghouse.Error
import Clearinghouse.Fact.Basic

/-!
# Warnings

What is reported without being an error: a fact that was refused, a row or a cell of a table
that could not be used, rules that are missing.
-/

namespace Clearinghouse

/-- An incoming fact that was refused because another one is stored. -/
structure FactConflict where
  kind : FactKind
  existing : Fact
  incoming : Fact
  deriving Repr

def FactConflict.message (c : FactConflict) : String :=
  s!"conflicting {c.kind.name}: kept '{c.existing.toText}', rejected '{c.incoming.toText}'"

inductive Warning
  /-- An artifact refused a fact. -/
  | conflict (artifact : String) (conflict : FactConflict)
  /-- A row is not text. -/
  | unreadableRow (row : Nat) (detail : String)
  /-- A row names no package. -/
  | anonymousRow (row : Nat)
  /-- A cell does not hold what it should. -/
  | cell (row : Nat) (error : Error)
  /-- A license cell is no expression and is taken as the id of one license. -/
  | licenseCell (row : Nat) (error : Error) (expression : String)
  /-- A cell holds no CPE name. -/
  | cpeCell (row : Nat) (text : String)
  /-- There is nothing to check. -/
  | noRules
  deriving Repr

def Warning.message : Warning → String
  | conflict artifact c => s!"{artifact}: {c.message}"
  | unreadableRow row detail => s!"Skipping row {row}: {detail}"
  | anonymousRow row => s!"Skipping row {row}: no usable coordinate"
  | cell row error => s!"Row {row}: {error.message}"
  | licenseCell row error expression =>
    s!"Row {row}: {error.message}; keeping '{expression}' as one license"
  | cpeCell row text => s!"Row {row}: '{text}' is not a CPE identifier"
  | noRules => "No policy rules configured; every artifact passes"

end Clearinghouse
