import Clearinghouse.Error
import Clearinghouse.Files.Surroundings

/-!
# Failures of commands

A command that fails says what it was about to do, and beneath that what went wrong, down to the
cause.
-/

namespace Clearinghouse

structure Failure where
  /-- What failed, from the outermost matter down to the cause. -/
  chain : List String
  deriving DecidableEq, Repr

namespace Failure

def ofError (e : Error) : Failure := ⟨e.chain⟩

def ofFault (fault : FileFault) : Failure := ⟨[fault.message]⟩

/-- The same failure, as part of something larger. -/
def within (matter : String) (f : Failure) : Failure := ⟨matter :: f.chain⟩

/-- The output of a command could not be written. -/
def ofOutput (p : Path) (fault : FileFault) : Failure :=
  (ofFault fault).within s!"Failed to write output to {p}"

/-- The failure on one line. -/
def line (f : Failure) : String := Text.join ": " f.chain

/-- The failure with its causes below it. -/
def block (f : Failure) : String :=
  match f.chain with
  | [] => ""
  | [matter] => matter
  | matter :: causes => s!"{matter}\n\nCaused by:" ++ String.join (causes.map ("\n    " ++ ·))

end Failure

end Clearinghouse
