import Clearinghouse.Path

/-!
# Surroundings

What a run can see of the file system: the working directory, what is where, and what files
hold. It does not change while a run looks at it; what a run writes, it writes at its end.
-/

namespace Clearinghouse

/-- Why the file system refuses. -/
inductive FileFault
  | notFound
  | notADirectory
  | isADirectory
  | nameTooLong
  | badName
  /-- Any other refusal, in the words of the file system. -/
  | other (detail : String)
  deriving DecidableEq, Repr

def FileFault.message : FileFault → String
  | notFound => "No such file or directory (os error 2)"
  | notADirectory => "Not a directory (os error 20)"
  | isADirectory => "Is a directory (os error 21)"
  | nameTooLong => "File name too long (os error 36)"
  | badName => "file name contained an unexpected NUL byte"
  | other detail => detail

structure Surroundings where
  workingDir : Path
  /-- The directory for the configuration files of the user. -/
  configHome : Option Path
  pathExists : Path → Bool
  isDirectory : Path → Bool
  read : Path → Except FileFault (List UInt8)

namespace Surroundings

/-- The path seen from the root. -/
def absolute (s : Surroundings) (p : Path) : Path :=
  if p.isAbsolute then p else s.workingDir.join p

theorem absolute_of_isAbsolute (s : Surroundings) {p : Path} (h : p.isAbsolute) :
    s.absolute p = p := by simp [absolute, h]

end Surroundings

end Clearinghouse
