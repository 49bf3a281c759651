import Clearinghouse.Path

/-!
# File names

A file is known by its name, its hash, or both.
-/

namespace Clearinghouse

structure FileName where
  name : Option String
  hash : Option String
  deriving DecidableEq, Repr, Inhabited

namespace FileName

def ofHash (hash : String) : FileName := ⟨none, some hash⟩

/-- The file has this name, or one that ends in the same base name. -/
def answersTo (f : FileName) (query : String) : Bool :=
  f.name.any fun own => own == query || Path.baseName own == Path.baseName query

def toText : FileName → String
  | ⟨some name, some hash⟩ => s!"{name} ({hash})"
  | ⟨some name, none⟩ => name
  | ⟨none, some hash⟩ => s!"({hash})"
  | ⟨none, none⟩ => ""

end FileName

end Clearinghouse
