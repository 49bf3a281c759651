/-!
# Flags

An artifact may be marked in three ways. A flag that was never set counts as false.
-/

namespace Clearinghouse

inductive Flag
  | proprietary
  | ignoreForDownload
  | ignoreForSourceResolving
  deriving DecidableEq, Repr

namespace Flag

def all : List Flag := [proprietary, ignoreForDownload, ignoreForSourceResolving]

def name : Flag → String
  | proprietary => "proprietary"
  | ignoreForDownload => "ignore_for_download"
  | ignoreForSourceResolving => "ignore_for_source_resolving"

def ofName? (s : String) : Option Flag := all.find? (·.name == s)

end Flag

/-- The flags of an artifact, each with the value it was given last. -/
structure Flags where
  proprietary : Option Bool
  ignoreForDownload : Option Bool
  ignoreForSourceResolving : Option Bool
  deriving DecidableEq, Repr, Inhabited

namespace Flags

/-- No flag was ever set. -/
def unset : Flags := ⟨none, none, none⟩

def get? (fs : Flags) : Flag → Option Bool
  | .proprietary => fs.proprietary
  | .ignoreForDownload => fs.ignoreForDownload
  | .ignoreForSourceResolving => fs.ignoreForSourceResolving

def isSet (fs : Flags) (f : Flag) : Bool := (fs.get? f).getD false

def set (fs : Flags) (f : Flag) (value : Bool) : Flags :=
  match f with
  | .proprietary => { fs with proprietary := some value }
  | .ignoreForDownload => { fs with ignoreForDownload := some value }
  | .ignoreForSourceResolving => { fs with ignoreForSourceResolving := some value }

/-- The flags that are true. -/
def active (fs : Flags) : List Flag := Flag.all.filter fs.isSet

/-- The flags that were ever set, with their values. -/
def entries (fs : Flags) : List (Flag × Bool) :=
  Flag.all.filterMap fun f => (fs.get? f).map fun value => (f, value)

/-- A flag that `gs` gives a value is set if either side has it. -/
def merge (fs gs : Flags) : Flags :=
  gs.entries.foldl (fun fs (f, value) => fs.set f (fs.isSet f || value)) fs

theorem get?_set (fs : Flags) (f g : Flag) (value : Bool) :
    (fs.set f value).get? g = if g = f then some value else fs.get? g := by
  cases f <;> cases g <;> rfl

/-- A merged flag is set if either side has it set. -/
theorem isSet_merge (fs gs : Flags) (f : Flag) :
    (fs.merge gs).isSet f = (fs.isSet f || gs.isSet f) := by
  obtain ⟨a, b, c⟩ := fs
  obtain ⟨x, y, z⟩ := gs
  rcases x with _ | x <;> rcases y with _ | y <;> rcases z with _ | z <;> cases f <;>
    simp [merge, entries, Flag.all, get?, set, isSet]

end Flags

end Clearinghouse
