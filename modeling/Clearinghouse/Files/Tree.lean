import Clearinghouse.Files.Surroundings

/-!
# File trees

A file system held in memory: directories and files by the names that lead to them from the
root. A path is followed name by name; going up leads to the parent, and nothing lies beneath a
file.
-/

namespace Clearinghouse

/-- What a name can stand for. -/
inductive FileNode
  | directory
  | file (content : List UInt8)
  deriving DecidableEq, Repr

/-- The names that lead from the root to a place. -/
abbrev Place := List String

structure FileTree where
  entries : List (Place × FileNode)
  workingDir : Path
  configHome : Option Path

namespace FileTree

/-- What is at a place. The root is always there. -/
def at? (t : FileTree) (place : Place) : Option FileNode :=
  if place.isEmpty then some .directory else t.entries.lookup place

def isDirectoryAt (t : FileTree) (place : Place) : Bool := t.at? place == some .directory

/-- The longest name that a directory can hold, in bytes. -/
def maxName : Nat := 255

/-- The longest path that can be followed, in bytes. -/
def maxPath : Nat := 4095

/-! ## Following paths -/

/-- Follow names from a place; what they lead to has to be there. -/
def follow (t : FileTree) (here : Place) : List String → Except FileFault Place
  | [] => .ok here
  | name :: names =>
    if !t.isDirectoryAt here then .error .notADirectory
    else if name.isEmpty || name == "." then t.follow here names
    else if name == ".." then t.follow here.dropLast names
    else if name.utf8ByteSize > maxName then .error .nameTooLong
    else if (t.at? (here ++ [name])).isNone then .error .notFound
    else t.follow (here ++ [name]) names

/-- The names in a path, from the root on. -/
def namesOf (t : FileTree) (p : Path) : Except FileFault (List String) :=
  if p.text.isEmpty then .error .notFound
  else if p.text.toList.contains '\x00' then .error .badName
  else if p.text.utf8ByteSize > maxPath then .error .nameTooLong
  else
    let whole := if p.isAbsolute then p else t.workingDir.join p
    .ok (whole.pieces.map .ofList)

/-- The place that a path leads to. -/
def locate (t : FileTree) (p : Path) : Except FileFault Place := do
  t.follow [] (← t.namesOf p)

def pathExists (t : FileTree) (p : Path) : Bool := (t.locate p).isOk

def isDirectory (t : FileTree) (p : Path) : Bool :=
  match t.locate p with
  | .ok place => t.isDirectoryAt place
  | .error _ => false

def read (t : FileTree) (p : Path) : Except FileFault (List UInt8) := do
  match t.at? (← t.locate p) with
  | some (.file content) => .ok content
  | some .directory => .error .isADirectory
  | none => .error .notFound

def surroundings (t : FileTree) : Surroundings where
  workingDir := t.workingDir
  configHome := t.configHome
  pathExists := t.pathExists
  isDirectory := t.isDirectory
  read := t.read

/-! ## Changing -/

/-- Put a node at a place, instead of what was there. -/
def put (t : FileTree) (place : Place) (node : FileNode) : FileTree :=
  { t with entries := t.entries.filter (·.1 ≠ place) ++ [(place, node)] }

/-- Make the directories that lead to a place. -/
def mkdirs (t : FileTree) (place : Place) : FileTree :=
  (List.range (place.length + 1)).foldl
    (fun t k => if (t.at? (place.take k)).isNone then t.put (place.take k) .directory else t) t

/-- The place of the file that a path stands for when it is written, whether it is there or not.
A slash at the end, or a name for a directory itself, asks for a directory. -/
def targetPlace (t : FileTree) (p : Path) : Except FileFault Place := do
  let names := (← t.namesOf p).reverse
  match names.dropWhile (·.isEmpty) with
  | [] => .error .isADirectory
  | name :: parents =>
    let parent ← t.follow [] parents.reverse
    if !t.isDirectoryAt parent then .error .notADirectory
    else if names.head?.any (·.isEmpty) || name ∈ [".", ".."] then .error .isADirectory
    else if name.utf8ByteSize > maxName then .error .nameTooLong
    else .ok (parent ++ [name])

/-- Write a file; its directory has to be there. -/
def write (t : FileTree) (p : Path) (content : List UInt8) : Except FileFault FileTree := do
  let place ← t.targetPlace p
  if t.isDirectoryAt place then .error .isADirectory else .ok (t.put place (.file content))

end FileTree

end Clearinghouse
