import Clearinghouse.Text.Blank
import Clearinghouse.Text.Case
import Clearinghouse.Text.Quoted
import Clearinghouse.PackageUrl.Percent

/-!
# Package URLs

`pkg:type/namespace/name@version?qualifiers#subpath` is taken apart from its ends: subpath,
qualifiers, version, type, name, namespace. Some package types fold letter case. Qualifiers
and subpath are checked and then dropped, as they do not identify a package.
-/

namespace Clearinghouse

/-- The parts of a package URL that identify a package. -/
structure PackageUrl where
  type : String
  /-- The segments of the namespace, joined by slashes. -/
  ns? : Option String
  name : String
  version? : Option String
  deriving DecidableEq, Repr

namespace PackageUrl

open Text

/-- What a package URL can have wrong. -/
inductive Fault
  | undecodable
  | missingType
  | missingName
  | type (text : String)
  | qualifier (key : String)
  | subpathSegment (text : String)
  | namespaceSegment (text : String)
  deriving DecidableEq, Repr

def Fault.message : Fault → String
  | undecodable => "utf-8 decoding failed"
  | missingType => "missing type"
  | missingName => "missing name"
  | type text => s!"invalid type: {quote text}"
  | qualifier key => s!"invalid key: {quote key}"
  | subpathSegment text => s!"invalid subpath segment: {quote text}"
  | namespaceSegment text => s!"invalid namespace component: {quote text}"

/-! ## Parts -/

def decode (cs : List Char) : Except Fault String :=
  match Percent.decode? (.ofList cs) with
  | some s => .ok s
  | none => .error .undecodable

/-- A segment that a path leaves out. -/
def isIdle (segment : List Char) : Bool :=
  segment.isEmpty || segment == ['.'] || segment == ['.', '.']

/-- The segments of a path, without those that say nothing. -/
def segments (path : List Char) : List (List Char) :=
  (splitWhere (· == '/') (trimMatches (· == '/') path)).filter (!isIdle ·)

/-- Decode a path segment by segment; none may turn out to satisfy `bad`. -/
def decodePath (bad : List Char → Bool) (fault : String → Fault) (path : List Char) :
    Except Fault (List String) :=
  (segments path).mapM fun segment => do
    let s ← decode segment
    if bad s.toList then .error (fault s) else .ok s

/-- The text before the last `mark`, and what follows it. -/
def cutOff (mark : Char) (cs : List Char) : List Char × Option (List Char) :=
  match cutLast? (· == mark) cs with
  | some (before, after) => (before, some after)
  | none => (cs, none)

/-- The decoded segments of a subpath. -/
def subpathSegments (path : List Char) : Except Fault (List String) :=
  decodePath (fun s => isIdle s || s.contains '/') .subpathSegment path

/-- The decoded segments of a namespace. -/
def namespaceSegments (path : List Char) : Except Fault (List String) :=
  decodePath (fun s => s.isEmpty || s.contains '/') .namespaceSegment path

/-- A word that begins with no digit and holds only letters, digits and `marks`. -/
def isWord (marks : List Char) : List Char → Bool
  | [] => false
  | c :: cs => !c.isDigit && (c :: cs).all fun c => c.isAlphanum || c ∈ marks

/-- Check one `key=value` pair; a pair without a value is passed over. -/
def checkQualifier (pair : List Char) : Except Fault Unit :=
  match cutFirst? (· == '=') pair with
  | none => .ok ()
  | some (_, []) => .ok ()
  | some (key, value) =>
    if isWord ['.', '_', '-'] key then discard (decode value)
    else .error (.qualifier (.ofList key))

def checkQualifiers (cs : List Char) : Except Fault Unit :=
  (splitWhere (· == '&') cs).forM checkQualifier

/-! ## Letter case by type -/

/-- How a package type folds names: `_` becomes `-` for one type; some types lower every name,
others leave a name alone that is all capitals. -/
def foldName (type name : String) : String :=
  let name :=
    if type ∈ ["bitbucket", "github"] then lower name
    else if type == "pypi" then lower (name.map fun c => if c == '_' then '-' else c)
    else name
  if type ∈ ["bitbucket", "deb", "github", "hex", "npm", "pypi"] && !name.toList.all isUpper then
    lower name
  else name

/-- How a package type folds namespaces: two types lower every namespace, others one that has a
capital letter. -/
def foldNamespace (type ns : String) : String :=
  let ns := if type ∈ ["bitbucket", "github"] then lower ns else ns
  if type ∈ ["bitbucket", "deb", "github", "golang", "hex", "rpm"] && ns.toList.any isUpper then
    lower ns
  else ns

/-! ## Reading -/

/-- Read the text of a package URL after its scheme `pkg:`. -/
def ofPath (cs : List Char) : Except Fault PackageUrl := do
  let cs := cs.dropWhile (· == '/')
  let (cs, subpathText) := cutOff '#' cs
  let subpath ← subpathText.mapM subpathSegments
  let (cs, qualifiers) := cutOff '?' cs
  qualifiers.forM checkQualifiers
  let (cs, versionText) := cutOff '@' cs
  let version? ← versionText.mapM decode
  let some (type, path) := cutFirst? (· == '/') cs | .error .missingType
  if !isWord ['.', '+', '-'] type then .error (.type (.ofList type))
  let type := lowerAscii (.ofList type)
  let (ns, name) :=
    match cutOff '/' (trimMatches (· == '/') path) with
    | (name, none) => ([], name)
    | (ns, some name) => (ns, name)
  if name.isEmpty then .error .missingName
  let name ← decode name
  let ns ← namespaceSegments ns
  if subpath == some [] then .error (.subpathSegment "")
  return {
    type
    ns? := if ns.isEmpty then none else some (foldNamespace type (join "/" ns))
    name := foldName type name
    version? }

/-- Read a package URL; it begins with the scheme `pkg:`. -/
def parse (s : String) : Except Fault PackageUrl :=
  ofPath ((stripStart? ['p', 'k', 'g', ':'] s.toList).getD s.toList)

end PackageUrl

end Clearinghouse
