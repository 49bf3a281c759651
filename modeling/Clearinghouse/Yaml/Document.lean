import Clearinghouse.Yaml.Node
import Clearinghouse.Yaml.Token

/-!
# YAML documents

The node that the tokens of a text make up. There is one document in a text at most; a text
without one is a missing value.
-/

namespace Clearinghouse.Yaml

/-! ## Reading nodes -/

/-- What is left to read, and what the names before it mean. -/
structure Remainder where
  tokens : List Token
  /-- What the handles of tags are short for. -/
  handles : List (String × List UInt8)
  /-- The numbers of the anchors, last one first. -/
  anchors : List (String × Nat)
  deriving Repr

abbrev Reading := StateT Remainder Option

namespace Reading

/-- The next token satisfies `p`. -/
def isNext (p : Token → Bool) : Reading Bool := return (← get).tokens.head?.any p

def skip : Reading Unit := modify fun r => { r with tokens := r.tokens.drop 1 }

/-- The next token, which is then read; there has to be one. -/
def take : Reading Token := do
  match (← get).tokens with
  | t :: tokens => modify ({ · with tokens }); return t
  | [] => failure

def expect (t : Token) : Reading Unit := do
  if (← take) = t then return else failure

/-! ### Labels -/

/-- A new anchor has the number of the names that there were before. -/
def anchor (name : String) : Reading Nat := do
  let anchors := (← get).anchors
  let number := (anchors.map (·.1)).eraseDups.length
  modify ({ · with anchors := (name, number) :: anchors })
  return number

def refer (name : String) : Reading Node := do
  match (← get).anchors.lookup name with
  | some number => return .reference number
  | none => failure

/-- The tag that a short one stands for. -/
def fullTag (t : ShortTag) : Reading (List UInt8) := do
  if t.handle.isEmpty then return t.suffix
  else
    match (← get).handles.lookup t.handle with
    | some uri => return uri ++ t.suffix
    | none => failure

def anchorName? : Reading (Option String) := do
  match (← get).tokens with
  | .anchor name :: tokens => modify ({ · with tokens }); return some name
  | _ => return none

def shortTag? : Reading (Option ShortTag) := do
  match (← get).tokens with
  | .tag t :: tokens => modify ({ · with tokens }); return some t
  | _ => return none

/-- An anchor and a tag, in either order; both can be missing. -/
def label : Reading Label := do
  let early ← anchorName?
  let tag ← shortTag?
  let name ← if tag.isSome && early.isNone then anchorName? else pure early
  return ⟨← name.mapM anchor, ← tag.mapM fullTag⟩

/-! ### Collections -/

mutual

/-- The node that begins here. A sequence needs no column of its own if it `canBeLevel`. -/
def node (fuel : Nat) (isBlock canBeLevel : Bool) : Reading Node :=
  match fuel with
  | 0 => failure
  | fuel + 1 => do
    match (← get).tokens with
    | .reference name :: _ => skip; refer name
    | _ =>
      let label ← label
      let tokens := (← get).tokens
      if canBeLevel && tokens.head? == some .dash then
        return .sequence label (← levelItems fuel)
      else
        match tokens with
        | .scalar style text :: _ =>
          skip
          if label.tag == some (Utf8.encode "!") then return .scalar ⟨label.anchor, none⟩ style text
          else return .scalar label style text
        | .leftBracket :: _ => skip; return .sequence label (← flowItems fuel true)
        | .leftBrace :: _ => skip; return .mapping label (← flowFields fuel true)
        | _ =>
          if isBlock && tokens.head? == some .blockSequence then
            skip
            return .sequence label (← blockItems fuel)
          else if isBlock && tokens.head? == some .blockMapping then
            skip
            return .mapping label (← blockFields fuel)
          else if label.anchor.isSome || label.tag.isSome then return .scalar label .plain ""
          else failure

/-- The node that begins here, or nothing if one of the `ends` comes next. -/
def nodeUnless (fuel : Nat) (ends : List Token) (isBlock canBeLevel : Bool) : Reading Node :=
  match fuel with
  | 0 => failure
  | fuel + 1 => do
    if ← isNext ends.contains then return .blank else node fuel isBlock canBeLevel

/-- The items that are left of a sequence with a column of its own. -/
def blockItems (fuel : Nat) : Reading (List Node) :=
  match fuel with
  | 0 => failure
  | fuel + 1 => do
    match ← take with
    | .dash =>
      let item ← nodeUnless fuel [.dash, .blockEnd] true false
      return item :: (← blockItems fuel)
    | .blockEnd => return []
    | _ => failure

/-- The items that are left of a sequence at the column of the key before it. -/
def levelItems (fuel : Nat) : Reading (List Node) :=
  match fuel with
  | 0 => failure
  | fuel + 1 => do
    if ← isNext (· == .dash) then
      skip
      let item ← nodeUnless fuel [.dash, .key, .value, .blockEnd] true false
      return item :: (← levelItems fuel)
    else return []

/-- The fields that are left of a mapping with a column of its own. -/
def blockFields (fuel : Nat) : Reading (List (Node × Node)) :=
  match fuel with
  | 0 => failure
  | fuel + 1 => do
    match ← take with
    | .key =>
      let key ← nodeUnless fuel [.key, .value, .blockEnd] true true
      let value ←
        if ← isNext (· == .value) then
          skip
          nodeUnless fuel [.key, .value, .blockEnd] true true
        else pure .blank
      return (key, value) :: (← blockFields fuel)
    | .blockEnd => return []
    | _ => failure

/-- The items that are left up to a bracket, none of which was there yet if it is `first`. -/
def flowItems (fuel : Nat) (first : Bool) : Reading (List Node) :=
  match fuel with
  | 0 => failure
  | fuel + 1 => do
    if !first && !(← isNext (· == .rightBracket)) then expect .comma
    if ← isNext (· == .rightBracket) then
      skip
      return []
    else
      let item ← if ← isNext (· == .key) then flowPair fuel else node fuel false false
      return item :: (← flowItems fuel false)

/-- A mapping of one field without braces. -/
def flowPair (fuel : Nat) : Reading Node :=
  match fuel with
  | 0 => failure
  | fuel + 1 => do
    skip
    let isEmpty ← isNext [.value, .comma, .rightBracket].contains
    let key ← if isEmpty then (do skip; return .blank) else node fuel false false
    let value ← flowValue fuel [.comma, .rightBracket]
    return .mapping ⟨none, none⟩ [(key, value)]

/-- The fields that are left up to a brace, none of which was there yet if it is `first`. -/
def flowFields (fuel : Nat) (first : Bool) : Reading (List (Node × Node)) :=
  match fuel with
  | 0 => failure
  | fuel + 1 => do
    if !first && !(← isNext (· == .rightBrace)) then expect .comma
    if ← isNext (· == .rightBrace) then
      skip
      return []
    else if ← isNext (· == .key) then
      skip
      let key ← nodeUnless fuel [.value, .comma, .rightBrace] false false
      let value ← flowValue fuel [.comma, .rightBrace]
      return (key, value) :: (← flowFields fuel false)
    else
      let key ← node fuel false false
      return (key, .blank) :: (← flowFields fuel false)

/-- The value after a key, which may be missing. -/
def flowValue (fuel : Nat) (ends : List Token) : Reading Node :=
  match fuel with
  | 0 => failure
  | fuel + 1 => do
    if ← isNext (· == .value) then
      skip
      nodeUnless fuel ends false false
    else return .blank

end

/-! ### Documents -/

/-- The handles that need no directive. -/
def standardHandles : List (String × List UInt8) :=
  [("!", Utf8.encode "!"), ("!!", Node.standardTag "")]

/-- The directives in front of a document; none of them may be there twice. -/
def directives (hasVersion : Bool) (handles : List (String × List UInt8)) :
    List Token → Option Remainder
  | .directive .version :: tokens => if hasVersion then none else directives true handles tokens
  | .directive (.handle handle uri) :: tokens =>
    if (handles.lookup handle).isSome then none
    else directives hasVersion ((handle, uri) :: handles) tokens
  | tokens => some ⟨tokens, handles ++ standardHandles, []⟩

def isOutside : Token → Bool
  | .directive _ | .documentStart | .documentEnd => true
  | _ => false

/-- The node of a document whose directives have been read. -/
def content (fuel : Nat) (hasDirectives : Bool) : Reading Node := do
  let isMarked ← isNext (· == .documentStart)
  if isMarked then
    skip
    if (← get).tokens.isEmpty || (← isNext isOutside) then return .blank
  else if hasDirectives then failure
  node fuel true false

end Reading

/-- The root of the document in some tokens. -/
def rootOf? (tokens : List Token) : Option Node := do
  if tokens.isEmpty then return .blank
  let start ← Reading.directives false [] tokens
  let hasDirectives := start.tokens.length < tokens.length
  let (root, rest) ← (Reading.content (4 * tokens.length + 4) hasDirectives).run start
  if rest.tokens.all (· == .documentEnd) then some root else none

/-- The document in a text. -/
def parse? (s : String) : Option Passage := do
  return .ofRoot (← rootOf? (← tokens? s))

end Clearinghouse.Yaml
