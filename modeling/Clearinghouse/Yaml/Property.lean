import Clearinghouse.Text.Hexadecimal
import Clearinghouse.Text.Utf8
import Clearinghouse.Yaml.Spot

/-!
# Anchors, tags and directives

What can stand before a value: a name to refer to it by, and a tag that says what it is. A tag is
a sequence of bytes, written in full or as a short form of which a directive says what it is
short for.
-/

namespace Clearinghouse.Yaml

open Text

/-! ## Names -/

/-- The name of an anchor. -/
def anchorName (spots : List Spot) : Option (String × List Spot) :=
  let name := spots.takeWhile (·.isWord)
  let rest := spots.dropWhile (·.isWord)
  if name.isEmpty then none
  else if endsWord rest || isNext ['?', ':', ',', ']', '\x7d', '%', '@', '\x60'] rest then
    some (.ofList (name.map (·.char)), rest)
  else none

/-! ## Tags -/

/-- A tag as it is written: what it begins with stands for a prefix. -/
structure ShortTag where
  handle : String
  suffix : List UInt8
  deriving DecidableEq, Repr

/-- The characters of tags; some more can stand where a tag is written in full. -/
def isTagChar (inFull : Bool) (s : Spot) : Bool :=
  s.isWord ||
    [';', '/', '?', ':', '@', '&', '=', '+', '$', '.', '!', '~', '*', '\'', '(', ')'].contains
      s.char ||
    (inFull && [',', '[', ']'].contains s.char)

/-- The number of bytes that have to follow this one. -/
def bytesAfter? (byte : Nat) : Option Nat :=
  if byte < 0x80 then some 0
  else if byte < 0xC0 then none
  else if byte < 0xE0 then some 1
  else if byte < 0xF0 then some 2
  else if byte < 0xF8 then some 3
  else none

/-- The bytes of a tag, of which `more` have to be written as escapes. -/
def tagBytes (inFull : Bool) (more : Nat) : List Spot → Option (List UInt8 × List Spot)
  | [] => if more == 0 then some ([], []) else none
  | s :: rest =>
    if s.char == '%' then
      match rest with
      | a :: b :: rest => do
        let byte ← hexNumber? [a.char, b.char]
        let more ←
          if more == 0 then bytesAfter? byte
          else if 0x80 ≤ byte && byte < 0xC0 then some (more - 1)
          else none
        let (bytes, rest) ← tagBytes inFull more rest
        return (.ofNat byte :: bytes, rest)
      | _ => none
    else if more == 0 then
      if isTagChar inFull s then do
        let (bytes, rest) ← tagBytes inFull 0 rest
        return (.ofNat s.char.toNat :: bytes, rest)
      else some ([], s :: rest)
    else none

/-- One byte at least. -/
def someTagBytes (inFull : Bool) (spots : List Spot) : Option (List UInt8 × List Spot) := do
  let (bytes, rest) ← tagBytes inFull 0 spots
  if bytes.isEmpty then none else some (bytes, rest)

/-- A handle between exclamation marks, of which the first one has been read. -/
def handle? (spots : List Spot) : Option (String × List Spot) :=
  match spots.dropWhile (·.isWord) with
  | s :: rest =>
    if s.char == '!' then
      some (.ofList ('!' :: (spots.takeWhile (·.isWord)).map (·.char) ++ ['!']), rest)
    else none
  | [] => none

/-- The tag after its exclamation mark. -/
def tag (inFlow : Bool) (spots : List Spot) : Option (ShortTag × List Spot) := do
  let (tag, rest) ←
    if isNext ['<'] spots then do
      let (bytes, rest) ← someTagBytes true (spots.drop 1)
      if isNext ['>'] rest then some (⟨"", bytes⟩, rest.drop 1) else none
    else
      match handle? spots with
      | some (handle, rest) => do
        let (bytes, rest) ← someTagBytes false rest
        some (⟨handle, bytes⟩, rest)
      | none => do
        let (bytes, rest) ← tagBytes false 0 spots
        some (if bytes.isEmpty then ⟨"", Utf8.encode "!"⟩ else ⟨"!", bytes⟩, rest)
  if endsWord rest || (inFlow && isNext [','] rest) then some (tag, rest) else none

/-! ## Directives -/

inductive Directive
  | version
  /-- What the handle of tags is short for. -/
  | handle (handle : String) (uri : List UInt8)
  deriving DecidableEq, Repr

/-- The longest number in a version. -/
def maxDigits : Nat := 9

def versionNumber (spots : List Spot) : Option (Nat × List Spot) :=
  let digits := spots.takeWhile (·.char.isDigit)
  if digits.isEmpty || digits.length > maxDigits then none
  else do return (← (String.ofList (digits.map (·.char))).toNat?, spots.dropWhile (·.char.isDigit))

/-- The directive after its percent sign, with its line. -/
def directive (spots : List Spot) : Option (Directive × List Spot) := do
  let name := String.ofList ((spots.takeWhile (·.isWord)).map (·.char))
  let rest := spots.dropWhile (·.isWord)
  if !endsWord rest then none
  else
    let rest := rest.dropWhile (·.isBlank)
    if name == "YAML" then do
      let (major, rest) ← versionNumber rest
      if !isNext ['.'] rest then none
      else
        let (minor, rest) ← versionNumber (rest.drop 1)
        if major == 1 && (minor == 1 || minor == 2) then some (.version, ← afterLine? rest)
        else none
    else if name == "TAG" && isNext ['!'] rest then do
      let (handle, rest) := (handle? (rest.drop 1)).getD ("!", rest.drop 1)
      if !rest.head?.any (·.isBlank) then none
      else
        let (uri, rest) ← someTagBytes true (rest.dropWhile (·.isBlank))
        if endsWord rest then some (.handle handle uri, ← afterLine? rest) else none
    else none

end Clearinghouse.Yaml
