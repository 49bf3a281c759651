import Clearinghouse.Json.Basic
import Clearinghouse.Text.Quoted

/-!
# Printing JSON

One item to a line, indented by two spaces for every level; what is empty stays closed. A text
escapes its quotes, its backslashes and the control characters below the space.
-/

namespace Clearinghouse.Json

open Text

/-- A character as it stands in a JSON text. -/
def escapeChar (c : Char) : List Char :=
  if c == '"' || c == '\\' then ['\\', c]
  else if c == '\n' then ['\\', 'n']
  else if c == '\r' then ['\\', 'r']
  else if c == '\t' then ['\\', 't']
  else if c == '\x08' then ['\\', 'b']
  else if c == '\x0c' then ['\\', 'f']
  else if c.toNat < 16 then ['\\', 'u', '0', '0', '0'] ++ hex c.toNat
  else if c.toNat < 32 then ['\\', 'u', '0', '0'] ++ hex c.toNat
  else [c]

def quote (s : String) : String := .ofList ('"' :: s.toList.flatMap escapeChar ++ ['"'])

/-- A line break, and the indentation of `depth` levels. -/
def newline (depth : Nat) : String := .ofList ('\n' :: List.replicate (2 * depth) ' ')

/-- Put `lines` between the two brackets of a container that stands at `depth`. -/
def bracket (left right : String) (depth : Nat) (lines : List String) : String :=
  if lines.isEmpty then left ++ right
  else
    left ++ newline (depth + 1) ++ (s!",{newline (depth + 1)}").intercalate lines ++
      newline depth ++ right

mutual

/-- The value as it stands at `depth`. -/
def prettyAt (depth : Nat) : Json → String
  | null => "null"
  | bool b => if b then "true" else "false"
  | int n => toString n
  | string s => quote s
  | array items => bracket "[" "]" depth (prettyItems (depth + 1) items)
  | object fields => bracket "\x7b" "\x7d" depth (prettyFields (depth + 1) fields)

def prettyItems (depth : Nat) : List Json → List String
  | [] => []
  | v :: vs => prettyAt depth v :: prettyItems depth vs

def prettyFields (depth : Nat) : List (String × Json) → List String
  | [] => []
  | (name, v) :: fields => (quote name ++ ": " ++ prettyAt depth v) :: prettyFields depth fields

end

/-- The value as a text of several lines. -/
def pretty (v : Json) : String := prettyAt 0 v

end Clearinghouse.Json
