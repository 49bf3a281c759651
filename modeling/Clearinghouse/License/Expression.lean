import Clearinghouse.Error
import Clearinghouse.License.Basic

/-!
# License expressions

`A OR B AND ( C WITH X )` is read as a tree: `AND` binds tighter than `OR`, a run of one
operator becomes one statement, neighbouring words form one id, and `X WITH Y` is an id. A
single license in parentheses becomes a statement with one child.

A reader takes tokens from the front and says what is left, which is always less than there was.
Parentheses may nest as deep as `maxDepth`, so the reader of expressions is built in that many
stages, each of which reads the inside of its parentheses by the stage before.
-/

namespace Clearinghouse

open Text

namespace License

/-! ## Tokens -/

inductive Token
  | opening
  | closing
  | and
  | or
  | exception
  | word (text : String)
  deriving DecidableEq, Repr

namespace Token

/-- The token as messages show it. -/
def spelling : Token → String
  | opening => "("
  | closing => ")"
  | and => "AND"
  | or => "OR"
  | exception => "WITH"
  | word text => text

/-- Keywords are upper case or lower case throughout. -/
def ofWord (text : String) : Token :=
  if text == "(" then opening
  else if text == ")" then closing
  else if text ∈ ["AND", "and"] then and
  else if text ∈ ["OR", "or"] then or
  else if text ∈ ["WITH", "with"] then exception
  else word text

/-- A parenthesis stands for itself wherever it is. -/
def space (c : Char) : List Char := if c == '(' || c == ')' then [' ', c, ' '] else [c]

/-- The tokens of an expression. -/
def scan (s : String) : List Token :=
  (wordsOf (s.toList.flatMap space)).map fun w => ofWord (.ofList w)

end Token

/-! ## Readers -/

/-- What an expression can have wrong. -/
inductive Fault
  | tooDeep
  | unclosed
  | missingException
  | unexpected (token : Token)
  | unexpectedEnd
  deriving DecidableEq, Repr

def Fault.message : Fault → String
  | tooDeep => "nesting too deep"
  | unclosed => "missing closing parenthesis"
  | missingException => "WITH must be followed by an exception id"
  | unexpected token => s!"unexpected token '{token.spelling}'"
  | unexpectedEnd => "unexpected end of expression"

/-- A value read from the front of `input`, and the tokens after it. -/
structure Taken (α : Type) (input : List Token) where
  value : α
  rest : List Token
  rest_lt : rest.length < input.length

/-- Reads a value from the front of the tokens, at least one of them. -/
abbrev Reader (α : Type) := (input : List Token) → Except Fault (Taken α input)

/-- One or more items with `separator` between them. -/
def separated {α : Type} (separator : Token) (item : Reader α) : Reader (List α) := fun input => do
  let first ← item input
  match h : first.rest with
  | [] => return ⟨[first.value], [], by have := first.rest_lt; simp_all⟩
  | token :: rest =>
    if token = separator then
      have h' : rest.length < input.length := by
        have := first.rest_lt; simp only [h, List.length_cons] at this; omega
      let more ← separated separator item rest
      return ⟨first.value :: more.value, more.rest, Nat.lt_trans more.rest_lt h'⟩
    else return ⟨[first.value], token :: rest, h ▸ first.rest_lt⟩
  termination_by input => input.length

/-- Words from the front, as one text with single spaces after `text`. -/
def joinWords (text : String) : List Token → String × List Token
  | .word w :: rest => joinWords (text ++ " " ++ w) rest
  | rest => (text, rest)

theorem length_joinWords_le (text : String) (input : List Token) :
    (joinWords text input).2.length ≤ input.length := by
  fun_induction joinWords text input with
  | case1 text w rest ih => simp only [List.length_cons]; omega
  | case2 => exact Nat.le_refl _

/-- A single operand stands for itself; several become one statement. -/
def collapse (op : Junction) : List LicenseTree → LicenseTree
  | [operand] => operand
  | operands => .statement operands (some op)

/-- What parentheses make of their inside. -/
def parenthesize : LicenseTree → LicenseTree
  | .license l => .statement [.license l] (some .and)
  | t => t

/-- An id, an id with an exception, or what `inside` reads, in parentheses. -/
def atom (inside : Reader LicenseTree) : Reader LicenseTree
  | .opening :: input => do
    let inner ← inside input
    match h : inner.rest with
    | .closing :: rest =>
      return ⟨parenthesize inner.value, rest, by
        have := inner.rest_lt; simp only [h, List.length_cons] at this ⊢; omega⟩
    | _ => .error .unclosed
  | .word first :: input =>
    let id := joinWords first input
    have hid : id.2.length ≤ input.length := length_joinWords_le first input
    match h : id.2 with
    | .exception :: .word first :: rest =>
      let second := joinWords first rest
      .ok ⟨.license (known (id.1 ++ " WITH " ++ second.1)), second.2, by
        have := length_joinWords_le first rest
        simp only [h, List.length_cons] at hid ⊢
        exact Nat.lt_of_le_of_lt this (by omega)⟩
    | .exception :: _ => .error .missingException
    | rest => .ok ⟨.license (known id.1), rest, by
        simp only [h, List.length_cons] at hid ⊢; omega⟩
  | token :: _ => .error (.unexpected token)
  | [] => .error .unexpectedEnd

/-- A run of `item`s under one operator. -/
def run (separator : Token) (op : Junction) (item : Reader LicenseTree) : Reader LicenseTree :=
  fun input => do
    let operands ← separated separator item input
    return ⟨collapse op operands.value, operands.rest, operands.rest_lt⟩

/-- Alternatives of conjunctions of atoms. -/
def alternatives (inside : Reader LicenseTree) : Reader LicenseTree :=
  run .or .or (run .and .and (atom inside))

/-- An expression whose parentheses nest at most `depth` deep. -/
def expression : (depth : Nat) → Reader LicenseTree
  | 0 => alternatives fun _ => .error .tooDeep
  | depth + 1 => alternatives (expression depth)

/-- How deep parentheses may nest. -/
def maxDepth : Nat := 64

/-- The tree of all the tokens; no tokens say nothing. -/
def ofTokens (input : List Token) : Except Fault LicenseTree :=
  if input.isEmpty then .ok .empty
  else do
    let t ← expression maxDepth input
    match t.rest with
    | [] => return t.value
    | token :: _ => .error (.unexpected token)

end License

/-- Read a license expression. -/
def LicenseTree.parse (s : String) : Except Error LicenseTree :=
  match License.ofTokens (License.Token.scan s) with
  | .ok t => .ok t
  | .error fault => .error (.parse "license expression" (.license s fault.message))

end Clearinghouse
