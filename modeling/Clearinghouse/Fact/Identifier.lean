import Clearinghouse.Error
import Clearinghouse.Fact.Kind
import Clearinghouse.Text.Blank
import Clearinghouse.Text.CodePointSet

/-!
# Software Heritage ids and CPE names

Both are texts of a fixed form, kept without the blanks around them. A Software Heritage id is
`swh:`, a version of decimal digits, the kind of the object and forty hexadecimal digits; of a
CPE name only the beginning is looked at.
-/

namespace Clearinghouse

open Text

structure SoftwareHeritageId where
  text : String
  deriving DecidableEq, Repr

namespace SoftwareHeritageId

/-- The kinds of objects that an archive holds. -/
def objectKinds : List (List Char) :=
  [['c', 'n', 't'], ['d', 'i', 'r'], ['r', 'e', 'v'], ['r', 'e', 'l'], ['s', 'n', 'p']]

/-- A hexadecimal digit in lower case. -/
def isHexDigit (c : Char) : Bool := ('0' ≤ c && c ≤ '9') || ('a' ≤ c && c ≤ 'f')

/-- The part of an id that follows the version. -/
def isObject : List Char → Bool
  | ':' :: a :: b :: c :: ':' :: hash =>
    objectKinds.contains [a, b, c] && hash.length == 40 && hash.all isHexDigit
  | _ => false

def isId (cs : List Char) : Bool :=
  match stripStart? ['s', 'w', 'h', ':'] cs with
  | none => false
  | some rest =>
    !(rest.takeWhile isDecimalDigit).isEmpty && isObject (rest.dropWhile isDecimalDigit)

def parse (s : String) : Except Error SoftwareHeritageId :=
  let id := trim s
  if isId id.toList then .ok ⟨id⟩
  else .error (.invalidFact FactKind.softwareHeritageId.name id
    "swh:<version>:<cnt|dir|rev|rel|snp>:<40 hex digits>")

end SoftwareHeritageId

structure Cpe where
  text : String
  deriving DecidableEq, Repr

namespace Cpe

/-- What a CPE name begins with. -/
def openings : List String := ["cpe:2.3:", "cpe:/"]

def ofText? (s : String) : Option Cpe :=
  let name := trim s
  if openings.any fun start => start.toList.isPrefixOf name.toList then some ⟨name⟩ else none

end Cpe

end Clearinghouse
