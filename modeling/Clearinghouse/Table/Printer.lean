import Clearinghouse.Table.Scanner

/-!
# Writing tables

Fields are separated by the delimiter and every record ends with a line feed. A field is quoted
if it holds anything that a reader would not take as data; quotation marks in it are doubled.
-/

namespace Clearinghouse.Table

/-- The byte cannot stand in a field without quotes. -/
def isSpecial (delimiter b : UInt8) : Bool := b == delimiter || b == quoteByte || isTerminator b

/-- The bytes with every quotation mark doubled. -/
def doubleQuotes (field : List UInt8) : List UInt8 :=
  field.flatMap fun b => if b == quoteByte then [quoteByte, quoteByte] else [b]

def fieldBytes (delimiter : UInt8) (field : List UInt8) : List UInt8 :=
  if field.any (isSpecial delimiter) then quoteByte :: doubleQuotes field ++ [quoteByte] else field

/-- The fields of a record. A record of one empty field is quoted, or it would be no record. -/
def recordBytes (delimiter : UInt8) (fields : List (List UInt8)) : List UInt8 :=
  match fields with
  | [[]] => [quoteByte, quoteByte, lineFeed]
  | fields => [delimiter].intercalate (fields.map (fieldBytes delimiter)) ++ [lineFeed]

def print (delimiter : UInt8) (records : List (List (List UInt8))) : List UInt8 :=
  records.flatMap (recordBytes delimiter)

end Clearinghouse.Table
