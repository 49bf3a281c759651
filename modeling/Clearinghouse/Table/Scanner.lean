/-!
# Reading tables

A table is a sequence of records, a record a sequence of fields. Fields are separated by a
delimiter, records end with a line feed, a carriage return or both; empty lines are no records.
A field that begins with a quotation mark goes on to the next one that is not doubled, whatever
lies between. The bytes are read one after the other by a machine with six modes.
-/

namespace Clearinghouse.Table

def quoteByte : UInt8 := 0x22

def lineFeed : UInt8 := 0x0A

def carriageReturn : UInt8 := 0x0D

/-- The byte ends a record. -/
def isTerminator (b : UInt8) : Bool := b == lineFeed || b == carriageReturn

/-- A record as it was read, and where it began. -/
structure RawRecord where
  fields : List (List UInt8)
  /-- The line, counted from one. -/
  line : Nat
  /-- The number of bytes before the record. -/
  offset : Nat
  deriving DecidableEq, Repr

inductive Mode
  /-- Before a record. -/
  | recordStart
  /-- After a carriage return that ended a record. -/
  | afterReturn
  /-- Before a field, after a delimiter. -/
  | fieldStart
  /-- In a field without quotes. -/
  | plain
  /-- In a quoted field. -/
  | quoted
  /-- After a quotation mark in a quoted field. -/
  | quoteSeen
  deriving DecidableEq, Repr

structure Scanner where
  mode : Mode
  /-- The bytes of the present field, last one first. -/
  field : List UInt8
  /-- The fields of the present record before that one, last one first. -/
  fields : List (List UInt8)
  /-- The records before the present one, last one first. -/
  records : List RawRecord
  line : Nat
  offset : Nat
  startLine : Nat
  startOffset : Nat
  deriving Repr

namespace Scanner

/-- Before the first record, when `offset` bytes have been passed over. -/
def start (offset : Nat) : Scanner where
  mode := .recordStart
  field := []
  fields := []
  records := []
  line := 1
  offset
  startLine := 1
  startOffset := 0

/-- The fields read so far, the present one included. -/
def allFields (s : Scanner) : List (List UInt8) := (s.field.reverse :: s.fields).reverse

def take (b : UInt8) (mode : Mode) (s : Scanner) : Scanner :=
  { s with mode, field := b :: s.field }

def endField (s : Scanner) : Scanner :=
  { s with mode := .fieldStart, field := [], fields := s.field.reverse :: s.fields }

/-- End the record with the byte `b`, which has been counted. -/
def endRecord (b : UInt8) (s : Scanner) : Scanner :=
  { s with
    mode := if b == carriageReturn then .afterReturn else .recordStart
    field := []
    fields := []
    records := ⟨s.allFields, s.startLine, s.startOffset⟩ :: s.records
    startLine := s.line
    startOffset := s.offset }

/-- A byte that belongs to no quoted text. -/
def unquoted (delimiter b : UInt8) (s : Scanner) : Scanner :=
  if b == delimiter then s.endField
  else if isTerminator b then s.endRecord b
  else s.take b .plain

/-- The first byte of a field. -/
def first (delimiter b : UInt8) (s : Scanner) : Scanner :=
  if b == quoteByte then { s with mode := .quoted } else s.unquoted delimiter b

/-- What a byte does, by mode. -/
def react (delimiter b : UInt8) (s : Scanner) : Scanner :=
  match s.mode with
  | .recordStart => if isTerminator b then s else s.first delimiter b
  | .afterReturn =>
    if b == lineFeed then { s with mode := .recordStart }
    else if isTerminator b then { s with mode := .recordStart }
    else s.first delimiter b
  | .fieldStart => s.first delimiter b
  | .plain => s.unquoted delimiter b
  | .quoted => if b == quoteByte then { s with mode := .quoteSeen } else s.take b .quoted
  | .quoteSeen => if b == quoteByte then s.take b .quoted else s.unquoted delimiter b

/-- Count a byte. -/
def advance (b : UInt8) (s : Scanner) : Scanner :=
  { s with line := if b == lineFeed then s.line + 1 else s.line, offset := s.offset + 1 }

def step (delimiter : UInt8) (s : Scanner) (b : UInt8) : Scanner :=
  (s.advance b).react delimiter b

/-- The records when there are no more bytes. A record that was begun is complete. -/
def finish (s : Scanner) : List RawRecord :=
  match s.mode with
  | .recordStart | .afterReturn => s.records.reverse
  | _ => (⟨s.allFields, s.startLine, s.startOffset⟩ :: s.records).reverse

end Scanner

/-- The mark that says a text is UTF-8. -/
def byteOrderMark : List UInt8 := [0xEF, 0xBB, 0xBF]

/-- The records of a table. A byte order mark in front is passed over. -/
def scan (delimiter : UInt8) (bytes : List UInt8) : List RawRecord :=
  let skipped := if byteOrderMark.isPrefixOf bytes then byteOrderMark.length else 0
  ((bytes.drop skipped).foldl (Scanner.step delimiter) (Scanner.start skipped)).finish

end Clearinghouse.Table
