/-!
# Text as bytes

Texts are stored as UTF-8. Main statements: decoding gives back what was encoded
(`decode?_encode`), and nothing else is decoded (`encode_of_decode?`). Where bytes are no text,
`firstFault?` finds the first place at which they stop being one.
-/

namespace Clearinghouse.Utf8

def encode (s : String) : List UInt8 := s.toByteArray.data.toList

def decode? (bytes : List UInt8) : Option String := String.fromUTF8? ⟨bytes.toArray⟩

@[simp] theorem decode?_encode (s : String) : decode? (encode s) = some s := by
  have h : ByteArray.mk s.toByteArray.data.toList.toArray = s.toByteArray := by simp
  simp only [decode?, encode, h, String.fromUTF8?]
  rw [dif_pos s.isValidUTF8]
  rfl

theorem encode_of_decode? {bytes : List UInt8} {s : String} (h : decode? bytes = some s) :
    encode s = bytes := by
  unfold decode? String.fromUTF8? at h
  split at h
  · cases h
    rfl
  · cases h

theorem encode_inj {s t : String} : encode s = encode t ↔ s = t := by
  refine ⟨fun h => ?_, congrArg encode⟩
  have hs := decode?_encode s
  rwa [h, decode?_encode, Option.some.injEq, eq_comm] at hs

/-! ## Faults -/

/-- What a first byte announces: the number of bytes to follow, and the range of the next one. -/
structure Lead where
  more : Nat
  low : UInt8
  high : UInt8

def lead? (b : UInt8) : Option Lead :=
  if b < 0x80 then some ⟨0, 0x80, 0xBF⟩
  else if b < 0xC2 then none
  else if b < 0xE0 then some ⟨1, 0x80, 0xBF⟩
  else if b == 0xE0 then some ⟨2, 0xA0, 0xBF⟩
  else if b == 0xED then some ⟨2, 0x80, 0x9F⟩
  else if b < 0xF0 then some ⟨2, 0x80, 0xBF⟩
  else if b == 0xF0 then some ⟨3, 0x90, 0xBF⟩
  else if b < 0xF4 then some ⟨3, 0x80, 0xBF⟩
  else if b == 0xF4 then some ⟨3, 0x80, 0x8F⟩
  else none

/-- What the bytes begin with: a character, bytes that no continuation makes one, or a
character that the end cuts short. -/
inductive Front
  | character (size : Nat)
  | malformed (size : Nat)
  | unfinished
  deriving DecidableEq, Repr

/-- Read `more` continuation bytes after the `seen` ones; only the next one has its own range. -/
def continuation (seen : Nat) : Nat → UInt8 → UInt8 → List UInt8 → Front
  | 0, _, _, _ => .character seen
  | _ + 1, _, _, [] => .unfinished
  | more + 1, low, high, b :: bytes =>
    if low ≤ b && b ≤ high then continuation (seen + 1) more 0x80 0xBF bytes
    else .malformed seen

def front (b : UInt8) (bytes : List UInt8) : Front :=
  match lead? b with
  | none => .malformed 1
  | some lead => continuation 1 lead.more lead.low lead.high bytes

/-- The place where bytes stop being a text, and the number of bytes at fault there; the size is
absent if the end came too early. -/
structure Fault where
  index : Nat
  size : Option Nat
  deriving DecidableEq, Repr

/-- The first fault in bytes that begin at `index`, the first `skip` of them already read. -/
def faultFrom (index skip : Nat) : List UInt8 → Option Fault
  | [] => none
  | b :: bytes =>
    match skip with
    | skip + 1 => faultFrom (index + 1) skip bytes
    | 0 =>
      match front b bytes with
      | .character size => faultFrom (index + 1) (size - 1) bytes
      | .malformed size => some ⟨index, some size⟩
      | .unfinished => some ⟨index, none⟩

def firstFault? (bytes : List UInt8) : Option Fault := faultFrom 0 0 bytes

def Fault.message (f : Fault) : String :=
  match f.size with
  | some size => s!"invalid utf-8 sequence of {size} bytes from index {f.index}"
  | none => s!"incomplete utf-8 byte sequence from index {f.index}"

end Clearinghouse.Utf8
