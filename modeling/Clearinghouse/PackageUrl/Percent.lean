import Clearinghouse.Text.Utf8

/-!
# Percent encoding

A percent sign and two hexadecimal digits stand for one byte; a percent sign without them
stands for itself. The bytes must then be a text. Main statement: a text without percent signs
stands for itself (`decode?_eq_self`).
-/

namespace Clearinghouse.Percent

def hexValue? (b : UInt8) : Option UInt8 :=
  if 0x30 ≤ b && b ≤ 0x39 then some (b - 0x30)
  else if 0x41 ≤ b && b ≤ 0x46 then some (b - 0x37)
  else if 0x61 ≤ b && b ≤ 0x66 then some (b - 0x57)
  else none

/-- The byte that two digits write. -/
def byte? (high low : UInt8) : Option UInt8 := do
  return 16 * (← hexValue? high) + (← hexValue? low)

def decodeBytes : List UInt8 → List UInt8
  | 0x25 :: high :: low :: rest =>
    match byte? high low with
    | some b => b :: decodeBytes rest
    | none => 0x25 :: decodeBytes (high :: low :: rest)
  | b :: rest => b :: decodeBytes rest
  | [] => []

/-- The text that `s` encodes; there is none if its bytes are not UTF-8. -/
def decode? (s : String) : Option String := Utf8.decode? (decodeBytes (Utf8.encode s))

/-- Bytes without a percent sign stand for themselves. -/
theorem decodeBytes_eq_self {bytes : List UInt8} (h : 0x25 ∉ bytes) :
    decodeBytes bytes = bytes := by
  fun_induction decodeBytes bytes with
  | case1 => simp at h
  | case2 => simp at h
  | case3 b rest _ ih => rw [ih fun hr => h (List.mem_cons_of_mem _ hr)]
  | case4 => rfl

theorem decode?_eq_self {s : String} (h : 0x25 ∉ Utf8.encode s) : decode? s = some s := by
  rw [decode?, decodeBytes_eq_self h, Utf8.decode?_encode]

end Clearinghouse.Percent
