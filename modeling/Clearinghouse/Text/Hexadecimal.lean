/-!
# Hexadecimal digits

The numbers that escapes give in base sixteen, in capital or small letters. Main statement: a
digit is less than sixteen (`hexDigit?_lt`).
-/

namespace Clearinghouse.Text

def hexDigit? (c : Char) : Option Nat :=
  if '0' ≤ c && c ≤ '9' then some (c.toNat - 48)
  else if 'a' ≤ c && c ≤ 'f' then some (c.toNat - 87)
  else if 'A' ≤ c && c ≤ 'F' then some (c.toNat - 55)
  else none

/-- The number that the digits write, the greatest first. -/
def hexNumber? (cs : List Char) : Option Nat :=
  (cs.mapM hexDigit?).map (·.foldl (fun n digit => 16 * n + digit) 0)

theorem hexDigit?_lt {c : Char} {n : Nat} (h : hexDigit? c = some n) : n < 16 := by
  have le {a b : Char} (h : a ≤ b) : a.toNat ≤ b.toNat := h
  simp only [hexDigit?, Bool.and_eq_true, decide_eq_true_eq] at h
  split at h
  · rename_i hc
    have : c.toNat ≤ 57 := le hc.2
    obtain rfl := Option.some.inj h
    omega
  · split at h
    · rename_i hc
      have : c.toNat ≤ 102 := le hc.2
      obtain rfl := Option.some.inj h
      omega
    · split at h
      · rename_i hc
        have : c.toNat ≤ 70 := le hc.2
        obtain rfl := Option.some.inj h
        omega
      · simp at h

end Clearinghouse.Text
