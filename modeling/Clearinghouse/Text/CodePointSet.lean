/-!
# Sets of code points

A property of characters is given by the sorted list of the code points at which it starts or
stops to hold. A character is in the set if an odd number of these turns lies at or before it.

The decimal digits, of general category *Nd*, are ten in a row for every script that has digits of
its own. Main statement: the ASCII digits are among them (`isDecimalDigit_of_isDigit`).
-/

namespace Clearinghouse.Text

/-- A set of code points, by the points at which membership turns. -/
structure CodePointSet where
  turns : List Nat

namespace CodePointSet

/-- Whether `n` is in the set, when `inside` says so of the points before the first turn. -/
def containsFrom (n : Nat) : Bool → List Nat → Bool
  | inside, [] => inside
  | inside, turn :: turns => if n < turn then inside else containsFrom n (!inside) turns

def contains (s : CodePointSet) (c : Char) : Bool := containsFrom c.toNat false s.turns

end CodePointSet

/-! ## Decimal digits -/

/-- The characters of category *Nd*. -/
def decimalDigits : CodePointSet :=
  ⟨[
    48, 58, 1632, 1642, 1776, 1786, 1984, 1994, 2406, 2416, 2534, 2544, 2662, 2672, 2790,
    2800, 2918, 2928, 3046, 3056, 3174, 3184, 3302, 3312, 3430, 3440, 3558, 3568, 3664, 3674,
    3792, 3802, 3872, 3882, 4160, 4170, 4240, 4250, 6112, 6122, 6160, 6170, 6470, 6480, 6608,
    6618, 6784, 6794, 6800, 6810, 6992, 7002, 7088, 7098, 7232, 7242, 7248, 7258, 42528,
    42538, 43216, 43226, 43264, 43274, 43472, 43482, 43504, 43514, 43600, 43610, 44016, 44026,
    65296, 65306, 66720, 66730, 68912, 68922, 68928, 68938, 69734, 69744, 69872, 69882, 69942,
    69952, 70096, 70106, 70384, 70394, 70736, 70746, 70864, 70874, 71248, 71258, 71360, 71370,
    71376, 71396, 71472, 71482, 71904, 71914, 72016, 72026, 72688, 72698, 72784, 72794, 73040,
    73050, 73120, 73130, 73552, 73562, 90416, 90426, 92768, 92778, 92864, 92874, 93008, 93018,
    93552, 93562, 118000, 118010, 120782, 120832, 123200, 123210, 123632, 123642, 124144,
    124154, 124401, 124411, 125264, 125274, 130032, 130042]⟩

def isDecimalDigit (c : Char) : Bool := decimalDigits.contains c

theorem isDecimalDigit_of_isDigit {c : Char} (h : c.isDigit) : isDecimalDigit c := by
  simp only [Char.isDigit, Bool.and_eq_true, decide_eq_true_eq] at h
  have h0 : 48 ≤ c.toNat := UInt32.le_iff_toNat_le.1 h.1
  have h9 : c.toNat ≤ 57 := UInt32.le_iff_toNat_le.1 h.2
  have h48 : ¬ c.toNat < 48 := by omega
  have h58 : c.toNat < 58 := by omega
  simp [isDecimalDigit, CodePointSet.contains, decimalDigits, CodePointSet.containsFrom, h48, h58]

end Clearinghouse.Text
