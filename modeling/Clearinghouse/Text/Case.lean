import Clearinghouse.Text.CaseTable

/-!
# Letter case of texts

A text is mapped character by character, except for the capital sigma: it becomes the final
sigma where a word ends. Main statement: a text of ASCII characters is lowered letter by letter
(`lowerAfter_of_ascii`).
-/

namespace Clearinghouse.Text

/-- The word goes on: past what case ignores, the next character has case. -/
def meetsCased (cs : List Char) : Bool :=
  match cs.dropWhile caseIgnorable.contains with
  | [] => false
  | c :: _ => cased.contains c

/-- Lower case of a single character. -/
def lowerChar (c : Char) : List Char :=
  if c.toNat < 128 then [c.toLower] else lowerMap.image c

/-- Upper case of a single character. -/
def upperChar (c : Char) : List Char :=
  if c.toNat < 128 then [c.toUpper] else upperMap.image c

/-- Lower case of `cs`, where `before` is what stands before it, last character first. -/
def lowerAfter (before : List Char) : List Char → List Char
  | [] => []
  | c :: cs =>
    (if c == 'Σ' then
      [if meetsCased before && !meetsCased cs then 'ς' else 'σ']
    else lowerChar c) ++ lowerAfter (c :: before) cs

def lower (s : String) : String := .ofList (lowerAfter [] s.toList)

def upper (s : String) : String := .ofList (s.toList.flatMap upperChar)

/-- Lower case of the ASCII letters alone. -/
def lowerAscii (s : String) : String := .ofList (s.toList.map Char.toLower)

def isUpper (c : Char) : Bool := uppercase.contains c

theorem lowerChar_of_ascii {c : Char} (h : c.toNat < 128) : lowerChar c = [c.toLower] := by
  simp [lowerChar, h]

theorem lowerAfter_of_ascii {cs : List Char} (before : List Char) (h : ∀ c ∈ cs, c.toNat < 128) :
    lowerAfter before cs = cs.map Char.toLower := by
  induction cs generalizing before with
  | nil => rfl
  | cons c cs ih =>
    have hc := h c List.mem_cons_self
    have hs : (c == 'Σ') = false := by
      rw [beq_eq_false_iff_ne]
      rintro rfl
      exact absurd hc (by decide)
    simp [lowerAfter, hs, lowerChar_of_ascii hc, ih _ fun x hx => h x (List.mem_cons_of_mem _ hx)]

end Clearinghouse.Text
