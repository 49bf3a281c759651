import Clearinghouse.Text.Unprintable

/-!
# Quoted text

How messages show a text or a character that may hold anything: between quotes, with a short
escape for the common controls and the number of every character that could not be seen. Main
statement: whatever the text, all that stands in its quoted form can be seen (`isSeen_of_mem_quote`),
so there is no line break in it and no other control.
-/

namespace Clearinghouse.Text

/-- The digits of `n` in base sixteen, lower case. -/
def hex (n : Nat) : List Char := Nat.toDigits 16 n

/-- A character as it stands between quotes of the given kind. -/
def escapeChar (mark c : Char) : List Char :=
  if c == '\x00' then ['\\', '0']
  else if c == '\t' then ['\\', 't']
  else if c == '\r' then ['\\', 'r']
  else if c == '\n' then ['\\', 'n']
  else if c == '\\' || c == mark then ['\\', c]
  else if attaching.contains c || unprintable.contains c then
    ['\\', 'u', '\x7b'] ++ hex c.toNat ++ ['\x7d']
  else [c]

/-- The text in double quotes. -/
def quote (s : String) : String :=
  .ofList ('"' :: s.toList.flatMap (escapeChar '"') ++ ['"'])

/-- The character in single quotes. -/
def quoteChar (c : Char) : String := .ofList ('\'' :: escapeChar '\'' c ++ ['\''])

/-! ## What is seen -/

/-- The character has a glyph of its own. -/
def isSeen (c : Char) : Bool := !(attaching.contains c || unprintable.contains c)

theorem exists_digitChar_of_mem_hex {n : Nat} {c : Char} (h : c ∈ hex n) :
    ∃ d < 16, c = d.digitChar := by
  induction n using Nat.strongRecOn with
  | ind n ih =>
    rw [hex, Nat.toDigits_eq_if (by decide)] at h
    split at h
    · rename_i hn
      exact ⟨n, hn, List.mem_singleton.1 h⟩
    · rcases List.mem_append.1 h with h | h
      · exact ih (n / 16) (by omega) h
      · exact ⟨n % 16, Nat.mod_lt n (by decide), List.mem_singleton.1 h⟩

theorem isSeen_of_mem_hex {n : Nat} {c : Char} (h : c ∈ hex n) : isSeen c := by
  have hdigits : ∀ d < 16, isSeen d.digitChar := by decide +kernel
  obtain ⟨d, hd, rfl⟩ := exists_digitChar_of_mem_hex h
  exact hdigits d hd

/-- What escapes are written with, besides digits. -/
def escapeSigns : List Char := ['\\', '0', 't', 'r', 'n', 'u', '\x7b', '\x7d']

/-- A character stands for itself only if it is seen. -/
theorem of_mem_escapeChar {mark c d : Char} (h : d ∈ escapeChar mark c) :
    d ∈ escapeSigns ∨ d = mark ∨ d ∈ hex c.toNat ∨ isSeen d := by
  unfold escapeChar at h
  grind [escapeSigns, isSeen]

theorem isSeen_of_mem_escapeChar {mark c d : Char} (hmark : isSeen mark)
    (h : d ∈ escapeChar mark c) : isSeen d := by
  have hsigns : ∀ sign ∈ escapeSigns, isSeen sign := List.all_eq_true.1 (by decide +kernel)
  obtain hd | rfl | hd | hd := of_mem_escapeChar h
  · exact hsigns d hd
  · exact hmark
  · exact isSeen_of_mem_hex hd
  · exact hd

/-- All that stands in a quoted text can be seen. -/
theorem isSeen_of_mem_quote {s : String} {c : Char} (h : c ∈ (quote s).toList) : isSeen c := by
  have hmark : isSeen '"' := by decide +kernel
  rw [quote, String.toList_ofList, List.cons_append, List.mem_cons, List.mem_append,
    List.mem_flatMap, List.mem_singleton] at h
  obtain rfl | ⟨d, -, hd⟩ | rfl := h
  · exact hmark
  · exact isSeen_of_mem_escapeChar hmark hd
  · exact hmark

end Clearinghouse.Text
