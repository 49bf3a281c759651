import Clearinghouse.Text.Blank

/-!
# Copyright statements

A statement is a list of lines: trimmed, not blank, and each there once. Main statements: the
lines of the first statement come first in a union (`union_eq_append`), and no line is there
twice (`nodup_union`).
-/

namespace Clearinghouse

open Text

structure Copyright where
  lines : List String
  deriving DecidableEq, Repr, Inhabited

namespace Copyright

def empty : Copyright := ⟨[]⟩

/-- Add a line at the end, unless it is blank or there already. -/
def push (c : Copyright) (line : String) : Copyright :=
  match trimmed? line with
  | none => c
  | some line => if c.lines.contains line then c else ⟨c.lines ++ [line]⟩

/-- Add several lines in order. -/
def pushAll (c : Copyright) (lines : List String) : Copyright := lines.foldl push c

/-- The statement that a text makes, line by line. -/
def ofText (s : String) : Copyright := empty.pushAll (splitAt '\n' s)

/-- The lines of both, those of `c` first. -/
def union (c d : Copyright) : Copyright := c.pushAll d.lines

def isEmpty (c : Copyright) : Bool := c.lines.isEmpty

def toText (c : Copyright) : String := join "\n" c.lines

/-! ## Laws -/

@[simp] theorem pushAll_nil (c : Copyright) : c.pushAll [] = c := rfl

@[simp] theorem pushAll_cons (c : Copyright) (line : String) (lines : List String) :
    c.pushAll (line :: lines) = (c.push line).pushAll lines := rfl

theorem pushAll_append (c : Copyright) (ls ms : List String) :
    c.pushAll (ls ++ ms) = (c.pushAll ls).pushAll ms := List.foldl_append

@[simp] theorem union_empty (c : Copyright) : c.union empty = c := rfl

/-- Adding a line only adds at the end. -/
theorem push_eq_append (c : Copyright) (line : String) :
    ∃ new, (c.push line).lines = c.lines ++ new := by
  unfold push
  split
  · exact ⟨[], (List.append_nil _).symm⟩
  · split
    · exact ⟨[], (List.append_nil _).symm⟩
    · exact ⟨_, rfl⟩

theorem pushAll_eq_append (c : Copyright) (lines : List String) :
    ∃ new, (c.pushAll lines).lines = c.lines ++ new := by
  induction lines generalizing c with
  | nil => exact ⟨[], (List.append_nil _).symm⟩
  | cons line lines ih =>
    obtain ⟨new, h⟩ := push_eq_append c line
    obtain ⟨more, h'⟩ := ih (c.push line)
    exact ⟨new ++ more, by rw [pushAll_cons, h', h, List.append_assoc]⟩

theorem union_eq_append (c d : Copyright) : ∃ new, (c.union d).lines = c.lines ++ new :=
  pushAll_eq_append c d.lines

theorem nodup_push {c : Copyright} (h : c.lines.Nodup) (line : String) :
    (c.push line).lines.Nodup := by
  unfold push
  split
  · exact h
  · split
    · exact h
    · rename_i hn
      refine List.nodup_append.2 ⟨h, by simp, ?_⟩
      intro a ha b hb
      rw [List.mem_singleton] at hb
      rintro rfl
      exact hn (List.contains_iff_mem.2 (hb ▸ ha))

theorem nodup_pushAll {c : Copyright} (h : c.lines.Nodup) (lines : List String) :
    (c.pushAll lines).lines.Nodup := by
  induction lines generalizing c with
  | nil => exact h
  | cons line lines ih => exact ih (nodup_push h line)

theorem nodup_union {c : Copyright} (h : c.lines.Nodup) (d : Copyright) :
    (c.union d).lines.Nodup := nodup_pushAll h d.lines

end Copyright

end Clearinghouse
