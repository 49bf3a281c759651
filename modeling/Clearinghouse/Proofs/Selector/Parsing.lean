import Clearinghouse.Proofs.Result
import Clearinghouse.Proofs.Text.Cutting
import Clearinghouse.Proofs.Text.Trimmed
import Clearinghouse.Selector.Coordinate

/-!
# How selectors are read

A pattern is written as the text it was read from, trimmed (`toText_ofChars`). A selector is read
field by field from what follows the type (`parse_eq_ok_iff`): the version after the last `@`, the
name after the last slash of the rest.
-/

namespace Clearinghouse

open Text

/-! ## Patterns -/

namespace Pattern

/-- A pattern is written as the text it was read from. -/
theorem toText_ofTrimmed (cs : List Char) : (ofTrimmed cs).toText.toList = cs := by
  unfold ofTrimmed
  split
  · rename_i h
    exact (beq_iff_eq.1 h).symm
  · split
    · rename_i start hrev
      have hcs : cs = start.reverse ++ ['*'] := by
        rw [← List.reverse_reverse cs, hrev, List.reverse_cons]
      simp [toText, hcs]
    · simp [toText]

theorem toText_ofChars (cs : List Char) : (ofChars cs).toText.toList = trimChars cs :=
  toText_ofTrimmed _

theorem ofChars_trimChars (cs : List Char) : ofChars (trimChars cs) = ofChars cs := by
  rw [ofChars, ofChars, trimChars_trimChars]

theorem ofChars_inj {cs ds : List Char} : ofChars cs = ofChars ds ↔ trimChars cs = trimChars ds :=
  ⟨fun h => by rw [← toText_ofChars, h, toText_ofChars], fun h => by rw [ofChars, ofChars, h]⟩

theorem ofChars_star : ofChars ['*'] = any := rfl

theorem ofChars_eq_any_iff {cs : List Char} : ofChars cs = any ↔ trimChars cs = ['*'] :=
  (ofChars_inj : ofChars cs = ofChars ['*'] ↔ _)

theorem ofChars_eq_blank_iff {cs : List Char} : ofChars cs = blank ↔ trimChars cs = [] :=
  (ofChars_inj : ofChars cs = ofChars [] ↔ _)

end Pattern

/-! ## Selectors -/

namespace CoordinateSelector

/-- The patterns for namespace, name and version in what follows the type. -/
def fieldPatterns (rest : List Char) : Pattern × Pattern × Pattern :=
  match cutLast? (· == '@') rest with
  | some (path, version) => ((pathPatterns path).1, (pathPatterns path).2, .ofChars version)
  | none => ((pathPatterns rest).1, (pathPatterns rest).2, .any)

theorem pathPatterns_of_not_mem {path : List Char} (h : '/' ∉ path) :
    pathPatterns path =
      if trimChars path = ['*'] then (.any, .any) else (.blank, .ofChars path) := by
  rw [pathPatterns, cutLast?_eq_none_iff.2 h]
  simp only [beq_iff_eq]

theorem pathPatterns_append (ns : List Char) {name : List Char} (h : '/' ∉ name) :
    pathPatterns (ns ++ '/' :: name) = (.ofChars ns, .ofChars name) := by
  rw [pathPatterns, cutLast?_eq_some_iff.2 ⟨rfl, h⟩]

theorem fieldPatterns_append (path : List Char) {version : List Char} (h : '@' ∉ version) :
    fieldPatterns (path ++ '@' :: version) =
      ((pathPatterns path).1, (pathPatterns path).2, .ofChars version) := by
  rw [fieldPatterns, cutLast?_eq_some_iff.2 ⟨rfl, h⟩]

theorem exists_pathPatterns (path : List Char) :
    ∃ ns name, pathPatterns path = (.ofChars ns, .ofChars name) ∧ '/' ∉ name := by
  cases hcut : cutLast? (· == '/') path with
  | none =>
    have hpath := cutLast?_eq_none_iff.1 hcut
    rw [pathPatterns_of_not_mem hpath]
    split
    · exact ⟨['*'], ['*'], rfl, by simp⟩
    · exact ⟨[], path, rfl, hpath⟩
  | some cut =>
    obtain ⟨hpath, hname⟩ := cutLast?_eq_some_iff.1 hcut
    rw [hpath, pathPatterns_append cut.1 hname]
    exact ⟨cut.1, cut.2, rfl, hname⟩

/-- The patterns are those of texts, of which the name has no slash and the version no `@`. -/
theorem exists_fieldPatterns (rest : List Char) :
    ∃ ns name version, fieldPatterns rest = (.ofChars ns, .ofChars name, .ofChars version) ∧
      '/' ∉ name ∧ '@' ∉ version := by
  cases hcut : cutLast? (· == '@') rest with
  | none =>
    obtain ⟨ns, name, hpath, hname⟩ := exists_pathPatterns rest
    refine ⟨ns, name, ['*'], ?_, hname, by simp⟩
    rw [fieldPatterns, hcut, hpath, Pattern.ofChars_star]
  | some cut =>
    obtain ⟨hrest, hversion⟩ := cutLast?_eq_some_iff.1 hcut
    obtain ⟨ns, name, hpath, hname⟩ := exists_pathPatterns cut.1
    refine ⟨ns, name, cut.2, ?_, hname, hversion⟩
    rw [hrest, fieldPatterns_append cut.1 hversion, hpath]

/-- The text of a selector without the scheme. -/
def body (cs : List Char) : List Char := (stripStart? ['p', 'k', 'g', ':'] cs).getD cs

/-- Where the type of a selector ends. -/
def endsType (c : Char) : Bool := c == ':' || c == '/'

/-- Reading a selector, with the patterns for the fields read at once. -/
theorem parse_eq (s : String) :
    parse s =
      if trimChars s.toList = ['*'] then .ok any
      else
        match cutFirst? endsType (body (trimChars s.toList)) with
        | none => .error (.parse "selector" (.coordinate s "expected 'type:' or 'type/' prefix"))
        | some (type, rest) => TypePattern.parse (.ofList type) >>= fun t =>
          if (fieldPatterns rest).2.1 = .blank then
            .error (.parse "selector" (.coordinate s "missing name"))
          else
            .ok ⟨t, (fieldPatterns rest).1, (fieldPatterns rest).2.1, (fieldPatterns rest).2.2⟩ := by
  have hends : (fun c => c == ':' || c == '/') = endsType := rfl
  have hbody (cs : List Char) : (stripStart? ['p', 'k', 'g', ':'] cs).getD cs = body cs := rfl
  unfold parse
  simp only [beq_iff_eq, hends, hbody]
  split
  · rfl
  · cases cutFirst? endsType (body (trimChars s.toList)) with
    | none => rfl
    | some cut =>
      obtain ⟨type, rest⟩ := cut
      refine bind_congr fun t => ?_
      unfold fieldPatterns
      cases cutLast? (· == '@') rest with
      | none => dsimp only; split <;> rfl
      | some cut => dsimp only; split <;> rfl

/-- A selector is read that is a lone star, or that has a type and a name. -/
theorem parse_eq_ok_iff {s : String} {q : CoordinateSelector} :
    parse s = .ok q ↔
      (trimChars s.toList = ['*'] ∧ q = any) ∨
      (trimChars s.toList ≠ ['*'] ∧ ∃ type rest,
        cutFirst? endsType (body (trimChars s.toList)) = some (type, rest) ∧
        TypePattern.parse (.ofList type) = .ok q.type ∧
        fieldPatterns rest = (q.ns, q.name, q.version) ∧ q.name ≠ .blank) := by
  rw [parse_eq]
  by_cases hstar : trimChars s.toList = ['*']
  · simp [hstar, eq_comm]
  · rw [if_neg hstar]
    cases hcut : cutFirst? endsType (body (trimChars s.toList)) with
    | none => simp [hstar]
    | some cut =>
      obtain ⟨type, rest⟩ := cut
      obtain ⟨t', ns', name', version'⟩ := q
      simp only [bind_eq_ok_iff, hstar, Option.some.injEq, Prod.mk.injEq, false_and, ne_eq,
        not_false_eq_true, true_and, false_or]
      constructor
      · rintro ⟨t, ht, h⟩
        split at h
        · cases h
        · rename_i hname
          cases h
          exact ⟨type, rest, ⟨rfl, rfl⟩, ht, rfl, hname⟩
      · rintro ⟨_, _, ⟨rfl, rfl⟩, ht, hfields, hname⟩
        refine ⟨t', ht, ?_⟩
        rw [hfields, if_neg hname]

end CoordinateSelector

end Clearinghouse
