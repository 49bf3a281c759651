import Clearinghouse.Proofs.Selector.Parsing

/-!
# Selectors as text

A selector is written without a namespace if it takes only coordinates that have none. A lone
star in place of namespace and name is read as any name in any namespace, so of all selectors
that were read one form does not come back from its text: any name without a namespace, which
comes back as any name in any namespace (`parse_toText_iff`).
-/

namespace Clearinghouse

open Text

/-! ## The type -/

namespace TypePattern

theorem parse_toText (p : TypePattern) : parse (.ofList p.toText.toList) = .ok p := by
  cases p with
  | any => decide +kernel
  | exactly t => cases t <;> decide +kernel

theorem endsType_of_mem_toText (p : TypePattern) :
    ∀ c ∈ p.toText.toList, CoordinateSelector.endsType c = false := by
  have hnone : p.toText.toList.any CoordinateSelector.endsType = false := by
    cases p with
    | any => decide
    | exactly t => cases t <;> decide
  exact fun c hc => Bool.eq_false_iff.2 (List.any_eq_false.1 hnone c hc)

/-- No type reads as the scheme of a package URL. -/
theorem stripStart?_toText (p : TypePattern) (rest : List Char) :
    stripStart? ['p', 'k', 'g', ':'] (p.toText.toList ++ ':' :: rest) = none := by
  cases p with
  | any => rfl
  | exactly t => cases t <;> rfl

theorem head?_toText (p : TypePattern) (rest : List Char) :
    ∀ c ∈ (p.toText.toList ++ rest).head?, isBlank c = false := by
  cases p with
  | any => rintro c ⟨⟩; decide
  | exactly t => cases t <;> (rintro c ⟨⟩; decide)

end TypePattern

namespace CoordinateSelector

/-! ## Reading what is written -/

/-- How the fields after the type are written. -/
def patternText (q : CoordinateSelector) : List Char :=
  (if q.ns = .blank then [] else q.ns.toText.toList ++ ['/']) ++ q.name.toText.toList ++
    '@' :: q.version.toText.toList

theorem toList_toText (q : CoordinateSelector) :
    q.toText.toList = q.type.toText.toList ++ ':' :: q.patternText := by
  unfold toText patternText
  by_cases h : q.ns = .blank <;> simp [h, toString, String.toList_append]

/-- The fields are read from these texts. -/
structure ReadFrom (q : CoordinateSelector) (ns name version : List Char) : Prop where
  ns_eq : q.ns = .ofChars ns
  name_eq : q.name = .ofChars name
  version_eq : q.version = .ofChars version
  slash_not_mem : '/' ∉ name
  at_not_mem : '@' ∉ version
  name_ne : q.name ≠ .blank

theorem exists_readFrom {s : String} {q : CoordinateSelector} (h : parse s = .ok q) :
    ∃ ns name version, q.ReadFrom ns name version := by
  rcases parse_eq_ok_iff.1 h with ⟨-, rfl⟩ | ⟨-, type, rest, -, -, hfields, hname⟩
  · exact ⟨['*'], ['*'], ['*'], rfl, rfl, rfl, by decide, by decide, by decide⟩
  · obtain ⟨ns, name, version, heq, hslash, hat⟩ := exists_fieldPatterns rest
    rw [heq, Prod.mk.injEq, Prod.mk.injEq] at hfields
    obtain ⟨hns, hname', hversion⟩ := hfields
    exact ⟨ns, name, version, hns.symm, hname'.symm, hversion.symm, hslash, hat, hname⟩

/-- What a selector is that is read from the text of `q`. -/
def reread (q : CoordinateSelector) : CoordinateSelector :=
  if q.ns = .blank ∧ q.name = .any then { q with ns := .any } else q

section

variable {q : CoordinateSelector} {ns name version : List Char} (h : q.ReadFrom ns name version)
include h

/-- A star that stands alone takes every namespace; all other patterns are read again. -/
theorem ReadFrom.fieldPatterns_patternText :
    fieldPatterns q.patternText = (q.reread.ns, q.name, q.version) := by
  have hversion : '@' ∉ q.version.toText.toList := by
    rw [h.version_eq, Pattern.toText_ofChars]
    exact fun hmem => h.at_not_mem (mem_of_mem_trimChars hmem)
  have hname : '/' ∉ q.name.toText.toList := by
    rw [h.name_eq, Pattern.toText_ofChars]
    exact fun hmem => h.slash_not_mem (mem_of_mem_trimChars hmem)
  have hns : Pattern.ofChars q.ns.toText.toList = q.ns := by
    rw [h.ns_eq, Pattern.toText_ofChars, Pattern.ofChars_trimChars]
  have hn : Pattern.ofChars q.name.toText.toList = q.name := by
    rw [h.name_eq, Pattern.toText_ofChars, Pattern.ofChars_trimChars]
  have hv : Pattern.ofChars q.version.toText.toList = q.version := by
    rw [h.version_eq, Pattern.toText_ofChars, Pattern.ofChars_trimChars]
  rw [patternText, fieldPatterns_append _ hversion, hv, reread]
  by_cases hblank : q.ns = .blank
  · have hstar : trimChars q.name.toText.toList = ['*'] ↔ q.name = .any := by
      rw [← Pattern.ofChars_eq_any_iff, hn]
    rw [if_pos hblank, List.nil_append, pathPatterns_of_not_mem hname, hn]
    by_cases hany : q.name = .any
    · rw [if_pos (hstar.2 hany), if_pos ⟨hblank, hany⟩, hany]
    · rw [if_neg (mt hstar.1 hany), if_neg fun hboth => hany hboth.2, hblank]
  · rw [if_neg hblank, if_neg fun hboth => hblank hboth.1, List.append_assoc, List.singleton_append,
      pathPatterns_append _ hname, hns, hn]

/-- A written selector is trimmed. -/
theorem ReadFrom.trimChars_toText : trimChars q.toText.toList = q.toText.toList := by
  have hlast : ∀ c ∈ q.version.toText.toList.getLast?, isBlank c = false := by
    rw [h.version_eq, Pattern.toText_ofChars]
    exact getLast?_trimEnd _
  rw [toList_toText]
  refine trimChars_eq_self (q.type.head?_toText _) ?_
  rw [patternText, ← List.cons_append, ← List.append_assoc]
  exact getLast?_append_cons (by decide) _ hlast

theorem ReadFrom.parse_toText : parse q.toText = .ok q.reread := by
  refine parse_eq_ok_iff.2 (.inr ⟨?_, q.type.toText.toList, q.patternText, ?_, ?_, ?_, ?_⟩)
  · rw [h.trimChars_toText, toList_toText]
    intro hstar
    have hcolon : ':' ∈ ['*'] := hstar ▸ List.mem_append_right _ List.mem_cons_self
    exact absurd hcolon (by decide)
  · rw [h.trimChars_toText, toList_toText, body, q.type.stripStart?_toText, Option.getD_none]
    exact cutFirst?_append q.type.endsType_of_mem_toText (by decide) _
  · rw [TypePattern.parse_toText]
    unfold reread
    split <;> rfl
  · rw [h.fieldPatterns_patternText]
    unfold reread
    split <;> rfl
  · unfold reread
    split <;> exact h.name_ne

end

/-- The text of a selector reads as the selector, unless it takes any name without a namespace:
then it reads as any name in any namespace. -/
theorem parse_toText_iff {s : String} {q : CoordinateSelector} (h : parse s = .ok q) :
    (parse q.toText = .ok q ↔ ¬ (q.ns = .blank ∧ q.name = .any)) ∧
      (q.ns = .blank ∧ q.name = .any → parse q.toText = .ok { q with ns := .any }) := by
  obtain ⟨ns, name, version, hread⟩ := exists_readFrom h
  rw [hread.parse_toText, reread]
  by_cases hform : q.ns = .blank ∧ q.name = .any
  · rw [if_pos hform]
    refine ⟨iff_of_false (fun heq => ?_) (not_not_intro hform), fun _ => rfl⟩
    have hns := congrArg CoordinateSelector.ns (Except.ok.inj heq)
    rw [hform.1] at hns
    cases hns
  · rw [if_neg hform]
    exact ⟨iff_of_true rfl hform, fun h => absurd h hform⟩

/-- A selector with shorthands and a prefix comes back from its text. -/
theorem parse_toText_iff_commons :
    ∃ q, parse " pkg:mvn/org.foo/commons-* " = .ok q ∧
      (parse q.toText = .ok q ↔ ¬ (q.ns = .blank ∧ q.name = .any)) ∧
      (q.ns = .blank ∧ q.name = .any → parse q.toText = .ok { q with ns := .any }) := by
  have h : parse " pkg:mvn/org.foo/commons-* " =
      .ok ⟨.exactly .maven, .exactly "org.foo", .startingWith "commons-", .any⟩ := by
    decide +kernel
  exact ⟨_, h, parse_toText_iff h⟩

/-- Any name without a namespace comes back as any name in any namespace. -/
theorem parse_toText_slashStar :
    ∃ q, parse "npm:/*" = .ok q ∧ parse q.toText ≠ .ok q := by
  refine ⟨⟨.exactly .npm, .blank, .any, .any⟩, by decide +kernel, by decide +kernel⟩

end CoordinateSelector

end Clearinghouse
