import Clearinghouse.Proofs.Selector.Spelling

/-!
# Selectors without a version

A selector that names a type, a namespace and a name, and no version, is meant to take the package
in every version. The version of a selector stands behind its last `@`, and fields may have an
`@` of their own. So the selector takes the package in every version if and only if neither the
namespace nor the name has an `@` (`takes_every_version_iff`).

An `@` in a field leaves less for namespace and name than the fields are long, and trimming makes
no text longer. So then the selector does not take the package at all.
-/

namespace Clearinghouse

open Text PackageUrl

/-! ## Spellings of a type -/

namespace PackageType

variable {type : String} {t : PackageType}

theorem ofText?_trim (s : String) : ofText? (trim s) = ofText? s := by
  rw [ofText?, trimmed_trim s, ofText?]

theorem ofText?_trimStart (s : String) : ofText? (.ofList (trimStart s.toList)) = ofText? s := by
  have htrim : trim (.ofList (trimStart s.toList)) = trim s := by
    rw [trim, String.toList_ofList, trimChars, trimStart_trimStart]
    rfl
  rw [← ofText?_trim, htrim, ofText?_trim]

/-- No spelling of a type has a character that ends a type. -/
theorem endsType_of_mem (h : ofText? type = some t) :
    ∀ c ∈ type.toList, CoordinateSelector.endsType c = false := by
  intro c hc
  rw [Bool.eq_false_iff]
  intro hends
  have hnames : ∀ t : PackageType, ∀ s ∈ t.name :: t.aliases,
      s.toList.any CoordinateSelector.endsType = false := by
    intro t
    cases t <;> decide
  have hmark : isNeutral c = true ∧ isBlank c = false := by
    rw [CoordinateSelector.endsType, Bool.or_eq_true, beq_iff_eq, beq_iff_eq] at hends
    rcases hends with rfl | rfl <;> decide
  have htrim : c ∈ (trim type).toList := by
    rw [trim, String.toList_ofList]
    exact mem_trimMatches hc hmark.2
  have hlower : c ∈ (lower (trim type)).toList := ((recased_lower _).mem_iff hmark.1).2 htrim
  have hnamed : lower (trim type) ∈ t.name :: t.aliases := by
    have hfound := List.find?_some h
    rwa [isNamed, Bool.or_eq_true, beq_iff_eq, List.contains_iff_mem, ← List.mem_cons] at hfound
  exact List.any_eq_false.1 (hnames t _ hnamed) c hlower hends

end PackageType

theorem TypePattern.parse_of_ofText? {type : String} {t : PackageType}
    (h : PackageType.ofText? type = some t) : parse type = .ok (.exactly t) := by
  have hstar : trim type ≠ "*" := by
    intro heq
    have hnone : PackageType.ofText? "*" = none := by decide +kernel
    rw [← PackageType.ofText?_trim, heq, hnone] at h
    cases h
  rw [parse, PackageType.ofText?_trim, h]
  simp [hstar]

namespace CoordinateSelector

/-! ## The text -/

/-- The text of a selector without a version. An empty namespace is left out. -/
def unversioned (type ns name : String) : String :=
  s!"{type}:" ++ (if ns = "" then "" else s!"{ns}/") ++ name

theorem toList_unversioned (type ns name : String) :
    (unversioned type ns name).toList = type.toList ++ ':' :: (nsText ns ++ name.toList) := by
  unfold unversioned nsText
  split <;> simp [toString]

/-- The texts can stand for the namespace and the name of a package in a selector. -/
structure Nameable (ns name : String) : Prop where
  ns_star : '*' ∉ ns.toList
  ns_trimmed : Trimmed ns
  name_star : '*' ∉ name.toList
  name_trimmed : Trimmed name
  name_slash : '/' ∉ name.toList
  name_ne : name ≠ ""

section

variable {type ns name : String} {t : PackageType} (htype : PackageType.ofText? type = some t)
  (h : Nameable ns name)
include htype

/-- The scheme of a package URL is no type. -/
theorem body_append_cons (rest : List Char) :
    body (trimStart type.toList ++ ':' :: rest) = trimStart type.toList ++ ':' :: rest := by
  rw [body]
  cases hstrip : stripStart? ['p', 'k', 'g', ':'] (trimStart type.toList ++ ':' :: rest) with
  | none => rfl
  | some full =>
    have hcolon : ':' ∉ trimStart type.toList := by
      intro hmem
      have hends := PackageType.endsType_of_mem htype ':' (List.dropWhile_sublist _ |>.subset hmem)
      cases hends
    have hfull := stripStart?_eq_some_iff.1 hstrip
    have hcut : trimStart type.toList ++ ':' :: rest = ['p', 'k', 'g'] ++ ':' :: full := hfull
    have hscheme := (eq_of_first_cut hcut hcolon (by decide)).1
    have hnone : PackageType.ofText? (.ofList ['p', 'k', 'g']) = none := by decide +kernel
    rw [← PackageType.ofText?_trimStart, hscheme, hnone] at htype
    cases htype

include h

/-- The type ends at the colon. -/
theorem cut_unversioned :
    cutFirst? endsType (body (trimChars (unversioned type ns name).toList)) =
      some (trimStart type.toList, nsText ns ++ name.toList) := by
  have hname : name.toList ≠ [] := by simpa using h.name_ne
  have hlast : ∀ c ∈ (nsText ns ++ name.toList).getLast?, isBlank c = false := by
    rw [List.getLast?_append_of_ne_nil _ hname, ← h.name_trimmed.toList]
    exact getLast?_trimEnd _
  have hends : ∀ c ∈ trimStart type.toList, endsType c = false := fun c hc =>
    PackageType.endsType_of_mem htype c (List.dropWhile_sublist _ |>.subset hc)
  rw [toList_unversioned, trimChars_append_cons (by decide) _ hlast, body_append_cons htype]
  exact cutFirst?_append hends (by decide) _

/-- The fields of the selector are read from what follows the colon. -/
theorem parse_unversioned_iff {q : CoordinateSelector} :
    parse (unversioned type ns name) = .ok q ↔
      q.type = .exactly t ∧ fieldPatterns (nsText ns ++ name.toList) = (q.ns, q.name, q.version) ∧
        q.name ≠ .blank := by
  have hcut := cut_unversioned htype h
  have htypes : TypePattern.parse (.ofList (trimStart type.toList)) = .ok (.exactly t) :=
    TypePattern.parse_of_ofText? ((PackageType.ofText?_trimStart type).trans htype)
  have hstar : trimChars (unversioned type ns name).toList ≠ ['*'] := by
    intro hstar
    rw [hstar] at hcut
    exact absurd hcut (by simp [show cutFirst? endsType (body ['*']) = none from rfl])
  rw [parse_eq_ok_iff, hcut]
  simp only [hstar, Option.some.injEq, Prod.mk.injEq, false_and, ne_eq, not_false_eq_true,
    true_and, false_or]
  constructor
  · rintro ⟨_, _, ⟨rfl, rfl⟩, ht, hfields⟩
    exact ⟨(Except.ok.inj (htypes.symm.trans ht)).symm, hfields⟩
  · rintro ⟨ht, hfields⟩
    exact ⟨_, _, ⟨rfl, rfl⟩, ht ▸ htypes, hfields⟩

end

/-! ## An `@` in a field -/

section

variable {ns name : String} (h : Nameable ns name)
include h

theorem Nameable.star_not_mem : '*' ∉ nsText ns ++ name.toList := by
  unfold nsText
  split <;> simp [h.ns_star, h.name_star]

/-- Behind an `@` of theirs the fields are not found as they are. -/
theorem Nameable.not_takes {q : CoordinateSelector} (hat : '@' ∈ nsText ns ++ name.toList)
    (hq : fieldPatterns (nsText ns ++ name.toList) = (q.ns, q.name, q.version)) {d : Coordinate}
    (hns : d.ns = ns) (hname : d.name = name) : ¬ q.takes d = true := by
  intro htakes
  obtain ⟨ns', name', version', hwrites⟩ := exists_writes hat
  obtain ⟨-, htrims⟩ := (hwrites.takes_iff h.star_not_mem hq d).1 htakes
  have hns' := length_trim_le ns'
  have hname' := length_trim_le name'
  rw [htrims.ns, hns] at hns'
  rw [htrims.name, hname] at hname'
  rcases hwrites.eq_or with ⟨rfl, heq⟩ | heq
  · have hempty : ns = "" := hns.symm.trans htrims.ns.symm
    have hlength := congrArg List.length heq
    simp only [nsText, hempty, if_true, List.nil_append, List.length_append,
      List.length_cons] at hlength
    omega
  · have hlength := congrArg List.length heq
    unfold nsText at hlength
    split at hlength <;>
      simp only [List.nil_append, List.length_append, List.length_cons, List.length_nil] at hlength <;>
      omega

/-- Without an `@` the fields are found as they are, and no version. -/
theorem Nameable.fieldPatterns_eq (hat : '@' ∉ nsText ns ++ name.toList) :
    fieldPatterns (nsText ns ++ name.toList) =
      (.ofChars ns.toList, .ofChars name.toList, .any) := by
  have hpath : pathPatterns (nsText ns ++ name.toList) =
      (.ofChars ns.toList, .ofChars name.toList) := by
    unfold nsText
    split
    · rename_i hempty
      have hstar : trimChars name.toList ≠ ['*'] := by
        rw [h.name_trimmed.toList]
        intro hname
        exact h.name_star (hname ▸ List.mem_cons_self)
      rw [List.nil_append, pathPatterns_of_not_mem h.name_slash, if_neg hstar, hempty]
      rfl
    · rw [List.append_assoc, List.singleton_append, pathPatterns_append _ h.name_slash]
  rw [fieldPatterns, cutLast?_eq_none_iff.2 hat, hpath]

end

/-- A selector without a version takes a package in every version, and nothing else, if and only
if neither the namespace nor the name of the package has an `@`. -/
theorem takes_every_version_iff {type ns name : String} {t : PackageType}
    (htype : PackageType.ofText? type = some t) (h : Nameable ns name) :
    (∃ q, parse (unversioned type ns name) = .ok q ∧ ∀ d : Coordinate,
        q.takes d = true ↔ d.packageType = t ∧ d.ns = ns ∧ d.name = name) ↔
      '@' ∉ ns.toList ∧ '@' ∉ name.toList := by
  have hfree : ('@' ∉ ns.toList ∧ '@' ∉ name.toList) ↔ '@' ∉ nsText ns ++ name.toList := by
    by_cases hempty : ns = "" <;> simp [nsText, hempty]
  rw [hfree]
  constructor
  · rintro ⟨q, hq, htakes⟩ hat
    obtain ⟨-, hfields, -⟩ := (parse_unversioned_iff htype h).1 hq
    exact h.not_takes hat hfields rfl rfl ((htakes (.ofKnown t ns name "")).2 ⟨rfl, rfl, rfl⟩)
  · intro hat
    have hname : Pattern.ofChars name.toList ≠ .blank := by
      rw [Ne, Pattern.ofChars_eq_blank_iff, h.name_trimmed.toList]
      simpa using h.name_ne
    refine ⟨⟨.exactly t, .ofChars ns.toList, .ofChars name.toList, .any⟩,
      (parse_unversioned_iff htype h).2 ⟨rfl, h.fieldPatterns_eq hat, hname⟩, fun d => ?_⟩
    have hns : (Pattern.ofChars ns.toList).takes d.ns = true ↔ d.ns = ns := by
      rw [Pattern.takes_ofChars_iff h.ns_star, String.ofList_toList, h.ns_trimmed, eq_comm]
    have hname : (Pattern.ofChars name.toList).takes d.name = true ↔ d.name = name := by
      rw [Pattern.takes_ofChars_iff h.name_star, String.ofList_toList, h.name_trimmed, eq_comm]
    have hversion : Pattern.any.takes d.version = true := rfl
    have htype : (TypePattern.exactly t).takes d.packageType = true ↔ d.packageType = t := by
      rw [TypePattern.takes, beq_iff_eq, eq_comm]
    simp only [takes, Bool.and_eq_true, htype, hns, hname, hversion, and_true, and_assoc]

/-- An alias in capitals, and a namespace with a slash. -/
theorem takes_every_version_iff_library :
    PackageType.ofText? "GO" = some .golang ∧ Nameable "github.com/foo" "bar:baz" ∧
      ((∃ q, parse (unversioned "GO" "github.com/foo" "bar:baz") = .ok q ∧ ∀ d : Coordinate,
          q.takes d = true ↔
            d.packageType = .golang ∧ d.ns = "github.com/foo" ∧ d.name = "bar:baz") ↔
        '@' ∉ "github.com/foo".toList ∧ '@' ∉ "bar:baz".toList) :=
  have htype : PackageType.ofText? "GO" = some .golang := by decide +kernel
  have h : Nameable "github.com/foo" "bar:baz" :=
    ⟨by decide, by decide, by decide, by decide, by decide, by decide⟩
  ⟨htype, h, takes_every_version_iff htype h⟩

/-- A scoped package cannot be selected in every version by leaving out the version. -/
theorem not_takes_every_version_babel :
    PackageType.ofText? "npm" = some .npm ∧ Nameable "@babel" "core" ∧
      unversioned "npm" "@babel" "core" = "npm:@babel/core" ∧
      ¬ ∃ q, parse (unversioned "npm" "@babel" "core") = .ok q ∧ ∀ d : Coordinate,
        q.takes d = true ↔ d.packageType = .npm ∧ d.ns = "@babel" ∧ d.name = "core" := by
  refine ⟨by decide +kernel,
    ⟨by decide, by decide, by decide, by decide, by decide, by decide⟩, by decide, ?_⟩
  rintro ⟨q, hq, -⟩
  have hrefused : parse (unversioned "npm" "@babel" "core") =
      .error (.parse "selector" (.coordinate "npm:@babel/core" "missing name")) := by
    rfl
  rw [hrefused] at hq
  cases hq

end CoordinateSelector

end Clearinghouse
