import Clearinghouse.Proofs.PackageUrl.Reading

/-!
# Plain fields

Fields that are plain are read from their text as they stand, but for letter case
(`Plain.ofPath_eq`).
-/

namespace Clearinghouse.PackageUrl

open Text

variable {ns name version : String}

/-! ## The namespace -/

/-- A plain namespace neither begins nor ends with a slash. -/
theorem PlainSegments.ends (h : PlainSegments ns) :
    (∀ c ∈ ns.toList.head?, (c == '/') = false) ∧ ∀ c ∈ ns.toList.getLast?, (c == '/') = false := by
  have hidle : [] ∉ splitWhere (· == '/') ns.toList := fun hmem => by
    have := (h [] hmem).1
    cases this
  refine ⟨fun c hc => beq_false_of_ne ?_, fun c hc => beq_false_of_ne ?_⟩
  · rintro rfl
    obtain ⟨more, hmore⟩ := List.head?_eq_some_iff.1 hc
    rw [hmore, splitWhere] at hidle
    exact hidle List.mem_cons_self
  · rintro rfl
    obtain ⟨front, hfront⟩ := List.getLast?_eq_some_iff.1 hc
    rw [hfront, splitWhere_append _ _ (by rfl)] at hidle
    exact hidle (List.mem_append_right _ List.mem_cons_self)

/-- The segments that a namespace is made of. -/
def segmentsOf (ns : String) : List String :=
  if ns = "" then [] else (splitWhere (· == '/') ns.toList).map .ofList

theorem join_segmentsOf (ns : String) : join "/" (segmentsOf ns) = ns := by
  unfold segmentsOf
  split
  · rename_i h
    rw [h]
    rfl
  · have hslash : (join "/" ((splitWhere (· == '/') ns.toList).map .ofList)).toList ++ ['/'] =
        ns.toList ++ ['/'] := by
      rw [toList_join_append (by simpa using splitWhere_ne_nil _ _), List.flatMap_map]
      simpa using flatMap_splitWhere ns.toList
    exact String.toList_inj.1 (List.append_cancel_right hslash)

theorem namespaceSegments_of_plain (h : ns ≠ "" → PlainSegments ns) :
    namespaceSegments ns.toList = .ok (segmentsOf ns) := by
  unfold segmentsOf
  split
  · rename_i hempty
    rw [hempty]
    rfl
  · rename_i hne
    have hplain := h hne
    have hall : segments ns.toList = splitWhere (· == '/') ns.toList := by
      rw [segments, trimMatches_eq_self hplain.ends.1 hplain.ends.2, List.filter_eq_self]
      exact fun segment hmem => by rw [(hplain segment hmem).1]; rfl
    rw [namespaceSegments_eq_ok_iff, hall, List.forall₂_map_right_iff, List.forall₂_same]
    intro segment hmem
    refine ⟨(hplain segment hmem).2, ?_, ?_⟩
    · intro hempty
      have hnil : segment = [] := by simpa using congrArg String.toList hempty
      have := (hplain segment hmem).1
      rw [hnil] at this
      cases this
    · rw [String.toList_ofList]
      exact fun hslash => absurd (not_of_mem_splitWhere hmem hslash) (by simp)

/-! ## The path -/

theorem pathParts_of_plain (h : Plain ns name version) (hname : name ≠ "") :
    pathParts (nsText ns ++ name.toList) = (ns.toList, name.toList) := by
  have hne : name.toList ≠ [] := by simpa using hname
  have hslash : ∀ c ∈ name.toList, (c == '/') = false := by
    intro c hc
    refine beq_false_of_ne ?_
    rintro rfl
    exact h.name_slash hc
  have hlast : ∀ c ∈ (nsText ns ++ name.toList).getLast?, (c == '/') = false := by
    rw [List.getLast?_append_of_ne_nil _ hne]
    exact fun c hc => hslash c (List.mem_of_getLast? hc)
  by_cases hns : ns = ""
  · rw [nsText, if_pos hns, List.nil_append] at hlast ⊢
    rw [pathParts, trimMatches_eq_self (fun c hc => hslash c (List.mem_of_head? hc)) hlast,
      cutOff_of_not_mem h.name_slash, hns]
    rfl
  · rw [nsText, if_neg hns, List.append_assoc, List.singleton_append] at hlast ⊢
    have hhead : ∀ c ∈ (ns.toList ++ '/' :: name.toList).head?, (c == '/') = false := by
      rw [List.head?_append_of_ne_nil _ (by simpa using hns)]
      exact (h.segments hns).ends.1
    rw [pathParts, trimMatches_eq_self hhead hlast, cutOff_append _ h.name_slash]

/-! ## The whole -/

/-- What is read from fields that are plain. -/
def ofFields (type : List Char) (ns name version : String) : PackageUrl where
  type := lowerAscii (.ofList type)
  ns? := if ns = "" then none else some (foldNamespace (lowerAscii (.ofList type)) ns)
  name := foldName (lowerAscii (.ofList type)) name
  version? := if version = "" then none else some version

section

variable {type : List Char} (hword : isWord ['.', '+', '-'] type = true)
  (h : Plain ns name version)
include hword

theorem dropWhile_typed (rest : List Char) :
    (type ++ '/' :: rest).dropWhile (· == '/') = type ++ '/' :: rest := by
  refine dropWhile_eq_self fun c hc => beq_false_of_ne ?_
  rintro rfl
  have hslash := slash_not_mem_of_isWord hword
  cases type with
  | nil => cases hword
  | cons d ds =>
    obtain rfl : d = '/' := by simpa using hc
    exact hslash List.mem_cons_self

theorem not_mem_typed {c : Char} (hc : c.isAlphanum = false) (hmark : c ∉ ['.', '+', '-', '/'])
    {rest : List Char} (hrest : c ∉ rest) : c ∉ type ++ '/' :: rest := by
  simp only [List.mem_cons, List.not_mem_nil, or_false, not_or] at hmark
  rw [List.mem_append, List.mem_cons]
  rintro (hmem | hmem | hmem)
  · exact not_mem_of_isWord hword hc (by simp [hmark]) hmem
  · exact hmark.2.2.2 hmem
  · exact hrest hmem

include h

theorem Plain.cutOff_hash :
    cutOff '#' ((type ++ '/' :: fieldText ns name version).dropWhile (· == '/')) =
      (type ++ '/' :: fieldText ns name version, none) := by
  rw [dropWhile_typed hword,
    cutOff_of_not_mem (not_mem_typed hword (by decide) (by decide) h.hash)]

theorem Plain.cutOff_question :
    cutOff '?' (type ++ '/' :: fieldText ns name version) =
      (type ++ '/' :: fieldText ns name version, none) :=
  cutOff_of_not_mem (not_mem_typed hword (by decide) (by decide) h.question)

theorem Plain.cutOff_at :
    cutOff '@' (type ++ '/' :: fieldText ns name version) =
      (type ++ '/' :: (nsText ns ++ name.toList),
        if version = "" then none else some version.toList) := by
  by_cases hempty : version = ""
  · have hat := not_mem_typed hword (by decide) (by decide) (h.unversioned hempty)
    rw [cutOff_of_not_mem hat, if_pos hempty, fieldText, versionText, if_pos hempty,
      List.append_nil]
  · rw [if_neg hempty, fieldText, versionText, if_neg hempty, ← List.cons_append,
      ← List.append_assoc, cutOff_append _ h.version_at]

theorem Plain.reads (hname : name ≠ "") :
    Reads (type ++ '/' :: fieldText ns name version) (ofFields type ns name version) type
      (nsText ns ++ name.toList) name (segmentsOf ns) := by
  have hparts := pathParts_of_plain h hname
  have hbare : bare (type ++ '/' :: fieldText ns name version) =
      type ++ '/' :: fieldText ns name version := by
    rw [bare, h.cutOff_hash hword, h.cutOff_question hword]
  refine ⟨⟨none, ?_, by rintro ⟨⟩⟩, ?_, ?_, ?_, hword, ?_, ?_, ?_, rfl, ?_, rfl⟩
  · rw [h.cutOff_hash hword]
    rfl
  · rw [h.cutOff_hash hword, h.cutOff_question hword]
    rfl
  · rw [hbare, h.cutOff_at hword, ofFields]
    split
    · rfl
    · simp [decode_eq_ok_iff.2, h.version_decode]
  · rw [hbare, h.cutOff_at hword]
    exact cutFirst?_eq_some_iff.2 ⟨rfl, slash_not_mem_of_isWord hword⟩
  · rw [hparts]
    simpa using hname
  · rw [hparts, decode_eq_ok_iff, String.ofList_toList]
    exact h.name_decode
  · rw [hparts]
    exact namespaceSegments_of_plain h.segments
  · rw [join_segmentsOf, segmentsOf, ofFields]
    by_cases hns : ns = "" <;> simp [hns, splitWhere_ne_nil]

/-- Plain fields are read as they stand, but for letter case. -/
theorem Plain.ofPath_eq (hname : name ≠ "") :
    ofPath (type ++ '/' :: fieldText ns name version) = .ok (ofFields type ns name version) :=
  ofPath_eq_ok_iff.2 ⟨_, _, _, _, h.reads hword hname⟩

end

end Clearinghouse.PackageUrl
