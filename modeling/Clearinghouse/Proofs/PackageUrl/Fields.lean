import Clearinghouse.PackageUrl
import Clearinghouse.Proofs.Text.Case
import Clearinghouse.Proofs.Text.Cutting

/-!
# The fields of a package URL

How type, namespace, name and version are written, and what folding letter case does to them: it
recases the text (`recased_fieldText`). Fields are plain if they are read as they stand.
-/

namespace Clearinghouse.PackageUrl

open Text

/-! ## Letter case -/

theorem recased_lower_of_if {cs : List Char} {s : String} (h : Recased cs s.toList) (p : Prop)
    [Decidable p] : Recased cs (if p then lower s else s).toList := by
  split
  · exact h.trans (recased_lower s)
  · exact h

theorem recased_hyphens (cs : List Char) :
    Recased cs (cs.map fun c => if c == '_' then '-' else c) := by
  induction cs with
  | nil => exact .refl []
  | cons c cs ih =>
    change Recased (c :: cs) ([if c == '_' then '-' else c] ++ _)
    refine ih.cons (List.cons_ne_nil _ _) (fun hc => ?_) (fun hc d hd => ?_)
    · have hne : ¬ (c == '_') = true := by
        rw [beq_iff_eq]
        rintro rfl
        cases hc
      rw [if_neg hne]
    · rw [List.mem_singleton.1 hd]
      split
      · rfl
      · exact hc

theorem recased_foldName (type name : String) :
    Recased name.toList (foldName type name).toList := by
  unfold foldName
  refine recased_lower_of_if ?_ _
  split
  · exact recased_lower name
  · split
    · have hmap := recased_hyphens name.toList
      rw [← String.toList_map] at hmap
      exact hmap.trans (recased_lower _)
    · exact .refl _

theorem recased_foldNamespace (type ns : String) :
    Recased ns.toList (foldNamespace type ns).toList := by
  unfold foldNamespace
  exact recased_lower_of_if (recased_lower_of_if (.refl _) _) _

/-! ## Types -/

theorem not_mem_of_isWord {marks type : List Char} (h : isWord marks type = true) {c : Char}
    (hc : c.isAlphanum = false) (hmark : c ∉ marks) : c ∉ type := by
  intro hmem
  cases type with
  | nil => cases hmem
  | cons d ds =>
    rw [isWord, Bool.and_eq_true, List.all_eq_true] at h
    have := h.2 c hmem
    simp [hc, hmark] at this

/-- A word is a word in lower case too. -/
theorem isWord_map_toLower {marks type : List Char} (hmarks : marks.map Char.toLower = marks)
    (h : isWord marks type = true) : isWord marks (type.map Char.toLower) = true := by
  have hletter {c : Char} (hc : c.isAlphanum = true) : c.toLower.isAlphanum = true := by
    rcases toLower_eq_or c with hsame | ⟨-, hlow, hhigh⟩
    · rwa [hsame]
    · exact isAlphanum_iff.2 (.inr (.inl (by omega)))
  have hdigit {c : Char} (hc : c.isDigit = false) : c.toLower.isDigit = false := by
    rcases toLower_eq_or c with hsame | ⟨-, hlow, -⟩
    · rwa [hsame]
    · rw [← Bool.not_eq_true, isDigit_iff]
      omega
  cases type with
  | nil => cases h
  | cons c cs =>
    simp only [isWord, Bool.and_eq_true, Bool.not_eq_true', List.all_eq_true, Bool.or_eq_true,
      decide_eq_true_eq] at h
    simp only [List.map_cons, isWord, Bool.and_eq_true, Bool.not_eq_true', List.all_eq_true,
      Bool.or_eq_true, decide_eq_true_eq]
    refine ⟨hdigit h.1, ?_⟩
    rw [← List.map_cons (f := Char.toLower)]
    intro d hd
    obtain ⟨c', hc', rfl⟩ := List.mem_map.1 hd
    refine (h.2 c' hc').imp hletter fun hmark => ?_
    rw [← hmarks]
    exact List.mem_map_of_mem hmark

theorem slash_not_mem_of_isWord {type : List Char} (h : isWord ['.', '+', '-'] type = true) :
    '/' ∉ type :=
  not_mem_of_isWord h (by decide) (by decide)

theorem isBlank_of_isWord {type : List Char} (h : isWord ['.', '+', '-'] type = true) :
    ∀ c ∈ type, isBlank c = false := by
  intro c hc
  have hblanks : ∀ n ∈ blankPoints,
      (Char.ofNat n).isAlphanum = false ∧ Char.ofNat n ∉ ['.', '+', '-'] := by
    decide +kernel
  rw [← Bool.not_eq_true, isBlank_iff]
  intro hmem
  have hmark := hblanks _ hmem
  rw [Char.ofNat_toNat] at hmark
  exact not_mem_of_isWord h hmark.1 hmark.2 hc

/-! ## Fields as text -/

/-- How a namespace is written before a name. -/
def nsText (ns : String) : List Char := if ns = "" then [] else ns.toList ++ ['/']

/-- How a version is written behind a name. -/
def versionText (version : String) : List Char :=
  if version = "" then [] else '@' :: version.toList

/-- How namespace, name and version are written. -/
def fieldText (ns name version : String) : List Char :=
  nsText ns ++ name.toList ++ versionText version

/-- The segments of a namespace are there to read, and there is nothing to decode in them. -/
def PlainSegments (ns : String) : Prop :=
  ∀ segment ∈ splitWhere (· == '/') ns.toList,
    isIdle segment = false ∧ Percent.decode? (.ofList segment) = some (.ofList segment)

/-- The fields are read as they stand: no mark is taken for the end of a field, and there is
nothing to decode and no segment to leave out. -/
structure Plain (ns name version : String) : Prop where
  hash : '#' ∉ fieldText ns name version
  question : '?' ∉ fieldText ns name version
  unversioned : version = "" → '@' ∉ fieldText ns name version
  version_at : '@' ∉ version.toList
  name_slash : '/' ∉ name.toList
  version_decode : Percent.decode? version = some version
  name_decode : Percent.decode? name = some name
  segments : ns ≠ "" → PlainSegments ns

/-- The fields of `p` before letter case is folded. -/
structure FieldsOf (p : PackageUrl) (type : List Char) (ns name version : String) : Prop where
  word : isWord ['.', '+', '-'] type = true
  name_ne : name ≠ ""
  type_eq : p.type = lowerAscii (.ofList type)
  ns_eq : p.ns?.getD "" = foldNamespace p.type ns
  name_eq : p.name = foldName p.type name
  version_eq : p.version?.getD "" = version

theorem recased_fieldText {ns ns' name name' : String} (hns : Recased ns.toList ns'.toList)
    (hname : Recased name.toList name'.toList) (version : String) :
    Recased (fieldText ns name version) (fieldText ns' name' version) := by
  refine (Recased.append ?_ hname).append (.refl _)
  have hempty : ns' = "" ↔ ns = "" := by simpa using hns.nil_iff
  unfold nsText
  by_cases h : ns = ""
  · rw [if_pos h, if_pos (hempty.2 h)]
    exact .refl []
  · rw [if_neg h, if_neg (mt hempty.1 h)]
    exact hns.append (.refl _)

/-- Names without a slash are told from the namespaces. -/
theorem fieldText_inj {ns ns' name name' version : String}
    (h : fieldText ns name version = fieldText ns' name' version) (hname : '/' ∉ name.toList)
    (hname' : '/' ∉ name'.toList) : ns = ns' ∧ name = name' := by
  have hpath := List.append_cancel_right h
  unfold nsText at hpath
  by_cases hns : ns = "" <;> by_cases hns' : ns' = ""
  · rw [if_pos hns, if_pos hns', List.nil_append, List.nil_append, String.toList_inj] at hpath
    exact ⟨hns.trans hns'.symm, hpath⟩
  · rw [if_pos hns, if_neg hns', List.nil_append] at hpath
    exact absurd (hpath ▸ by simp) hname
  · rw [if_neg hns, if_pos hns', List.nil_append] at hpath
    exact absurd (hpath ▸ by simp) hname'
  · rw [if_neg hns, if_neg hns', List.append_assoc, List.append_assoc, List.singleton_append,
      List.singleton_append] at hpath
    exact (eq_of_last_cut hpath hname hname').imp String.toList_inj.1 String.toList_inj.1

end Clearinghouse.PackageUrl
