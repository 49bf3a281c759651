import Clearinghouse.Proofs.PackageUrl.Fields
import Clearinghouse.Proofs.PackageUrl.Passing
import Clearinghouse.Proofs.Result

/-!
# How package URLs are read

Reading takes a package URL apart (`ofPath_eq_ok_iff`). What follows the type is either the text
of namespace, name and version as they stand, with nothing to decode and nothing to leave out, or
it is heavier than that text (`exists_fieldsOf`).
-/

namespace Clearinghouse.PackageUrl

open Text

/-! ## Taking apart -/

/-- The text without subpath and qualifiers. -/
def bare (cs : List Char) : List Char :=
  (cutOff '?' (cutOff '#' (cs.dropWhile (· == '/'))).1).1

/-- Namespace and name as they are written. -/
def pathParts (path : List Char) : List Char × List Char :=
  match cutOff '/' (trimMatches (· == '/') path) with
  | (name, none) => ([], name)
  | (ns, some name) => (ns, name)

/-- The text is read as `p`, from these pieces. -/
structure Reads (cs : List Char) (p : PackageUrl) (type path : List Char) (name : String)
    (segments : List String) : Prop where
  subpath : ∃ subpath,
    (cutOff '#' (cs.dropWhile (· == '/'))).2.mapM subpathSegments = .ok subpath ∧ subpath ≠ some []
  qualifiers : (cutOff '?' (cutOff '#' (cs.dropWhile (· == '/'))).1).2.forM checkQualifiers = .ok ()
  version : (cutOff '@' (bare cs)).2.mapM decode = .ok p.version?
  typed : cutFirst? (· == '/') (cutOff '@' (bare cs)).1 = some (type, path)
  word : isWord ['.', '+', '-'] type = true
  name_ne : (pathParts path).2 ≠ []
  decoded : decode (pathParts path).2 = .ok name
  inSegments : namespaceSegments (pathParts path).1 = .ok segments
  type_eq : p.type = lowerAscii (.ofList type)
  ns_eq : p.ns? = if segments.isEmpty then none else some (foldNamespace p.type (join "/" segments))
  name_eq : p.name = foldName p.type name

theorem ofPath_eq_ok_iff {cs : List Char} {p : PackageUrl} :
    ofPath cs = .ok p ↔ ∃ type path name segments, Reads cs p type path name segments := by
  unfold ofPath
  simp only [bind_eq_ok_iff]
  cases hcut : cutFirst? (· == '/') (cutOff '@' (bare cs)).1 with
  | none =>
    have hcut' := hcut
    rw [bare] at hcut'
    rw [hcut']
    refine iff_of_false (by simp) ?_
    rintro ⟨type, path, name, segments, h⟩
    exact absurd (hcut.symm.trans h.typed) (by simp)
  | some cut =>
    obtain ⟨type, path⟩ := cut
    have hcut' := hcut
    rw [bare] at hcut'
    rw [hcut']
    simp only [check_eq_ok_iff, bind_eq_ok_iff, Bool.not_eq_true', Bool.not_eq_false, beq_iff_eq,
      List.isEmpty_iff]
    constructor
    · rintro ⟨subpath, hsubpath, ⟨⟩, hqualifiers, version?, hversion, hword, hne, name, hname,
        segments, hsegments, hsome, heq⟩
      obtain rfl := Except.ok.inj heq
      exact ⟨type, path, name, segments, ⟨subpath, hsubpath, hsome⟩, hqualifiers, hversion, hcut,
        hword, hne, hname, hsegments, rfl, by simp, rfl⟩
    · rintro ⟨type', path', name, segments, h⟩
      obtain ⟨rfl, rfl⟩ : type = type' ∧ path = path' := by simpa using hcut.symm.trans h.typed
      obtain ⟨subpath, hsubpath, hsome⟩ := h.subpath
      refine ⟨subpath, hsubpath, _, h.qualifiers, _, h.version, h.word, h.name_ne, name, h.decoded,
        segments, h.inSegments, hsome, congrArg Except.ok ?_⟩
      obtain ⟨t, ns?, n, v⟩ := p
      obtain rfl : t = _ := h.type_eq
      have hns : ns? = _ := h.ns_eq
      have hn : n = _ := h.name_eq
      simp [hns, hn]

/-! ## Cutting off -/

theorem cutOff_of_not_mem {mark : Char} {cs : List Char} (h : mark ∉ cs) :
    cutOff mark cs = (cs, none) := by
  rw [cutOff, cutLast?_eq_none_iff.2 h]

theorem cutOff_append {mark : Char} (before : List Char) {after : List Char} (h : mark ∉ after) :
    cutOff mark (before ++ mark :: after) = (before, some after) := by
  rw [cutOff, cutLast?_eq_some_iff.2 ⟨rfl, h⟩]

/-- There is nothing to cut off, or the last mark and what follows it. -/
theorem cutOff_cases (mark : Char) (cs : List Char) :
    (cutOff mark cs = (cs, none) ∧ mark ∉ cs) ∨
      ∃ before after, cutOff mark cs = (before, some after) ∧ cs = before ++ mark :: after ∧
        mark ∉ after := by
  cases hcut : cutLast? (· == mark) cs with
  | none =>
    have hmark := cutLast?_eq_none_iff.1 hcut
    exact .inl ⟨cutOff_of_not_mem hmark, hmark⟩
  | some cut =>
    obtain ⟨hcs, hafter⟩ := cutLast?_eq_some_iff.1 hcut
    exact .inr ⟨cut.1, cut.2, by rw [hcs, cutOff_append _ hafter], hcs, hafter⟩

theorem prefix_cutOff (mark : Char) (cs : List Char) : (cutOff mark cs).1 <+: cs := by
  rcases cutOff_cases mark cs with ⟨hcut, -⟩ | ⟨before, after, hcut, hcs, -⟩
  · exact hcut ▸ List.prefix_refl cs
  · rw [hcut, hcs]
    exact List.prefix_append _ _

theorem passes_cutOff {mark : Char} (hmark : 0 < charWeight mark) (cs : List Char) :
    Passes cs (cutOff mark cs).1 (mark ∉ (cutOff mark cs).1) := by
  rcases cutOff_cases mark cs with ⟨hcut, hnone⟩ | ⟨before, after, hcut, hcs, -⟩
  · rw [hcut]
    exact .inl ⟨rfl, hnone⟩
  · right
    rw [hcut, hcs, weight_append, weight_cons]
    dsimp only
    omega

theorem prefix_bare (cs : List Char) : bare cs <+: cs.dropWhile (· == '/') :=
  (prefix_cutOff _ _).trans (prefix_cutOff _ _)

theorem passes_bare (cs : List Char) :
    Passes (cs.dropWhile (· == '/')) (bare cs)
      ('#' ∉ cs.dropWhile (· == '/') ∧ '?' ∉ cs.dropWhile (· == '/')) := by
  refine ((passes_cutOff (by decide) _).trans (passes_cutOff (by decide) _)).imp fun heq h => ?_
  rw [← heq]
  exact ⟨fun hmem => h.1 ((prefix_cutOff _ _).subset hmem), h.2⟩

/-! ## The version -/

theorem decode_eq_ok_iff {cs : List Char} {s : String} :
    decode cs = .ok s ↔ Percent.decode? (.ofList cs) = some s := by
  unfold decode
  cases Percent.decode? (.ofList cs) <;> simp

theorem passes_version {cs : List Char} {version? : Option String}
    (h : (cutOff '@' cs).2.mapM decode = .ok version?) :
    Passes cs ((cutOff '@' cs).1 ++ versionText (version?.getD ""))
      ((version?.getD "" = "" → '@' ∉ (cutOff '@' cs).1) ∧ '@' ∉ (version?.getD "").toList ∧
        Percent.decode? (version?.getD "") = some (version?.getD "")) := by
  rcases cutOff_cases '@' cs with ⟨hcut, hnone⟩ | ⟨before, after, hcut, hcs, hafter⟩
  · rw [hcut] at h ⊢
    obtain rfl : none = version? := Except.ok.inj h
    exact .inl ⟨List.append_nil cs, fun _ => hnone, by simp, by decide +kernel⟩
  · rw [hcut] at h ⊢
    obtain ⟨version, hversion, rfl⟩ : ∃ version, decode after = .ok version ∧
        some version = version? := by
      cases hdecode : decode after with
      | error fault => simp [hdecode] at h
      | ok version => exact ⟨version, rfl, by simpa [hdecode] using h⟩
    have hpasses := Passes.of_decode? (decode_eq_ok_iff.1 hversion)
    rw [String.toList_ofList] at hpasses
    rw [Option.getD_some, hcs]
    by_cases hempty : version = ""
    · right
      rw [hempty, weight_append, weight_append, weight_cons]
      have hat : charWeight '@' = 1 := rfl
      have hnone : versionText "" = [] := if_pos rfl
      rw [hnone, weight_nil, hat]
      show weight before + 0 < weight before + (1 + weight after)
      omega
    · rw [versionText, if_neg hempty]
      refine ((Passes.refl before).append
        ((Passes.refl ['@']).append hpasses)).imp fun heq hp => ?_
      have hsame : version.toList = after := by simpa using heq
      refine ⟨fun h => absurd h hempty, by rwa [hsame], ?_⟩
      have := hp.2.2
      rwa [← hsame, String.ofList_toList] at this

/-- Up to the version nothing is lost only if there is no other mark. -/
theorem passes_marks {cs : List Char} {version? : Option String}
    (h : (cutOff '@' (bare cs)).2.mapM decode = .ok version?) :
    Passes (cs.dropWhile (· == '/')) ((cutOff '@' (bare cs)).1 ++ versionText (version?.getD ""))
      (('#' ∉ cs.dropWhile (· == '/') ∧ '?' ∉ cs.dropWhile (· == '/')) ∧
        (version?.getD "" = "" → '@' ∉ cs.dropWhile (· == '/')) ∧
        '@' ∉ (version?.getD "").toList ∧
        Percent.decode? (version?.getD "") = some (version?.getD "")) := by
  refine ((passes_bare cs).trans (passes_version h)).imp fun heq hp =>
    ⟨hp.1, fun hempty => ?_, hp.2.2⟩
  rw [hempty, versionText, if_pos rfl, List.append_nil] at heq
  rw [← heq]
  exact hp.2.1 hempty

/-! ## Namespace and name -/

theorem flatMap_splitWhere (cs : List Char) :
    (splitWhere (· == '/') cs).flatMap (· ++ ['/']) = cs ++ ['/'] := by
  induction cs with
  | nil => rfl
  | cons c cs ih =>
    rw [splitWhere]
    split
    · rename_i hc
      rw [List.flatMap_cons, ih, beq_iff_eq.1 hc]
      rfl
    · split
      · rename_i heq
        exact absurd heq (splitWhere_ne_nil _ cs)
      · rename_i piece pieces heq
        rw [heq, List.flatMap_cons] at ih
        rw [List.flatMap_cons, List.cons_append, List.cons_append, ih, List.cons_append]

theorem toList_join_append {segments : List String} (h : segments ≠ []) :
    (join "/" segments).toList ++ ['/'] = segments.flatMap (·.toList ++ ['/']) := by
  induction segments with
  | nil => exact absurd rfl h
  | cons segment segments ih =>
    cases segments with
    | nil => simp [join_singleton]
    | cons next segments =>
      rw [toList_join_cons_cons, List.flatMap_cons, ← ih (List.cons_ne_nil _ _)]
      simp

theorem join_ne_empty {segments : List String} (hne : segments ≠ [])
    (h : ∀ segment ∈ segments, segment ≠ "") : join "/" segments ≠ "" := by
  intro hempty
  obtain ⟨⟨first, hfirst, hprefix⟩, -⟩ := exists_join_affixes "/" hne
  rw [hempty] at hprefix
  exact h first hfirst (by simpa using hprefix)

theorem nsText_join {segments : List String} (h : ∀ segment ∈ segments, segment ≠ "") :
    nsText (join "/" segments) = segments.flatMap (·.toList ++ ['/']) := by
  by_cases hne : segments = []
  · rw [hne]
    rfl
  · rw [nsText, if_neg (join_ne_empty hne h), toList_join_append hne]

/-- A segment is decoded; it is not empty and has no slash. -/
def SegmentReads (segment : List Char) (s : String) : Prop :=
  Percent.decode? (.ofList segment) = some s ∧ s ≠ "" ∧ '/' ∉ s.toList

theorem namespaceSegments_eq_ok_iff {path : List Char} {read : List String} :
    namespaceSegments path = .ok read ↔ List.Forall₂ SegmentReads (segments path) read := by
  have hreads (segment : List Char) (s : String) :
      ((do
        let s ← decode segment
        if s.toList.isEmpty || s.toList.contains '/' then .error (.namespaceSegment s) else .ok s) :
        Except Fault String) = .ok s ↔ SegmentReads segment s := by
    simp only [bind_eq_ok_iff, decode_eq_ok_iff]
    constructor
    · rintro ⟨t, ht, h⟩
      split at h
      · cases h
      · rename_i hgood
        obtain rfl := Except.ok.inj h
        simpa [SegmentReads, ht] using hgood
    · rintro ⟨hs, hne, hslash⟩
      exact ⟨s, hs, by simp [hne, hslash]⟩
  rw [namespaceSegments, decodePath, mapM_eq_ok_iff]
  simp only [hreads]

theorem ne_empty_of_reads {pieces : List (List Char)} {read : List String}
    (h : List.Forall₂ SegmentReads pieces read) : ∀ s ∈ read, s ≠ "" := by
  induction h with
  | nil => simp
  | cons hpiece _ ih => exact List.forall_mem_cons.2 ⟨hpiece.2.1, ih⟩

theorem passes_filter (keep : List Char → Bool) (pieces : List (List Char)) :
    Passes (pieces.flatMap (· ++ ['/'])) ((pieces.filter keep).flatMap (· ++ ['/']))
      (∀ piece ∈ pieces, keep piece = true) := by
  induction pieces with
  | nil => exact .inl ⟨rfl, by simp⟩
  | cons piece pieces ih =>
    by_cases hkeep : keep piece = true
    · rw [List.filter_cons_of_pos hkeep, List.flatMap_cons, List.flatMap_cons]
      refine ((Passes.refl _).append ih).imp fun _ h => ?_
      exact List.forall_mem_cons.2 ⟨hkeep, h.2⟩
    · right
      have hle := ih.weight_le
      have hslash : charWeight '/' = 1 := rfl
      rw [List.filter_cons_of_neg hkeep, List.flatMap_cons, weight_append, weight_append,
        weight_cons]
      omega

theorem passes_decoded {pieces : List (List Char)} {read : List String}
    (h : List.Forall₂ SegmentReads pieces read) :
    Passes (pieces.flatMap (· ++ ['/'])) (read.flatMap (·.toList ++ ['/']))
      (∀ piece ∈ pieces, Percent.decode? (.ofList piece) = some (.ofList piece)) := by
  induction h with
  | nil => exact .inl ⟨rfl, by simp⟩
  | @cons piece s pieces read hpiece _ ih =>
    have hdecode := Passes.of_decode? hpiece.1
    rw [String.toList_ofList] at hdecode
    rw [List.flatMap_cons, List.flatMap_cons]
    refine ((hdecode.append (Passes.refl _)).append ih).imp fun _ h => ?_
    exact List.forall_mem_cons.2 ⟨h.1.1, h.2⟩

theorem passes_namespace {path : List Char} {read : List String}
    (h : namespaceSegments path = .ok read) :
    Passes (path ++ ['/']) (nsText (join "/" read))
      (join "/" read ≠ "" → PlainSegments (join "/" read)) := by
  have hread := namespaceSegments_eq_ok_iff.1 h
  have htrim : Passes path (trimMatches (· == '/') path) (trimMatches (· == '/') path = path) :=
    ((Passes.of_dropWhile '/' (by decide) path).trans
      (Passes.of_trimMatches '/' (by decide) path)).imp fun heq _ => heq
  have hpieces := (passes_filter (!isIdle ·) _).trans (passes_decoded hread)
  rw [flatMap_splitWhere, ← nsText_join (ne_empty_of_reads hread)] at hpieces
  refine ((htrim.append (Passes.refl _)).trans hpieces).imp fun heq hp hne segment hmem => ?_
  rw [nsText, if_neg hne] at heq
  rw [List.append_cancel_right heq, ← hp.1.1] at hmem
  have hkeep := hp.2.1 segment hmem
  exact ⟨by simpa using hkeep, hp.2.2 segment (List.mem_filter.2 ⟨hmem, hkeep⟩)⟩

theorem pathParts_cases (path : List Char) :
    '/' ∉ (pathParts path).2 ∧
      ((pathParts path).1 = [] ∧ trimMatches (· == '/') path = (pathParts path).2 ∨
        trimMatches (· == '/') path = (pathParts path).1 ++ '/' :: (pathParts path).2) := by
  unfold pathParts
  rcases cutOff_cases '/' (trimMatches (· == '/') path) with
    ⟨hcut, hnone⟩ | ⟨before, after, hcut, hpath, hafter⟩
  · rw [hcut]
    exact ⟨hnone, .inl ⟨rfl, rfl⟩⟩
  · rw [hcut]
    exact ⟨hafter, .inr hpath⟩

theorem passes_path {path : List Char} {name : String} {read : List String}
    (hname : decode (pathParts path).2 = .ok name)
    (hread : namespaceSegments (pathParts path).1 = .ok read) :
    Passes (path.dropWhile (· == '/')) (nsText (join "/" read) ++ name.toList)
      ('/' ∉ name.toList ∧ Percent.decode? name = some name ∧
        (join "/" read ≠ "" → PlainSegments (join "/" read))) := by
  obtain ⟨hslash, hcases⟩ := pathParts_cases path
  have hdecode := Passes.of_decode? (decode_eq_ok_iff.1 hname)
  rw [String.toList_ofList] at hdecode
  have hplain : Passes (pathParts path).2 name.toList
      ('/' ∉ name.toList ∧ Percent.decode? name = some name) := by
    refine hdecode.imp fun heq hsame => ?_
    rw [← heq, String.ofList_toList] at hsame
    exact ⟨by rwa [heq], hsame⟩
  rcases hcases with ⟨hnone, htrim⟩ | htrim
  · rw [hnone] at hread
    obtain rfl : [] = read := Except.ok.inj hread
    have hpath := Passes.of_trimMatches '/' (by decide) path
    rw [htrim] at hpath
    exact (hpath.trans hplain).imp fun _ hp => ⟨hp.2.1, hp.2.2, fun hne => absurd rfl hne⟩
  · have hpath := Passes.of_trimMatches '/' (by decide) path
    rw [htrim, ← List.singleton_append, ← List.append_assoc] at hpath
    exact (hpath.trans ((passes_namespace hread).append hplain)).imp fun _ hp =>
      ⟨hp.2.2.1, hp.2.2.2, hp.2.1⟩

/-- A blank is part of a namespace. -/
theorem join_ne_empty_of_blank {path : List Char} {read : List String}
    (h : namespaceSegments path = .ok read) {c : Char} (hc : isBlank c = true) (hmem : c ∈ path) :
    join "/" read ≠ "" := by
  have hne {mark : Char} (hmark : isBlank mark = false) : c ≠ mark := by
    rintro rfl
    rw [hc] at hmark
    cases hmark
  have hslash : (c == '/') = false := beq_false_of_ne (hne (by decide))
  obtain ⟨piece, hpiece, hin⟩ := exists_mem_splitWhere (p := (· == '/'))
    (mem_trimMatches (p := (· == '/')) hmem hslash) hslash
  have hkept : piece ∈ segments path := by
    refine List.mem_filter.2 ⟨hpiece, ?_⟩
    rw [Bool.not_eq_true', isIdle, Bool.or_eq_false_iff, Bool.or_eq_false_iff]
    have hdot : c ≠ '.' := hne (by decide)
    refine ⟨⟨?_, beq_false_of_ne ?_⟩, beq_false_of_ne ?_⟩
    · exact List.isEmpty_eq_false_iff.2 (List.ne_nil_of_mem hin)
    · rintro rfl
      exact hdot (List.mem_singleton.1 hin)
    · rintro rfl
      simp [hdot] at hin
  have hread := namespaceSegments_eq_ok_iff.1 h
  refine join_ne_empty ?_ (ne_empty_of_reads hread)
  rintro rfl
  rw [List.forall₂_nil_right_iff] at hread
  rw [hread] at hkept
  cases hkept

/-- A blank before a name without a namespace belongs to the name. -/
theorem head?_name {path : List Char} {name : String} {read : List String}
    (hname : decode (pathParts path).2 = .ok name)
    (hread : namespaceSegments (pathParts path).1 = .ok read) (hne : (pathParts path).2 ≠ [])
    (hns : join "/" read = "") {c : Char} (hc : isBlank c = true) (hpath : path.head? = some c) :
    name.toList.head? = some c := by
  have hmark : ∀ d ∈ path.head?, (d == '/') = false := by
    rw [hpath]
    rintro d ⟨⟩
    refine beq_false_of_ne ?_
    rintro rfl
    cases hc
  have hprefix := trimMatches_prefix (· == '/') path
  rw [dropWhile_eq_self hmark] at hprefix
  have hhead {ds : List Char} (hds : ds ≠ []) (hp : ds <+: path) : ds.head? = some c := by
    obtain ⟨tail, rfl⟩ := hp
    rwa [List.head?_append_of_ne_nil _ hds] at hpath
  obtain ⟨-, ⟨-, htrim⟩ | htrim⟩ := pathParts_cases path
  · rw [htrim] at hprefix
    obtain ⟨more, hmore⟩ := List.head?_eq_some_iff.1 (hhead hne hprefix)
    rw [decode_eq_ok_iff, hmore, ← List.singleton_append, String.ofList_append] at hname
    have hstart : [c] <+: name.toList := by
      have := Percent.prefix_of_decode? (.ofList [c]) ?_ hname
      · rwa [String.toList_ofList] at this
      · rw [String.toList_ofList, List.mem_singleton]
        rintro rfl
        cases hc
    obtain ⟨tail, htail⟩ := hstart
    rw [← htail]
    rfl
  · exfalso
    rw [htrim] at hprefix
    have hfirst := hhead (by simp) hprefix
    cases hns' : (pathParts path).1 with
    | nil =>
      rw [hns', List.nil_append, List.head?_cons, Option.some.injEq] at hfirst
      rw [← hfirst] at hc
      cases hc
    | cons d more =>
      rw [hns', List.cons_append, List.head?_cons, Option.some.injEq] at hfirst
      rw [hns', hfirst] at hread
      exact absurd hns (join_ne_empty_of_blank hread hc List.mem_cons_self)

theorem foldNamespace_empty (type : String) : foldNamespace type "" = "" := by
  have h := (recased_foldNamespace type "").nil_iff.2 rfl
  simpa using h

theorem Reads.fieldsOf {cs : List Char} {p : PackageUrl} {type path : List Char} {name : String}
    {read : List String} (h : Reads cs p type path name read) :
    FieldsOf p type (join "/" read) name (p.version?.getD "") where
  word := h.word
  name_ne := Percent.decode?_ne_empty (decode_eq_ok_iff.1 h.decoded) (by simpa using h.name_ne)
  type_eq := h.type_eq
  ns_eq := by
    rw [h.ns_eq]
    cases read with
    | nil => exact (foldNamespace_empty p.type).symm
    | cons segment read => rfl
  name_eq := h.name_eq
  version_eq := rfl

/-- What the text `rest` behind the type has to do with the fields that are read from it. -/
structure ReadBehind (rest : List Char) (ns name version : String) : Prop where
  /-- It is the text of the fields, which are then plain, or heavier. -/
  passes : Passes (rest.dropWhile (· == '/')) (fieldText ns name version) (Plain ns name version)
  /-- A blank at the front belongs to the name if there is no namespace. -/
  head_name : ns = "" → ∀ c ∈ rest.head?, isBlank c = true → name.toList.head? = some c
  at_mem : version ≠ "" → '@' ∈ rest

section

variable {cs : List Char} {p : PackageUrl} {type path tail : List Char} {name : String}
  {read : List String} (h : Reads cs p type path name read)
include h

theorem Reads.dropWhile_ne_nil : path.dropWhile (· == '/') ≠ [] := by
  intro hnil
  refine h.name_ne ?_
  have htrim := trimMatches_prefix (· == '/') path
  rw [hnil, List.prefix_nil] at htrim
  obtain ⟨-, ⟨-, heq⟩ | heq⟩ := pathParts_cases path
  · rw [← heq, htrim]
  · rw [htrim] at heq
    simp at heq

theorem Reads.passes (htail : type ++ '/' :: path ++ tail = cs.dropWhile (· == '/')) :
    Passes ((path ++ tail).dropWhile (· == '/'))
      (fieldText (join "/" read) name (p.version?.getD ""))
      (Plain (join "/" read) name (p.version?.getD "")) := by
  obtain ⟨front, hfront⟩ : ∃ front, type ++ '/' :: path = front ++ path.dropWhile (· == '/') :=
    ⟨type ++ '/' :: path.takeWhile (· == '/'), by
      rw [List.append_assoc, List.cons_append, List.takeWhile_append_dropWhile]⟩
  have hmarks := passes_marks h.version
  rw [(cutFirst?_eq_some_iff.1 h.typed).1, ← htail, hfront, List.append_assoc,
    List.append_assoc] at hmarks
  have hfields := hmarks.of_append_left.trans
    ((passes_path h.decoded h.inSegments).append (Passes.refl _))
  rw [List.dropWhile_append, if_neg (by simpa using h.dropWhile_ne_nil)]
  refine hfields.imp fun heq hp => ?_
  obtain ⟨⟨⟨hhash, hquestion⟩, hat, hversion, hdecode⟩, ⟨hslash, hname, hns⟩, -⟩ := hp
  rw [← heq] at hhash hquestion hat
  exact ⟨fun hmem => hhash (List.mem_append_right _ hmem),
    fun hmem => hquestion (List.mem_append_right _ hmem),
    fun hempty hmem => hat hempty (List.mem_append_right _ hmem),
    hversion, hslash, hdecode, hname, hns⟩

theorem Reads.at_mem (htail : type ++ '/' :: path ++ tail = cs.dropWhile (· == '/'))
    (hversion : p.version?.getD "" ≠ "") : '@' ∈ path ++ tail := by
  have hread := h.version
  rcases cutOff_cases '@' (bare cs) with ⟨hcut, -⟩ | ⟨before, after, -, hbare, -⟩
  · rw [hcut] at hread
    obtain hnone : none = p.version? := Except.ok.inj hread
    rw [← hnone] at hversion
    exact absurd rfl hversion
  · have hmem : '@' ∈ type ++ '/' :: path ++ tail := by
      rw [htail]
      refine (prefix_bare cs).subset ?_
      rw [hbare]
      exact List.mem_append_right _ List.mem_cons_self
    rw [List.append_assoc, List.cons_append, List.mem_append, List.mem_cons] at hmem
    have hword := not_mem_of_isWord h.word (c := '@') (by decide) (by decide)
    exact (hmem.resolve_left hword).resolve_left (by decide)

end

/-- What is read, is read from the text behind the type. -/
theorem exists_fieldsOf {cs : List Char} {p : PackageUrl} (h : ofPath cs = .ok p) :
    ∃ type rest ns name version, cs.dropWhile (· == '/') = type ++ '/' :: rest ∧
      FieldsOf p type ns name version ∧ ReadBehind rest ns name version := by
  obtain ⟨type, path, name, read, h⟩ := ofPath_eq_ok_iff.1 h
  obtain ⟨tail, htail⟩ := (prefix_cutOff '@' (bare cs)).trans (prefix_bare cs)
  rw [(cutFirst?_eq_some_iff.1 h.typed).1] at htail
  refine ⟨type, path ++ tail, join "/" read, name, p.version?.getD "", ?_, h.fieldsOf,
    h.passes htail, fun hns c hc hblank => ?_, h.at_mem htail⟩
  · rw [← htail, List.append_assoc, List.cons_append]
  · refine head?_name h.decoded h.inSegments h.name_ne hns hblank ?_
    rwa [List.head?_append_of_ne_nil] at hc
    rintro rfl
    exact h.dropWhile_ne_nil rfl

end Clearinghouse.PackageUrl
