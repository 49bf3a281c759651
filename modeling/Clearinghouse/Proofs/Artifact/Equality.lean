import Clearinghouse.Proofs.Artifact.Additions
import Clearinghouse.Proofs.Fact.Equality

/-!
# Equal artifacts

Artifacts are compared by a check in one direction and by lengths. As nothing is there twice, two
artifacts that can be made are equal exactly if they agree (`Tidy.beq_iff_agrees`): they have the
same coordinates, the same facts of every kind and the same flags set, in whatever order. So
equality is an equivalence. Main statement: merging respects it
(`equivalence_beq_and_mergeWith_congr`).

What a merged artifact has of a kind comes of the facts of this kind in both. Files are gathered,
and of any other kind one fact meets another one, so it is enough that meetings respect equality.
-/

namespace Clearinghouse

open Distinct (SameSet)

/-! ## Flags -/

namespace Flags

theorem mem_active_iff {fs : Flags} {f : Flag} : f ∈ fs.active ↔ fs.isSet f := by
  have hall : f ∈ Flag.all := by cases f <;> decide
  rw [active, List.mem_filter, and_iff_right hall]

theorem active_eq_iff {fs gs : Flags} : fs.active = gs.active ↔ ∀ f, fs.isSet f = gs.isSet f := by
  constructor
  · intro h f
    rw [Bool.eq_iff_iff, ← mem_active_iff, ← mem_active_iff, h]
  · intro h
    exact List.filter_congr fun f _ => h f

end Flags

/-! ## Facts of one kind -/

/-- Facts under a kind that holds only one have the same elements if there is none or if one on
each side equals the other. -/
theorem Storable.sameSet_cases {k : FactKind} {facts facts' : List Fact} (h : Storable k facts)
    (h' : Storable k facts') (hk : k ≠ .filename) (hsame : SameSet facts facts') :
    facts = [] ∧ facts' = [] ∨
      ∃ f f', facts = [f] ∧ facts' = [f'] ∧ f.kind = k ∧ f'.kind = k ∧ (f == f') = true := by
  rcases h.eq_nil_or hk with rfl | ⟨f, rfl, hf⟩
  · exact .inl ⟨rfl, hsame.eq_nil⟩
  · rcases h'.eq_nil_or hk with rfl | ⟨f', rfl, hf'⟩
    · cases hsame.symm.eq_nil
    · exact .inr ⟨f, f', rfl, rfl, hf, hf', Distinct.sameSet_singleton.1 hsame⟩

namespace MergePolicy

variable {policy : MergePolicy}

/-- Facts of a kind with several values are gathered without repetition. -/
theorem foldl_absorb_of_isMultiValued {facts new : List Fact}
    (h : ∀ f ∈ new, f.kind.isMultiValued) :
    new.foldl policy.absorb facts = Distinct.union facts new := by
  induction new generalizing facts with
  | nil => rfl
  | cons f new ih =>
    obtain ⟨hf, hnew⟩ := List.forall_mem_cons.1 h
    have hinsert : policy.absorb facts f = Distinct.insert facts f := if_pos hf
    rw [List.foldl_cons, hinsert, ih hnew, Distinct.union_cons]

/-- Facts that are equal take in facts that are equal with the same result. -/
theorem sameSet_foldl_absorb {k : FactKind} {facts facts' new new' : List Fact}
    (hfacts : Storable k facts) (hfacts' : Storable k facts') (hnew : Storable k new)
    (hnew' : Storable k new') (hsame : SameSet facts facts') (hsame' : SameSet new new') :
    SameSet (new.foldl policy.absorb facts) (new'.foldl policy.absorb facts') := by
  by_cases hk : k = .filename
  · have hmulti {fs : List Fact} (hfs : Storable k fs) : ∀ f ∈ fs, f.kind.isMultiValued := by
      intro f hf
      rw [hfs.kind f hf, hk]
      rfl
    rw [foldl_absorb_of_isMultiValued (hmulti hnew), foldl_absorb_of_isMultiValued (hmulti hnew')]
    exact hsame.union hsame'
  · rcases hnew.sameSet_cases hnew' hk hsame' with
      ⟨rfl, rfl⟩ | ⟨g, g', rfl, rfl, hg, hg', hgg'⟩
    · exact hsame
    · show SameSet (policy.absorb facts g) (policy.absorb facts' g')
      rcases hfacts.sameSet_cases hfacts' hk hsame with
        ⟨rfl, rfl⟩ | ⟨f, f', rfl, rfl, hf, hf', hff'⟩
      · rw [absorb_nil, absorb_nil]
        exact hsame'
      · rw [absorb_singleton hk hf hg, absorb_singleton hk hf' hg', Distinct.sameSet_singleton]
        exact Fact.meet_congr hf hg hff' hgg'

end MergePolicy

namespace Artifact

theorem TidyFacts.pairwise {k : FactKind} {facts : List Fact} (h : TidyFacts k facts) :
    facts.Pairwise fun f g => (f == g) = false :=
  h.distinct.imp fun hne => BEq.comm.trans hne

theorem sameFacts_iff {k : FactKind} {fs gs : List Fact} (h : TidyFacts k fs)
    (h' : TidyFacts k gs) : sameFacts fs gs ↔ SameSet fs gs := by
  rw [sameFacts, Bool.and_eq_true, beq_iff_eq, List.all_eq_true]
  exact Distinct.length_eq_and_contains_iff h.pairwise h'.pairwise

/-! ## Agreement -/

/-- The artifacts have the same coordinates, facts of every kind and flags set. -/
structure Agrees (a b : Artifact) : Prop where
  coordinates : SameSet a.coordinates b.coordinates
  facts : ∀ k, SameSet (a.factsOf k) (b.factsOf k)
  flags : ∀ f, a.flags.isSet f = b.flags.isSet f

namespace Agrees

variable {a b c : Artifact}

theorem refl (a : Artifact) : a.Agrees a := ⟨.refl _, fun _ => .refl _, fun _ => rfl⟩

theorem symm (h : a.Agrees b) : b.Agrees a :=
  ⟨h.coordinates.symm, fun k => (h.facts k).symm, fun f => (h.flags f).symm⟩

theorem trans (h : a.Agrees b) (h' : b.Agrees c) : a.Agrees c :=
  ⟨h.coordinates.trans h'.coordinates, fun k => (h.facts k).trans (h'.facts k),
    fun f => (h.flags f).trans (h'.flags f)⟩

/-- Artifacts that agree and have one policy agree after each has taken in one of two that agree. -/
theorem mergeWith {a a' b b' : Artifact} (ha : a.Tidy) (ha' : a'.Tidy) (hb : b.Tidy)
    (hb' : b'.Tidy) (hpolicy : a'.policy = a.policy) (h : a.Agrees a') (h' : b.Agrees b') :
    (a.mergeWith b).value.Agrees (a'.mergeWith b').value where
  coordinates := by
    rw [coordinates_mergeWith, coordinates_mergeWith]
    exact h.coordinates.union h'.coordinates
  facts k := by
    rw [factsOf_mergeWith a hb.wellFormed, factsOf_mergeWith a' hb'.wellFormed, hpolicy]
    exact MergePolicy.sameSet_foldl_absorb (ha.storable k) (ha'.storable k) (hb.storable k)
      (hb'.storable k) (h.facts k) (h'.facts k)
  flags f := by
    rw [flags_mergeWith, flags_mergeWith, Flags.isSet_merge, Flags.isSet_merge, h.flags f,
      h'.flags f]

end Agrees

/-! ## The check -/

section

variable {a b : Artifact} (ha : a.facts.WellFormed)
  (hslots : ∀ slot ∈ a.facts.slots, (b.facts.get? slot.1).any (sameFacts slot.2))
include ha hslots

theorem sameFacts_of_mem_kinds {k : FactKind} (hk : k ∈ a.facts.kinds) :
    sameFacts (a.factsOf k) (b.factsOf k) ∧ k ∈ b.facts.kinds := by
  obtain ⟨slot, hslot, rfl⟩ := List.mem_map.1 hk
  have hsame := hslots slot hslot
  rw [← FactStore.contains_iff_mem_kinds, FactStore.contains]
  cases hfacts : b.facts.get? slot.1 with
  | none =>
    rw [hfacts] at hsame
    cases hsame
  | some facts =>
    rw [hfacts, Option.any_some] at hsame
    rw [factsOf_of_get? (ha.get?_of_mem hslot), factsOf_of_get? hfacts]
    exact ⟨hsame, rfl⟩

/-- Artifacts that pass the check have the same facts of every kind. The check asks only for the
kinds of the first one, which are as many as those of the second. -/
theorem sameFacts_of_slots (hb : b.facts.WellFormed)
    (hlength : a.facts.slots.length = b.facts.slots.length) (k : FactKind) :
    sameFacts (a.factsOf k) (b.factsOf k) := by
  by_cases hk : k ∈ a.facts.kinds
  · exact (sameFacts_of_mem_kinds ha hslots hk).1
  · have hkinds : ∀ k ∈ a.facts.kinds, b.facts.kinds.contains k := fun k hk =>
      List.contains_iff_mem.2 (sameFacts_of_mem_kinds ha hslots hk).2
    have hmany : a.facts.kinds.length = b.facts.kinds.length := by
      simpa [FactStore.kinds] using hlength
    have hnone : k ∉ b.facts.kinds := fun hmem => hk <| List.contains_iff_mem.1 <|
      Distinct.contains_of_length_eq (Distinct.pairwise_beq_iff_nodup.2 ha.nodup) hmany hkinds
        (List.contains_iff_mem.2 hmem)
    have hnil : a.factsOf k = [] := not_not.1 (mt (ha.mem_kinds_iff k).2 hk)
    have hnil' : b.factsOf k = [] := not_not.1 (mt (hb.mem_kinds_iff k).2 hnone)
    rw [hnil, hnil']
    rfl

end

/-- Artifacts in which nothing is there twice are equal if they agree. -/
theorem Tidy.beq_iff_agrees {a b : Artifact} (ha : a.Tidy) (hb : b.Tidy) :
    (a == b) = true ↔ a.Agrees b := by
  constructor
  · intro h
    have h : same a b = true := h
    simp only [same, Bool.and_eq_true, beq_iff_eq, List.all_eq_true] at h
    obtain ⟨⟨⟨⟨hlength, hcoordinates⟩, hkinds⟩, hslots⟩, hflags⟩ := h
    refine ⟨(Distinct.length_eq_and_contains_iff ha.separate hb.separate).1
      ⟨hlength, hcoordinates⟩, fun k => ?_, Flags.active_eq_iff.1 hflags⟩
    exact (sameFacts_iff (ha.facts k) (hb.facts k)).1
      (sameFacts_of_slots ha.wellFormed hslots hb.wellFormed hkinds k)
  · intro h
    obtain ⟨hlength, hcoordinates⟩ :=
      (Distinct.length_eq_and_contains_iff ha.separate hb.separate).2 h.coordinates
    exact same_of_factsOf ha.wellFormed hb.wellFormed hlength hcoordinates
      (fun k => (sameFacts_iff (ha.facts k) (hb.facts k)).2 (h.facts k))
      (Flags.active_eq_iff.2 h.flags)

/-- Equality of artifacts that can be made is an equivalence, and merging respects it. -/
theorem equivalence_beq_and_mergeWith_congr :
    (Equivalence fun a b : { a : Artifact // a.Made } => (a.1 == b.1) = true) ∧
      ∀ {a a' b b' : Artifact}, a.Made → a'.Made → b.Made → b'.Made → a'.policy = a.policy →
        (a == a') = true → (b == b') = true →
          ((a.mergeWith b).value == (a'.mergeWith b').value) = true := by
  constructor
  · constructor
    · intro a
      exact (a.2.tidy.beq_iff_agrees a.2.tidy).2 (.refl a.1)
    · intro a b h
      have hagrees := (a.2.tidy.beq_iff_agrees b.2.tidy).1 h
      exact (b.2.tidy.beq_iff_agrees a.2.tidy).2 hagrees.symm
    · intro a b c h h'
      have hagrees := (a.2.tidy.beq_iff_agrees b.2.tidy).1 h
      have hagrees' := (b.2.tidy.beq_iff_agrees c.2.tidy).1 h'
      exact (a.2.tidy.beq_iff_agrees c.2.tidy).2 (hagrees.trans hagrees')
  · intro a a' b b' ha ha' hb hb' hpolicy h h'
    have hagrees := (ha.tidy.beq_iff_agrees ha'.tidy).1 h
    have hagrees' := (hb.tidy.beq_iff_agrees hb'.tidy).1 h'
    exact ((ha.tidy.mergeWith hb.tidy).beq_iff_agrees (ha'.tidy.mergeWith hb'.tidy)).2
      (.mergeWith ha.tidy ha'.tidy hb.tidy hb'.tidy hpolicy hagrees hagrees')

end Artifact

namespace Samples

/-- A library as a list has it. -/
def shelved : Artifact :=
  (((Artifact.fresh .strict "list").addCoordinate (.of "Conan" "" "zlib" "1.3")).addCoordinate
    (.of "npm" "" "zlib" "1.3")).addAll [.filename (.ofHash "00"), .filename (.ofHash "11"),
      .declaredLicense (.license (.ofId "Zlib")), .sourceFile ⟨"src/zlib.tgz"⟩]

/-- The same library as another list has it, which is written differently throughout. -/
def shelvedAgain : Artifact :=
  ((((Artifact.fresh .strict "catalogue").addCoordinate (.of "npm" "" "zlib" "1.3")).addCoordinate
    (.of "conan" "" "zlib" "1.3")).addAll [.sourceFile ⟨"src//./zlib.tgz"⟩,
      .declaredLicense (.license ⟨"Zlib", some "zlib License", none⟩), .filename (.ofHash "11"),
      .filename (.ofHash "00")]).setFlag .proprietary false

/-- What a scan finds. -/
def unpacked : Artifact :=
  ((Artifact.ofSource "scan").addCoordinate (.of "CONAN" "" "zlib" "1.3")).addAll
    [.declaredLicense (.license (.ofId "MIT")), .filename (.ofHash "22"), .filename (.ofHash "00")]

/-- What another scan finds. -/
def unpackedAgain : Artifact :=
  ((Artifact.ofSource "rescan").addCoordinate (.of "conan" "" "zlib" "1.3")).addAll
    [.filename (.ofHash "00"), .declaredLicense (.license ⟨"MIT", none, some "Permission"⟩),
      .filename (.ofHash "22")]

end Samples

open Samples in
/-- Two lists and two scans that are written differently make equal artifacts. -/
theorem equivalence_beq_and_mergeWith_congr_shelved :
    shelved.Made ∧ shelvedAgain.Made ∧ unpacked.Made ∧ unpackedAgain.Made ∧
      shelvedAgain.policy = shelved.policy ∧ (shelved == shelvedAgain) = true ∧
      (unpacked == unpackedAgain) = true ∧
      shelved.facts.kinds ≠ shelvedAgain.facts.kinds ∧
      ((shelved.mergeWith unpacked).value == (shelvedAgain.mergeWith unpackedAgain).value) = true ∧
      ((shelved.mergeWith unpacked).value.factsOf .filename) =
        [.filename (.ofHash "00"), .filename (.ofHash "11"), .filename (.ofHash "22")] := by
  have hlist (source : String) : (Artifact.fresh .strict source).Made :=
    .setPolicy (.ofSource source) .strict
  have hshelved : shelved.Made := .addAll (.addCoordinate (.addCoordinate (hlist _) _) _) _
  have hshelvedAgain : shelvedAgain.Made :=
    .setFlag (.addAll (.addCoordinate (.addCoordinate (hlist _) _) _) _) _ _
  have hunpacked : unpacked.Made := .addAll (.addCoordinate (.ofSource _) _) _
  have hunpackedAgain : unpackedAgain.Made := .addAll (.addCoordinate (.ofSource _) _) _
  have hlists : (shelved == shelvedAgain) = true := rfl
  have hscans : (unpacked == unpackedAgain) = true := rfl
  exact ⟨hshelved, hshelvedAgain, hunpacked, hunpackedAgain, rfl, hlists, hscans, by decide,
    Artifact.equivalence_beq_and_mergeWith_congr.2 hshelved hshelvedAgain hunpacked hunpackedAgain
      rfl hlists hscans, rfl⟩

end Clearinghouse
