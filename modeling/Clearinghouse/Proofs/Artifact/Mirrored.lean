import Clearinghouse.Proofs.Artifact.Equality
import Clearinghouse.Proofs.Artifact.Forward
import Clearinghouse.Proofs.Artifact.Keeping

/-!
# Merging from either side

Of two facts of which only one can stay, the incoming one stays if the policy is to overwrite and
the stored one if it is to keep. Main statement: so it is the same, up to the order of what is
gathered, whether one artifact overwrites with another one or this one keeps what it has and
takes in the first (`sameUpToOrder_mergeWith_mirrored`).

Three kinds have a rule that no policy changes. Of clearing states the higher one stays, whichever
comes in. Files and lines of copyright are gathered behind those that are there, so that they come
in another order.
-/

namespace Clearinghouse

open Distinct (SameSet)

/-! ## Two facts -/

theorem FactKind.mergeRule_eq_overwrite {k : FactKind} (hfile : k ≠ .filename)
    (hcopyright : k ≠ .copyright) (hstate : k ≠ .clearingState) : k.mergeRule = .overwrite := by
  cases k <;> first | rfl | contradiction

/-- What overwrites when it comes in is kept when it is stored. -/
theorem Fact.meet_mirrored {k : FactKind} {f g : Fact} (hfile : k ≠ .filename)
    (hcopyright : k ≠ .copyright) (hf : f.kind = k) (hg : g.kind = k) :
    meet (MergePolicy.overwrite.ruleFor k) f g =
      meet (MergePolicy.keepExisting.ruleFor k) g f := by
  by_cases hstate : k = .clearingState
  · subst hstate
    obtain ⟨s, rfl⟩ := kind_eq_clearingState_iff.1 hf
    obtain ⟨t, rfl⟩ := kind_eq_clearingState_iff.1 hg
    rw [meet_ruleFor_clearingState, meet_ruleFor_clearingState, ClearingState.higher_comm]
  · -- nothing but the policy chooses, and the two policies choose opposite sides
    have hrule := FactKind.mergeRule_eq_overwrite hfile hcopyright hstate
    have hkeep : MergePolicy.keepExisting.ruleFor k = .keepExisting := by
      simp only [MergePolicy.ruleFor, hrule]
    rw [MergePolicy.ruleFor_overwrite, hrule, hkeep]
    rfl

/-- Statements that are united from either side have the same lines. -/
theorem Copyright.Made.lines_union_perm_comm {c d : Copyright} (hc : c.Made) (hd : d.Made) :
    (c.union d).lines.Perm (d.union c).lines := by
  rw [hd.lines_union, hc.lines_union]
  exact Distinct.union_perm_comm hc.nodup hd.nodup

/-! ## Facts of one kind -/

namespace MergePolicy

variable {facts new : List Fact}

/-- Of a kind that gathers nothing the same fact is there. -/
theorem foldl_absorb_mirrored {k : FactKind} (h : Storable k facts) (h' : Storable k new)
    (hfile : k ≠ .filename) (hcopyright : k ≠ .copyright) :
    new.foldl overwrite.absorb facts = facts.foldl keepExisting.absorb new := by
  rw [foldl_absorb_eq_merge h h' hfile, foldl_absorb_eq_merge h' h hfile]
  rcases h.eq_nil_or hfile with rfl | ⟨f, rfl, hf⟩
  · cases new.head? <;> rfl
  · rcases h'.eq_nil_or hfile with rfl | ⟨g, rfl, hg⟩
    · rfl
    · exact congrArg (fun met => [met]) (Fact.meet_mirrored hfile hcopyright hf hg)

/-- The same files are there. -/
theorem foldl_absorb_perm_files (h : Storable .filename facts) (h' : Storable .filename new)
    (hfacts : Artifact.TidyFacts .filename facts) (hnew : Artifact.TidyFacts .filename new) :
    (new.foldl overwrite.absorb facts).Perm (facts.foldl keepExisting.absorb new) := by
  have hnodup {files : List FileName}
      (htidy : Artifact.TidyFacts .filename (files.map .filename)) : files.Nodup :=
    Distinct.pairwise_beq_iff_nodup.1 (List.pairwise_map.1 htidy.pairwise)
  obtain ⟨files, rfl⟩ := exists_files h.kind
  obtain ⟨others, rfl⟩ := exists_files h'.kind
  rw [foldl_absorb_filenames, foldl_absorb_filenames]
  exact (Distinct.union_perm_comm (hnodup hfacts) (hnodup hnew)).map _

/-- A statement with the same lines is there. -/
theorem foldl_absorb_lines_perm (h : Storable .copyright facts) (h' : Storable .copyright new)
    (hfacts : ∀ f ∈ facts, f.Made) (hnew : ∀ f ∈ new, f.Made) {c : Copyright}
    (hc : new.foldl overwrite.absorb facts = [.copyright c]) :
    ∃ d : Copyright, facts.foldl keepExisting.absorb new = [.copyright d] ∧
      c.lines.Perm d.lines := by
  have hkind : FactKind.copyright ≠ .filename := by decide
  rw [foldl_absorb_eq_merge h h' hkind] at hc
  rw [foldl_absorb_eq_merge h' h hkind]
  rcases h.eq_nil_or hkind with rfl | ⟨f, rfl, hf⟩
  · refine ⟨c, Eq.trans ?_ hc, .refl _⟩
    cases new.head? <;> rfl
  · rcases h'.eq_nil_or hkind with rfl | ⟨g, rfl, hg⟩
    · exact ⟨c, hc, .refl _⟩
    · obtain ⟨first, rfl⟩ := Fact.kind_eq_copyright_iff.1 hf
      obtain ⟨second, rfl⟩ := Fact.kind_eq_copyright_iff.1 hg
      obtain rfl : first.union second = c := by
        cases hc
        rfl
      exact ⟨second.union first, rfl, Copyright.Made.lines_union_perm_comm
        (hfacts _ List.mem_cons_self) (hnew _ List.mem_cons_self)⟩

end MergePolicy

/-! ## Artifacts -/

namespace Artifact

/-- The artifacts have the same coordinates, flags set and kinds of facts, the very same fact of
every kind that gathers nothing, and the same files and lines of copyright in some order. -/
structure SameUpToOrder (a b : Artifact) : Prop where
  coordinates : SameSet a.coordinates b.coordinates
  flags : a.flags.active = b.flags.active
  kinds : ∀ k, a.hasFact k = b.hasFact k
  single : ∀ k, k ≠ .filename → k ≠ .copyright → a.factsOf k = b.factsOf k
  files : (a.factsOf .filename).Perm (b.factsOf .filename)
  copyright : ∀ c : Copyright, a.ask? .copyright = some c →
    ∃ d : Copyright, b.ask? .copyright = some d ∧ c.lines.Perm d.lines

/-- To overwrite with what another artifact says is to merge into the other one and keep what it
says. -/
theorem Reachable.sameUpToOrder_mergeWith_mirrored {a b : Artifact} (ha : a.Reachable)
    (hb : b.Reachable) :
    SameUpToOrder ({ a with policy := .overwrite }.mergeWith b).value
      ({ b with policy := .keepExisting }.mergeWith a).value := by
  have hleft := ((ha.setPolicy .overwrite).mergeWith hb).tidy
  have hright := ((hb.setPolicy .keepExisting).mergeWith ha).tidy
  have hfacts (k : FactKind) :
      ({ a with policy := .overwrite }.mergeWith b).value.factsOf k =
        (b.factsOf k).foldl MergePolicy.overwrite.absorb (a.factsOf k) :=
    factsOf_mergeWith _ hb.tidy.wellFormed k
  have hfacts' (k : FactKind) :
      ({ b with policy := .keepExisting }.mergeWith a).value.factsOf k =
        (a.factsOf k).foldl MergePolicy.keepExisting.absorb (b.factsOf k) :=
    factsOf_mergeWith _ ha.tidy.wellFormed k
  refine ⟨?_, Flags.active_eq_iff.2 fun f => ?_, fun k => ?_, fun k hfile hcopyright => ?_, ?_,
    fun c hc => ?_⟩
  · rw [coordinates_mergeWith, coordinates_mergeWith]
    exact Distinct.sameSet_union_comm a.coordinates b.coordinates
  · rw [flags_mergeWith, flags_mergeWith, Flags.isSet_merge, Flags.isSet_merge, Bool.or_comm]
  · rw [hasFact_mergeWith _ hb.tidy.wellFormed, hasFact_mergeWith _ ha.tidy.wellFormed]
    exact Bool.or_comm (a.hasFact k) (b.hasFact k)
  · rw [hfacts, hfacts']
    exact MergePolicy.foldl_absorb_mirrored (ha.tidy.storable k) (hb.tidy.storable k) hfile
      hcopyright
  · rw [hfacts, hfacts']
    exact MergePolicy.foldl_absorb_perm_files (ha.tidy.storable _) (hb.tidy.storable _)
      (ha.tidy.facts _) (hb.tidy.facts _)
  · have hkind : FactKind.copyright ≠ .filename := by decide
    have hc := (ask?_eq_some_iff (hleft.storable _) hkind).1 hc
    rw [hfacts] at hc
    obtain ⟨d, hd, hperm⟩ := MergePolicy.foldl_absorb_lines_perm (ha.tidy.storable _)
      (hb.tidy.storable _) (ha.facts _) (hb.facts _) hc
    rw [← hfacts'] at hd
    exact ⟨d, (ask?_eq_some_iff (hright.storable _) hkind).2 hd, hperm⟩

end Artifact

namespace Samples

/-- What is known of a library that was bought. -/
def bought : Artifact :=
  ((Artifact.ofSource "orders").addCoordinate (.of "npm" "" "lib" "1.2")).addAll
    [.filename (.ofHash "00"), .sourceUrl "https://one.example", .copyright (.ofText "(c) Ada"),
      .clearingState .osmApproved]

/-- What is found in it. -/
def opened : Artifact :=
  ((((Artifact.ofSource "scan").addCoordinate (.of "npm" "" "library" "1.2")).addCoordinate
    (.of "NPM" "" "lib" "1.2")).addAll [.clearingState .initial, .sourceUrl "https://two.example",
      .copyright (.ofText "(c) Bob\n(c) Ada"), .filename (.ofHash "11")]).setFlag .proprietary true

end Samples

open Samples in
/-- The scan knows another URL, which stays on either way; files and lines come in the order in
which they were gathered. -/
theorem sameUpToOrder_mergeWith_mirrored_bought :
    bought.Reachable ∧ opened.Reachable ∧
      let overwritten := ({ bought with policy := .overwrite }.mergeWith opened).value
      let kept := ({ opened with policy := .keepExisting }.mergeWith bought).value
      overwritten.SameUpToOrder kept ∧
        overwritten.allFacts = [.filename (.ofHash "00"), .filename (.ofHash "11"),
          .sourceUrl "https://two.example", .copyright ⟨["(c) Ada", "(c) Bob"]⟩,
          .clearingState .osmApproved] ∧
        kept.allFacts = [.clearingState .osmApproved, .sourceUrl "https://two.example",
          .copyright ⟨["(c) Bob", "(c) Ada"]⟩, .filename (.ofHash "11"),
          .filename (.ofHash "00")] := by
  have hbought : bought.Reachable := by
    refine .addAll (.addCoordinate (.ofSource _) _) ?_
    simp only [List.forall_mem_cons]
    exact ⟨trivial, trivial, .ofText _, trivial, by simp⟩
  have hopened : opened.Reachable := by
    refine .setFlag (.addAll (.addCoordinate (.addCoordinate (.ofSource _) _) _) ?_) _ _
    simp only [List.forall_mem_cons]
    exact ⟨trivial, trivial, .ofText _, trivial, by simp⟩
  exact ⟨hbought, hopened, hbought.sameUpToOrder_mergeWith_mirrored hopened, rfl, rfl⟩

end Clearinghouse
