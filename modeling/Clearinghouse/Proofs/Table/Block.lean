import Clearinghouse.Proofs.Artifact.Absorption
import Clearinghouse.Proofs.Table.Reread

/-!
# The rows of one artifact

The full rows of an artifact say the same of every kind but the files, of which each row says
one. Main statements: merged again, whatever the policy, they have of every other kind what one
row says (`factsOf_block`), and of the files those of all rows (`factsOf_block_filename`).
-/

namespace Clearinghouse

namespace Table

/-! ## What a full row says -/

section

variable {s : Surroundings} {pathExists : Path → Bool} {baseDir : Path} {policy : MergePolicy}

/-- The text of an artifact in the column for a kind. -/
def kindText (s : Surroundings) (a : Artifact) : FactKind → String
  | .sourceFile => pathText s a .sourceFile
  | .clearingDocument => pathText s a .clearingDocument
  | k => factText a k

/-- The fact of a kind that is read from a full row, files apart. -/
def reread? (s : Surroundings) (pathExists : Path → Bool) (baseDir : Path) (a : Artifact) :
    FactKind → Option Fact
  | .matchingMetadata => some (.matchingMetadata .exact)
  | k => (Column.ofKind? k).bind fun c =>
      (Text.trimmed? (kindText s a k)).bind (readCell pathExists baseDir c)

theorem reread?_eq {a : Artifact} {k : FactKind} (h : k ≠ .matchingMetadata) :
    reread? s pathExists baseDir a k = (Column.ofKind? k).bind fun c =>
      (Text.trimmed? (kindText s a k)).bind (readCell pathExists baseDir c) := by
  cases k <;> first | rfl | exact absurd rfl h

theorem kindText_of_fact?_eq_none {a : Artifact} {k : FactKind} (h : a.fact? k = none) :
    kindText s a k = "" := by
  have htext : factText a k = "" := by
    rw [factText, h]
    rfl
  have hpath : pathText s a k = "" := by
    rw [pathText, h]
  cases k <;> assumption

/-- What an artifact does not say, its rows do not say. -/
theorem reread?_of_fact?_eq_none {a : Artifact} {k : FactKind} (hk : k ≠ .matchingMetadata)
    (h : a.fact? k = none) : reread? s pathExists baseDir a k = none := by
  rw [reread?_eq hk, kindText_of_fact?_eq_none h, Text.trimmed?_empty]
  cases Column.ofKind? k <;> rfl

theorem cell_eq_kindText {c : Column} {k : FactKind} (h : c.kind? = some k) (hk : k ≠ .filename)
    (a : Artifact) (main : Coordinate) (hash : String) :
    cell s a main hash c = kindText s a k := by
  cases c <;> cases h <;> first | rfl | exact absurd rfl hk

theorem columnFact?_line (l : Line) (c : Column) :
    columnFact? pathExists baseDir ⟨header, l.cells s, 0⟩ c =
      (Text.trimmed? (cell s l.artifact l.coordinate l.hash c)).bind
        (readCell pathExists baseDir c) := by
  rw [columnFact?, Line.cells, get?_cells]

theorem rowFact?_line (l : Line) {k : FactKind} (hk : k ≠ .filename) :
    rowFact? pathExists baseDir ⟨header, l.cells s, 0⟩ k =
      reread? s pathExists baseDir l.artifact k := by
  by_cases hm : k = .matchingMetadata
  · subst hm
    rfl
  · rw [rowFact?_eq hm, reread?_eq hm]
    refine Option.bind_congr fun c hc => ?_
    rw [columnFact?_line, cell_eq_kindText (Column.ofKind?_eq_some_iff.1 hc) hk]

theorem rowFact?_line_filename (l : Line) :
    rowFact? pathExists baseDir ⟨header, l.cells s, 0⟩ .filename =
      (Text.trimmed? l.hash).map fun hash => .filename (.ofHash hash) := by
  have hcolumn : Column.ofKind? .filename = some .hash := by decide
  rw [rowFact?, hcolumn, Option.bind_some, columnFact?_line]
  · exact Option.map_eq_bind.symm
  · simp

theorem settled_readCell {c : Column} {text : String} {f : Fact}
    (h : readCell pathExists baseDir c text = some f) : f.Settled := by
  refine Fact.settled_of_copyright fun statement hf => ?_
  subst hf
  have hc := kind_of_readCell h
  cases c <;> cases hc
  rw [readCell, Option.some.injEq, Fact.copyright.injEq] at h
  rw [← h]
  exact (Copyright.Made.ofText text).union_self

theorem kind_and_settled_of_reread? {a : Artifact} {k : FactKind} {f : Fact}
    (h : reread? s pathExists baseDir a k = some f) : f.kind = k ∧ f.Settled := by
  by_cases hm : k = .matchingMetadata
  · subst hm
    cases h
    exact ⟨rfl, rfl⟩
  · rw [reread?_eq hm] at h
    obtain ⟨c, hc, h⟩ := Option.bind_eq_some_iff.1 h
    obtain ⟨text, -, h⟩ := Option.bind_eq_some_iff.1 h
    have hk := (kind_of_readCell h).symm.trans (Column.ofKind?_eq_some_iff.1 hc)
    exact ⟨Option.some.inj hk, settled_readCell h⟩

/-! ## All full rows -/

/-- The records in the full rows of an artifact. -/
def block (s : Surroundings) (pathExists : Path → Bool) (baseDir : Path) (policy : MergePolicy)
    (a : Artifact) (main : Coordinate) : List Artifact :=
  (fullLines a main).map (·.record s pathExists baseDir policy)

variable {a : Artifact} {main : Coordinate}

theorem block_ne_nil : block s pathExists baseDir policy a main ≠ [] := by
  simpa [block] using fullLines_ne_nil a main

theorem wellFormed_of_mem_block {r : Artifact} (h : r ∈ block s pathExists baseDir policy a main) :
    r.facts.WellFormed := by
  obtain ⟨l, -, rfl⟩ := List.mem_map.1 h
  exact wellFormed_record

theorem wellFormed_block :
    (gather (block s pathExists baseDir policy a main)).facts.WellFormed :=
  gather_induction (motive := fun a => a.facts.WellFormed) block_ne_nil
    (fun _ hr => wellFormed_of_mem_block hr) fun _ b ha _ => Artifact.wellFormed_mergeWith ha b

theorem flags_block : (gather (block s pathExists baseDir policy a main)).flags = .unset := by
  refine gather_induction (motive := fun a => a.flags = .unset) block_ne_nil (fun r hr => ?_)
    fun a b ha hb => ?_
  · obtain ⟨l, -, rfl⟩ := List.mem_map.1 hr
    exact flags_record
  · rw [Artifact.flags_mergeWith, ha, hb]
    rfl

theorem coordinates_block :
    (gather (block s pathExists baseDir policy a main)).coordinates = [main] := by
  refine coordinates_gather block_ne_nil fun r hr => ?_
  obtain ⟨l, hl, rfl⟩ := List.mem_map.1 hr
  rw [Line.coordinates_record, coordinate_of_mem_fullLines hl]

/-- Of every kind but the files, the rows of an artifact say what one row says. -/
theorem factsOf_block {k : FactKind} (hk : k ≠ .filename) :
    (gather (block s pathExists baseDir policy a main)).factsOf k =
      (reread? s pathExists baseDir a k).toList := by
  have hfacts : ∀ r ∈ block s pathExists baseDir policy a main,
      r.factsOf k = (reread? s pathExists baseDir a k).toList := by
    intro r hr
    obtain ⟨l, hl, rfl⟩ := List.mem_map.1 hr
    obtain ⟨hash, -, rfl⟩ := List.mem_map.1 hl
    rw [Line.record, factsOf_record, rowFact?_line _ hk]
  have hwf : ∀ r ∈ block s pathExists baseDir policy a main, r.facts.WellFormed :=
    fun r hr => wellFormed_of_mem_block hr
  have hne : block s pathExists baseDir policy a main ≠ [] := block_ne_nil
  obtain ⟨first, more, hblock⟩ := List.exists_cons_of_ne_nil hne
  rw [hblock] at hfacts hwf ⊢
  rw [factsOf_gather fun r hr => hwf r (List.mem_cons_of_mem first hr),
    hfacts first List.mem_cons_self]
  have hmore : ∀ f ∈ more.flatMap (·.factsOf k),
      f ∈ (reread? s pathExists baseDir a k).toList := by
    intro f hf
    obtain ⟨r, hr, hf⟩ := List.mem_flatMap.1 hf
    rwa [hfacts r (List.mem_cons_of_mem first hr)] at hf
  cases hread : reread? s pathExists baseDir a k with
  | none =>
    rw [hread] at hmore
    rw [List.eq_nil_iff_forall_not_mem.2 fun f hf => List.not_mem_nil (hmore f hf)]
    rfl
  | some f =>
    obtain ⟨rfl, hsettled⟩ := kind_and_settled_of_reread? hread
    rw [hread] at hmore
    exact MergePolicy.foldl_absorb_self hsettled hk fun g hg => List.mem_singleton.1 (hmore g hg)

/-! ## Files -/

/-- Different hashes are written as they are. -/
theorem hashesOf_eq {hashes : List String} (hnodup : hashes.Nodup)
    (h : a.factsOf .filename = hashes.map fun hash => .filename (.ofHash hash)) :
    hashesOf a = hashes := by
  have hread : ((hashes.map fun hash => Fact.filename (.ofHash hash)).filterMap
      fun f => f.filename?.bind (·.hash)) = hashes := by
    rw [List.filterMap_map]
    exact List.filterMap_some
  rw [hashesOf, h, hread]
  exact Distinct.nil_union_of_nodup hnodup

/-- Files that are known by different hashes are read again. -/
theorem factsOf_block_filename {hashes : List String} (hnodup : hashes.Nodup)
    (htrim : ∀ hash ∈ hashes, Text.Trimmed hash ∧ hash ≠ "")
    (h : a.factsOf .filename = hashes.map fun hash => .filename (.ofHash hash)) :
    (gather (block s pathExists baseDir policy a main)).factsOf .filename =
      a.factsOf .filename := by
  have hread (hash : String) (hh : hash ∈ hashes) :
      ((⟨a, main, hash⟩ : Line).record s pathExists baseDir policy).factsOf .filename =
        [.filename (.ofHash hash)] := by
    rw [Line.record, factsOf_record, rowFact?_line_filename,
      Text.trimmed?_of_trimmed (htrim hash hh).1 (htrim hash hh).2]
    rfl
  have hhashes := hashesOf_eq hnodup h
  rw [h]
  cases hashes with
  | nil =>
    have hline : block s pathExists baseDir policy a main =
        [(⟨a, main, ""⟩ : Line).record s pathExists baseDir policy] := by
      rw [block, fullLines, hhashes]
      rfl
    rw [hline]
    show ((⟨a, main, ""⟩ : Line).record s pathExists baseDir policy).factsOf .filename = []
    rw [Line.record, factsOf_record, rowFact?_line_filename, Text.trimmed?_empty]
    rfl
  | cons first more =>
    have hlines : block s pathExists baseDir policy a main = (first :: more).map fun hash =>
        (⟨a, main, hash⟩ : Line).record s pathExists baseDir policy := by
      rw [block, fullLines, hhashes, List.map_map]
      rfl
    have hwf : ∀ r ∈ more.map fun hash =>
        (⟨a, main, hash⟩ : Line).record s pathExists baseDir policy, r.facts.WellFormed := by
      intro r hr
      obtain ⟨hash, -, rfl⟩ := List.mem_map.1 hr
      exact wellFormed_record
    have hmore : (more.map fun hash =>
        (⟨a, main, hash⟩ : Line).record s pathExists baseDir policy).flatMap (·.factsOf .filename) =
          more.map fun hash => .filename (.ofHash hash) := by
      rw [List.flatMap_map, List.flatMap_congr fun hash hh =>
        hread hash (List.mem_cons_of_mem first hh)]
      exact List.flatMap_pure_eq_map _ more
    have hdistinct : ((first :: more).map FileName.ofHash).Pairwise
        fun x y => (x == y) = false := by
      refine List.pairwise_map.2 (hnodup.imp fun hne => ?_)
      exact decide_eq_false fun heq => hne (by cases heq; rfl)
    have hfiles : Distinct.union [.ofHash first] (more.map .ofHash) =
        (first :: more).map FileName.ofHash := Distinct.union_of_pairwise hdistinct
    have hfacts (hashes : List String) : (hashes.map fun hash => Fact.filename (.ofHash hash)) =
        (hashes.map .ofHash).map .filename := List.map_map.symm
    rw [hlines, List.map_cons, factsOf_gather hwf, hread first List.mem_cons_self, hmore, hfacts,
      hfacts, ← hfiles]
    exact MergePolicy.foldl_absorb_filenames [.ofHash first] (more.map .ofHash)

end

end Table

end Clearinghouse
