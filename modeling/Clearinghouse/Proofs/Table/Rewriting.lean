import Clearinghouse.Proofs.Command.Product
import Clearinghouse.Proofs.Policy.Rewritten
import Clearinghouse.Proofs.Table.RoundTrip

/-!
# Writing a table again

Artifacts that were read from a table are exported, and the export is read and exported once
more: the bytes are the same (`exportBytes_importBytes_exportBytes`). Nothing is asked of the
first table but that it can be read.

1. Seen from the root, a fact from a table fills a cell that is read as a fact with the same cell
   (`readCell_fromRoot`). A license that prints too deep comes back as the id of one license, but
   this id is what the license printed.
2. So an artifact and what its full rows are read as have the same rows (`rowsOf_block`).
3. An export is read artifact by artifact, so the whole table is the same
   (`exportBytes_of_artifactsOf`).
-/

namespace Clearinghouse

open Text Table

/-! ## Paths seen from the root -/

namespace Path

/-- A joined path ends with the path that was joined. -/
theorem suffix_join (p q : Path) : q.text.toList <:+ (p.join q).text.toList := by
  unfold join
  split
  · exact List.suffix_rfl
  · split
    · rw [String.toList_append]
      exact List.suffix_append _ _
    · rw [String.toList_append]
      exact List.suffix_append _ _

/-- A joined path begins with an absolute path that it was joined to. -/
theorem isAbsolute_join {p q : Path} (h : p.isAbsolute) : (p.join q).isAbsolute := by
  have hne : p.text.toList ≠ [] := by simpa using text_ne_empty_of_isAbsolute h
  have hhead (rest : String) : (⟨p.text ++ rest⟩ : Path).isAbsolute := by
    rw [isAbsolute, String.toList_append, List.head?_append_of_ne_nil _ hne]
    exact h
  unfold join
  split
  · assumption
  · split
    · exact hhead _
    · rw [String.append_assoc]
      exact hhead _

/-- An absolute path is trimmed if it ends with a trimmed text. -/
theorem trimmed_of_isAbsolute {p : Path} {last : String} (h : p.isAbsolute)
    (hl : Trimmed last ∧ last ≠ "") (hs : last.toList <:+ p.text.toList) : Trimmed p.text := by
  have hfirst : Trimmed "/" ∧ "/" ≠ "" := ⟨by decide +kernel, by decide⟩
  refine (trimmed_of_affixes hfirst hl ?_ hs).1
  obtain ⟨tail, htail⟩ := List.head?_eq_some_iff.1 (beq_iff_eq.1 h)
  rw [htail]
  exact ⟨tail, rfl⟩

end Path

namespace Surroundings

/-- What is there can still be found later, from the root. -/
structure LastsIn (s s' : Surroundings) : Prop where
  isAbsolute : s.workingDir.isAbsolute
  pathExists : ∀ p, s.pathExists p → s'.pathExists (s.absolute p)

theorem isAbsolute_absolute {s : Surroundings} (h : s.workingDir.isAbsolute) (p : Path) :
    (s.absolute p).isAbsolute := by
  unfold absolute
  split
  · assumption
  · exact Path.isAbsolute_join h

theorem suffix_absolute (s : Surroundings) (p : Path) :
    p.text.toList <:+ (s.absolute p).text.toList := by
  unfold absolute
  split
  · exact List.suffix_rfl
  · exact Path.suffix_join s.workingDir p

end Surroundings

/-! ## Facts from tables -/

namespace Fact

/-- The fact can come from a table in `s`: it is a license that a cell gives, or its path is at
most still to be seen from the root to be representable in `s'`. -/
def FromTable (s s' : Surroundings) : Fact → Prop
  | declaredLicense t | observedLicense t | overriddenLicense t => t.OfCell
  | f => (f.fromRoot s).Representable s'

variable {s s' : Surroundings}

theorem FromTable.unite {f g : Fact} (hf : f.FromTable s s') (hg : g.FromTable s s') :
    (f.unite g).FromTable s s' := by
  unfold Fact.unite
  split
  · rename_i c d
    obtain ⟨hc, -⟩ := hf
    obtain ⟨hd, hne⟩ := hg
    refine ⟨.union hd hc, ?_⟩
    obtain ⟨new, hnew⟩ := d.union_eq_append c
    rw [hnew]
    exact List.append_ne_nil_of_left_ne_nil hne new
  · exact hf

theorem FromTable.representable {f : Fact} (h : f.FromTable s s') (hl : f.license? = none) :
    (f.fromRoot s).Representable s' := by
  cases f with
  | declaredLicense t | observedLicense t | overriddenLicense t => cases hl
  | _ => exact h

theorem FromTable.of_filename {f : Fact} (h : f.FromTable s s') (hk : f.kind = .filename) :
    f.Representable s' := by
  obtain ⟨file, rfl⟩ := kind_eq_filename_iff.1 hk
  exact h

end Fact

namespace Table

variable {s s' : Surroundings} {baseDir : Path}

/-- A path that is found from a base directory is representable, seen from the root. -/
theorem representable_of_readPath? (hs : s.LastsIn s') {text : String} {path : Path}
    (ht : Trimmed text ∧ text ≠ "") (h : readPath? s.pathExists baseDir text = some path) :
    (s.absolute path).isAbsolute ∧ Trimmed (s.absolute path).text ∧
      s'.pathExists (s.absolute path) := by
  rw [readPath?, Option.ite_none_right_eq_some, Option.some.injEq] at h
  obtain ⟨hthere, rfl⟩ := h
  have habs := Surroundings.isAbsolute_absolute hs.isAbsolute (baseDir.join ⟨text⟩)
  have hsuffix := (Path.suffix_join baseDir ⟨text⟩).trans (s.suffix_absolute _)
  exact ⟨habs, Path.trimmed_of_isAbsolute habs ht hsuffix, hs.pathExists _ hthere⟩

theorem fromTable_of_readCell (hs : s.LastsIn s') {c : Column} {text : String} {x : Fact}
    (ht : Trimmed text) (hne : text ≠ "")
    (h : readCell s.pathExists baseDir c text = some x) : x.FromTable s s' := by
  cases c with
  | effectiveLicense | declaredLicense | observedLicense =>
    cases h
    exact ofCell_readLicense ht hne
  | sourceUrl | releaseTagUrl =>
    cases h
    exact ⟨ht, hne⟩
  | artifactId | groupId | version | coordinateType => cases h
  | copyrights =>
    cases h
    exact ⟨.ofText text, Copyright.lines_ofText_ne_nil (by rwa [ht])⟩
  | hash =>
    cases h
    exact ⟨text, rfl, ht, hne⟩
  | softwareHeritageId =>
    rw [readCell] at h
    cases hid : SoftwareHeritageId.parse text with
    | ok id =>
      rw [hid] at h
      cases h
      exact ⟨text, hid⟩
    | error e =>
      rw [hid] at h
      cases h
  | clearingState | changeStatus =>
    rw [readCell, Option.map_eq_some_iff] at h
    obtain ⟨_, -, rfl⟩ := h
    trivial
  | cpe =>
    rw [readCell, Option.map_eq_some_iff] at h
    obtain ⟨name, hname, rfl⟩ := h
    exact ⟨text, hname⟩
  | clearingDocument | fileName =>
    rw [readCell, Option.map_eq_some_iff] at h
    obtain ⟨path, hpath, rfl⟩ := h
    exact representable_of_readPath? hs ⟨ht, hne⟩ hpath

theorem fromTable_of_rowFact? (hs : s.LastsIn s') {row : Row} {k : FactKind} {x : Fact}
    (h : rowFact? s.pathExists baseDir row k = some x) : x.FromTable s s' := by
  by_cases hm : k = .matchingMetadata
  · subst hm
    cases h
    rfl
  · rw [rowFact?_eq hm] at h
    obtain ⟨c, -, h⟩ := Option.bind_eq_some_iff.1 h
    obtain ⟨text, htext, h⟩ := Option.bind_eq_some_iff.1 h
    obtain ⟨ht, hne⟩ := trimmed_of_get? htext
    exact fromTable_of_readCell hs ht hne h

/-! ## Cells that are written again -/

/-- A license from a cell prints as before once it was written to a cell and read again. -/
theorem evaluate_readLicense_evaluate {t : LicenseTree} (h : t.OfCell) :
    (readLicense t.evaluate).evaluate = t.evaluate := by
  by_cases hs : t.Shallow
  · rw [readLicense_evaluate h hs]
  · rw [readLicense_of_error (of_not_shallow h hs).2]
    rfl

/-- The cell of a license from a table stands for a license with the same cell. -/
theorem readCell_evaluate {t : LicenseTree} (ht : t.OfCell) {c : Column}
    {fact : LicenseTree → Fact}
    (hread : ∀ text, readCell s'.pathExists baseDir c text = some (fact (readLicense text)))
    (htext : ∀ u, ((fact u).fromRoot s').toText = u.evaluate) :
    trimmed? t.evaluate = some t.evaluate ∧
      ∃ g, readCell s'.pathExists baseDir c t.evaluate = some g ∧
        (g.fromRoot s').toText = t.evaluate := by
  obtain ⟨htrim, hne⟩ := ht.trimmed_evaluate
  refine ⟨trimmed?_of_trimmed htrim hne, _, hread t.evaluate, ?_⟩
  rw [htext, evaluate_readLicense_evaluate ht]

/-- The cell of a fact from a table stands for a fact with the same cell. -/
theorem readCell_fromRoot {f : Fact} (hf : f.FromTable s s') (hk : f.kind ≠ .filename)
    (hm : f.kind ≠ .matchingMetadata) {c : Column} (hc : c.kind? = some f.kind) :
    trimmed? (f.fromRoot s).toText = some (f.fromRoot s).toText ∧
      ∃ g, readCell s'.pathExists baseDir c (f.fromRoot s).toText = some g ∧
        (g.fromRoot s').toText = (f.fromRoot s).toText := by
  have hother (hl : f.license? = none) :
      trimmed? (f.fromRoot s).toText = some (f.fromRoot s).toText ∧
        ∃ g, readCell s'.pathExists baseDir c (f.fromRoot s).toText = some g ∧
          (g.fromRoot s').toText = (f.fromRoot s).toText := by
    have hrep := hf.representable hl
    rw [← Fact.license?_fromRoot s] at hl
    rw [← Fact.kind_fromRoot s] at hk hm hc
    obtain ⟨htrim, hread⟩ := readCell_toText_self baseDir hrep hl hk hm hc
    exact ⟨htrim, _, hread, by rw [Fact.fromRoot_eq_self hrep]⟩
  cases f with
  | declaredLicense t =>
    obtain rfl := column_eq hc (d := .declaredLicense) rfl
    exact readCell_evaluate hf (fun _ => rfl) fun _ => rfl
  | observedLicense t =>
    obtain rfl := column_eq hc (d := .observedLicense) rfl
    exact readCell_evaluate hf (fun _ => rfl) fun _ => rfl
  | overriddenLicense t =>
    obtain rfl := column_eq hc (d := .effectiveLicense) rfl
    exact readCell_evaluate hf (fun _ => rfl) fun _ => rfl
  | configuredLicense t => exact hf.elim
  | _ => exact hother rfl

/-! ## One artifact -/

section

variable {policy : MergePolicy} {a : Artifact} {main : Coordinate}

/-- The column of a kind says after rewriting what it said before. -/
theorem kindText_block (htidy : a.Tidy) (hfacts : ∀ k, ∀ x ∈ a.factsOf k, x.FromTable s s')
    {c : Column} {k : FactKind} (hc : c.kind? = some k) (hk : k ≠ .filename) :
    kindText s' (gather (block s s'.pathExists baseDir policy a main)) k = kindText s a k := by
  have hm : k ≠ .matchingMetadata := by
    rintro rfl
    cases c <;> cases hc
  cases hx : a.fact? k with
  | none =>
    rw [kindText_of_fact?_eq_none hx,
      kindText_of_fact?_eq_none (fact?_block_of_eq_none ⟨hk, hm⟩ hx)]
  | some x =>
    have hmem : x ∈ a.factsOf k := List.mem_of_mem_head? hx
    obtain rfl : x.kind = k := htidy.wellFormed.kind_of_mem_factsOf hmem
    have htext := kindText_of_fact? (s := s) hx rfl
    obtain ⟨htrim, g, hg, hgtext⟩ := readCell_fromRoot (hfacts _ x hmem) hk hm hc
    have hreread :
        (gather (block s s'.pathExists baseDir policy a main)).fact? x.kind = some g := by
      rw [fact?_block hk, reread?_eq hm, Column.ofKind?_eq_some_iff.2 hc, Option.bind_some, htext,
        htrim, Option.bind_some, hg]
    have hkind : g.kind = x.kind :=
      Option.some.inj ((kind_of_readCell hg).symm.trans hc)
    rw [kindText_of_fact? hreread hkind, hgtext, htext]

/-- An artifact from tables and what its full rows are read as have the same rows. -/
theorem rowsOf_block (htidy : a.Tidy) (hfacts : ∀ k, ∀ x ∈ a.factsOf k, x.FromTable s s')
    (hmain : a.coordinates = [main]) :
    rowsOf s' (gather (block s s'.pathExists baseDir policy a main)) = rowsOf s a := by
  obtain ⟨hashes, hnodup, htrim, hfiles⟩ := exists_hashes htidy fun x hx =>
    (hfacts .filename x hx).of_filename (htidy.wellFormed.kind_of_mem_factsOf hx)
  have hfilenames : (gather (block s s'.pathExists baseDir policy a main)).factsOf .filename =
      a.factsOf .filename := factsOf_block_filename hnodup htrim hfiles
  have hhashes : hashesOf (gather (block s s'.pathExists baseDir policy a main)) = hashesOf a := by
    rw [hashesOf, hashesOf, hfilenames]
  have hcells : cells s' (gather (block s s'.pathExists baseDir policy a main)) main =
      cells s a main := by
    funext hash
    refine List.map_congr_left fun c _ => ?_
    cases hkind : c.kind? with
    | none => cases c <;> first | rfl | cases hkind
    | some k =>
      by_cases hk : k = .filename
      · subst hk
        cases c <;> first | rfl | cases hkind
      · rw [cell_eq_kindText hkind hk, cell_eq_kindText hkind hk,
          kindText_block htidy hfacts hkind hk]
  simp only [rowsOf, coordinates_block, hmain, hhashes, hcells]
  rfl

end

/-! ## Tables -/

/-- What is read from a table has facts from tables. -/
theorem fromTable_of_artifactsOf (hs : s.LastsIn s') {f : TableFormat} {raws : List RawRecord}
    {as : List Artifact} (h : (artifactsOf f s.pathExists baseDir raws).run.value = .ok as)
    {a : Artifact} (ha : a ∈ as) : ∀ k, ∀ x ∈ a.factsOf k, x.FromTable s s' := by
  obtain ⟨records, rfl, hone, hrecord⟩ := exists_groups_of_artifactsOf h
  obtain ⟨group, hne, hgroup, rfl, -⟩ := exists_of_mem_groups hone ha
  have hkept : (gather group).facts.WellFormed ∧
      ∀ k, ∀ x ∈ (gather group).factsOf k, x.FromTable s s' := by
    refine gather_induction (motive := fun a => a.facts.WellFormed ∧
      ∀ k, ∀ x ∈ a.factsOf k, x.FromTable s s') hne (fun r hr => ?_) fun a b ha hb => ?_
    · obtain ⟨row, c, -, rfl⟩ := hrecord r (hgroup r hr)
      refine ⟨wellFormed_record, fun k x hx => ?_⟩
      rw [factsOf_record] at hx
      exact fromTable_of_rowFact? hs (Option.mem_toList.1 hx)
    · refine ⟨Artifact.wellFormed_mergeWith ha.1 b, fun k => ?_⟩
      rw [Artifact.factsOf_mergeWith a hb.1]
      exact MergePolicy.forall_mem_foldl_absorb (fun _ _ => Fact.FromTable.unite) (ha.2 k) (hb.2 k)
  exact hkept.2

variable {f : TableFormat}

/-- What is read from a table is exported, and the export is read: exported again, it is the
same. -/
theorem exportBytes_of_artifactsOf (hd : Separates f.delimiter) (hs : s.LastsIn s')
    {raws : List RawRecord} {as : List Artifact}
    (h : (artifactsOf f s.pathExists baseDir raws).run.value = .ok as) (baseDir' : Path) :
    ∃ bs, (artifactsOf f s'.pathExists baseDir'
        (scan f.delimiter (f.exportBytes s as))).run.value = .ok bs ∧
      f.exportBytes s' bs = f.exportBytes s as := by
  have hloaded : ∀ a ∈ as, Loaded f a ∧ ∃ c, a.coordinates = [c] :=
    fun a ha => loaded_of_mem_artifactsOf h ha
  have hcarried : ∀ c ∈ coordinatesOf as, f.Carries c := by
    intro c hc
    obtain ⟨a, ha, hc⟩ := List.mem_flatMap.1 hc
    exact (hloaded a ha).1.readable c hc
  have hsep : Coordinate.Separate (coordinatesOf as) := by
    obtain ⟨records, rfl, hone, -⟩ := exists_groups_of_artifactsOf h
    exact separate_groups hone
  refine ⟨_, value_artifactsOf_single hd hcarried (fun a ha => (hloaded a ha).2) hsep, ?_⟩
  have hrows : ∀ a ∈ as, rowsOf s'
      (gather ((linesOf a).map (·.record s s'.pathExists baseDir' f.policy))) = rowsOf s a := by
    intro a ha
    obtain ⟨main, hmain⟩ := (hloaded a ha).2
    rw [linesOf_single hmain]
    exact rowsOf_block (hloaded a ha).1.made.tidy (fromTable_of_artifactsOf hs h ha) hmain
  rw [TableFormat.exportBytes, TableFormat.exportBytes, rows, rows, List.flatMap_map,
    List.flatMap_congr hrows]

end Table

/-- Importing and exporting once settles a table: whatever table was read, from bytes or from a
file, the table that its artifacts are exported to can be read from bytes and from any file that
holds it, and is exported as the same bytes. -/
theorem exportBytes_importBytes_exportBytes {f : TableFormat} (hd : Separates f.delimiter)
    {s s' : Surroundings} (hs : s.LastsIn s') {as : List Artifact}
    (h : (∃ bytes, (f.importBytes s bytes).run.value = .ok as) ∨
      ∃ p, (f.importFile s p).run.value = .ok as) :
    (∃ bs, (f.importBytes s' (f.exportBytes s as)).run.value = .ok bs ∧
        f.exportBytes s' bs = f.exportBytes s as) ∧
      ∀ p, s'.read p = .ok (f.exportBytes s as) →
        ∃ bs, (f.importFile s' p).run.value = .ok bs ∧
          f.exportBytes s' bs = f.exportBytes s as := by
  obtain ⟨baseDir, raws, hread⟩ : ∃ baseDir raws,
      (artifactsOf f s.pathExists baseDir raws).run.value = .ok as := by
    rcases h with ⟨bytes, h⟩ | ⟨p, h⟩
    · exact ⟨_, _, h⟩
    · obtain ⟨bytes, -, h⟩ := Product.importFile_eq_ok_iff.1 h
      exact ⟨_, _, h⟩
  refine ⟨exportBytes_of_artifactsOf hd hs hread _, fun p hp => ?_⟩
  obtain ⟨bs, hbs, heq⟩ := exportBytes_of_artifactsOf hd hs hread
    (f.baseDir.getD (TableFormat.directoryOf s' p))
  exact ⟨bs, Product.importFile_eq_ok_iff.2 ⟨_, hp, hbs⟩, heq⟩

/-! ## A table that is written twice -/

namespace Samples

/-- Surroundings with a single file, which is also seen from the working directory. -/
def bench : Surroundings :=
  Snapshot.surroundings ⟨⟨"/work"⟩, none,
    [("./lib.js", ⟨true, false, .ok []⟩), ("/work/./lib.js", ⟨true, false, .ok []⟩)]⟩

/-- File names start at the working directory. -/
def hereFormat : TableFormat := { TableFormat.standard with baseDir := some ⟨"."⟩ }

/-- A table with a group that is dropped, a license that is no expression, two hashes and a file
that is named from the working directory. -/
def delivery : List UInt8 :=
  Utf8.encode <| "Artifact Id,Group Id,Coordinate Type,Declared License,Hash,File Name\n" ++
    "lib,org,dotnet,MIT AND,00,lib.js\nlib,,nuget,,11,\n"

/-- The table that the delivery is written to. -/
def settledDelivery : List UInt8 :=
  print 0x2C (header.map Utf8.encode ::
    ["00", "11"].map fun hash =>
      ["lib", "", "", "nuget", "", "MIT AND", "", "", hash, "", "", "", "", "", "", "",
        "/work/./lib.js"].map Utf8.encode)

/-- The bench after the delivery was written, wherever that was. -/
def laterBench : Surroundings := { bench with read _ := .ok settledDelivery }

theorem lastsIn_bench : bench.LastsIn laterBench where
  isAbsolute := rfl
  pathExists p hp := by
    obtain ⟨text⟩ := p
    by_cases hhere : text = "./lib.js"
    · subst hhere
      decide +kernel
    · by_cases hroot : text = "/work/./lib.js"
      · subst hroot
        decide +kernel
      · simp [bench, Snapshot.surroundings, Snapshot.get?, List.lookup_cons, List.lookup_nil,
          beq_eq_false_iff_ne.2 hhere, beq_eq_false_iff_ne.2 hroot] at hp

end Samples

open Samples in
/-- The delivery is settled after it was written once. -/
theorem exportBytes_importBytes_exportBytes_delivery :
    ∃ as, (hereFormat.importBytes bench delivery).run.value = .ok as ∧
      hereFormat.exportBytes bench as = settledDelivery ∧
      (∃ bs, (hereFormat.importBytes laterBench settledDelivery).run.value = .ok bs ∧
        hereFormat.exportBytes laterBench bs = settledDelivery) ∧
      ∃ bs, (hereFormat.importFile laterBench ⟨"out.csv"⟩).run.value = .ok bs ∧
        hereFormat.exportBytes laterBench bs = settledDelivery := by
  have hvalue : (hereFormat.importBytes bench delivery).run.value.toOption.map
      (hereFormat.exportBytes bench) = some settledDelivery := by decide +kernel
  obtain ⟨as, has, hbytes⟩ := Option.map_eq_some_iff.1 hvalue
  have hread : (hereFormat.importBytes bench delivery).run.value = .ok as := by
    cases hrun : (hereFormat.importBytes bench delivery).run.value with
    | ok bs =>
      rw [hrun] at has
      exact congrArg Except.ok (Option.some.inj has)
    | error e =>
      rw [hrun] at has
      cases has
  have hsettled := exportBytes_importBytes_exportBytes ⟨by decide, by decide⟩ lastsIn_bench
    (.inl ⟨_, hread⟩)
  rw [hbytes] at hsettled
  exact ⟨as, hread, hbytes, hsettled.1, hsettled.2 ⟨"out.csv"⟩ rfl⟩

end Clearinghouse
