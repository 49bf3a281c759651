import Clearinghouse.Proofs.Artifact.Made

/-!
# Facts of one kind that take in others

The facts that an artifact has of a kind take in facts of the kind one by one. A kind that holds
only one has the fact that comes of all meetings; files are gathered without repetition. Main
statements: to take in what other facts have taken in is to take in all in turn
(`foldl_absorb_foldl_absorb`), and facts that take in themselves stay as they are
(`foldl_absorb_same`).
-/

namespace Clearinghouse

/-! ## Facts that stand under a kind -/

/-- The facts may be stored under the kind: they are of it, and no more than it holds. -/
structure Storable (k : FactKind) (facts : List Fact) : Prop where
  kind : ∀ f ∈ facts, f.kind = k
  single : k.isMultiValued = false → facts.length ≤ 1

theorem exists_files {facts : List Fact} (h : ∀ f ∈ facts, f.kind = .filename) :
    ∃ files : List FileName, facts = files.map .filename := by
  induction facts with
  | nil => exact ⟨[], rfl⟩
  | cons f facts ih =>
    obtain ⟨file, rfl⟩ := Fact.kind_eq_filename_iff.1 (h f List.mem_cons_self)
    obtain ⟨files, rfl⟩ := ih fun g hg => h g (List.mem_cons_of_mem _ hg)
    exact ⟨file :: files, rfl⟩

theorem FactKind.isMultiValued_eq_false {k : FactKind} (h : k ≠ .filename) :
    k.isMultiValued = false := by simpa [isMultiValued] using h

theorem Storable.eq_nil_or {k : FactKind} {facts : List Fact} (h : Storable k facts)
    (hk : k ≠ .filename) : facts = [] ∨ ∃ f, facts = [f] ∧ f.kind = k := by
  have hlength := h.single (FactKind.isMultiValued_eq_false hk)
  match facts, hlength with
  | [], _ => exact .inl rfl
  | [f], _ => exact .inr ⟨f, rfl, h.kind f List.mem_cons_self⟩

theorem Artifact.Tidy.storable {a : Artifact} (h : a.Tidy) (k : FactKind) :
    Storable k (a.factsOf k) where
  kind _ hf := h.wellFormed.kind_of_mem_factsOf hf
  single := (h.facts k).single

namespace MergePolicy

variable {policy : MergePolicy}

/-! ## One fact -/

theorem absorb_nil (f : Fact) : policy.absorb [] f = [f] := by
  unfold absorb
  split <;> rfl

/-- The stored fact and the incoming one meet. -/
theorem absorb_singleton {k : FactKind} {f g : Fact} (hk : k ≠ .filename) (hf : f.kind = k)
    (hg : g.kind = k) : policy.absorb [f] g = [Fact.meet (policy.ruleFor k) f g] := by
  have hsingle : g.kind.isMultiValued = false :=
    FactKind.isMultiValued_eq_false (hg.trans_ne hk)
  rw [absorb_cons hsingle, hg]
  rcases Fact.mergeWith_eq_or (hg.trans hf.symm) with h | ⟨h, hne⟩
  · rw [h]
  · rw [h]
    split
    · rename_i heq
      exact absurd heq (hne _)
    · rfl

/-- A file joins the others, unless it is there. -/
theorem absorb_filename (files : List FileName) (file : FileName) :
    policy.absorb (files.map .filename) (.filename file) =
      (Distinct.insert files file).map .filename := by
  have hcontains : (files.map Fact.filename).contains (.filename file) = files.contains file := by
    rw [List.contains_eq_any_beq, List.contains_eq_any_beq, List.any_map]
    rfl
  unfold absorb
  rw [if_pos (by rfl), hcontains, Distinct.insert]
  split
  · rfl
  · rw [List.map_append, List.map_singleton]

theorem storable_absorb {k : FactKind} {facts : List Fact} {f : Fact} (h : Storable k facts)
    (hf : f.kind = k) : Storable k (policy.absorb facts f) where
  kind := kind_of_mem_absorb h.kind hf
  single hk := by
    have hne : k ≠ .filename := by rintro rfl; cases hk
    rcases h.eq_nil_or hne with rfl | ⟨g, rfl, hg⟩
    · rw [absorb_nil, List.length_singleton]
    · rw [absorb_singleton hne hg hf, List.length_singleton]

/-! ## Several facts -/

/-- Files are gathered without repetition. -/
theorem foldl_absorb_filenames (files new : List FileName) :
    (new.map .filename).foldl policy.absorb (files.map .filename) =
      (Distinct.union files new).map .filename := by
  induction new generalizing files with
  | nil => rfl
  | cons file new ih =>
    rw [List.map_cons, List.foldl_cons, absorb_filename, ih, Distinct.union_cons]

/-- Of a kind that holds only one the two facts meet; if there is one fact in all, it stays. -/
theorem foldl_absorb_eq_merge {k : FactKind} {facts new : List Fact} (h : Storable k facts)
    (h' : Storable k new) (hk : k ≠ .filename) :
    new.foldl policy.absorb facts =
      (Option.merge (Fact.meet (policy.ruleFor k)) facts.head? new.head?).toList := by
  rcases h.eq_nil_or hk with rfl | ⟨f, rfl, hf⟩
  · rcases h'.eq_nil_or hk with rfl | ⟨g, rfl, -⟩
    · rfl
    · rw [List.foldl_cons, absorb_nil]
      rfl
  · rcases h'.eq_nil_or hk with rfl | ⟨g, rfl, hg⟩
    · rfl
    · rw [List.foldl_cons, absorb_singleton hk hf hg]
      rfl

/-- Of a kind that holds only one the fact is there that comes of all meetings. -/
theorem foldl_absorb_singleton {k : FactKind} {f : Fact} {new : List Fact} (hk : k ≠ .filename)
    (hf : f.kind = k) (hnew : ∀ g ∈ new, g.kind = k) :
    new.foldl policy.absorb [f] = [new.foldl (Fact.meet (policy.ruleFor k)) f] := by
  induction new generalizing f with
  | nil => rfl
  | cons g new ih =>
    have hg := hnew g List.mem_cons_self
    rw [List.foldl_cons, List.foldl_cons, absorb_singleton hk hf hg]
    exact ih (Fact.kind_meet hf hg) fun h hh => hnew h (List.mem_cons_of_mem g hh)

/-- To take in facts that have taken in `f` is to take in the facts and then `f`. -/
theorem foldl_absorb_absorb {k : FactKind} {facts new : List Fact} {f : Fact}
    (hfacts : Storable k facts) (hnew : Storable k new) (hf : f.kind = k) :
    (policy.absorb new f).foldl policy.absorb facts =
      policy.absorb (new.foldl policy.absorb facts) f := by
  by_cases hk : k = .filename
  · subst hk
    obtain ⟨files, rfl⟩ := exists_files hfacts.kind
    obtain ⟨others, rfl⟩ := exists_files hnew.kind
    obtain ⟨file, rfl⟩ := Fact.kind_eq_filename_iff.1 hf
    simp only [absorb_filename, foldl_absorb_filenames, Distinct.union_insert]
  · rcases hnew.eq_nil_or hk with rfl | ⟨g, rfl, hg⟩
    · rw [absorb_nil]
      rfl
    · rw [absorb_singleton hk hg hf]
      rcases hfacts.eq_nil_or hk with rfl | ⟨e, rfl, he⟩
      · show policy.absorb [] _ = policy.absorb (policy.absorb [] g) f
        rw [absorb_nil, absorb_nil, absorb_singleton hk hg hf]
      · show policy.absorb [e] _ = policy.absorb (policy.absorb [e] g) f
        rw [absorb_singleton hk he (Fact.kind_meet hg hf), absorb_singleton hk he hg,
          absorb_singleton hk (Fact.kind_meet he hg) hf, Fact.meet_assoc he hg hf]

/-- To take in what other facts have taken in is to take in all in turn. -/
theorem foldl_absorb_foldl_absorb {k : FactKind} {facts new others : List Fact}
    (hfacts : Storable k facts) (hnew : Storable k new) (hothers : ∀ f ∈ others, f.kind = k) :
    (others.foldl policy.absorb new).foldl policy.absorb facts =
      others.foldl policy.absorb (new.foldl policy.absorb facts) := by
  induction others generalizing new with
  | nil => rfl
  | cons f others ih =>
    have hf := hothers f List.mem_cons_self
    rw [List.foldl_cons, List.foldl_cons, ← foldl_absorb_absorb hfacts hnew hf]
    exact ih (storable_absorb hnew hf) fun g hg => hothers g (List.mem_cons_of_mem f hg)

/-- Facts that take in themselves stay as they are. -/
theorem foldl_absorb_same {k : FactKind} {facts : List Fact} (h : Storable k facts)
    (hmade : ∀ f ∈ facts, f.Made) : facts.foldl policy.absorb facts = facts := by
  by_cases hk : k = .filename
  · subst hk
    obtain ⟨files, rfl⟩ := exists_files h.kind
    rw [foldl_absorb_filenames, Distinct.union_self]
  · rcases h.eq_nil_or hk with rfl | ⟨f, rfl, hf⟩
    · rfl
    · show policy.absorb [f] f = [f]
      rw [absorb_singleton hk hf hf, (hmade f List.mem_cons_self).settled.meet_self]

/-- A fact that is there is taken in without effect, as often as it comes. -/
theorem foldl_absorb_self {f : Fact} (h : f.Settled) (hk : f.kind ≠ .filename) {new : List Fact}
    (hnew : ∀ g ∈ new, g = f) : new.foldl policy.absorb [f] = [f] := by
  induction new with
  | nil => rfl
  | cons g new ih =>
    rw [List.foldl_cons, hnew g List.mem_cons_self, absorb_singleton hk rfl rfl, h.meet_self]
    exact ih fun g hg => hnew g (List.mem_cons_of_mem _ hg)

end MergePolicy

end Clearinghouse
