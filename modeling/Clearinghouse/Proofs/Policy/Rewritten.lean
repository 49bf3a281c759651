import Clearinghouse.Proofs.Policy.Effective
import Clearinghouse.Proofs.Table.Block
import Clearinghouse.Proofs.Table.Loaded

/-!
# Policies and rewritten artifacts

An artifact from tables that is written to rows and read again keeps all that rules look at, but
for licenses: each of them is what its own text is read as (`rewritten_block`). All rules hold of
it as before if no license that decides prints too deep (`Rewritten.holds_iff`), and otherwise
some rule tells the two apart (`Rewritten.shallow_of_holds_iff`).
-/

namespace Clearinghouse

open Text LicenseTree

namespace Artifact

/-! ## The licenses that decide -/

/-- The licenses that make up the one that counts, unless one is configured: the overridden one,
else what was declared and what was observed. -/
def deciding (a : Artifact) : List LicenseTree :=
  match a.license? .overriddenLicense with
  | some t => [t]
  | none => (a.license? .declaredLicense).toList ++ (a.license? .observedLicense).toList

variable {a : Artifact}

theorem length_deciding_le (a : Artifact) : a.deciding.length ≤ 2 := by
  unfold deciding
  cases a.license? .overriddenLicense with
  | some t => exact Nat.le_succ 1
  | none =>
    cases a.license? .declaredLicense <;> cases a.license? .observedLicense <;> simp

theorem mem_deciding {t : LicenseTree} (h : t ∈ a.deciding) :
    ∃ k ∈ [FactKind.overriddenLicense, .declaredLicense, .observedLicense],
      a.license? k = some t := by
  unfold deciding at h
  split at h
  · rename_i heq
    rw [List.mem_singleton] at h
    exact ⟨_, by simp, h ▸ heq⟩
  · rcases List.mem_append.1 h with h | h
    · exact ⟨_, by simp, Option.mem_toList.1 h⟩
    · exact ⟨_, by simp, Option.mem_toList.1 h⟩

/-- If no license is configured, those that decide are those that count. -/
theorem counts_iff_mem_deciding (h : a.license? .configuredLicense = none) {t : LicenseTree} :
    a.Counts t ↔ t ∈ a.deciding := by
  unfold deciding
  cases hoverridden : a.license? .overriddenLicense with
  | some u => rw [counts_of_overridden hoverridden, List.mem_singleton]
  | none => exact counts_of_detected hoverridden h

theorem forbiddenLicense_holds_iff (h : a.license? .configuredLicense = none)
    {ids : List String} :
    (Rule.forbiddenLicense ids).Holds a ↔ ∀ id ∈ ids, ¬ ∃ t ∈ a.deciding, HasId id t := by
  simp only [forbiddenLicense_holds_iff_counts, counts_iff_mem_deciding h]

theorem deciding_of_license? {b : Artifact} {g : LicenseTree → LicenseTree}
    (h : ∀ k ∈ [FactKind.overriddenLicense, .declaredLicense, .observedLicense],
      b.license? k = (a.license? k).map g) : b.deciding = a.deciding.map g := by
  unfold deciding
  rw [h _ (by simp), h _ (by simp), h _ (by simp)]
  cases a.license? .overriddenLicense with
  | some t => rfl
  | none =>
    cases a.license? .declaredLicense <;> cases a.license? .observedLicense <;> rfl

/-! ## Rewritten artifacts -/

/-- What rules can tell of an artifact that was written to rows and read again. -/
structure Rewritten (a b : Artifact) : Prop where
  clearingState : Rule.clearingStateOf b = Rule.clearingStateOf a
  sourceUrl : (b.fact? .sourceUrl).isSome = (a.fact? .sourceUrl).isSome
  proprietary : b.isProprietary = a.isProprietary
  unconfigured : a.license? .configuredLicense = none ∧ b.license? .configuredLicense = none
  license : ∀ k ∈ [FactKind.overriddenLicense, .declaredLicense, .observedLicense],
    b.license? k = (a.license? k).map fun t => Table.readLicense t.evaluate

namespace Rewritten

variable {b : Artifact} (h : Rewritten a b)
include h

theorem setPolicy (policy : MergePolicy) : Rewritten a { b with policy } :=
  ⟨h.clearingState, h.sourceUrl, h.proprietary, h.unconfigured, h.license⟩

theorem deciding_eq : b.deciding = a.deciding.map fun t => Table.readLicense t.evaluate :=
  deciding_of_license? h.license

theorem forbiddenLicense_holds_iff_of_hasId {ids : List String}
    (hids : ∀ id ∈ ids, (∃ t ∈ a.deciding, HasId id t) ↔ ∃ t ∈ b.deciding, HasId id t) :
    (Rule.forbiddenLicense ids).Holds a ↔ (Rule.forbiddenLicense ids).Holds b := by
  rw [forbiddenLicense_holds_iff h.unconfigured.1, forbiddenLicense_holds_iff h.unconfigured.2]
  exact forall₂_congr fun id hid => not_congr (hids id hid)

variable (hcell : ∀ t ∈ a.deciding, t.OfCell)
include hcell

/-- All rules hold as before if no license that decides prints too deep. -/
theorem holds_iff (hs : ∀ t ∈ a.deciding, t.Shallow) (r : Rule) : r.Holds a ↔ r.Holds b := by
  cases r with
  | minimumClearingState minimum => rw [Rule.Holds, Rule.Holds, h.clearingState]
  | forbiddenLicense ids =>
    have hsame : b.deciding = a.deciding := by
      rw [h.deciding_eq, List.map_congr_left fun t ht =>
        Table.readLicense_evaluate (hcell t ht) (hs t ht)]
      exact List.map_id' _
    exact h.forbiddenLicense_holds_iff_of_hasId fun id _ => by rw [hsame]
  | sourceUrlRequired =>
    have hsource : (∃ f, b.fact? .sourceUrl = some f) ↔ ∃ f, a.fact? .sourceUrl = some f := by
      rw [← Option.isSome_iff_exists, ← Option.isSome_iff_exists, h.sourceUrl]
    rw [Rule.Holds, Rule.Holds, h.proprietary, hsource]

/-- If no rule that forbids one license tells the two apart, then no license that decides prints
too deep. -/
theorem shallow_of_holds_iff
    (hr : ∀ id, Trimmed id →
      ((Rule.forbiddenLicense [id]).Holds a ↔ (Rule.forbiddenLicense [id]).Holds b))
    {t : LicenseTree} (ht : t ∈ a.deciding) : t.Shallow := by
  refine Table.shallow_of_hasId_iff (length_deciding_le a) hcell (fun id hid => ?_) ht
  have hholds := hr id hid
  rw [forbiddenLicense_holds_iff h.unconfigured.1, forbiddenLicense_holds_iff h.unconfigured.2,
    h.deciding_eq] at hholds
  simpa using not_iff_not.1 (by simpa using hholds)

end Rewritten

end Artifact

namespace Table

/-- The facts of a kind are licenses, with a column of their own. -/
structure LicenseColumn (k : FactKind) (c : Column) (fact : LicenseTree → Fact) : Prop where
  ofKind?_eq : Column.ofKind? k = some c
  kind_ne : k ≠ .filename ∧ k ≠ .matchingMetadata
  exists_of_kind : ∀ x : Fact, x.kind = k → x.OfCell → ∃ t, x = fact t ∧ t.OfCell
  license?_eq : ∀ t, (fact t).license? = some t
  toText_eq : ∀ t, (fact t).toText = t.evaluate
  kindText_eq : ∀ s a, kindText s a k = factText a k
  readCell_eq : ∀ pathExists baseDir text,
    readCell pathExists baseDir c text = some (fact (readLicense text))

theorem overriddenLicense_column :
    LicenseColumn .overriddenLicense .effectiveLicense .overriddenLicense where
  ofKind?_eq := rfl
  kind_ne := by decide
  exists_of_kind x hk hcell := by
    cases x with
    | overriddenLicense t => exact ⟨t, rfl, hcell⟩
    | _ => cases hk
  license?_eq _ := rfl
  toText_eq _ := rfl
  kindText_eq _ _ := rfl
  readCell_eq _ _ _ := rfl

theorem declaredLicense_column :
    LicenseColumn .declaredLicense .declaredLicense .declaredLicense where
  ofKind?_eq := rfl
  kind_ne := by decide
  exists_of_kind x hk hcell := by
    cases x with
    | declaredLicense t => exact ⟨t, rfl, hcell⟩
    | _ => cases hk
  license?_eq _ := rfl
  toText_eq _ := rfl
  kindText_eq _ _ := rfl
  readCell_eq _ _ _ := rfl

theorem observedLicense_column :
    LicenseColumn .observedLicense .observedLicense .observedLicense where
  ofKind?_eq := rfl
  kind_ne := by decide
  exists_of_kind x hk hcell := by
    cases x with
    | observedLicense t => exact ⟨t, rfl, hcell⟩
    | _ => cases hk
  license?_eq _ := rfl
  toText_eq _ := rfl
  kindText_eq _ _ := rfl
  readCell_eq _ _ _ := rfl

variable {f : TableFormat} {s : Surroundings} {pathExists : Path → Bool} {baseDir : Path}
  {policy : MergePolicy} {a : Artifact} {main : Coordinate}

/-! ## Facts from tables -/

section Loaded

variable (h : Loaded f a)
include h

theorem Loaded.fact?_cases (k : FactKind) :
    a.fact? k = none ∨ ∃ x, a.fact? k = some x ∧ x.kind = k ∧ x.OfCell := by
  cases hx : a.fact? k with
  | none => exact .inl rfl
  | some x =>
    have hmem : x ∈ a.factsOf k := List.mem_of_mem_head? hx
    exact .inr ⟨x, rfl, h.made.tidy.wellFormed.kind_of_mem_factsOf hmem, h.facts k x hmem⟩

theorem Loaded.license?_configuredLicense : a.license? .configuredLicense = none := by
  rcases h.fact?_cases .configuredLicense with hnone | ⟨x, -, hkind, hcell⟩
  · rw [Artifact.license?, hnone]
    rfl
  · cases x with
    | configuredLicense t => exact hcell.elim
    | _ => cases hkind

theorem Loaded.ofCell_of_fact? {k : FactKind} {c : Column} {fact : LicenseTree → Fact}
    (hcol : LicenseColumn k c fact) {x : Fact} (hx : a.fact? k = some x) :
    ∃ t, x = fact t ∧ t.OfCell := by
  rcases h.fact?_cases k with hnone | ⟨y, hy, hk, hcell⟩
  · rw [hx] at hnone
    cases hnone
  · rw [hx, Option.some.injEq] at hy
    subst hy
    exact hcol.exists_of_kind x hk hcell

theorem Loaded.of_fact? {k : FactKind} {c : Column} {fact : LicenseTree → Fact}
    (hcol : LicenseColumn k c fact) {x : Fact} (hx : a.fact? k = some x) :
    ∃ t, x = fact t ∧ t.isEmpty = false ∧ Trimmed t.evaluate ∧ t.evaluate ≠ "" := by
  obtain ⟨t, rfl, ht⟩ := h.ofCell_of_fact? hcol hx
  exact ⟨t, rfl, ht.isEmpty_eq_false, ht.trimmed_evaluate⟩

theorem Loaded.ofCell_of_license? {k : FactKind} {c : Column} {fact : LicenseTree → Fact}
    (hcol : LicenseColumn k c fact) {t : LicenseTree} (ht : a.license? k = some t) :
    t.OfCell := by
  obtain ⟨ht, -⟩ := Option.filter_eq_some_iff.1 ht
  obtain ⟨x, hx, ht⟩ := Option.bind_eq_some_iff.1 ht
  obtain ⟨u, rfl, hu⟩ := h.ofCell_of_fact? hcol hx
  rw [hcol.license?_eq, Option.some.injEq] at ht
  exact ht ▸ hu

theorem Loaded.ofCell_of_mem_deciding : ∀ t ∈ a.deciding, t.OfCell := by
  intro t ht
  obtain ⟨k, hk, hlic⟩ := Artifact.mem_deciding ht
  simp only [List.mem_cons, List.not_mem_nil, or_false] at hk
  rcases hk with rfl | rfl | rfl
  · exact h.ofCell_of_license? overriddenLicense_column hlic
  · exact h.ofCell_of_license? declaredLicense_column hlic
  · exact h.ofCell_of_license? observedLicense_column hlic

end Loaded

/-! ## Facts after rewriting -/

theorem fact?_block {k : FactKind} (hk : k ≠ .filename) :
    (gather (block s pathExists baseDir policy a main)).fact? k =
      reread? s pathExists baseDir a k := by
  rw [Artifact.fact?_eq_head?, factsOf_block hk]
  cases reread? s pathExists baseDir a k <;> rfl

/-- A fact with a trimmed text is what this text is read as. -/
theorem fact?_block_of_fact? {k : FactKind} {c : Column} {x : Fact}
    (hk : k ≠ .filename ∧ k ≠ .matchingMetadata) (hc : Column.ofKind? k = some c)
    (htext : kindText s a k = factText a k) (hx : a.fact? k = some x)
    (htrim : Trimmed x.toText ∧ x.toText ≠ "") :
    (gather (block s pathExists baseDir policy a main)).fact? k =
      readCell pathExists baseDir c x.toText := by
  have hfact : factText a k = x.toText := by
    rw [factText, hx]
    rfl
  rw [fact?_block hk.1, reread?_eq hk.2, hc, Option.bind_some, htext, hfact,
    trimmed?_of_trimmed htrim.1 htrim.2, Option.bind_some]

theorem fact?_block_of_eq_none {k : FactKind} (hk : k ≠ .filename ∧ k ≠ .matchingMetadata)
    (h : a.fact? k = none) :
    (gather (block s pathExists baseDir policy a main)).fact? k = none := by
  rw [fact?_block hk.1, reread?_of_fact?_eq_none hk.2 h]

/-- A license with a trimmed text is what this text is read as. -/
theorem license?_block {k : FactKind} {c : Column} {fact : LicenseTree → Fact}
    (hcol : LicenseColumn k c fact)
    (h : ∀ x, a.fact? k = some x →
      ∃ t, x = fact t ∧ t.isEmpty = false ∧ Trimmed t.evaluate ∧ t.evaluate ≠ "") :
    (gather (block s pathExists baseDir policy a main)).license? k =
      (a.license? k).map fun t => readLicense t.evaluate := by
  cases hx : a.fact? k with
  | none =>
    rw [Artifact.license?, Artifact.license?, fact?_block_of_eq_none hcol.kind_ne hx, hx]
    rfl
  | some x =>
    obtain ⟨t, rfl, hempty, htrim⟩ := h x hx
    have hread := (ofCell_readLicense htrim.1 htrim.2).isEmpty_eq_false
    rw [← hcol.toText_eq] at htrim
    rw [Artifact.license?, Artifact.license?, fact?_block_of_fact? hcol.kind_ne hcol.ofKind?_eq
      (hcol.kindText_eq s a) hx htrim, hx, hcol.readCell_eq, hcol.toText_eq, Option.bind_some,
      Option.bind_some, hcol.license?_eq, hcol.license?_eq, Option.filter_some,
      Option.filter_some, hread, hempty]
    rfl

theorem clearingStateOf_block (h : Loaded f a) :
    Rule.clearingStateOf (gather (block s pathExists baseDir policy a main)) =
      Rule.clearingStateOf a := by
  have hne : FactKind.clearingState ≠ .filename ∧ FactKind.clearingState ≠ .matchingMetadata := by
    decide
  rcases h.fact?_cases .clearingState with hnone | ⟨x, hx, hkind, -⟩
  · rw [Rule.clearingStateOf, Rule.clearingStateOf, fact?_block_of_eq_none hne hnone, hnone]
  · cases x with
    | clearingState state =>
      obtain ⟨hparse, htrim⟩ := parse_clearingState state
      rw [Rule.clearingStateOf, Rule.clearingStateOf,
        fact?_block_of_fact? hne rfl rfl hx htrim, hx, readCell]
      show ((ClearingState.parse state.name).toOption.map Fact.clearingState).bind _ = _
      rw [hparse]
      rfl
    | _ => cases hkind

theorem isSome_sourceUrl_block (h : Loaded f a) :
    ((gather (block s pathExists baseDir policy a main)).fact? .sourceUrl).isSome =
      (a.fact? .sourceUrl).isSome := by
  have hne : FactKind.sourceUrl ≠ .filename ∧ FactKind.sourceUrl ≠ .matchingMetadata := by decide
  rcases h.fact?_cases .sourceUrl with hnone | ⟨x, hx, hkind, hcell⟩
  · rw [fact?_block_of_eq_none hne hnone, hnone]
  · cases x with
    | sourceUrl url =>
      rw [fact?_block_of_fact? hne rfl rfl hx hcell, hx]
      rfl
    | _ => cases hkind

/-- The artifact in the full rows of an artifact from tables is the artifact rewritten. -/
theorem rewritten_block (h : Loaded f a) :
    a.Rewritten (gather (block s pathExists baseDir policy a main)) where
  clearingState := clearingStateOf_block h
  sourceUrl := isSome_sourceUrl_block h
  proprietary := by rw [Artifact.isProprietary, Artifact.isProprietary, flags_block, h.flags]
  unconfigured := by
    refine ⟨h.license?_configuredLicense, ?_⟩
    rw [Artifact.license?, fact?_block (by decide)]
    rfl
  license := by
    simp only [List.forall_mem_cons]
    exact ⟨license?_block overriddenLicense_column fun _ => h.of_fact? overriddenLicense_column,
      license?_block declaredLicense_column fun _ => h.of_fact? declaredLicense_column,
      license?_block observedLicense_column fun _ => h.of_fact? observedLicense_column, by simp⟩

end Table

end Clearinghouse
