import Clearinghouse.Proofs.Policy.Exact
import Clearinghouse.Proofs.Policy.Rewritten
import Clearinghouse.Proofs.Text.Lines

/-!
# Summaries

A summary is meant to have a line of totals and one line for every violation, which begins with
the severity and the id of the rule (`Report.Itemized`). A message is printed as it is, so this
holds if and only if every message is on one line (`Report.itemized_iff`). Messages name the
artifact, and a forbidden license is printed too. Main statement: for artifacts from tables the
summary is itemized exactly if no cell that is printed has a line feed
(`Report.itemized_check_artifactsOf_iff`).

1. The totals and the ids of the rules have no line feed.
2. An artifact from a table is named by its coordinate, whose fields are cells.
3. An expression has a line feed if one of its ids has. The ids in a license that was read are
   made of words, so this is the case of a cell that is no expression.
-/

namespace Clearinghouse

open Text

/-! ## Licenses -/

namespace LicenseTree

theorem isEmpty_of_hasId {t : LicenseTree} {id : String} (h : HasId id t) : t.isEmpty = false := by
  obtain ⟨l, hl, -⟩ := h
  rw [← Bool.not_eq_true]
  exact fun hempty => List.ne_nil_of_mem hl (licenses_eq_nil_iff.2 hempty)

/-- A license that says something is printed on one line if its ids are. -/
theorem oneLine_evaluate_iff {t : LicenseTree} (ht : t.isEmpty = false) :
    OneLine t.evaluate ↔ ∀ id, HasId id t → OneLine id := by
  induction t using LicenseTree.induction with
  | license l =>
    have hid (id : String) : HasId id (license l) ↔ l.id = id := by
      rw [hasId_license]
      exact and_iff_right ht
    simp only [hid, forall_eq', evaluate_license]
  | statement children op ih =>
    have hne : telling children ≠ [] := by
      rw [Ne, telling_eq_nil_iff]
      exact Bool.eq_false_iff.1 ht
    have hword : OneLine s!" {(op.getD .and).word} " := by
      cases op.getD .and <;> decide +kernel
    have hsigns : OneLine "( " ∧ OneLine " )" := ⟨by decide +kernel, by decide +kernel⟩
    rw [evaluate_statement hne, enclose, oneLine_append, oneLine_append, oneLine_join hword,
      List.forall_mem_map]
    simp only [hsigns, true_and, and_true, hasId_statement]
    constructor
    · rintro h id ⟨t, hmem, hid⟩
      have htells := isEmpty_of_hasId hid
      exact (ih t hmem htells).1 (h t (mem_telling.2 ⟨hmem, htells⟩)) id hid
    · intro h t hmem
      obtain ⟨hmem, htells⟩ := mem_telling.1 hmem
      exact (ih t hmem htells).2 fun id hid => h id ⟨t, hmem, hid⟩

open License in
theorem oneLine_plainId {id : String} (h : PlainId id) : OneLine id := by
  have hgroup {words : List String} (h : Group words) : OneLine (join " " words) :=
    (oneLine_join (by decide +kernel)).2 fun w hw => oneLine_of_solid (h.2 w hw).solid
  rcases h with ⟨words, h, rfl⟩ | ⟨words, more, h, h', rfl⟩
  · exact hgroup h
  · rw [oneLine_append, oneLine_append]
    exact ⟨⟨hgroup h, by decide +kernel⟩, hgroup h'⟩

/-- Only the text of a cell that is no expression can have a line feed. -/
theorem OfCell.oneLine_ids_iff {t : LicenseTree} (h : t.OfCell) :
    (∀ id, HasId id t → OneLine id) ↔ ∀ l, t = license l → OneLine l.id := by
  cases h with
  | settled h =>
    have hplain (id : String) (hid : HasId id t) : OneLine id :=
      oneLine_plainId (h.plain.plainId hid)
    refine iff_of_true hplain ?_
    rintro l rfl
    exact hplain l.id (hasId_license.2 ⟨h.tells, rfl⟩)
  | unread htrim hne h =>
    have hempty : (License.ofId _).isEmpty = false := isEmpty_ofId htrim hne
    simp [hasId_license, hempty]

end LicenseTree

/-! ## Artifacts -/

/-- The fields of a coordinate have no line feed. -/
structure Coordinate.OneLine (c : Coordinate) : Prop where
  type : Text.OneLine c.type
  ns : Text.OneLine c.ns
  name : Text.OneLine c.name
  version : Text.OneLine c.version

theorem Coordinate.oneLine_toPurl_iff {c : Coordinate} : Text.OneLine c.toPurl ↔ c.OneLine := by
  have hsigns : Text.OneLine "pkg:" ∧ Text.OneLine "/" ∧ Text.OneLine "@" ∧ Text.OneLine "" := by
    decide +kernel
  have hfields : Text.OneLine c.toPurl ↔ Text.OneLine c.type ∧ Text.OneLine c.ns ∧
      Text.OneLine c.name ∧ Text.OneLine c.version := by
    by_cases hns : c.ns = "" <;> by_cases hversion : c.version = "" <;>
      simp [toPurl, hns, hversion, hsigns, toString, and_assoc]
  rw [hfields]
  exact ⟨fun ⟨type, ns, name, version⟩ => ⟨type, ns, name, version⟩,
    fun h => ⟨h.type, h.ns, h.name, h.version⟩⟩

theorem Artifact.toText_of_coordinates {a : Artifact} {c : Coordinate}
    (h : a.coordinates = [c]) : a.toText = c.toPurl := by
  rw [toText, mainCoordinate?, h]
  rfl

/-- The license that counts is printed on one line if the ids in what makes it up are. -/
theorem Artifact.oneLine_effectiveLicense_iff {a : Artifact} {t : LicenseTree}
    (h : a.effectiveLicense? = some t) (ht : t.isEmpty = false) :
    OneLine t.evaluate ↔ ∀ u, a.Counts u → ∀ id, u.HasId id → OneLine id := by
  have hids (id : String) : t.HasId id ↔ ∃ u, a.Counts u ∧ u.HasId id := by
    rw [← hasId_effectiveLicense?, h]
    simp
  rw [LicenseTree.oneLine_evaluate_iff ht]
  constructor
  · exact fun hall u hu id hid => hall id ((hids id).2 ⟨u, hu, hid⟩)
  · intro hall id hid
    obtain ⟨u, hu, hid⟩ := (hids id).1 hid
    exact hall u hu id hid

/-! ## Messages -/

namespace Rule

theorem oneLine_id (r : Rule) : OneLine r.id := by
  have hids : ∀ id ∈ PolicyConfig.ruleIds, OneLine id := by decide +kernel
  refine hids r.id ?_
  cases r <;> simp [PolicyConfig.ruleIds, Rule.id]

theorem oneLine_stateName (state : ClearingState) : OneLine state.name := by
  cases state <;> decide +kernel

/-- What messages say besides names. -/
theorem oneLine_phrases :
    OneLine " has no clearing state" ∧ OneLine " is " ∧ OneLine ", below " ∧
      OneLine " has no source URL" ∧ OneLine " is licensed under " ∧ OneLine " which includes " := by
  decide +kernel

/-- The ids that are listed are ids of the license that is printed. -/
theorem mem_hits_iff {ids : List String} {a : Artifact} {id : String} :
    id ∈ hits ids a ↔ id ∈ ids ∧ ∃ t, a.effectiveLicense? = some t ∧ t.HasId id := by
  unfold hits
  cases a.effectiveLicense? with
  | none => simp
  | some t =>
    rw [List.mem_filter, List.mem_map, and_comm]
    simp [LicenseTree.HasId]

/-- A message is on one line if the name of the artifact is and, where a license is forbidden,
the ids in the licenses that count are. -/
theorem oneLine_message_iff {r : Rule} {a : Artifact} {message : String}
    (h : r.complaint? a = some message) :
    OneLine message ↔ OneLine a.toText ∧
      (r.id = "forbidden-license" → ∀ t, a.Counts t → ∀ id, t.HasId id → OneLine id) := by
  cases r with
  | minimumClearingState minimum =>
    rw [complaint?] at h
    cases hstate : clearingStateOf a with
    | none =>
      simp only [hstate, Option.some.injEq] at h
      simp [← h, Rule.id, toString, oneLine_phrases]
    | some state =>
      simp only [hstate] at h
      split at h
      · cases h
      · cases h
        simp [Rule.id, toString, oneLine_phrases, oneLine_stateName]
  | sourceUrlRequired =>
    rw [complaint?] at h
    split at h
    · cases h
    · cases h
      simp [Rule.id, toString, oneLine_phrases]
  | forbiddenLicense ids =>
    rw [complaint?] at h
    split at h
    · cases h
    · rename_i hfound
      cases h
      obtain ⟨first, hfirst⟩ := List.exists_mem_of_ne_nil _ (mt List.isEmpty_iff.2 hfound)
      obtain ⟨-, t, ht, hhas⟩ := mem_hits_iff.1 hfirst
      have htells := LicenseTree.isEmpty_of_hasId hhas
      -- what is listed is on one line if all ids of the license are
      have hlisted : OneLine t.evaluate → OneLine (join ", " (hits ids a)) := by
        intro hone
        refine (oneLine_join (by decide +kernel)).2 fun id hid => ?_
        obtain ⟨-, u, hu, hid⟩ := mem_hits_iff.1 hid
        rw [ht, Option.some.injEq] at hu
        exact (LicenseTree.oneLine_evaluate_iff htells).1 hone id (hu ▸ hid)
      rw [← Artifact.oneLine_effectiveLicense_iff ht htells]
      simp only [oneLine_append, toString, ht, Option.map_some, Option.getD_some, oneLine_phrases, Rule.id]
      tauto

end Rule

/-! ## Summaries -/

namespace Report

/-- How the line of a violation begins. -/
def opening (v : Violation) : String := s!"  [{v.severity.name}] {v.ruleId}: "

/-- A line of totals, then one line for every violation, which begins like it. -/
structure Itemized (r : Report) : Prop where
  length_eq : (lines r.summary).length = 1 + r.violations.length
  opens : ∀ i v, r.violations[i]? = some v →
    ∃ line, (lines r.summary)[i + 1]? = some line ∧ (opening v).toList <+: line.toList

/-- What is counted, before the line feed. -/
def totals (r : Report) : String :=
  s!"Checked {r.artifactCount} artifacts against {r.rules.length} rules: " ++
    s!"{r.countOf .error} errors, {r.countOf .warning} warnings"

/-- The text of a violation, before the line feed. -/
def item (v : Violation) : String := opening v ++ v.message

theorem summary_eq (r : Report) :
    r.summary = String.join ((totals r :: r.violations.map item).map (· ++ "\n")) := by
  have hline : violationLine = fun v => item v ++ "\n" := by
    funext v
    simp [violationLine, item, opening, toString, String.append_assoc]
  rw [summary, hline, List.map_cons, List.map_map]
  simp [totals, toString, String.append_assoc, Function.comp_def]

theorem oneLine_repr (n : Nat) : OneLine n.repr := by
  intro hmem
  rw [Nat.toList_repr] at hmem
  exact absurd (Nat.isDigit_of_mem_toDigits (by decide) (by decide) hmem) (by decide)

theorem oneLine_totals (r : Report) : OneLine (totals r) := by
  have hphrases : ∀ phrase ∈ ["Checked ", " artifacts against ", " rules: ", " errors, ",
      " warnings"], OneLine phrase := by decide +kernel
  simp only [List.forall_mem_cons] at hphrases
  simp [totals, toString, oneLine_repr, hphrases]

theorem oneLine_opening_iff {v : Violation} : OneLine (opening v) ↔ OneLine v.ruleId := by
  have hsigns : ∀ sign ∈ ["  [", "] ", ": "], OneLine sign := by decide +kernel
  simp only [List.forall_mem_cons] at hsigns
  have hname : OneLine v.severity.name := by
    cases v.severity <;> decide +kernel
  simp [opening, toString, hsigns, hname]

theorem getLast?_opening (v : Violation) : (opening v).toList.getLast? = some ' ' := by
  have hend : opening v = ("  [" ++ v.severity.name ++ "] " ++ v.ruleId ++ ":") ++ " " := by
    simp [opening, toString, String.append_assoc]
  rw [hend, String.toList_append]
  exact List.getLast?_concat

/-- A summary is itemized if and only if every message is on one line. -/
theorem itemized_iff {r : Report} (hids : ∀ v ∈ r.violations, OneLine v.ruleId) :
    r.Itemized ↔ ∀ v ∈ r.violations, OneLine v.message := by
  have hitem : (∀ s ∈ totals r :: r.violations.map item, OneLine s) ↔
      ∀ v ∈ r.violations, OneLine v.message := by
    rw [List.forall_mem_cons, List.forall_mem_map, and_iff_right (oneLine_totals r)]
    refine forall₂_congr fun v hv => ?_
    rw [item, oneLine_append, and_iff_right (oneLine_opening_iff.2 (hids v hv))]
  have hlength : (totals r :: r.violations.map item).length = 1 + r.violations.length := by
    rw [List.length_cons, List.length_map, Nat.add_comm]
  constructor
  · intro h
    rw [← hitem, ← length_lines_join_ended_iff, ← summary_eq, hlength]
    exact h.length_eq
  · intro h
    have hlines : lines r.summary = (totals r :: r.violations.map item).map dropReturn := by
      rw [summary_eq, lines_join_ended_of_single (hitem.2 h)]
    refine ⟨by rw [hlines, List.length_map, hlength], fun i v hv => ?_⟩
    refine ⟨dropReturn (item v), ?_, prefix_dropReturn ?_ ?_⟩
    · rw [hlines, List.map_cons, List.getElem?_cons_succ, List.map_map, List.getElem?_map, hv]
      rfl
    · rw [getLast?_opening]
      decide
    · rw [item, String.toList_append]
      exact List.prefix_append _ _

/-! ## Artifacts from tables -/

variable {rules : List Rule} {as : List Artifact}

theorem mem_violations_check_iff {v : Violation} :
    v ∈ (check rules as).violations ↔ ∃ a ∈ as, ∃ r ∈ rules, r.violation? a = some v := by
  have hall := flatMap_findingsFrom rules id 0 as
  simp only [List.map_id] at hall
  rw [violations]
  show v ∈ (findingsFrom rules 0 as).flatMap (·.violations) ↔ _
  rw [hall, List.mem_flatMap]
  simp only [List.mem_filterMap]

/-- The summary of a check is itemized if and only if what is printed of every violated rule is
on one line. -/
theorem itemized_check_iff :
    (check rules as).Itemized ↔ ∀ a ∈ as, ∀ r ∈ rules, ¬ r.Holds a →
      OneLine a.toText ∧
        (r.id = "forbidden-license" → ∀ t, a.Counts t → ∀ id, t.HasId id → OneLine id) := by
  have hids : ∀ v ∈ (check rules as).violations, OneLine v.ruleId := by
    intro v hv
    obtain ⟨a, -, r, -, hv⟩ := mem_violations_check_iff.1 hv
    rw [(Rule.of_violation? hv).1]
    exact r.oneLine_id
  rw [itemized_iff hids]
  constructor
  · intro h a ha r hr hviolated
    obtain ⟨v, hv⟩ := Option.isSome_iff_exists.1 ((r.isSome_violation?_iff a).2 hviolated)
    obtain ⟨message, hmessage, rfl⟩ := Option.map_eq_some_iff.1 hv
    exact (Rule.oneLine_message_iff hmessage).1
      (h _ (mem_violations_check_iff.2 ⟨a, ha, r, hr, hv⟩))
  · intro h v hv
    obtain ⟨a, ha, r, hr, hv⟩ := mem_violations_check_iff.1 hv
    have hviolated := (r.isSome_violation?_iff a).1 (Option.isSome_of_eq_some hv)
    obtain ⟨message, hmessage, rfl⟩ := Option.map_eq_some_iff.1 hv
    exact (Rule.oneLine_message_iff hmessage).2 (h a ha r hr hviolated)

/-- What is printed when the artifact violates something under the id has no line feed: its
coordinates and, if a license is forbidden, the licenses that are no expression. -/
structure PrintedOnOneLine (a : Artifact) (id : String) : Prop where
  coordinates : ∀ d ∈ a.coordinates, d.OneLine
  licenses : id = "forbidden-license" → ∀ l, a.Counts (.license l) → OneLine l.id

open Table

variable {f : TableFormat}

theorem printedOnOneLine_iff {a : Artifact} (ha : Loaded f a) {d : Coordinate}
    (hd : a.coordinates = [d]) {id : String} :
    PrintedOnOneLine a id ↔ OneLine a.toText ∧
      (id = "forbidden-license" → ∀ t, a.Counts t → ∀ id, t.HasId id → OneLine id) := by
  have hcell (t : LicenseTree) (ht : a.Counts t) : t.OfCell :=
    ha.ofCell_of_mem_deciding t
      ((Artifact.counts_iff_mem_deciding ha.license?_configuredLicense).1 ht)
  have hlicenses : (∀ l, a.Counts (.license l) → OneLine l.id) ↔
      ∀ t, a.Counts t → ∀ id, t.HasId id → OneLine id := by
    constructor
    · intro h t ht
      exact (hcell t ht).oneLine_ids_iff.2 fun l hl => h l (hl ▸ ht)
    · intro h l hl
      exact (hcell _ hl).oneLine_ids_iff.1 (h _ hl) l rfl
  rw [Artifact.toText_of_coordinates hd, Coordinate.oneLine_toPurl_iff, ← hlicenses]
  constructor
  · exact fun h => ⟨h.coordinates d (by simp [hd]), h.licenses⟩
  · exact fun h => ⟨by simpa [hd] using h.1, h.2⟩

theorem itemized_check_loaded_iff (c : PolicyConfig)
    (h : ∀ a ∈ as, Loaded f a ∧ ∃ d, a.coordinates = [d]) :
    (check c.rules as).Itemized ↔
      ∀ a ∈ as, ∀ id, c.Violates a id → PrintedOnOneLine a id := by
  rw [itemized_check_iff]
  refine forall₂_congr fun a ha => ?_
  obtain ⟨hloaded, d, hd⟩ := h a ha
  simp only [printedOnOneLine_iff hloaded hd]
  constructor
  · intro hrules id hviolates
    obtain ⟨r, hr, rfl, hviolated⟩ := PolicyConfig.violates_iff.1 hviolates
    exact hrules r hr hviolated
  · intro hids r hr hviolated
    exact hids r.id (PolicyConfig.violates_iff.2 ⟨r, hr, rfl, hviolated⟩)

/-- The summary of a check of what was read from a table has one line for every violation if and
only if nothing that is printed of the artifacts that violate something has a line feed. -/
theorem itemized_check_artifactsOf_iff (c : PolicyConfig) {pathExists : Path → Bool}
    {baseDir : Path} {bytes : List UInt8}
    (h : (artifactsOf f pathExists baseDir (scan f.delimiter bytes)).run.value = .ok as) :
    (check c.rules as).Itemized ↔
      ∀ a ∈ as, ∀ id, c.Violates a id → PrintedOnOneLine a id :=
  itemized_check_loaded_iff c fun _ ha => loaded_of_mem_artifactsOf h ha

end Report

open Table Report

namespace Samples

/-- The bytes of a table with one row about a package of a name. -/
def packageTable (name : String) : List UInt8 :=
  Utf8.encode ("Artifact Id,Declared License\n" ++ name ++ ",MIT\n")

/-- What is read from this table. -/
def readPackage (name : String) : Except Error (List Artifact) :=
  (artifactsOf .standard (fun _ => false) ⟨"/"⟩
    (Table.scan TableFormat.standard.delimiter (packageTable name))).run.value

def packagesIn (name : String) : List Artifact := (readPackage name).toOption.getD []

theorem readPackage_eq {name : String} (h : (readPackage name).toOption.isSome = true) :
    readPackage name = .ok (packagesIn name) := by
  unfold packagesIn
  cases hread : readPackage name with
  | ok as => rfl
  | error e =>
    rw [hread] at h
    cases h

/-- Sources must have a place, and a license is forbidden. -/
def exacting : PolicyConfig := ⟨none, ["MIT"], true⟩

end Samples

open Samples in
/-- Both messages about the package are on one line each. -/
theorem Report.itemized_check_leftpad :
    readPackage "leftpad" = .ok (packagesIn "leftpad") ∧
      (check exacting.rules (packagesIn "leftpad")).violations.map (·.ruleId) =
        ["forbidden-license", "source-url-required"] ∧
      ((check exacting.rules (packagesIn "leftpad")).Itemized ↔
        ∀ a ∈ packagesIn "leftpad", ∀ id, exacting.Violates a id → PrintedOnOneLine a id) := by
  have hread : readPackage "leftpad" = .ok (packagesIn "leftpad") :=
    readPackage_eq (by decide +kernel)
  exact ⟨hread, by decide +kernel, itemized_check_artifactsOf_iff exacting hread⟩

open Samples in
/-- A name with a line feed, in quotation marks, breaks both lines about the package. -/
theorem Report.not_itemized_check_leftpad :
    readPackage "\"left\npad\"" = .ok (packagesIn "\"left\npad\"") ∧
      (check exacting.rules (packagesIn "\"left\npad\"")).violations.length = 2 ∧
      (lines (check exacting.rules (packagesIn "\"left\npad\"")).summary).length = 5 ∧
      ¬ (check exacting.rules (packagesIn "\"left\npad\"")).Itemized := by
  have hviolations : (check exacting.rules (packagesIn "\"left\npad\"")).violations.length = 2 := by
    decide +kernel
  have hlines :
      (lines (check exacting.rules (packagesIn "\"left\npad\"")).summary).length = 5 := by
    rw [summary_eq, lines_join_ended, List.length_map]
    decide +kernel
  refine ⟨readPackage_eq (by decide +kernel), hviolations, hlines, fun h => ?_⟩
  have hlength := h.length_eq
  rw [hviolations, hlines] at hlength
  cases hlength

end Clearinghouse
