import Clearinghouse.Proofs.PackageUrl.Plain
import Clearinghouse.Proofs.Table.Cells

/-!
# Coordinates as package URLs

A coordinate is printed without encoding anything, and reading decodes. So the coordinate comes
back from its package URL exactly if its fields stand for themselves there: no mark ends a field
early, there is nothing to decode or to leave out, and letter case is folded already
(`parse_toPurl_iff`).
-/

namespace Clearinghouse

open Text PackageUrl

namespace Coordinate

/-! ## Reading -/

/-- What stands behind the scheme in the package URL that `s` writes. -/
def purlPath? (s : String) : Option (List Char) :=
  match stripStart? ['p', 'k', 'g', ':'] (trimChars s.toList) with
  | some path => some path
  | none => (cutFirst? (· == ':') (trimChars s.toList)).map fun (type, rest) => type ++ '/' :: rest

theorem map_parse_purlText? (s : String) :
    (purlText? s).map PackageUrl.parse = (purlPath? s).map ofPath := by
  unfold purlText? purlPath?
  cases hstrip : stripStart? ['p', 'k', 'g', ':'] (trimChars s.toList) with
  | some path => simp [PackageUrl.parse, hstrip]
  | none =>
    dsimp only
    rw [if_neg (by simp [hstrip]), Option.map_map, Option.map_map]
    refine Option.map_congr fun cut _ => ?_
    have hscheme : ("pkg:" ++ .ofList cut.1 ++ "/" ++ .ofList cut.2 : String).toList =
        ['p', 'k', 'g', ':'] ++ (cut.1 ++ '/' :: cut.2) := by
      simp [String.toList_append]
    simp only [Function.comp_apply]
    rw [PackageUrl.parse, stripStart?_eq_some_iff.2 hscheme, Option.getD_some]

theorem parse_eq_ok_iff {s : String} {c : Coordinate} :
    parse s = .ok c ↔ ∃ path p, purlPath? s = some path ∧ ofPath path = .ok p ∧ ofPurl p = c := by
  have hbind := map_parse_purlText? s
  unfold parse
  cases htext : purlText? s with
  | none =>
    rw [htext, Option.map_none, eq_comm, Option.map_eq_none_iff] at hbind
    simp [hbind]
  | some purl =>
    rw [htext, Option.map_some, eq_comm, Option.map_eq_some_iff] at hbind
    obtain ⟨path, hpath, hparse⟩ := hbind
    dsimp only
    rw [hpath, ← hparse]
    cases hread : ofPath path <;> simp [hread]

/-! ## The type -/

theorem trimmed_of_word {type : List Char} (hword : isWord ['.', '+', '-'] type = true) :
    Trimmed (.ofList type) := by
  have hclear := isBlank_of_isWord hword
  refine trimmed_of_ends (fun c hc => hclear c ?_) (fun c hc => hclear c ?_)
  · rw [String.toList_ofList] at hc
    exact List.mem_of_head? hc
  · rw [String.toList_ofList] at hc
    exact List.mem_of_getLast? hc

theorem trimmed?_of_word {type : List Char} (hword : isWord ['.', '+', '-'] type = true) :
    trimmed? (lowerAscii (.ofList type)) = some (lowerAscii (.ofList type)) := by
  have hlower := isWord_map_toLower (by decide) hword
  rw [lowerAscii, String.toList_ofList]
  refine trimmed?_of_trimmed (trimmed_of_word hlower) ?_
  intro hempty
  have hnil : type.map Char.toLower = [] := by simpa using congrArg String.toList hempty
  rw [hnil] at hlower
  cases hlower

/-! ## What was read -/

/-- The coordinate was made from these fields. -/
structure MadeFrom (c : Coordinate) (type : List Char) (ns name : String) : Prop where
  word : isWord ['.', '+', '-'] type = true
  eq_of : c = of (lowerAscii (.ofList type)) c.ns c.name c.version
  ns_eq : c.ns = foldNamespace (lowerAscii (.ofList type)) ns
  name_eq : c.name = foldName (lowerAscii (.ofList type)) name
  name_ne : name ≠ ""

theorem of_fields (type ns name version : String) :
    (of type ns name version).ns = ns ∧ (of type ns name version).name = name ∧
      (of type ns name version).version = version := by
  unfold of
  split <;> exact ⟨rfl, rfl, rfl⟩

theorem madeFrom_ofPurl {p : PackageUrl} {type : List Char} {ns name version : String}
    (h : FieldsOf p type ns name version) :
    MadeFrom (ofPurl p) type ns name ∧ (ofPurl p).version = version := by
  have heq : ofPurl p = of (lowerAscii (.ofList type))
      (foldNamespace (lowerAscii (.ofList type)) ns) (foldName (lowerAscii (.ofList type)) name)
      version := by
    rw [ofPurl, h.ns_eq, h.name_eq, h.version_eq, h.type_eq]
  obtain ⟨hns, hname, hversion⟩ := of_fields (lowerAscii (.ofList type))
    (foldNamespace (lowerAscii (.ofList type)) ns) (foldName (lowerAscii (.ofList type)) name)
    version
  rw [heq]
  exact ⟨⟨h.word, by rw [hns, hname, hversion], hns, hname, h.name_ne⟩, hversion⟩

/-- What is read, is made from fields that stand behind the type. -/
theorem exists_madeFrom {s : String} {c : Coordinate} (h : parse s = .ok c) :
    ∃ path type rest ns name, purlPath? s = some path ∧
      path.dropWhile (· == '/') = type ++ '/' :: rest ∧ c.MadeFrom type ns name ∧
      ReadBehind rest ns name c.version := by
  obtain ⟨path, p, hpath, hread, rfl⟩ := parse_eq_ok_iff.1 h
  obtain ⟨type, rest, ns, name, version, hrest, hfields, hbehind⟩ := exists_fieldsOf hread
  obtain ⟨hmade, hversion⟩ := madeFrom_ofPurl hfields
  exact ⟨path, type, rest, ns, name, hpath, hrest, hmade, by rwa [hversion]⟩

namespace MadeFrom

variable {c : Coordinate} {type : List Char} {ns name : String}

theorem made (h : c.MadeFrom type ns name) : c.Made := ⟨_, _, _, _, h.eq_of⟩

/-- The type that is printed is the one that was read, in lower case, or a known one. -/
theorem type_eq_or (h : c.MadeFrom type ns name) :
    c.type = lowerAscii (.ofList type) ∨ ∃ t : PackageType, c.type = t.name := by
  have heq := h.eq_of
  cases ht : PackageType.ofText? (lowerAscii (.ofList type)) with
  | some t =>
    rw [of_of_eq_some _ _ _ ht] at heq
    exact .inr ⟨t, congrArg Coordinate.type heq⟩
  | none =>
    rw [of_of_eq_none _ _ _ ht, trimmed?_of_word h.word] at heq
    exact .inl (congrArg Coordinate.type heq)

theorem isWord_type (h : c.MadeFrom type ns name) :
    isWord ['.', '+', '-'] c.type.toList = true := by
  rcases h.type_eq_or with heq | ⟨t, heq⟩
  · rw [heq, lowerAscii, String.toList_ofList, String.toList_ofList]
    exact isWord_map_toLower (by decide) h.word
  · rw [heq]
    cases t <;> decide

theorem lowerAscii_type (h : c.MadeFrom type ns name) : lowerAscii c.type = c.type := by
  rcases h.type_eq_or with heq | ⟨t, heq⟩
  · rw [heq, lowerAscii_lowerAscii]
  · rw [heq]
    cases t <;> decide

theorem recased_ns (h : c.MadeFrom type ns name) : Recased ns.toList c.ns.toList := by
  rw [h.ns_eq]
  exact recased_foldNamespace _ ns

theorem recased_name (h : c.MadeFrom type ns name) : Recased name.toList c.name.toList := by
  rw [h.name_eq]
  exact recased_foldName _ name

theorem recased (h : c.MadeFrom type ns name) :
    Recased (fieldText ns name c.version) (fieldText c.ns c.name c.version) :=
  recased_fieldText h.recased_ns h.recased_name c.version

theorem name_ne_empty (h : c.MadeFrom type ns name) : c.name ≠ "" := by
  have hne : name.toList ≠ [] := by simpa using h.name_ne
  simpa using mt h.recased_name.nil_iff.1 hne

theorem slash_not_mem (h : c.MadeFrom type ns name) (hslash : '/' ∉ name.toList) :
    '/' ∉ c.name.toList :=
  mt (h.recased_name.mem_iff (by decide)).1 hslash

/-- A text that is not heavier than the fields of the coordinate was read as it stands, except
for slashes before it. -/
theorem eq_fieldText (h : c.MadeFrom type ns name) (front text : List Char)
    (hfront : ∀ d ∈ front, d = '/') (hbehind : ReadBehind (front ++ text) ns name c.version)
    (hle : weight text ≤ weight (fieldText c.ns c.name c.version)) :
    fieldText ns name c.version = text ∧ Plain ns name c.version := by
  have hpasses := hbehind.passes
  rw [List.dropWhile_append_of_pos (by simpa using hfront)] at hpasses
  have hle' := h.recased.weight_eq
  exact (((Passes.of_dropWhile '/' (by decide) text).trans hpasses).eq_and (by omega)).imp_right
    And.right

end MadeFrom

/-! ## There and back -/

/-- The package URL says the fields as they are. -/
structure Verbatim (c : Coordinate) : Prop where
  plain : Plain c.ns c.name c.version
  trimmed : Trimmed c.toPurl
  ns_case : foldNamespace c.type c.ns = c.ns
  name_case : foldName c.type c.name = c.name

theorem toList_toPurl (c : Coordinate) :
    c.toPurl.toList =
      ['p', 'k', 'g', ':'] ++ (c.type.toList ++ '/' :: fieldText c.ns c.name c.version) := by
  by_cases hns : c.ns = "" <;> by_cases hversion : c.version = "" <;>
    simp [toPurl, fieldText, nsText, versionText, hns, hversion, toString, String.toList_append]

theorem trimChars_toPurl (c : Coordinate) :
    trimChars c.toPurl.toList = ['p', 'k', 'g', ':'] ++
      (c.type.toList ++ '/' :: trimEnd (fieldText c.ns c.name c.version)) := by
  rw [toList_toPurl, trimChars, trimStart_eq_self (by rintro d ⟨⟩; decide), ← List.append_assoc,
    trimEnd_append_cons (by decide), List.append_assoc]

theorem trimmed_toPurl_iff (c : Coordinate) :
    Trimmed c.toPurl ↔
      trimEnd (fieldText c.ns c.name c.version) = fieldText c.ns c.name c.version := by
  rw [Trimmed, ← String.toList_inj, trim, String.toList_ofList, trimChars_toPurl, toList_toPurl]
  simp

theorem purlPath?_toPurl (c : Coordinate) :
    purlPath? c.toPurl =
      some (c.type.toList ++ '/' :: trimEnd (fieldText c.ns c.name c.version)) := by
  rw [purlPath?, stripStart?_eq_some_iff.2 (trimChars_toPurl c)]

theorem Verbatim.parse_toPurl {c : Coordinate} (h : c.Verbatim) {type : List Char}
    {ns name : String} (hmade : c.MadeFrom type ns name) : parse c.toPurl = .ok c := by
  have hpath := h.plain.ofPath_eq hmade.isWord_type hmade.name_ne_empty
  rw [← (trimmed_toPurl_iff c).1 h.trimmed] at hpath
  refine parse_eq_ok_iff.2 ⟨_, _, purlPath?_toPurl c, hpath, ?_⟩
  have hns : (if c.ns = "" then none else some c.ns).getD "" = c.ns := by split <;> simp [*]
  have hversion : (if c.version = "" then none else some c.version).getD "" = c.version := by
    split <;> simp [*]
  rw [ofPurl, ofFields, String.ofList_toList, hmade.lowerAscii_type, h.ns_case, h.name_case, hns,
    hversion, hmade.made.of_type]

/-- A coordinate that came back lost nothing, so its fields stand for themselves. -/
theorem MadeFrom.verbatim_of_parse {c : Coordinate} {type : List Char} {ns name : String}
    (hmade : c.MadeFrom type ns name) {d : Coordinate} (hd : parse c.toPurl = .ok d)
    (heq : (d == c) = true) : c.Verbatim := by
  obtain ⟨path, type', rest, ns', name', hpath, hrest, hmade', hbehind⟩ := exists_madeFrom hd
  obtain ⟨hns, hname, hversion⟩ : d.ns = c.ns ∧ d.name = c.name ∧ d.version = c.version := by
    have hkey := beq_iff_key_eq.1 heq
    simp only [key, Prod.mk.injEq] at hkey
    exact hkey.2.2
  have hrecased := hmade'.recased
  rw [hns, hname, hversion] at hrecased
  rw [purlPath?_toPurl, Option.some.injEq] at hpath
  rw [← hpath, dropWhile_typed hmade.isWord_type] at hrest
  obtain ⟨rfl, rfl⟩ := eq_of_first_cut hrest (slash_not_mem_of_isWord hmade.isWord_type)
    (slash_not_mem_of_isWord hmade'.word)
  have hle : weight (trimEnd (fieldText c.ns c.name c.version)) ≤
      weight (fieldText d.ns d.name d.version) := by
    rw [weight_trimEnd, hns, hname, hversion]
  obtain ⟨htext, hplain⟩ := hmade'.eq_fieldText []
    (trimEnd (fieldText c.ns c.name c.version)) nofun hbehind hle
  rw [hversion] at htext hplain
  have hend : trimEnd (fieldText c.ns c.name c.version) = fieldText c.ns c.name c.version := by
    refine trimEnd_eq_self (hrecased.getLast?_iff.2 ?_)
    rw [htext]
    exact getLast?_trimEnd _
  obtain ⟨rfl, rfl⟩ := fieldText_inj (htext.trans hend) hplain.name_slash
    (hname ▸ hmade'.slash_not_mem hplain.name_slash)
  refine ⟨hplain, (trimmed_toPurl_iff c).2 hend, ?_, ?_⟩
  · have := hmade'.ns_eq
    rwa [hns, String.ofList_toList, hmade.lowerAscii_type, eq_comm] at this
  · have := hmade'.name_eq
    rwa [hname, String.ofList_toList, hmade.lowerAscii_type, eq_comm] at this

/-- The package URL of a coordinate that was read is read as the same coordinate if and only if
it says the fields as they are. -/
theorem parse_toPurl_iff {s : String} {c : Coordinate} (h : parse s = .ok c) :
    (∃ d, parse c.toPurl = .ok d ∧ (d == c) = true) ↔ c.Verbatim := by
  obtain ⟨-, type, -, ns, name, -, -, hmade, -⟩ := exists_madeFrom h
  constructor
  · rintro ⟨d, hd, heq⟩
    exact hmade.verbatim_of_parse hd heq
  · exact fun hverbatim => ⟨c, hverbatim.parse_toPurl hmade, beq_self_eq_true c⟩

/-- A scoped package is read, and comes back if its version marks the end of the scope. -/
theorem parse_toPurl_iff_babel :
    ∃ c, parse "pkg:npm/%40babel/core@7.0.0" = .ok c ∧
      ((∃ d, parse c.toPurl = .ok d ∧ (d == c) = true) ↔ c.Verbatim) := by
  have h : parse "pkg:npm/%40babel/core@7.0.0" = .ok ⟨.npm, none, "@babel", "core", "7.0.0"⟩ := by
    rfl
  exact ⟨_, h, parse_toPurl_iff h⟩

/-- Without a version the scope is taken for one, and there is no name. -/
theorem not_parse_toPurl_babel :
    ∃ c, parse "pkg:npm/%40babel/core" = .ok c ∧
      ¬ ∃ d, parse c.toPurl = .ok d ∧ (d == c) = true := by
  refine ⟨⟨.npm, none, "@babel", "core", ""⟩, rfl, ?_⟩
  rintro ⟨d, hd, -⟩
  have hfails : parse (Coordinate.toPurl ⟨.npm, none, "@babel", "core", ""⟩) =
      .error (.parse "coordinate" (.coordinate "pkg:npm/@babel/core"
        (PackageUrl.Fault.message .missingName))) := by
    rfl
  rw [hfails] at hd
  cases hd

end Coordinate

end Clearinghouse
