import Clearinghouse.Proofs.Config.Validation
import Clearinghouse.Proofs.Table.Reread

/-!
# Delimiters of a configuration

Validation accepts every ASCII character as a delimiter except the quotation mark and the line
feed. All of these end fields. But the carriage return also ends lines, and validation accepts
it: a row whose first cells are empty then loses them, and a row of empty cells is gone. Main
statement: rows that are written with the delimiter of a configuration are read again exactly if
the delimiter is not the carriage return or no row begins with an empty cell, unless the table
begins like a byte order mark, which a table under the header does not
(`readRows_rowBytes_iff_of_valid`).

1. What is kept of a record is all of it, or the end of it (`kept_eq_self_iff`,
   `suffix_of_kept`), so as many records are read as were written only if none was lost.
2. If a table begins like a byte order mark, then with it the first cell begins, and loses it.
3. A record is decoded to cells if and only if it consists of their bytes, so it is enough to
   compare the bytes of the fields.
-/

namespace Clearinghouse

open Text

namespace Table

variable {delimiter : UInt8}

/-! ## Records -/

/-- A list is mapped to one that is as long only if nothing is dropped. -/
theorem of_filterMap_cons_eq_cons {α β : Type} {f : α → Option β} {x : α} {xs : List α} {y : β}
    {ys : List β} (h : (x :: xs).filterMap f = y :: ys) (hlength : xs.length ≤ ys.length) :
    f x = some y ∧ xs.filterMap f = ys := by
  cases hx : f x with
  | none =>
    rw [List.filterMap_cons_none hx] at h
    have hle := List.length_filterMap_le f xs
    rw [h, List.length_cons] at hle
    omega
  | some z =>
    rw [List.filterMap_cons_some hx, List.cons.injEq] at h
    exact ⟨congrArg some h.1, h.2⟩

theorem filterMap_eq_self_iff {α : Type} {f : α → Option α} {xs : List α} :
    xs.filterMap f = xs ↔ ∀ x ∈ xs, f x = some x := by
  induction xs with
  | nil => simp
  | cons x xs ih =>
    rw [List.forall_mem_cons, ← ih]
    constructor
    · exact fun h => of_filterMap_cons_eq_cons h (Nat.le_refl _)
    · rintro ⟨hx, hxs⟩
      rw [List.filterMap_cons_some hx, hxs]

/-- What is kept of a record is the end of it. -/
theorem suffix_of_kept {fields rest : List (List UInt8)} (h : kept delimiter fields = some rest) :
    rest <:+ fields := by
  unfold kept at h
  split at h
  · cases h
    exact List.suffix_rfl
  · split at h
    · cases h
    · cases h
      exact List.dropWhile_suffix _

/-- A record of several fields is kept if a line is not ended by the delimiter, or if there is
something in the first field. -/
theorem kept_eq_self_iff {fields : List (List UInt8)} (hlong : 2 ≤ fields.length) :
    kept delimiter fields = some fields ↔
      (isTerminator delimiter = true → fields.head? ≠ some []) := by
  obtain ⟨f, fs, rfl⟩ := List.exists_cons_of_length_pos (Nat.lt_of_lt_of_le Nat.zero_lt_two hlong)
  have hsingle : f :: fs ≠ [[]] := by
    rintro ⟨⟩
    simp at hlong
  unfold kept
  cases hterminator : isTerminator delimiter with
  | false => simp
  | true =>
    rw [if_neg (by simp [hsingle])]
    by_cases hf : f = []
    · subst hf
      have hshort : (fs.dropWhile List.isEmpty).length ≤ fs.length :=
        (List.dropWhile_suffix _).length_le
      have hne : fs.dropWhile List.isEmpty ≠ [] :: fs := by
        intro heq
        rw [heq, List.length_cons] at hshort
        omega
      split <;> simp [hne]
    · have hfirst : f.isEmpty = false := by simpa using hf
      simp [hfirst, hf]

/-! ## Byte order marks -/

/-- What stands before a byte that is not in the mark begins like the mark if the whole does. -/
theorem mark_prefix_of_prefix_append {b : UInt8} (hb : b ∉ byteOrderMark) {bytes rest : List UInt8}
    (h : byteOrderMark <+: bytes ++ b :: rest) : byteOrderMark <+: bytes := by
  by_cases hlength : byteOrderMark.length ≤ bytes.length
  · exact List.prefix_of_prefix_length_le h (List.prefix_append _ _) hlength
  · have hfront : bytes ++ [b] <+: bytes ++ b :: rest := by simp
    have hshort : (bytes ++ [b]).length ≤ byteOrderMark.length := by
      rw [List.length_append, List.length_singleton]
      omega
    have hmark := List.prefix_of_prefix_length_le hfront h hshort
    exact absurd (hmark.subset (by simp)) hb

/-- If a table begins like the mark, then so does its first field, which is not quoted. The rest
is the table in which this field lacks the mark. -/
theorem print_of_mark_prefix (hascii : delimiter < 128) {f : List UInt8}
    {fs : List (List UInt8)} (hne : fs ≠ []) {others : List (List (List UInt8))}
    (h : byteOrderMark <+: print delimiter ((f :: fs) :: others)) :
    ∃ tail, f = byteOrderMark ++ tail ∧ print delimiter ((f :: fs) :: others) =
      byteOrderMark ++ print delimiter ((tail :: fs) :: others) := by
  have hd : delimiter ∉ byteOrderMark := by
    intro hmem
    simp only [byteOrderMark, List.mem_cons, List.not_mem_nil, or_false] at hmem
    rcases hmem with rfl | rfl | rfl <;> exact absurd hascii (by decide)
  have hbytes (g : List UInt8) : print delimiter ((g :: fs) :: others) =
      fieldBytes delimiter g ++ delimiter :: (lineBytes delimiter fs ++ print delimiter others) := by
    rw [print, List.flatMap_cons, recordBytes_of_ne (by simp [hne]), lineBytes_cons hne,
      List.append_assoc]
    rfl
  rw [hbytes] at h
  have hfield := mark_prefix_of_prefix_append hd h
  unfold fieldBytes at hfield
  split at hfield
  · exact absurd hfield (by simp [byteOrderMark, quoteByte])
  · rename_i hany
    obtain ⟨tail, rfl⟩ := hfield
    have htail : ¬ tail.any (isSpecial delimiter) = true := by
      rw [List.any_append, Bool.or_eq_true, not_or] at hany
      exact hany.2
    refine ⟨tail, rfl, ?_⟩
    rw [hbytes, hbytes, fieldBytes, if_neg hany, fieldBytes, if_neg htail, List.append_assoc]

/-- A table that begins like the mark is read as the rest of it. -/
theorem scan_mark_append (bytes : List UInt8) :
    scan delimiter (byteOrderMark ++ bytes) =
      ((Scanner.start byteOrderMark.length).read delimiter bytes).finish := by
  have hmark : byteOrderMark.isPrefixOf (byteOrderMark ++ bytes) = true :=
    List.isPrefixOf_iff_prefix.2 (List.prefix_append _ _)
  unfold scan
  rw [hmark]
  rfl

/-- The first cell loses the mark. -/
theorem fields_scan_print_ne_of_mark (hd : EndsFields delimiter) (hascii : delimiter < 128)
    {written : List (List (List UInt8))} (hlong : ∀ fields ∈ written, 2 ≤ fields.length)
    (hmark : byteOrderMark <+: print delimiter written) :
    (scan delimiter (print delimiter written)).map (·.fields) ≠ written := by
  cases written with
  | nil => exact absurd hmark (by simp [print, byteOrderMark])
  | cons fields others =>
    obtain ⟨hfields, hothers⟩ := List.forall_mem_cons.1 hlong
    obtain ⟨f, fs, rfl⟩ := List.exists_cons_of_length_pos (Nat.lt_of_lt_of_le Nat.zero_lt_two hfields)
    have hne : fs ≠ [] := by
      rintro rfl
      simp at hfields
    obtain ⟨tail, rfl, hprint⟩ := print_of_mark_prefix hascii hne hmark
    have hwritten : ∀ fields ∈ (tail :: fs) :: others, fields ≠ [] := by
      refine List.forall_mem_cons.2 ⟨List.cons_ne_nil tail fs, fun fields hf => ?_⟩
      exact List.ne_nil_of_length_pos (Nat.lt_of_lt_of_le Nat.zero_lt_two (hothers fields hf))
    rw [hprint, scan_mark_append, fields_finish_print hd hwritten]
    intro heq
    -- the record that was read would be the end of a shorter one
    have hsuffix := suffix_of_kept (of_filterMap_cons_eq_cons heq (Nat.le_refl _)).1
    have hsame := hsuffix.eq_of_length rfl
    have hlength := congrArg List.length (List.cons.inj hsame).1
    simp [byteOrderMark] at hlength
    omega

/-- Records of several fields are read again exactly if the table does not begin like a byte
order mark and, where the delimiter ends lines too, none of them begins with an empty field. -/
theorem fields_scan_print_eq_iff (hd : EndsFields delimiter) (hascii : delimiter < 128)
    {written : List (List (List UInt8))} (hlong : ∀ fields ∈ written, 2 ≤ fields.length) :
    (scan delimiter (print delimiter written)).map (·.fields) = written ↔
      byteOrderMark.isPrefixOf (print delimiter written) = false ∧
        (isTerminator delimiter = true → ∀ fields ∈ written, fields.head? ≠ some []) := by
  cases hmark : byteOrderMark.isPrefixOf (print delimiter written) with
  | true =>
    have hne := fields_scan_print_ne_of_mark hd hascii hlong (List.isPrefixOf_iff_prefix.1 hmark)
    simp [hne]
  | false =>
    have hne : ∀ fields ∈ written, fields ≠ [] := fun fields hf =>
      List.ne_nil_of_length_pos (Nat.lt_of_lt_of_le Nat.zero_lt_two (hlong fields hf))
    rw [fields_scan_print_kept hd hne hmark, filterMap_eq_self_iff,
      forall₂_congr fun fields hf => kept_eq_self_iff (hlong fields hf)]
    simp only [true_and]
    exact ⟨fun h hterminator fields hf => h fields hf hterminator,
      fun h fields hf hterminator => h hterminator fields hf⟩

/-! ## Rows -/

/-- The cells of all records, the header included, or why a record has none. -/
def readRows (delimiter : UInt8) (bytes : List UInt8) : List (Except String (List String)) :=
  (scan delimiter bytes).mapIdx decodeRecord

/-- The bytes that rows of cells are written to. -/
def rowBytes (delimiter : UInt8) (rows : List (List String)) : List UInt8 :=
  print delimiter (rows.map (·.map Utf8.encode))

theorem exportBytes_eq_rowBytes (f : TableFormat) (s : Surroundings) (as : List Artifact) :
    f.exportBytes s as = rowBytes f.delimiter (rows s as) := rfl

theorem decodeFields_eq_ok_iff (index : Nat) {fields : List (List UInt8)} {cells : List String} :
    decodeFields index fields = .ok cells ↔ fields = cells.map Utf8.encode := by
  constructor
  · intro h
    induction fields generalizing cells index with
    | nil =>
      cases h
      rfl
    | cons field fields ih =>
      rw [decodeFields] at h
      split at h
      · cases h
      · rename_i text htext
        obtain ⟨texts, htexts, rfl⟩ := map_eq_ok_iff.1 h
        rw [List.map_cons, Utf8.encode_of_decode? htext, ← ih (index + 1) htexts]
  · rintro rfl
    exact decodeFields_encode cells index

theorem decodeRecord_eq_ok_iff {raw : RawRecord} {cells : List String} {number : Nat} :
    decodeRecord number raw = .ok cells ↔ raw.fields = cells.map Utf8.encode := by
  rw [← decodeFields_eq_ok_iff 0, decodeRecord]
  cases decodeFields 0 raw.fields <;> simp [Except.mapError]

/-- Rows are read if and only if the records consist of their bytes. -/
theorem readRows_eq_iff {bytes : List UInt8} {rows : List (List String)} :
    readRows delimiter bytes = rows.map .ok ↔
      (scan delimiter bytes).map (·.fields) = rows.map (·.map Utf8.encode) := by
  rw [readRows, List.ext_getElem?_iff, List.ext_getElem?_iff]
  refine forall_congr' fun i => ?_
  rw [List.getElem?_mapIdx, List.getElem?_map, List.getElem?_map, List.getElem?_map]
  cases (scan delimiter bytes)[i]? <;> cases rows[i]? <;> simp [decodeRecord_eq_ok_iff]

/-- Rows of several cells are read again exactly if the table does not begin like a byte order
mark and, where the delimiter ends lines too, none of them begins with an empty cell. -/
theorem readRows_rowBytes_iff (hd : EndsFields delimiter) (hascii : delimiter < 128)
    {rows : List (List String)} (hlong : ∀ row ∈ rows, 2 ≤ row.length) :
    readRows delimiter (rowBytes delimiter rows) = rows.map .ok ↔
      byteOrderMark.isPrefixOf (rowBytes delimiter rows) = false ∧
        (isTerminator delimiter = true → ∀ row ∈ rows, row.head? ≠ some "") := by
  have hempty (cell : String) : Utf8.encode cell = [] ↔ cell = "" :=
    Utf8.encode_inj (t := "")
  have hfirst (row : List String) :
      (row.map Utf8.encode).head? = some [] ↔ row.head? = some "" := by
    cases row <;> simp [hempty]
  rw [readRows_eq_iff, rowBytes, fields_scan_print_eq_iff hd hascii (by simpa using hlong)]
  simp only [List.forall_mem_map, ne_eq, hfirst]

/-- Under the header a table does not begin like a byte order mark. -/
theorem readRows_rowBytes_header_iff (hd : EndsFields delimiter) (hascii : delimiter < 128)
    {rows : List (List String)} (hlong : ∀ row ∈ rows, 2 ≤ row.length) :
    readRows delimiter (rowBytes delimiter (header :: rows)) = (header :: rows).map .ok ↔
      (isTerminator delimiter = true → ∀ row ∈ rows, row.head? ≠ some "") := by
  have hheader : 2 ≤ header.length ∧ header.head? ≠ some "" := by decide
  have hmark : byteOrderMark.isPrefixOf (rowBytes delimiter (header :: rows)) = false :=
    not_byteOrderMark delimiter _
  rw [readRows_rowBytes_iff hd hascii (List.forall_mem_cons.2 ⟨hheader.1, hlong⟩)]
  simp [hmark, hheader.2]

end Table

/-! ## Configurations -/

open Table

theorem isDelimiter_of_faults {isDirectory : Path → Bool} {c : TableConfig}
    (h : ∀ fault ∈ c.faults isDirectory, fault.field ≠ "csv.delimiter") :
    isDelimiter c.delimiter = true := by
  by_contra hnot
  simp [TableConfig.faults, hnot] at h

/-- The bytes of different ASCII characters are different. -/
theorem byte_eq_iff {c d : Char} (hc : c.toNat < 128) (hd : d.toNat < 128) :
    c.toNat.toUInt8 = d.toNat.toUInt8 ↔ c = d := by
  refine ⟨fun h => ?_, fun h => congrArg (·.toNat.toUInt8) h⟩
  have hnat := congrArg UInt8.toNat h
  simp only [Nat.toUInt8, UInt8.toNat_ofNat'] at hnat
  exact Char.toNat_inj.1 (by omega)

/-- A valid delimiter ends fields, and ends lines only if it is the carriage return. -/
theorem byte_of_isDelimiter {c : Char} (h : isDelimiter c = true) :
    EndsFields c.toNat.toUInt8 ∧ c.toNat.toUInt8 < 128 ∧
      (isTerminator c.toNat.toUInt8 = true ↔ c = '\r') := by
  simp only [isDelimiter, Bool.and_eq_true, decide_eq_true_eq, bne_iff_ne, ne_eq] at h
  obtain ⟨⟨hascii, hquote⟩, hfeed⟩ := h
  have hbyte {d : Char} (hd : d.toNat < 128) := byte_eq_iff hascii hd
  have hne : c.toNat.toUInt8 ≠ lineFeed := mt (hbyte (d := '\n') (by decide)).1 hfeed
  refine ⟨⟨mt (hbyte (d := '"') (by decide)).1 hquote, hne⟩, ?_, ?_⟩
  · rw [UInt8.lt_iff_toNat_lt]
    simp only [Nat.toUInt8, UInt8.toNat_ofNat']
    show c.toNat % 256 < 128
    omega
  · rw [isTerminator, Bool.or_eq_true, beq_iff_eq, beq_iff_eq, or_iff_right hne]
    exact hbyte (d := '\r') (by decide)

/-- A delimiter that validation accepts gives a table format, and rows that are written with it
are read again exactly if the table does not begin like a byte order mark and the delimiter is
not the carriage return or no row begins with an empty cell. Under the header, which every
exported table has, only the latter matters. -/
theorem Table.readRows_rowBytes_iff_of_valid {isDirectory : Path → Bool} {c : Config}
    (h : ∀ fault ∈ c.table.faults isDirectory, fault.field ≠ "csv.delimiter")
    {rows : List (List String)} (hrows : ∀ row ∈ rows, row.length = Column.all.length) :
    ∃ f, TableFormat.ofConfig c = .ok f ∧
      (readRows f.delimiter (rowBytes f.delimiter rows) = rows.map .ok ↔
        byteOrderMark.isPrefixOf (rowBytes f.delimiter rows) = false ∧
          (c.table.delimiter = '\r' → ∀ row ∈ rows, row.head? ≠ some "")) ∧
      (readRows f.delimiter (rowBytes f.delimiter (header :: rows)) = (header :: rows).map .ok ↔
        (c.table.delimiter = '\r' → ∀ row ∈ rows, row.head? ≠ some "")) := by
  have hvalid := isDelimiter_of_faults h
  obtain ⟨hd, hascii, hterminator⟩ := byte_of_isDelimiter hvalid
  have hlong : ∀ row ∈ rows, 2 ≤ row.length := by
    intro row hrow
    rw [hrows row hrow]
    decide
  have hbyte : c.table.delimiter.toNat < 256 := by
    simp only [isDelimiter, Bool.and_eq_true, decide_eq_true_eq] at hvalid
    omega
  refine ⟨_, if_pos hbyte, ?_, ?_⟩
  · rw [readRows_rowBytes_iff hd hascii hlong, hterminator]
  · rw [readRows_rowBytes_header_iff hd hascii hlong, hterminator]

namespace Samples

/-- A configuration whose tables have this delimiter. -/
def delimitedBy (delimiter : Char) : Config :=
  { Config.standard with table := ⟨delimiter, none⟩ }

/-- The row of a package that has a group. -/
def groupedRow (name : String) : List String :=
  [name, "org", "1.0", "npm"] ++ List.replicate 13 ""

theorem noFault_delimitedBy_return :
    (delimitedBy '\r').table.faults (fun _ => false) = [] := rfl

end Samples

open Samples in
/-- Validation accepts the carriage return, and the row of a package with a name is read again. -/
theorem Table.readRows_rowBytes_named :
    (delimitedBy '\r').table.faults (fun _ => false) = [] ∧
      ∃ f, TableFormat.ofConfig (delimitedBy '\r') = .ok f ∧
        readRows f.delimiter (rowBytes f.delimiter [groupedRow "lib"]) =
          [groupedRow "lib"].map .ok ∧
        readRows f.delimiter (rowBytes f.delimiter [header, groupedRow "lib"]) =
          [header, groupedRow "lib"].map .ok := by
  have hvalid : ∀ fault ∈ (delimitedBy '\r').table.faults (fun _ => false),
      fault.field ≠ "csv.delimiter" := by
    simp [noFault_delimitedBy_return]
  have hrows : ∀ row ∈ [groupedRow "lib"], row.length = Column.all.length := by
    decide
  have hfirst : ∀ row ∈ [groupedRow "lib"], row.head? ≠ some "" := by
    decide
  obtain ⟨f, hf, halone, hunder⟩ := readRows_rowBytes_iff_of_valid hvalid hrows
  have hmark : byteOrderMark.isPrefixOf (rowBytes f.delimiter [groupedRow "lib"]) = false := by
    cases hf
    decide +kernel
  exact ⟨rfl, f, hf, halone.2 ⟨hmark, fun _ => hfirst⟩, hunder.2 fun _ => hfirst⟩

open Samples in
/-- The row of a package without a name moves to the left. -/
theorem Table.readRows_rowBytes_nameless :
    (delimitedBy '\r').table.faults (fun _ => false) = [] ∧
      ∃ f, TableFormat.ofConfig (delimitedBy '\r') = .ok f ∧
        readRows f.delimiter (rowBytes f.delimiter [header, groupedRow ""]) =
          [header, (groupedRow "").tail].map .ok ∧
        readRows f.delimiter (rowBytes f.delimiter [header, groupedRow ""]) ≠
          [header, groupedRow ""].map .ok := by
  have hread : readRows carriageReturn (rowBytes carriageReturn [header, groupedRow ""]) =
      [header, (groupedRow "").tail].map .ok := readRows_eq_iff.2 (by decide +kernel)
  refine ⟨rfl, _, rfl, hread, ?_⟩
  show readRows carriageReturn (rowBytes carriageReturn [header, groupedRow ""]) ≠ _
  rw [hread]
  simp [groupedRow]

end Clearinghouse
