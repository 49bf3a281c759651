import Clearinghouse.Table.Printer

/-!
# Reading what was written

The reader of tables takes out the records that the writer put in (`fields_scan_print`),
whatever bytes stand in the fields, for every delimiter that is neither a quotation mark nor the
end of a line. A delimiter may also be the byte that ends lines beside the line feed; then the
reader loses the empty fields that a record begins with (`fields_scan_print_kept`), because
before the first byte of a record it takes the delimiter for the end of an empty line.

1. The bytes of a field take the machine from the beginning of a field to its end, with the
   field in hand and nothing else changed (`read_fieldBytes`).
2. A delimiter then puts the field to the others, and a line feed puts the record to the others.
3. So the bytes of a record add what is kept of this record (`read_recordBytes`), and those of
   all records add what is kept of all of them (`read_print`).
-/

namespace Clearinghouse.Table

open Scanner

/-- A byte that ends fields. Before the first byte of a record it may be taken for the end of an
empty line. -/
structure EndsFields (delimiter : UInt8) : Prop where
  ne_quote : delimiter ≠ quoteByte
  ne_lineFeed : delimiter ≠ lineFeed

/-- A byte that is taken for a delimiter and for nothing else. -/
structure Separates (delimiter : UInt8) : Prop where
  ne_quote : delimiter ≠ quoteByte
  not_terminator : isTerminator delimiter = false

theorem Separates.endsFields {delimiter : UInt8} (h : Separates delimiter) :
    EndsFields delimiter where
  ne_quote := h.ne_quote
  ne_lineFeed := by
    rintro rfl
    exact absurd h.not_terminator (by decide)

/-- What the reader keeps of the fields of a record, if anything. A lone empty field is written
in quotation marks. -/
def kept (delimiter : UInt8) (fields : List (List UInt8)) : Option (List (List UInt8)) :=
  if isTerminator delimiter = false ∨ fields = [[]] then some fields
  else if fields.all List.isEmpty then none
  else some (fields.dropWhile List.isEmpty)

/-- Read bytes one after the other. -/
def Scanner.read (delimiter : UInt8) (s : Scanner) (bytes : List UInt8) : Scanner :=
  bytes.foldl (step delimiter) s

/-- What the machine has in hand: the present field, the fields before it, and the fields of the
records before. -/
structure Holds (s : Scanner) (field : List UInt8) (fields : List (List UInt8))
    (records : List (List (List UInt8))) : Prop where
  field : s.field = field
  fields : s.fields = fields
  records : s.records.map (·.fields) = records

section

variable {delimiter b : UInt8} {bytes field : List UInt8} {fields : List (List UInt8)}
  {records : List (List (List UInt8))} {s : Scanner}

@[simp] theorem read_nil : s.read delimiter [] = s := rfl

@[simp] theorem read_cons :
    s.read delimiter (b :: bytes) = (s.step delimiter b).read delimiter bytes := rfl

theorem read_append (as bs : List UInt8) :
    s.read delimiter (as ++ bs) = (s.read delimiter as).read delimiter bs := List.foldl_append

theorem Holds.taken {mode : Mode} (hs : Holds s field fields records) :
    Holds ((s.advance b).take b mode) (b :: field) fields records :=
  ⟨congrArg (List.cons b) hs.field, hs.fields, hs.records⟩

theorem not_special_iff :
    isSpecial delimiter b = false ↔ b ≠ delimiter ∧ b ≠ quoteByte ∧ isTerminator b = false := by
  simp [isSpecial, and_assoc]

/-! ## One field -/

theorem step_plain (hs : Holds s field fields records) (hm : s.mode = .plain)
    (hb : isSpecial delimiter b = false) :
    (s.step delimiter b).mode = .plain ∧
      Holds (s.step delimiter b) (b :: field) fields records := by
  obtain ⟨hd, -, ht⟩ := not_special_iff.1 hb
  have hstep : s.step delimiter b = (s.advance b).take b .plain := by
    simp [step, react, unquoted, advance, hm, hd, ht]
  rw [hstep]
  exact ⟨rfl, hs.taken⟩

theorem read_plain (hs : Holds s field fields records) (hm : s.mode = .plain)
    (hb : ∀ b ∈ bytes, isSpecial delimiter b = false) :
    (s.read delimiter bytes).mode = .plain ∧
      Holds (s.read delimiter bytes) (bytes.reverse ++ field) fields records := by
  induction bytes generalizing s field with
  | nil => exact ⟨hm, hs⟩
  | cons b bytes ih =>
    obtain ⟨hm', hs'⟩ := step_plain hs hm (hb b List.mem_cons_self)
    rw [read_cons, List.reverse_cons, List.append_assoc]
    exact ih hs' hm' fun c hc => hb c (List.mem_cons_of_mem b hc)

variable (delimiter) in
theorem step_quoted (hs : Holds s field fields records) (hm : s.mode = .quoted)
    (hb : b ≠ quoteByte) :
    (s.step delimiter b).mode = .quoted ∧
      Holds (s.step delimiter b) (b :: field) fields records := by
  have hstep : s.step delimiter b = (s.advance b).take b .quoted := by
    simp [step, react, advance, hm, hb]
  rw [hstep]
  exact ⟨rfl, hs.taken⟩

variable (delimiter) in
theorem step_quoted_quote (hs : Holds s field fields records) (hm : s.mode = .quoted) :
    (s.step delimiter quoteByte).mode = .quoteSeen ∧
      Holds (s.step delimiter quoteByte) field fields records := by
  have hstep : s.step delimiter quoteByte = { s.advance quoteByte with mode := .quoteSeen } := by
    simp [step, react, advance, hm]
  rw [hstep]
  exact ⟨rfl, hs.field, hs.fields, hs.records⟩

variable (delimiter) in
theorem step_quoteSeen_quote (hs : Holds s field fields records) (hm : s.mode = .quoteSeen) :
    (s.step delimiter quoteByte).mode = .quoted ∧
      Holds (s.step delimiter quoteByte) (quoteByte :: field) fields records := by
  have hstep : s.step delimiter quoteByte = (s.advance quoteByte).take quoteByte .quoted := by
    simp [step, react, advance, hm]
  rw [hstep]
  exact ⟨rfl, hs.taken⟩

variable (delimiter bytes) in
/-- Doubled quotation marks are read as single ones. -/
theorem read_doubleQuotes (hs : Holds s field fields records) (hm : s.mode = .quoted) :
    (s.read delimiter (doubleQuotes bytes)).mode = .quoted ∧
      Holds (s.read delimiter (doubleQuotes bytes)) (bytes.reverse ++ field) fields records := by
  induction bytes generalizing s field with
  | nil => exact ⟨hm, hs⟩
  | cons b bytes ih =>
    rw [List.reverse_cons, List.append_assoc, doubleQuotes, List.flatMap_cons, read_append]
    by_cases hb : b = quoteByte
    · subst hb
      obtain ⟨hm', hs'⟩ := step_quoted_quote delimiter hs hm
      obtain ⟨hm'', hs''⟩ := step_quoteSeen_quote delimiter hs' hm'
      exact ih hs'' hm''
    · obtain ⟨hm', hs'⟩ := step_quoted delimiter hs hm hb
      rw [if_neg (by simpa using hb)]
      exact ih hs' hm'

/-- The machine stands before a field. -/
def AtField (s : Scanner) : Prop := s.mode = .recordStart ∨ s.mode = .fieldStart

variable (delimiter) in
theorem step_first_quote (hs : Holds s [] fields records) (hm : AtField s) :
    (s.step delimiter quoteByte).mode = .quoted ∧
      Holds (s.step delimiter quoteByte) [] fields records := by
  have hstep : s.step delimiter quoteByte = { s.advance quoteByte with mode := .quoted } := by
    rcases hm with hm | hm
    · simp [step, react, first, advance, hm, isTerminator, quoteByte, lineFeed, carriageReturn]
    · simp [step, react, first, advance, hm]
  rw [hstep]
  exact ⟨rfl, hs.field, hs.fields, hs.records⟩

theorem step_first_plain (hs : Holds s [] fields records) (hm : AtField s)
    (hb : isSpecial delimiter b = false) :
    (s.step delimiter b).mode = .plain ∧ Holds (s.step delimiter b) [b] fields records := by
  obtain ⟨hd, hq, ht⟩ := not_special_iff.1 hb
  have hstep : s.step delimiter b = (s.advance b).take b .plain := by
    rcases hm with hm | hm <;> simp [step, react, first, unquoted, advance, hm, hd, hq, ht]
  rw [hstep]
  exact ⟨rfl, hs.taken⟩

variable (delimiter field) in
/-- The bytes of a field take the machine to the end of it. An empty field leaves it where it
was. -/
theorem read_fieldBytes (hs : Holds s [] fields records) (hm : AtField s) :
    ((s.read delimiter (fieldBytes delimiter field)).mode = .plain ∨
        (s.read delimiter (fieldBytes delimiter field)).mode = .quoteSeen ∨
        field = [] ∧ (s.read delimiter (fieldBytes delimiter field)).mode = s.mode) ∧
      Holds (s.read delimiter (fieldBytes delimiter field)) field.reverse fields records := by
  unfold fieldBytes
  split
  · rw [List.cons_append, read_cons, read_append]
    obtain ⟨hm₁, hs₁⟩ := step_first_quote delimiter hs hm
    obtain ⟨hm₂, hs₂⟩ := read_doubleQuotes delimiter field hs₁ hm₁
    obtain ⟨hm₃, hs₃⟩ := step_quoted_quote delimiter hs₂ hm₂
    rw [List.append_nil] at hs₃
    exact ⟨.inr (.inl hm₃), hs₃⟩
  · rename_i hany
    cases field with
    | nil => exact ⟨.inr (.inr ⟨rfl, rfl⟩), hs⟩
    | cons b bytes =>
      have hb : ∀ c ∈ b :: bytes, isSpecial delimiter c = false := by
        simpa [Bool.not_eq_true] using hany
      obtain ⟨hm₁, hs₁⟩ := step_first_plain hs hm (hb b List.mem_cons_self)
      obtain ⟨hm₂, hs₂⟩ := read_plain hs₁ hm₁ fun c hc => hb c (List.mem_cons_of_mem b hc)
      rw [read_cons, List.reverse_cons]
      exact ⟨.inl hm₂, hs₂⟩

/-! ## One record -/

/-- Where a delimiter ends a field: nowhere else but before a record can it be taken for the end
of a line. -/
theorem step_delimiter (hd : EndsFields delimiter) (hs : Holds s field.reverse fields records)
    (hm : s.mode = .plain ∨ s.mode = .quoteSeen ∨ s.mode = .fieldStart ∨
      s.mode = .recordStart ∧ isTerminator delimiter = false) :
    (s.step delimiter delimiter).mode = .fieldStart ∧
      Holds (s.step delimiter delimiter) [] (field :: fields) records := by
  have hstep : s.step delimiter delimiter = (s.advance delimiter).endField := by
    rcases hm with hm | hm | hm | ⟨hm, hterminator⟩
    · simp [step, react, unquoted, advance, hm]
    · simp [step, react, unquoted, advance, hm, hd.ne_quote]
    · simp [step, react, first, unquoted, advance, hm, hd.ne_quote]
    · simp [step, react, first, unquoted, advance, hm, hd.ne_quote, hterminator]
  rw [hstep]
  refine ⟨rfl, rfl, ?_, hs.records⟩
  show s.field.reverse :: s.fields = _
  rw [hs.field, hs.fields, List.reverse_reverse]

variable (delimiter) in
/-- Before a record an end of a line is passed over. -/
theorem step_recordStart (hb : isTerminator b = true) (hs : Holds s field fields records)
    (hm : s.mode = .recordStart) :
    (s.step delimiter b).mode = .recordStart ∧ Holds (s.step delimiter b) field fields records := by
  have hstep : s.step delimiter b = s.advance b := by
    simp [step, react, advance, hm, hb]
  rw [hstep]
  exact ⟨hm, hs.field, hs.fields, hs.records⟩

theorem step_lineFeed (field : List UInt8) (hd : EndsFields delimiter)
    (hs : Holds s field.reverse fields records)
    (hm : s.mode = .plain ∨ s.mode = .quoteSeen ∨ s.mode = .fieldStart) :
    (s.step delimiter lineFeed).mode = .recordStart ∧
      Holds (s.step delimiter lineFeed) [] [] ((fields.reverse ++ [field]) :: records) := by
  have hne : lineFeed ≠ delimiter := hd.ne_lineFeed.symm
  have hquote : lineFeed ≠ quoteByte := by decide
  have hend : isTerminator lineFeed = true := by decide
  have hstep : s.step delimiter lineFeed = (s.advance lineFeed).endRecord lineFeed := by
    rcases hm with hm | hm | hm <;>
      simp [step, react, first, unquoted, advance, hm, hne, hquote, hend]
  rw [hstep]
  refine ⟨rfl, rfl, rfl, ?_⟩
  show (s.field.reverse :: s.fields).reverse :: s.records.map (·.fields) = _
  rw [hs.field, hs.fields, hs.records, List.reverse_reverse, List.reverse_cons]

variable (delimiter) in
/-- Fields with delimiters between them and a line feed at the end. -/
def lineBytes (fields : List (List UInt8)) : List UInt8 :=
  [delimiter].intercalate (fields.map (fieldBytes delimiter)) ++ [lineFeed]

theorem lineBytes_singleton (f : List UInt8) :
    lineBytes delimiter [f] = fieldBytes delimiter f ++ [lineFeed] := by
  rw [lineBytes, List.map_singleton, List.intercalate_singleton]

theorem lineBytes_cons {fs : List (List UInt8)} (hne : fs ≠ []) (f : List UInt8) :
    lineBytes delimiter (f :: fs) =
      fieldBytes delimiter f ++ delimiter :: lineBytes delimiter fs := by
  obtain ⟨g, gs, rfl⟩ := List.exists_cons_of_ne_nil hne
  rw [lineBytes, lineBytes, List.map_cons, List.map_cons, List.intercalate_cons_cons,
    List.append_assoc, List.append_assoc]
  rfl

/-- A line adds a record. Where a record begins, the first field has to be seen: there is
something in it, or there is a delimiter after it that is seen there. -/
theorem read_lineBytes (hd : EndsFields delimiter) {f : List UInt8} {fs : List (List UInt8)}
    (hs : Holds s [] fields records) (hm : AtField s)
    (hseen : s.mode = .fieldStart ∨ f ≠ [] ∨ isTerminator delimiter = false ∧ fs ≠ []) :
    (s.read delimiter (lineBytes delimiter (f :: fs))).mode = .recordStart ∧
      Holds (s.read delimiter (lineBytes delimiter (f :: fs))) [] []
        ((fields.reverse ++ f :: fs) :: records) := by
  induction fs generalizing f s fields with
  | nil =>
    obtain ⟨hm₁, hs₁⟩ := read_fieldBytes delimiter f hs hm
    rw [lineBytes_singleton, read_append]
    refine step_lineFeed f hd hs₁ ?_
    rcases hm₁ with hm₁ | hm₁ | ⟨rfl, hm₁⟩
    · exact .inl hm₁
    · exact .inr (.inl hm₁)
    · exact .inr (.inr (hm₁.trans (hseen.resolve_right (by simp))))
  | cons g gs ih =>
    obtain ⟨hm₁, hs₁⟩ := read_fieldBytes delimiter f hs hm
    obtain ⟨hm₂, hs₂⟩ := step_delimiter hd hs₁ (by
      rcases hm₁ with hm₁ | hm₁ | ⟨rfl, hm₁⟩
      · exact .inl hm₁
      · exact .inr (.inl hm₁)
      · rcases hm with hm | hm
        · have hterminator : isTerminator delimiter = false := by
            simpa [hm] using hseen
          exact .inr (.inr (.inr ⟨hm₁.trans hm, hterminator⟩))
        · exact .inr (.inr (.inl (hm₁.trans hm))))
    have hnext := ih (f := g) hs₂ (.inr hm₂) (.inl hm₂)
    rw [lineBytes_cons (List.cons_ne_nil g gs), read_append, read_cons]
    rwa [List.reverse_cons, List.append_assoc] at hnext

/-- If the delimiter ends lines too, a line adds what is left of its fields without the empty
ones in front. -/
theorem read_lineBytes_of_terminator (hd : EndsFields delimiter)
    (hterminator : isTerminator delimiter = true) (hs : Holds s [] [] records)
    (hm : s.mode = .recordStart) (hne : fields ≠ []) :
    (s.read delimiter (lineBytes delimiter fields)).mode = .recordStart ∧
      Holds (s.read delimiter (lineBytes delimiter fields)) [] []
        ((if fields.all List.isEmpty then [] else [fields.dropWhile List.isEmpty]) ++ records) := by
  induction fields generalizing s with
  | nil => exact absurd rfl hne
  | cons f fs ih =>
    by_cases hf : f = []
    · subst hf
      have hempty : fieldBytes delimiter [] = [] := rfl
      -- an empty field leaves nothing before its end, which is passed over
      by_cases hfs : fs = []
      · subst hfs
        exact step_recordStart delimiter (by decide) hs hm
      · obtain ⟨hm₁, hs₁⟩ := step_recordStart delimiter hterminator hs hm
        rw [lineBytes_cons hfs, hempty, List.nil_append, read_cons]
        exact ih hs₁ hm₁ hfs
    · have hfirst : f.isEmpty = false := by simpa using hf
      simpa [hfirst] using read_lineBytes hd hs (.inl hm) (.inr (.inl hf))

theorem recordBytes_of_ne (h : fields ≠ [[]]) :
    recordBytes delimiter fields = lineBytes delimiter fields := by
  unfold recordBytes
  split
  · exact absurd rfl h
  · rfl

/-- The bytes of a record add what is kept of this record. -/
theorem read_recordBytes (hd : EndsFields delimiter) (hs : Holds s [] [] records)
    (hm : s.mode = .recordStart) (hne : fields ≠ []) :
    (s.read delimiter (recordBytes delimiter fields)).mode = .recordStart ∧
      Holds (s.read delimiter (recordBytes delimiter fields)) [] []
        ((kept delimiter fields).toList ++ records) := by
  by_cases hempty : fields = [[]]
  · subst hempty
    rw [kept, if_pos (.inr rfl)]
    obtain ⟨hm₁, hs₁⟩ := step_first_quote delimiter hs (.inl hm)
    obtain ⟨hm₂, hs₂⟩ := step_quoted_quote delimiter hs₁ hm₁
    exact step_lineFeed [] hd hs₂ (.inr (.inl hm₂))
  · rw [recordBytes_of_ne hempty, kept]
    cases hterminator : isTerminator delimiter with
    | false =>
      obtain ⟨f, fs, rfl⟩ := List.exists_cons_of_ne_nil hne
      have hseen : f ≠ [] ∨ fs ≠ [] := by
        by_cases hf : f = []
        · exact .inr fun hfs => hempty (by rw [hf, hfs])
        · exact .inl hf
      rw [if_pos (.inl rfl)]
      exact read_lineBytes hd hs (.inl hm)
        (.inr (hseen.imp_right fun hfs => ⟨hterminator, hfs⟩))
    | true =>
      have hline := read_lineBytes_of_terminator hd hterminator hs hm hne
      rw [if_neg (by simp [hempty])]
      split <;> simp_all

/-! ## Tables -/

theorem read_print (hd : EndsFields delimiter) {written : List (List (List UInt8))}
    (hne : ∀ fields ∈ written, fields ≠ []) (hs : Holds s [] [] records)
    (hm : s.mode = .recordStart) :
    (s.read delimiter (print delimiter written)).mode = .recordStart ∧
      Holds (s.read delimiter (print delimiter written)) [] []
        ((written.filterMap (kept delimiter)).reverse ++ records) := by
  induction written generalizing s records with
  | nil => exact ⟨hm, hs⟩
  | cons fields written ih =>
    obtain ⟨hm₁, hs₁⟩ := read_recordBytes hd hs hm (hne fields List.mem_cons_self)
    have hrest := ih (fun fields h => hne fields (List.mem_cons_of_mem _ h)) hs₁ hm₁
    rw [print, List.flatMap_cons, read_append]
    cases hkept : kept delimiter fields with
    | none =>
      rw [List.filterMap_cons_none hkept]
      rwa [hkept] at hrest
    | some fields' =>
      rw [List.filterMap_cons_some hkept, List.reverse_cons, List.append_assoc]
      rwa [hkept] at hrest

/-- What is kept of the records that were written is read, wherever the reading starts. -/
theorem fields_finish_print (hd : EndsFields delimiter) {written : List (List (List UInt8))}
    (hne : ∀ fields ∈ written, fields ≠ []) (offset : Nat) :
    ((start offset).read delimiter (print delimiter written)).finish.map (·.fields) =
      written.filterMap (kept delimiter) := by
  have hstart : Holds (start offset) [] [] [] := ⟨rfl, rfl, rfl⟩
  obtain ⟨hm, hs⟩ := read_print hd hne hstart rfl
  rw [finish, hm, List.map_reverse, hs.records, List.append_nil, List.reverse_reverse]

/-- The records that are read are what is kept of those that were written, unless the table
begins like a byte order mark. -/
theorem fields_scan_print_kept (hd : EndsFields delimiter) {written : List (List (List UInt8))}
    (hne : ∀ fields ∈ written, fields ≠ [])
    (hmark : byteOrderMark.isPrefixOf (print delimiter written) = false) :
    (scan delimiter (print delimiter written)).map (·.fields) =
      written.filterMap (kept delimiter) := by
  have hscan : scan delimiter (print delimiter written) =
      ((start 0).read delimiter (print delimiter written)).finish := by
    unfold scan
    rw [hmark]
    rfl
  rw [hscan, fields_finish_print hd hne]

/-- The records that are read are those that were written, unless the table begins like a byte
order mark. -/
theorem fields_scan_print (hd : Separates delimiter) {written : List (List (List UInt8))}
    (hne : ∀ fields ∈ written, fields ≠ [])
    (hmark : byteOrderMark.isPrefixOf (print delimiter written) = false) :
    (scan delimiter (print delimiter written)).map (·.fields) = written := by
  have hkept (fields : List (List UInt8)) : kept delimiter fields = some fields :=
    if_pos (.inl hd.not_terminator)
  rw [fields_scan_print_kept hd.endsFields hne hmark, funext hkept, List.filterMap_some]

end

end Clearinghouse.Table
