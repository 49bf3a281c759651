import Clearinghouse.Table.Export

/-!
# Printed tables are text

The bytes of a character other than the quotation mark hold no quotation mark, so doubling the
quotation marks of a text gives a text. A table of texts is therefore a text if the delimiter is
one (`isText_print`).
-/

namespace Clearinghouse

namespace Utf8

theorem encode_append (s t : String) : encode (s ++ t) = encode s ++ encode t := by
  rw [encode, encode, encode, String.toByteArray_append]
  simp

theorem encode_ofList_cons (c : Char) (cs : List Char) :
    encode (.ofList (c :: cs)) = String.utf8EncodeChar c ++ encode (.ofList cs) := by
  have hcons : String.ofList (c :: cs) = String.ofList [c] ++ String.ofList cs := by
    rw [← String.ofList_append]
    rfl
  have hchar : encode (.ofList [c]) = String.utf8EncodeChar c := by
    rw [encode, String.toByteArray_ofList, List.utf8Encode_singleton]
    simp
  rw [hcons, encode_append, hchar]

/-- The bytes are those of a text. -/
def IsText (bytes : List UInt8) : Prop := ∃ s, bytes = encode s

theorem IsText.decode?_eq {bytes : List UInt8} (h : IsText bytes) :
    ∃ s, decode? bytes = some s ∧ encode s = bytes := by
  obtain ⟨s, rfl⟩ := h
  exact ⟨s, decode?_encode s, rfl⟩

theorem isText_encode (s : String) : IsText (encode s) := ⟨s, rfl⟩

theorem isText_nil : IsText [] := ⟨"", rfl⟩

theorem IsText.append {as bs : List UInt8} (h : IsText as) (h' : IsText bs) :
    IsText (as ++ bs) := by
  obtain ⟨s, rfl⟩ := h
  obtain ⟨t, rfl⟩ := h'
  exact ⟨s ++ t, (encode_append s t).symm⟩

theorem isText_flatMap {α : Type} {f : α → List UInt8} {as : List α}
    (h : ∀ a ∈ as, IsText (f a)) : IsText (as.flatMap f) := by
  induction as with
  | nil => exact isText_nil
  | cons a as ih =>
    rw [List.flatMap_cons]
    exact (h a List.mem_cons_self).append (ih fun b hb => h b (List.mem_cons_of_mem a hb))

theorem isText_intercalate {separator : List UInt8} (hs : IsText separator)
    {pieces : List (List UInt8)} (h : ∀ piece ∈ pieces, IsText piece) :
    IsText (separator.intercalate pieces) := by
  induction pieces with
  | nil => exact isText_nil
  | cons piece pieces ih =>
    have hpiece := h piece List.mem_cons_self
    cases pieces with
    | nil => rwa [List.intercalate_singleton]
    | cons next pieces =>
      rw [List.intercalate_cons_cons, List.append_assoc]
      exact hpiece.append (hs.append (ih fun piece hp => h piece (List.mem_cons_of_mem _ hp)))

theorem le_toNat_ofNat {n : Nat} (h : 0x80 ≤ n) (h' : n < 256) : 0x80 ≤ (UInt8.ofNat n).toNat := by
  rw [UInt8.toNat_ofNat']
  omega

/-- The byte of a character is its code point, or the bytes are all above those of ASCII. -/
theorem toNat_of_mem_utf8EncodeChar {c : Char} {b : UInt8} (h : b ∈ String.utf8EncodeChar c) :
    b.toNat = c.toNat ∨ 0x80 ≤ b.toNat := by
  have hcode : c.val.toNat = c.toNat := rfl
  unfold String.utf8EncodeChar at h
  simp only [hcode] at h
  split at h
  · rw [List.mem_singleton.1 h, UInt8.toNat_ofNat']
    omega
  · refine .inr ?_
    split at h
    · simp only [List.mem_cons, List.not_mem_nil, or_false] at h
      rcases h with rfl | rfl <;> exact le_toNat_ofNat (by omega) (by omega)
    · split at h
      · simp only [List.mem_cons, List.not_mem_nil, or_false] at h
        rcases h with rfl | rfl | rfl <;> exact le_toNat_ofNat (by omega) (by omega)
      · simp only [List.mem_cons, List.not_mem_nil, or_false] at h
        rcases h with rfl | rfl | rfl | rfl <;> exact le_toNat_ofNat (by omega) (by omega)

/-- Only the quotation mark is encoded with its byte. -/
theorem quote_not_mem_utf8EncodeChar {c : Char} (h : c ≠ '"') :
    Table.quoteByte ∉ String.utf8EncodeChar c := by
  intro hmem
  have hquote : Table.quoteByte.toNat = '"'.toNat := rfl
  rcases toNat_of_mem_utf8EncodeChar hmem with hc | hc
  · exact h (Char.toNat_inj.1 (hc.symm.trans hquote))
  · rw [hquote] at hc
    exact absurd hc (by decide)

end Utf8

namespace Table

open Utf8

theorem doubleQuotes_append (as bs : List UInt8) :
    doubleQuotes (as ++ bs) = doubleQuotes as ++ doubleQuotes bs := List.flatMap_append ..

theorem doubleQuotes_of_not_mem {bytes : List UInt8} (h : quoteByte ∉ bytes) :
    doubleQuotes bytes = bytes := by
  induction bytes with
  | nil => rfl
  | cons b bytes ih =>
    obtain ⟨hb, hbytes⟩ := not_or.1 (mt List.mem_cons.2 h)
    have hrest := ih hbytes
    rw [doubleQuotes, List.flatMap_cons, if_neg (by simpa using Ne.symm hb)]
    exact congrArg (b :: ·) hrest

theorem isText_doubleQuotes (s : String) : IsText (doubleQuotes (encode s)) := by
  rw [← String.ofList_toList (s := s)]
  induction s.toList with
  | nil => exact isText_nil
  | cons c cs ih =>
    rw [encode_ofList_cons, doubleQuotes_append]
    refine IsText.append ?_ ih
    by_cases hc : c = '"'
    · subst hc
      exact ⟨"\"\"", rfl⟩
    · rw [doubleQuotes_of_not_mem (quote_not_mem_utf8EncodeChar hc)]
      refine ⟨.ofList [c], ?_⟩
      rw [encode_ofList_cons]
      exact (List.append_nil _).symm

theorem isText_quote : IsText [quoteByte] := ⟨"\"", rfl⟩

theorem isText_lineFeed : IsText [lineFeed] := ⟨"\n", rfl⟩

theorem isText_fieldBytes (delimiter : UInt8) (s : String) :
    IsText (fieldBytes delimiter (encode s)) := by
  unfold fieldBytes
  split
  · exact isText_quote.append ((isText_doubleQuotes s).append isText_quote)
  · exact isText_encode s

theorem isText_recordBytes {delimiter : UInt8} (hd : IsText [delimiter]) (cells : List String) :
    IsText (recordBytes delimiter (cells.map encode)) := by
  unfold recordBytes
  split
  · exact ⟨"\"\"\n", rfl⟩
  · refine (isText_intercalate hd fun piece hp => ?_).append isText_lineFeed
    rw [List.map_map] at hp
    obtain ⟨cell, -, rfl⟩ := List.mem_map.1 hp
    exact isText_fieldBytes delimiter cell

/-- A table of texts is a text. -/
theorem isText_print {delimiter : UInt8} (hd : IsText [delimiter]) (rows : List (List String)) :
    IsText (print delimiter (rows.map (·.map encode))) := by
  rw [print, List.flatMap_map]
  exact isText_flatMap fun cells _ => isText_recordBytes hd cells

end Table

end Clearinghouse
