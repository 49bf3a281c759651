import Clearinghouse.PackageUrl
import Clearinghouse.Proofs.Table.Printing
import Clearinghouse.Proofs.Text.Case

/-!
# The weight of a text

The marks and digits of a package URL have a weight, and the percent sign outweighs whatever it
may be decoded to. So decoding makes a text lighter, unless there is nothing to decode
(`decode?_eq_or`), while letter case does not change the weight (`Recased.weight_eq`). That is
how one sees whether anything was lost when a text was read.
-/

namespace Clearinghouse

open Text

/-! ## Characters -/

/-- What a character counts for. A colon outweighs a slash, so that the two cannot stand for each
other. -/
def charWeight (c : Char) : Nat :=
  if c = '%' then 4
  else if c = ':' then 3
  else if c ∈ ['0', '1', '2', '3', '4', '5', '6', '7', '8', '9', '/', '@', '#', '?'] then 1
  else 0

theorem charWeight_of_lt {c : Char} (h : 64 < c.toNat) : charWeight c = 0 := by
  have hne {d : Char} (hd : d.toNat ≤ 64) : c ≠ d := by
    rintro rfl
    omega
  simp [charWeight, hne]

theorem isNeutral_of_charWeight_ne_zero {c : Char} (h : charWeight c ≠ 0) : isNeutral c = true := by
  by_contra hneutral
  refine h ?_
  rcases isNeutral_eq_false_iff.1 (Bool.eq_false_iff.2 hneutral) with ⟨hlarge | rfl, -⟩
  · exact charWeight_of_lt hlarge
  · decide

/-! ## Texts -/

def weight : List Char → Nat
  | [] => 0
  | c :: cs => charWeight c + weight cs

@[simp] theorem weight_nil : weight [] = 0 := rfl

@[simp] theorem weight_cons (c : Char) (cs : List Char) :
    weight (c :: cs) = charWeight c + weight cs := rfl

@[simp] theorem weight_append (cs ds : List Char) : weight (cs ++ ds) = weight cs + weight ds := by
  induction cs with
  | nil => simp
  | cons c cs ih => simp [ih, Nat.add_assoc]

theorem nil_or_weight_pos {mark : Char} (hmark : 0 < charWeight mark) {cs : List Char}
    (h : ∀ c ∈ cs, c = mark) : cs = [] ∨ 0 < weight cs := by
  cases cs with
  | nil => exact .inl rfl
  | cons c cs =>
    rw [weight_cons, h c List.mem_cons_self]
    exact .inr (by omega)

theorem weight_of_blanks {cs : List Char} (h : ∀ c ∈ cs, isBlank c = true) : weight cs = 0 := by
  have hall : ∀ n ∈ blankPoints, charWeight (Char.ofNat n) = 0 := by decide +kernel
  induction cs with
  | nil => rfl
  | cons c cs ih =>
    have hc := hall c.toNat (isBlank_iff.1 (h c List.mem_cons_self))
    rw [Char.ofNat_toNat] at hc
    rw [weight_cons, hc, ih fun d hd => h d (List.mem_cons_of_mem c hd)]

theorem weight_trimEnd (cs : List Char) : weight (trimEnd cs) = weight cs := by
  obtain ⟨after, hcs, hblank⟩ := exists_eq_trimEnd cs
  have hweight := congrArg weight hcs
  rw [weight_append, weight_of_blanks hblank, Nat.add_zero] at hweight
  exact hweight.symm

theorem weight_trim (s : String) : weight (trim s).toList = weight s.toList := by
  obtain ⟨before, after, hs, hbefore, hafter⟩ := exists_eq_trimChars s.toList
  have hweight := congrArg weight hs
  rw [weight_append, weight_append, weight_of_blanks hbefore, weight_of_blanks hafter,
    Nat.zero_add, Nat.add_zero] at hweight
  rw [trim, String.toList_ofList, hweight]

theorem weight_filter (cs : List Char) : weight (cs.filter (charWeight · != 0)) = weight cs := by
  induction cs with
  | nil => rfl
  | cons c cs ih =>
    rw [List.filter_cons, weight_cons]
    split
    · rw [weight_cons, ih]
    · rename_i h
      rw [ih, show charWeight c = 0 by simpa using h, Nat.zero_add]

/-- Letters have no weight, so their case does not matter. -/
theorem Text.Recased.weight_eq {cs ds : List Char} (h : Recased cs ds) : weight ds = weight cs := by
  rw [← weight_filter, ← weight_filter cs, h.filter_eq]
  exact fun c hc => isNeutral_of_charWeight_ne_zero (bne_iff_ne.1 hc)

/-! ## Bytes -/

def byteWeight (b : UInt8) : Nat := charWeight (.ofNat b.toNat)

def bytesWeight : List UInt8 → Nat
  | [] => 0
  | b :: bytes => byteWeight b + bytesWeight bytes

@[simp] theorem bytesWeight_nil : bytesWeight [] = 0 := rfl

@[simp] theorem bytesWeight_cons (b : UInt8) (bytes : List UInt8) :
    bytesWeight (b :: bytes) = byteWeight b + bytesWeight bytes := rfl

@[simp] theorem bytesWeight_append (as bs : List UInt8) :
    bytesWeight (as ++ bs) = bytesWeight as + bytesWeight bs := by
  induction as with
  | nil => simp
  | cons b as ih => simp [ih, Nat.add_assoc]

theorem bytesWeight_eq_zero {bytes : List UInt8} (h : ∀ b ∈ bytes, byteWeight b = 0) :
    bytesWeight bytes = 0 := by
  induction bytes with
  | nil => rfl
  | cons b bytes ih =>
    rw [bytesWeight_cons, h b List.mem_cons_self, ih fun c hc => h c (List.mem_cons_of_mem b hc)]

theorem byteWeight_of_le {b : UInt8} (h : 0x80 ≤ b.toNat) : byteWeight b = 0 := by
  have hb := b.toNat_lt
  refine charWeight_of_lt ?_
  rw [toNat_ofNat (by unfold Nat.isValidChar; omega)]
  omega

theorem bytesWeight_utf8EncodeChar (c : Char) :
    bytesWeight (String.utf8EncodeChar c) = charWeight c := by
  by_cases h : c.toNat < 0x80
  · have hencode : String.utf8EncodeChar c = [UInt8.ofNat c.toNat] :=
      if_pos (Nat.le_of_lt_succ h)
    have hbyte : (UInt8.ofNat c.toNat).toNat = c.toNat := by
      rw [UInt8.toNat_ofNat']
      omega
    rw [hencode, bytesWeight_cons, byteWeight, hbyte, Char.ofNat_toNat]
    rfl
  · -- the bytes are all above those of ASCII
    have hbytes : ∀ b ∈ String.utf8EncodeChar c, byteWeight b = 0 := by
      intro b hb
      rcases Utf8.toNat_of_mem_utf8EncodeChar hb with hb | hb
      · exact byteWeight_of_le (by omega)
      · exact byteWeight_of_le hb
    rw [charWeight_of_lt (by omega), bytesWeight_eq_zero hbytes]

theorem bytesWeight_encode (s : String) : bytesWeight (Utf8.encode s) = weight s.toList := by
  rw [← String.ofList_toList (s := s), String.toList_ofList]
  induction s.toList with
  | nil => rfl
  | cons c cs ih =>
    rw [Utf8.encode_ofList_cons, bytesWeight_append, bytesWeight_utf8EncodeChar, ih, weight_cons]

/-! ## Decoding -/

namespace Percent

/-- The bytes of the hexadecimal digits. -/
def digitBytes : List UInt8 :=
  [0x30, 0x31, 0x32, 0x33, 0x34, 0x35, 0x36, 0x37, 0x38, 0x39, 0x41, 0x42, 0x43, 0x44, 0x45, 0x46,
    0x61, 0x62, 0x63, 0x64, 0x65, 0x66]

theorem mem_digitBytes_of_hexValue? {b x : UInt8} (h : hexValue? b = some x) : b ∈ digitBytes := by
  have hall : ∀ n < 256, (hexValue? (UInt8.ofNat n)).isSome → UInt8.ofNat n ∈ digitBytes := by
    decide +kernel
  have := hall b.toNat b.toNat_lt
  rw [UInt8.ofNat_toNat, h] at this
  exact this rfl

/-- An escape is heavier than the byte it stands for. -/
theorem byteWeight_add_two_le {high low b : UInt8} (h : byte? high low = some b) :
    byteWeight b + 2 ≤ byteWeight 0x25 + byteWeight high + byteWeight low := by
  -- over the lists, and not over all bytes there are
  have hall : digitBytes.all fun high => digitBytes.all fun low => (byte? high low).all fun b =>
      byteWeight b + 2 ≤ byteWeight 0x25 + byteWeight high + byteWeight low := by
    decide +kernel
  simp only [List.all_eq_true, Option.all_eq_true, decide_eq_true_eq] at hall
  have hdigits := h
  simp only [byte?, Option.bind_eq_bind, Option.bind_eq_some_iff] at hdigits
  obtain ⟨x, hx, y, hy, -⟩ := hdigits
  exact hall high (mem_digitBytes_of_hexValue? hx) low (mem_digitBytes_of_hexValue? hy) b h

/-- Bytes that hold an escape get lighter, and all others stay. -/
theorem decodeBytes_eq_or (bytes : List UInt8) :
    decodeBytes bytes = bytes ∨ bytesWeight (decodeBytes bytes) + 2 ≤ bytesWeight bytes := by
  fun_induction decodeBytes bytes with
  | case1 high low rest b hb ih =>
    right
    have hescape := byteWeight_add_two_le hb
    have hrest : bytesWeight (decodeBytes rest) ≤ bytesWeight rest := by
      rcases ih with ih | ih
      · rw [ih]
      · omega
    simp only [bytesWeight_cons]
    omega
  | case2 high low rest hb ih =>
    refine ih.imp (congrArg _) fun ih => ?_
    rw [bytesWeight_cons, bytesWeight_cons 0x25]
    omega
  | case3 b rest _ ih =>
    refine ih.imp (congrArg _) fun ih => ?_
    rw [bytesWeight_cons, bytesWeight_cons b]
    omega
  | case4 => exact .inl rfl

theorem decodeBytes_ne_nil {bytes : List UInt8} (h : bytes ≠ []) : decodeBytes bytes ≠ [] := by
  fun_cases decodeBytes bytes with
  | case1 => exact List.cons_ne_nil _ _
  | case2 => exact List.cons_ne_nil _ _
  | case3 => exact List.cons_ne_nil _ _
  | case4 => exact absurd rfl h

theorem decodeBytes_cons {b : UInt8} (h : b ≠ 0x25) (bytes : List UInt8) :
    decodeBytes (b :: bytes) = b :: decodeBytes bytes := by
  rw [decodeBytes.eq_def]
  split
  · rename_i heq
    exact absurd (List.cons.inj heq).1 h
  · rename_i heq
    rw [(List.cons.inj heq).1, (List.cons.inj heq).2]
  · rename_i heq
    cases heq

theorem decodeBytes_append {front : List UInt8} (h : 0x25 ∉ front) (bytes : List UInt8) :
    decodeBytes (front ++ bytes) = front ++ decodeBytes bytes := by
  induction front with
  | nil => rfl
  | cons b front ih =>
    obtain ⟨hb, hfront⟩ := not_or.1 (mt List.mem_cons.2 h)
    rw [List.cons_append, List.cons_append, decodeBytes_cons (Ne.symm hb), ih hfront]

end Percent

namespace Utf8

/-- A text whose bytes begin like those of another begins with the other. -/
theorem prefix_of_encode {s t : String} {bytes : List UInt8}
    (h : encode t = encode s ++ bytes) : s.toList <+: t.toList := by
  have hbytes : s.toList.utf8Encode ++ ⟨bytes.toArray⟩ = t.toList.utf8Encode := by
    rw [String.utf8Encode_toList, String.utf8Encode_toList]
    refine ByteArray.ext (Array.toList_inj.1 ?_)
    rw [ByteArray.data_append, Array.toList_append]
    exact h.symm
  exact List.isPrefix_of_utf8Encode_append_eq_utf8Encode _ hbytes

/-- Only the percent sign is encoded with its byte. -/
theorem percent_mem_of_mem_encode {s : String} (h : 0x25 ∈ encode s) : '%' ∈ s.toList := by
  rw [← String.ofList_toList (s := s)] at h
  generalize s.toList = cs at h ⊢
  induction cs with
  | nil => cases h
  | cons c cs ih =>
    rw [encode_ofList_cons, List.mem_append] at h
    rcases h with h | h
    · rcases toNat_of_mem_utf8EncodeChar h with hc | hc
      · rw [show '%' = c from Char.toNat_inj.1 hc]
        exact List.mem_cons_self
      · exact absurd hc (by decide)
    · exact List.mem_cons_of_mem c (ih h)

end Utf8

namespace Percent

/-- A text that holds an escape gets lighter, and all others stay. -/
theorem decode?_eq_or {s t : String} (h : decode? s = some t) :
    t = s ∨ weight t.toList + 2 ≤ weight s.toList := by
  have hbytes := Utf8.encode_of_decode? h
  rcases decodeBytes_eq_or (Utf8.encode s) with hsame | hless
  · refine .inl (Option.some.inj ?_)
    rw [← h, decode?, hsame, Utf8.decode?_encode]
  · right
    rwa [← hbytes, bytesWeight_encode, bytesWeight_encode] at hless

theorem decode?_ne_empty {s t : String} (h : decode? s = some t) (hs : s ≠ "") : t ≠ "" := by
  rintro rfl
  refine decodeBytes_ne_nil (fun hnil => hs ?_) (Utf8.encode_of_decode? h).symm
  have hempty := Utf8.decode?_encode s
  rw [hnil] at hempty
  exact (Option.some.inj hempty).symm

/-- What stands before the first percent sign stays. -/
theorem prefix_of_decode? (front : String) {s t : String} (hfront : '%' ∉ front.toList)
    (h : decode? (front ++ s) = some t) : front.toList <+: t.toList := by
  have hbytes := Utf8.encode_of_decode? h
  have hclear : 0x25 ∉ Utf8.encode front := fun hmem => hfront (Utf8.percent_mem_of_mem_encode hmem)
  rw [Utf8.encode_append, decodeBytes_append hclear] at hbytes
  exact Utf8.prefix_of_encode hbytes

end Percent

end Clearinghouse
