import UnitScan.Encoding.Utf8

/-!
# Encoded text is decoded

Every text is read back from its bytes in UTF-8. A character of two or more bytes is a lead byte,
which holds the upper bits of the code point, and continuation bytes, which hold six bits each.
The lead bytes whose first continuation byte is restricted are those with the least or the
greatest upper bits, and the one next to the surrogates; no character has the bytes that they
leave out.
-/

namespace UnitScan.Encoding.Utf8

/-! ### Lead bytes -/

theorem lead?_of_lt {b : Nat} (h : b < 0x80) : lead? b = some ⟨0, 0x80, 0xBF, b⟩ := if_pos h

/-- Upper bits below two would make an overlong form. -/
theorem lead?_two : ∀ bits < 0x20, 2 ≤ bits →
    lead? (bits + 0xC0) = some ⟨1, 0x80, 0xBF, bits⟩ := by
  decide

theorem lead?_three : ∀ bits < 0x10, lead? (bits + 0xE0) =
    some ⟨2, if bits = 0 then 0xA0 else 0x80, if bits = 0xD then 0x9F else 0xBF, bits⟩ := by
  decide

theorem lead?_four : ∀ bits < 5, lead? (bits + 0xF0) =
    some ⟨3, if bits = 0 then 0x90 else 0x80, if bits = 4 then 0x8F else 0xBF, bits⟩ := by
  decide

/-! ### One character -/

/-- A continuation byte gives six bits. -/
theorem continued_tail {count low high bits x : Nat} (hlow : low ≤ x % 64 + 0x80)
    (hhigh : x % 64 + 0x80 ≤ high) (rest : List UInt8) :
    continued (count + 1) low high bits (UInt8.ofNat (x % 64 + 0x80) :: rest) =
      continued count 0x80 0xBF (bits * 64 + x % 64) rest := by
  have hbyte : (UInt8.ofNat (x % 64 + 0x80)).toNat = x % 64 + 0x80 :=
    UInt8.toNat_ofNat_of_lt' (show x % 64 + 0x80 < 256 by omega)
  rw [continued, hbyte, if_pos ⟨hlow, hhigh⟩]
  congr 1
  omega

/-- A lead byte and the bytes after it are read as one character. -/
theorem decode_of_lead {n code : Nat} {bytes rest : List UInt8} {lead : Lead} (hn : n < 0x100)
    (hlead : lead? n = some lead)
    (hcontinued : continued lead.count lead.low lead.high lead.bits bytes = (some code, rest)) :
    decode (UInt8.ofNat n :: bytes) = Char.ofNat code :: decode rest := by
  have hbyte : (UInt8.ofNat n).toNat = n := UInt8.toNat_ofNat_of_lt' hn
  have hnext : next (UInt8.ofNat n) bytes = (Char.ofNat code, rest) := by
    simp only [next, hbyte, hlead, hcontinued, Option.elim_some]
  rw [decode, hnext]

/-- An encoded character is the first one of the text that begins with its bytes. -/
theorem decode_utf8EncodeChar_append (c : Char) (rest : List UInt8) :
    decode (String.utf8EncodeChar c ++ rest) = c :: decode rest := by
  have hvalid : c.val.toNat < 0xD800 ∨ 0xDFFF < c.val.toNat ∧ c.val.toNat < 0x110000 := c.valid
  have hcode : Char.ofNat c.val.toNat = c := Char.ofNat_toNat c
  suffices h : decode (String.utf8EncodeChar c ++ rest) = Char.ofNat c.val.toNat :: decode rest by
    rwa [hcode] at h
  fun_cases String.utf8EncodeChar c with
  | case1 v hone => exact decode_of_lead (by omega) (lead?_of_lt (by omega)) rfl
  | case2 v hone htwo =>
      have hbits : v / 64 % 32 * 64 + v % 64 = v := by omega
      apply decode_of_lead (by omega) (lead?_two (v / 64 % 32) (by omega) (by omega))
      simp only [List.append_eq, List.cons_append, List.nil_append]
      rw [continued_tail (by omega) (by omega), hbits, continued]
  | case3 v _ htwo hthree =>
      have hbits : (v / 4096 % 16 * 64 + v / 64 % 64) * 64 + v % 64 = v := by omega
      apply decode_of_lead (by omega) (lead?_three (v / 4096 % 16) (by omega))
      -- The first of the two bytes is in range: the code point is no surrogate, and too large for
      -- two bytes.
      simp only [List.append_eq, List.cons_append, List.nil_append]
      rw [continued_tail (by split <;> omega) (by split <;> omega),
        continued_tail (by omega) (by omega), hbits, continued]
  | case4 v _ _ hthree =>
      have hbits :
          ((v / 262144 % 8 * 64 + v / 4096 % 64) * 64 + v / 64 % 64) * 64 + v % 64 = v := by
        omega
      apply decode_of_lead (by omega) (lead?_four (v / 262144 % 8) (by omega))
      simp only [List.append_eq, List.cons_append, List.nil_append]
      rw [continued_tail (by split <;> omega) (by split <;> omega),
        continued_tail (by omega) (by omega), continued_tail (by omega) (by omega), hbits,
        continued]

/-! ### Texts -/

theorem decode_flatMap_utf8EncodeChar (text : List Char) :
    decode (text.flatMap String.utf8EncodeChar) = text := by
  induction text with
  | nil => rw [List.flatMap_nil, decode]
  | cons c text ih => rw [List.flatMap_cons, decode_utf8EncodeChar_append, ih]

/-- The bytes that are still to be listed stand behind those that are. -/
theorem toList_loop (bytes : ByteArray) (i : Nat) (listed : List UInt8) :
    ByteArray.toList.loop bytes i listed = listed.reverse ++ bytes.data.toList.drop i := by
  fun_induction ByteArray.toList.loop bytes i listed with
  | case1 i listed h ih =>
      have hi : i < bytes.data.toList.length := h
      have hget : bytes.get! i = bytes.data.toList[i] := getElem!_pos bytes.data i h
      rw [ih, List.drop_eq_getElem_cons hi, hget, List.reverse_cons, List.append_assoc,
        List.singleton_append]
  | case2 i listed h =>
      rw [List.drop_eq_nil_of_le (Nat.le_of_not_lt h), List.append_nil]

theorem toList_toUTF8 (text : String) :
    text.toUTF8.toList = text.toList.flatMap String.utf8EncodeChar := by
  have hbytes : text.toByteArray = text.toList.utf8Encode := by
    rw [← String.toByteArray_ofList, String.ofList_toList]
  rw [ByteArray.toList, toList_loop, String.toUTF8_eq_toByteArray, hbytes, List.utf8Encode,
    List.toList_data_toByteArray, List.reverse_nil, List.nil_append, List.drop_zero]

/-- A text is read back from its bytes. -/
theorem decode_toUTF8 (text : String) : decode text.toUTF8.toList = text.toList := by
  rw [toList_toUTF8, decode_flatMap_utf8EncodeChar]

end UnitScan.Encoding.Utf8
