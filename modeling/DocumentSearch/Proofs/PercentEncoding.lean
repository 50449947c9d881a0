import Mathlib.Data.Nat.Notation
import DocumentSearch.Url.Percent

/-!
Percent-encoding can be undone. If the percent sign is among the encoded characters, decoding gives
back the bytes of the text, and texts of the same bytes are the same. No encoded character but the
percent sign is left in an encoded text.
-/

namespace DocumentSearch

namespace Text

theorem hexValue?_hexDigitUpper {n : ℕ} (hn : n < 16) : hexValue? (hexDigitUpper n) = some n := by
  decide +revert

theorem Utf8.eq_of_flatMap_encodeChar_eq {chars others : List Char}
    (h : chars.flatMap String.utf8EncodeChar = others.flatMap String.utf8EncodeChar) :
    chars = others := by
  have hbytes : chars.utf8Encode = others.utf8Encode := congrArg List.toByteArray h
  have htext : String.ofList chars = String.ofList others := by
    rw [← String.toByteArray_inj, String.toByteArray_ofList, String.toByteArray_ofList, hbytes]
  simpa only [String.toList_ofList] using congrArg String.toList htext

end Text

namespace Url.Percent

variable {set : List Char}

theorem decode_encodeByte (byte : UInt8) (rest : List Char) :
    decode (encodeByte byte ++ rest) = byte :: decode rest := by
  have hbyte : byte.toNat < 256 := byte.toNat_lt
  have hhigh := Text.hexValue?_hexDigitUpper (n := byte.toNat / 16) (by omega)
  have hlow := Text.hexValue?_hexDigitUpper (n := byte.toNat % 16) (by omega)
  have hvalue : 16 * (byte.toNat / 16) + byte.toNat % 16 = byte.toNat := by omega
  simp only [encodeByte, List.cons_append, List.nil_append, decode, hhigh, hlow, hvalue,
    UInt8.ofNat_toNat]

theorem decode_flatMap_encodeByte (bytes : List UInt8) (rest : List Char) :
    decode (bytes.flatMap encodeByte ++ rest) = bytes ++ decode rest := by
  induction bytes with
  | nil => rfl
  | cons byte bytes ih =>
    rw [List.flatMap_cons, List.append_assoc, decode_encodeByte, ih, List.cons_append]

theorem decode_cons_of_ne {c : Char} (hc : c ≠ '%') (rest : List Char) :
    decode (c :: rest) = String.utf8EncodeChar c ++ decode rest := by
  rw [decode]
  intro a b others hpercent
  exact absurd hpercent hc

theorem decode_encodeChar (hset : '%' ∈ set) (c : Char) (rest : List Char) :
    decode (encodeChar set c ++ rest) = String.utf8EncodeChar c ++ decode rest := by
  rw [encodeChar]
  split
  · exact decode_flatMap_encodeByte _ rest
  · rename_i hplain
    have hc : c ≠ '%' := by
      rintro rfl
      simp [hset] at hplain
    exact decode_cons_of_ne hc rest

theorem decode_encode (hset : '%' ∈ set) (chars : List Char) :
    decode (encode set chars) = chars.flatMap String.utf8EncodeChar := by
  induction chars with
  | nil => rfl
  | cons c chars ih =>
    rw [encode, List.flatMap_cons, decode_encodeChar hset, List.flatMap_cons]
    exact congrArg (String.utf8EncodeChar c ++ ·) ih

theorem notMem_encodeByte {mark : Char} (hpercent : mark ≠ '%')
    (hdigit : ∀ n < 16, mark ≠ Text.hexDigitUpper n) (byte : UInt8) :
    mark ∉ encodeByte byte := by
  have hbyte : byte.toNat < 256 := byte.toNat_lt
  have hhigh := hdigit (byte.toNat / 16) (by omega)
  have hlow := hdigit (byte.toNat % 16) (by omega)
  simp [encodeByte, hpercent, hhigh, hlow]

/-- A character that is encoded is gone, unless it is one of those that encodings are made of. -/
theorem notMem_encode {mark : Char} (hmark : mark ∈ set) (hpercent : mark ≠ '%')
    (hdigit : ∀ n < 16, mark ≠ Text.hexDigitUpper n) (chars : List Char) :
    mark ∉ encode set chars := by
  intro hmem
  obtain ⟨c, -, hmem⟩ := List.mem_flatMap.mp hmem
  rw [encodeChar] at hmem
  split at hmem
  · obtain ⟨byte, -, hmem⟩ := List.mem_flatMap.mp hmem
    exact notMem_encodeByte hpercent hdigit byte hmem
  · rename_i hplain
    rw [← List.mem_singleton.mp hmem] at hplain
    simp [hmark] at hplain

end Url.Percent

end DocumentSearch
