import Mathlib.Data.List.Basic
import PagePatch.Text.Percent

namespace PagePatch.Text

/-!
# Percent encoding undone

* `percentDecode` — the text that an encoded text stands for;
* `percentDecodeBytes_encoded` — the bytes of an encoded text are those of the text, whatever
  follows them;
* `percentDecode_percentEncode` — so a text can be read from its encoding;
* `not_mem_percentEncode` — a separator never stands in an encoded text.
-/

/-- The text that an encoded text `s` stands for, if its bytes are those of a text. -/
def percentDecode (s : List Char) : Option String :=
  String.fromUTF8? ⟨(percentDecodeBytes (utf8 s)).toArray⟩

/-! ### Bytes that stand for themselves -/

@[simp] theorem utf8_append (s t : List Char) : utf8 (s ++ t) = utf8 s ++ utf8 t :=
  List.flatMap_append

/-- Any byte `b` but that of the percent sign is kept. -/
theorem percentDecodeBytes_cons {b : UInt8} (hb : b ≠ 37) (bytes : List UInt8) :
    percentDecodeBytes (b :: bytes) = b :: percentDecodeBytes bytes := by
  have hne : (b == 37) = false := beq_false_of_ne hb
  -- up to two bytes are kept whatever they are
  match bytes with
  | [] => rfl
  | [_] => rfl
  | h :: l :: rest => rw [percentDecodeBytes, hne]

theorem percentDecodeBytes_append {bytes : List UInt8} (h : 37 ∉ bytes) (rest : List UInt8) :
    percentDecodeBytes (bytes ++ rest) = bytes ++ percentDecodeBytes rest := by
  induction bytes with
  | nil => rfl
  | cons b bytes ih =>
    rw [List.mem_cons, not_or] at h
    rw [List.cons_append, percentDecodeBytes_cons (Ne.symm h.1), ih h.2, List.cons_append]

/-- Only the percent sign has its byte: no other character `c` has it among its bytes. -/
theorem percent_not_mem_utf8EncodeChar {c : Char} (hc : c ≠ '%') :
    37 ∉ String.utf8EncodeChar c := by
  have hcode : c.val.toNat ≠ 37 := fun h => hc (Char.ext (UInt32.toNat_inj.mp h))
  have hpercent : ∀ n, 37 = UInt8.ofNat n ↔ n % 256 = 37 := fun n => by
    rw [← UInt8.toNat_inj, UInt8.toNat_ofNat']
    exact eq_comm
  intro hmem
  simp only [String.utf8EncodeChar] at hmem
  -- the bytes of a character outside of ASCII are 128 or more
  split_ifs at hmem
  all_goals
    simp only [List.mem_cons, List.not_mem_nil, or_false, hpercent] at hmem
    omega

/-! ### Bytes as two digits -/

/-- A hexadecimal digit is one byte, and has the value `n` that it was made for. -/
theorem hexDigit_byte : ∀ n < 16,
    String.utf8EncodeChar (hexDigit n) = [UInt8.ofNat (hexDigit n).toNat] ∧
      hexValue? (Char.ofNat (UInt8.ofNat (hexDigit n).toNat).toNat) = some n := by
  decide

/-- An encoded byte `b` is read as this byte, whatever follows. -/
theorem percentDecodeBytes_percentByte (b : UInt8) (rest : List UInt8) :
    percentDecodeBytes (utf8 (percentByte b) ++ rest) = b :: percentDecodeBytes rest := by
  have hb : b.toNat < 256 := UInt8.toNat_lt b
  obtain ⟨hhigh, hhighValue⟩ := hexDigit_byte (b.toNat / 16) (by omega)
  obtain ⟨hlow, hlowValue⟩ := hexDigit_byte (b.toNat % 16) (by omega)
  have hbytes : utf8 (percentByte b) = [37, UInt8.ofNat (hexDigit (b.toNat / 16)).toNat,
      UInt8.ofNat (hexDigit (b.toNat % 16)).toNat] := by
    simp only [utf8, percentByte, List.flatMap_cons, List.flatMap_nil, hhigh, hlow]
    rfl
  have hvalue : UInt8.ofNat (16 * (b.toNat / 16) + b.toNat % 16) = b := by
    -- the two digits are those of the byte to the base 16
    rw [Nat.div_add_mod]
    exact UInt8.ofNat_toNat
  rw [hbytes]
  simp only [List.cons_append, List.nil_append, percentDecodeBytes, beq_self_eq_true, hhighValue,
    hlowValue, hvalue]

theorem percentDecodeBytes_percentBytes (bytes rest : List UInt8) :
    percentDecodeBytes (utf8 (bytes.flatMap percentByte) ++ rest) =
      bytes ++ percentDecodeBytes rest := by
  induction bytes with
  | nil => rfl
  | cons b bytes ih =>
    rw [List.flatMap_cons, utf8_append, List.append_assoc, percentDecodeBytes_percentByte, ih,
      List.cons_append]

/-! ### Texts -/

/-- What is written for a character `c`, whether it is kept or encoded, is read as its bytes. -/
theorem percentDecodeBytes_char {keep : Char → Bool} (hkeep : keep '%' = false) (c : Char)
    (rest : List UInt8) :
    percentDecodeBytes (utf8 (if keep c then [c] else
      (String.utf8EncodeChar c).flatMap percentByte) ++ rest) =
        String.utf8EncodeChar c ++ percentDecodeBytes rest := by
  split
  · rename_i hkept
    have hne : c ≠ '%' := by
      rintro rfl
      rw [hkeep] at hkept
      cases hkept
    have hself : utf8 [c] = String.utf8EncodeChar c := List.append_nil _
    rw [hself, percentDecodeBytes_append (percent_not_mem_utf8EncodeChar hne)]
  · exact percentDecodeBytes_percentBytes _ rest

/-- **The bytes of an encoded text** are read as those of the text `s`, if every percent sign was
    encoded. -/
theorem percentDecodeBytes_encoded {keep : Char → Bool} (hkeep : keep '%' = false)
    (s : List Char) (rest : List UInt8) :
    percentDecodeBytes (utf8 (percentEncodeWith keep s) ++ rest) =
      utf8 s ++ percentDecodeBytes rest := by
  induction s with
  | nil => rfl
  | cons c s ih =>
    have hencoded : percentEncodeWith keep (c :: s) = (if keep c then [c] else
        (String.utf8EncodeChar c).flatMap percentByte) ++ percentEncodeWith keep s :=
      List.flatMap_cons
    have hbytes : utf8 (c :: s) = String.utf8EncodeChar c ++ utf8 s := List.flatMap_cons
    rw [hencoded, utf8_append, List.append_assoc, percentDecodeBytes_char hkeep, ih, hbytes,
      List.append_assoc]

/-- The bytes of a text `s` are read as this text. -/
theorem fromUTF8?_utf8 (s : String) : String.fromUTF8? ⟨(utf8 s.toList).toArray⟩ = some s := by
  have hbytes : (⟨(utf8 s.toList).toArray⟩ : ByteArray) = s.toByteArray := by
    rw [← String.utf8Encode_toList]
    refine ByteArray.ext ?_
    rw [List.utf8Encode, List.data_toByteArray]
    rfl
  rw [hbytes]
  unfold String.fromUTF8?
  rw [dif_pos s.isValidUTF8]
  rfl

/-- **A text is read from its encoding**, whatever characters `s` has. -/
theorem percentDecode_percentEncode (s : String) :
    percentDecode (percentEncode s).toList = some s := by
  have hkeep : isUnreserved '%' = false := by decide
  have hbytes := percentDecodeBytes_encoded hkeep s.toList []
  rw [List.append_nil, show percentDecodeBytes [] = [] from rfl, List.append_nil] at hbytes
  rw [percentDecode, percentEncode, String.toList_ofList, hbytes, fromUTF8?_utf8]

/-- The digits of encoded bytes, `hexDigit n`, are unreserved, so they are no separators. -/
theorem isUnreserved_hexDigit : ∀ n < 16, isUnreserved (hexDigit n) = true := by
  decide

/-- **A separator does not stand in an encoded text**: the character `c` is neither unreserved nor
    the percent sign. -/
theorem not_mem_percentEncode {c : Char} (hc : isUnreserved c = false) (hpercent : c ≠ '%')
    (s : String) : c ∉ (percentEncode s).toList := by
  rw [percentEncode, String.toList_ofList]
  intro hmem
  obtain ⟨x, -, hx⟩ := List.mem_flatMap.mp hmem
  split at hx
  · rename_i hkept
    rw [List.mem_singleton.mp hx, hkept] at hc
    cases hc
  · obtain ⟨b, -, hb⟩ := List.mem_flatMap.mp hx
    have hbound : b.toNat < 256 := UInt8.toNat_lt b
    simp only [percentByte, List.mem_cons, List.not_mem_nil, or_false] at hb
    rcases hb with rfl | rfl | rfl
    · exact hpercent rfl
    · rw [isUnreserved_hexDigit _ (by omega)] at hc
      cases hc
    · rw [isUnreserved_hexDigit _ (by omega)] at hc
      cases hc

end PagePatch.Text
