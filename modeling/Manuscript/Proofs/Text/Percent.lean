import Manuscript.Text.Percent

/-!
# What percent encoding does

An encoded text has only characters of addresses (`isAddressChar_of_mem_percentEncode`), so encoding
leaves a text as it is if and only if that has no others (`percentEncode_eq_self_iff`). What
encoding adds are percent signs, digits and letters (`mem_percentEncode`), and each character that
is encoded begins with a percent sign (`percentChar_of_not`).
-/

namespace Manuscript.Text

/-! ## Bytes of characters -/

theorem toList_loop (bs : ByteArray) (i : Nat) (r : List UInt8) :
    ByteArray.toList.loop bs i r = r.reverse ++ bs.data.toList.drop i := by
  fun_induction ByteArray.toList.loop bs i r with
  | case1 i r h ih =>
    have hi : i < bs.data.toList.length := by simpa using h
    rw [ih, List.drop_eq_getElem_cons hi]
    simp [ByteArray.get!, h]
  | case2 i r h =>
    rw [List.drop_eq_nil_of_le (by simpa using h), List.append_nil]

/-- The bytes in a list are those in the array. -/
theorem toList_eq (bs : ByteArray) : bs.toList = bs.data.toList := by
  rw [ByteArray.toList, toList_loop, List.reverse_nil, List.nil_append, List.drop_zero]

/-- A character has at least one byte. -/
theorem toList_toUTF8_ne_nil (c : Char) : c.toString.toUTF8.toList ≠ [] := by
  rw [toList_eq, Char.toString, String.toUTF8_eq_toByteArray, String.toByteArray_singleton,
    List.utf8Encode_singleton, List.toList_data_toByteArray]
  exact String.utf8EncodeChar_ne_nil

/-! ## Digits -/

/-- Each digit of a number in base sixteen is a digit. -/
theorem exists_hexDigit_of_mem {width n : Nat} {c : Char} (h : c ∈ hexDigits width n) :
    ∃ m, c = hexDigit m := by
  induction width generalizing n with
  | zero => cases h
  | succ width ih =>
    rcases List.mem_append.1 h with h | h
    · exact ih h
    · exact ⟨n, List.mem_singleton.1 h⟩

theorem isAlphanum_hexDigit (n : Nat) : (hexDigit n).toUpper.isAlphanum = true := by
  have hdigits : ∀ m < 16, (Nat.digitChar m).toUpper.isAlphanum = true := by decide
  exact hdigits _ (Nat.mod_lt _ (by decide))

/-- A byte is written with a sign and two digits. -/
theorem mem_percentByte {b : UInt8} {c : Char} (h : c ∈ percentByte b) :
    c = '%' ∨ c.isAlphanum = true := by
  rcases List.mem_cons.1 h with rfl | h
  · exact .inl rfl
  · obtain ⟨d, hd, rfl⟩ := List.mem_map.1 h
    obtain ⟨n, rfl⟩ := exists_hexDigit_of_mem hd
    exact .inr (isAlphanum_hexDigit n)

/-! ## Encoding -/

/-- What a character is encoded as. -/
def percentChar (c : Char) : List Char :=
  if isAddressChar c then [c] else c.toString.toUTF8.toList.flatMap percentByte

/-- Texts are encoded character by character. -/
theorem percentEncode_cons (c : Char) (cs : List Char) :
    percentEncode (c :: cs) = percentChar c ++ percentEncode cs :=
  List.flatMap_cons

/-- A character that addresses may hold stays as it is. -/
theorem percentChar_of_isAddressChar {c : Char} (h : isAddressChar c = true) :
    percentChar c = [c] :=
  if_pos h

/-- Any other character starts with the sign of an encoded one. -/
theorem percentChar_of_not {c : Char} (h : isAddressChar c = false) :
    ∃ cs, percentChar c = '%' :: cs := by
  rw [percentChar, if_neg (by simp [h])]
  obtain ⟨b, bs, hbs⟩ := List.exists_cons_of_ne_nil (toList_toUTF8_ne_nil c)
  rw [hbs, List.flatMap_cons, percentByte]
  exact ⟨_, rfl⟩

/-- The characters of an encoded text are those of the text that may stand in an address, percent
    signs, digits and letters. -/
theorem mem_percentEncode {c : Char} {cs : List Char} (h : c ∈ percentEncode cs) :
    (c ∈ cs ∧ isAddressChar c = true) ∨ c = '%' ∨ c.isAlphanum = true := by
  obtain ⟨d, hd, hc⟩ := List.mem_flatMap.1 h
  split at hc
  · obtain rfl := List.mem_singleton.1 hc
    exact .inl ⟨hd, ‹_›⟩
  · obtain ⟨b, -, hc⟩ := List.mem_flatMap.1 hc
    exact .inr (mem_percentByte hc)

/-- An encoded text has only characters that addresses may hold. -/
theorem isAddressChar_of_mem_percentEncode {c : Char} {cs : List Char}
    (h : c ∈ percentEncode cs) : isAddressChar c = true := by
  obtain ⟨-, h⟩ | rfl | h := mem_percentEncode h
  · exact h
  · rfl
  · rw [isAddressChar, h, Bool.true_or]

/-- Only a text that could be part of an address is left as it is. -/
theorem percentEncode_eq_self_iff {cs : List Char} :
    percentEncode cs = cs ↔ ∀ c ∈ cs, isAddressChar c = true := by
  refine ⟨fun h c hc => isAddressChar_of_mem_percentEncode (h.symm ▸ hc), fun h => ?_⟩
  induction cs with
  | nil => rfl
  | cons c cs ih =>
    obtain ⟨hc, hcs⟩ := List.forall_mem_cons.1 h
    rw [percentEncode_cons, percentChar_of_isAddressChar hc, ih hcs, List.singleton_append]

end Manuscript.Text
