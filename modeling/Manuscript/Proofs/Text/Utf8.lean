import Manuscript.Text.Utf8
import Mathlib.Data.List.Basic

/-!
# Reading back what was encoded

The bytes of a text read back as that text (`decodeUtf8?_toUTF8`), and other bytes as none
(`decodeUtf8?_eq_none`). The mark that may open a text in bytes is itself the encoding of a
character (`utf8Encode_mark`). So it is dropped from the bytes of a text if and only if the text
begins with that character (`dropMark_mark_append`, `dropMark_toUTF8`), and it makes no difference
to whether bytes are those of a text (`ne_toUTF8_of_mark_append`).
-/

namespace Manuscript.Text

/-- The bytes of the mark that may open a text. -/
def mark : ByteArray := ⟨#[0xef, 0xbb, 0xbf]⟩

/-- The mark is the encoding of the character of its own that stands for it. -/
theorem utf8Encode_mark : ['\uFEFF'].utf8Encode = mark := by
  rw [List.utf8Encode_singleton]
  decide

/-! ## Dropping the mark -/

theorem dropMark_mark_append (b : ByteArray) : dropMark (mark ++ b) = b := by
  have hsize : mark.size = 3 := rfl
  rw [dropMark, if_pos, ← hsize, ByteArray.extract_append_eq_right rfl (by simp)]
  simp [mark, ByteArray.data_append, Array.getElem?_append]

theorem dropMark_eq_self {b : ByteArray} (h : ∀ c, b ≠ mark ++ c) : dropMark b = b := by
  rw [dropMark, if_neg]
  rintro ⟨h0, h1, h2⟩
  obtain ⟨_, e0⟩ := Array.getElem?_eq_some_iff.1 h0
  obtain ⟨_, e1⟩ := Array.getElem?_eq_some_iff.1 h1
  obtain ⟨hsize, e2⟩ := Array.getElem?_eq_some_iff.1 h2
  have hthree : 0 + 3 ≤ b.size := hsize
  have hmark : b.extract 0 3 = mark := by
    rw [ByteArray.extract_add_three hthree]
    simp only [ByteArray.getElem_eq_getElem_data, Nat.zero_add, e0, e1, e2]
    rfl
  -- Then the bytes are the mark and what follows it.
  refine h (b.extract 3 b.size) ?_
  rw [← hmark, ← ByteArray.extract_eq_extract_append_extract 3 (by omega) hthree,
    ByteArray.extract_zero_size]

/-- The bytes of a text open with the mark only if the text begins with its character. -/
theorem dropMark_toUTF8 {t : String} (h : t.toList.head? ≠ some '\uFEFF') :
    dropMark t.toUTF8 = t.toUTF8 := by
  refine dropMark_eq_self fun c hc => h ?_
  rw [String.toUTF8_eq_toByteArray, ← String.utf8Encode_toList, ← utf8Encode_mark] at hc
  obtain ⟨rest, hrest⟩ := List.isPrefix_of_utf8Encode_append_eq_utf8Encode c hc.symm
  rw [← hrest]
  rfl

/-! ## Decoding -/

theorem decodeUtf8?_toUTF8 (t : String) : decodeUtf8? t.toUTF8 = some t := by
  rw [decodeUtf8?, String.fromUTF8?, String.toUTF8_eq_toByteArray, dif_pos t.isValidUTF8]
  rfl

theorem decodeUtf8?_eq_none {b : ByteArray} (h : ∀ t : String, b ≠ t.toUTF8) :
    decodeUtf8? b = none := by
  rw [decodeUtf8?, String.fromUTF8?, dif_neg]
  exact fun hb => h (.fromUTF8 b hb) rfl

/-- Bytes that are no text are none without the mark in front of them, either. -/
theorem ne_toUTF8_of_mark_append {b : ByteArray} (h : ∀ t : String, mark ++ b ≠ t.toUTF8)
    (t : String) : b ≠ t.toUTF8 := by
  rintro rfl
  refine h (.ofList ('\uFEFF' :: t.toList)) ?_
  rw [String.toUTF8_eq_toByteArray, String.toUTF8_eq_toByteArray, String.toByteArray_ofList,
    List.utf8Encode_cons, utf8Encode_mark, String.utf8Encode_toList]

end Manuscript.Text
