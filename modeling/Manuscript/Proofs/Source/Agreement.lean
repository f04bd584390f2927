import Manuscript.Proofs.Source.Outcome
import Manuscript.Proofs.Text.Utf8

/-!
# Sources of one text

A text is the same document wherever it comes from: as it is, in bytes, in a stream or in a file,
with or without a mark in front of the bytes (`document_of_carries`). A text as it is must not name
a file, and the text must not begin with the character of the mark, which would be taken for one.

Bytes always have a text. One mark at most is dropped, what is UTF-8 is read as such, and all other
bytes are characters of their own (`decode_mark_append`, `decode_toUTF8`, `decode_of_not_utf8`).
-/

namespace Manuscript.Source

/-! ## The text of bytes -/

open Text (mark)

theorem decode_mark_append (t : String) : decode (mark ++ t.toUTF8) = t := by
  rw [decode, Text.dropMark_mark_append, Text.decodeUtf8?_toUTF8, Option.getD_some]

theorem decode_toUTF8 {t : String} (h : t.toList.head? ≠ some '\uFEFF') :
    decode t.toUTF8 = t := by
  rw [decode, Text.dropMark_toUTF8 h, Text.decodeUtf8?_toUTF8, Option.getD_some]

theorem toNat_ofNat_of_byte (b : UInt8) : (Char.ofNat b.toNat).toNat = b.toNat := by
  have hvalid : Nat.isValidChar b.toNat := .inl (by have := b.toNat_lt; omega)
  rw [Char.ofNat, dif_pos hvalid]
  rfl

/-- Bytes that are no UTF-8 are read one by one, a mark in front of them included. -/
theorem decode_of_not_utf8 {b : ByteArray} (h : ∀ t : String, b ≠ t.toUTF8) :
    (decode b).toList.map Char.toNat = b.data.toList.map UInt8.toNat := by
  have hnone : Text.decodeUtf8? (Text.dropMark b) = none := by
    by_cases hmark : ∃ c, b = mark ++ c
    · obtain ⟨c, rfl⟩ := hmark
      rw [Text.dropMark_mark_append]
      exact Text.decodeUtf8?_eq_none (Text.ne_toUTF8_of_mark_append h)
    · rw [Text.dropMark_eq_self (not_exists.1 hmark)]
      exact Text.decodeUtf8?_eq_none h
  rw [decode, hnone, Option.getD_none, Text.decodeBytewise, String.toList_ofList, List.map_map]
  exact List.map_congr_left fun b _ => toNat_ofNat_of_byte b

/-! ## Sources -/

/-- The bytes of a text, with or without the mark in front of them. -/
inductive Encodes (t : String) : ByteArray → Prop
  | plain : Encodes t t.toUTF8
  | marked : Encodes t (mark ++ t.toUTF8)

theorem Encodes.decode_eq {t : String} {b : ByteArray} (hb : Encodes t b)
    (h : t.toList.head? ≠ some '\uFEFF') : decode b = t := by
  cases hb with
  | plain => exact decode_toUTF8 h
  | marked => exact decode_mark_append t

/-- A source that a text comes from: the text as it is, its bytes, a stream of either its bytes or
    its characters, or the path of a file that can be opened and holds its bytes. -/
inductive Carries (fs : Files) (t : String) : Source → Prop
  | text : Carries fs t (.text t)
  | bytes {b : ByteArray} (h : Encodes t b) : Carries fs t (.bytes b)
  | stream {b : ByteArray} (h : Encodes t b) : Carries fs t (.stream b)
  | characters : Carries fs t (.characters t)
  | path {p : Path} {b : ByteArray} (hp : fs.Opens p b) (h : Encodes t b) :
    Carries fs t (.path p)

/-- A text is taken for the name of a file if it is short and of one line and there is such a
    file, and otherwise for what it says. -/
theorem namedFile?_eq_none_iff {fs : Files} {t : String} :
    namedFile? fs t = none ↔
      '\n' ∈ t.toList ∨ 260 < t.length ∨ fs.isFile (.ofText t) ≠ .ok true := by
  rw [namedFile?]
  split
  case isTrue h =>
    obtain ⟨hlength, hline⟩ := h
    rw [List.contains_iff_mem] at hline
    have hlength : ¬ 260 < t.length := Nat.not_lt.2 hlength
    rw [or_iff_right hline, or_iff_right hlength]
    split <;> simp_all
  case isFalse h =>
    simp only [true_iff]
    rw [List.contains_iff_mem, not_and_or, not_not, Nat.not_le] at h
    exact h.elim (fun h => .inr (.inl h)) .inl

variable {fs : Files} {t : String} {s : Source}

/-- From each source of a text it is that text that is read. -/
theorem Carries.load_eq (hs : Carries fs t s) (hmark : t.toList.head? ≠ some '\uFEFF')
    (hplain : namedFile? fs t = none) : s.load fs = .ok t := by
  cases hs with
  | text => rw [load_text, hplain]
  | bytes hb | stream hb => rw [load, hb.decode_eq hmark]
  | characters => rfl
  | path hp hb =>
    rw [load, readFile_of_opens hp, hb.decode_eq hmark]

/-- Sources from which one text is read give one document, and leave the same records behind. -/
theorem document_congr {s' : Source} (r : Readers) (o : MarkdownOptions)
    (h : s.load fs = s'.load fs) : s.document r fs o = s'.document r fs o := by
  rw [document_eq, document_eq, h]

/-- All sources of a text give the same document. Reading the text of bytes never fails: one mark in
    front of them is dropped, UTF-8 is read as the text that it encodes, and of any other bytes each
    gives the character of its number. -/
theorem document_of_carries (r : Readers) (fs : Files) (o : MarkdownOptions) :
    (∀ t s, t.toList.head? ≠ some '\uFEFF' →
      '\n' ∈ t.toList ∨ 260 < t.length ∨ fs.isFile (.ofText t) ≠ .ok true → Carries fs t s →
      s.load fs = .ok t ∧ s.document r fs o = (Source.text t).document r fs o) ∧
    (∀ t : String, decode (mark ++ t.toUTF8) = t) ∧
    (∀ t : String, t.toList.head? ≠ some '\uFEFF' → decode t.toUTF8 = t) ∧
    ∀ b : ByteArray, (∀ t : String, b ≠ t.toUTF8) →
      (decode b).toList.map Char.toNat = b.data.toList.map UInt8.toNat := by
  refine ⟨fun t s hmark hplain hs => ?_, decode_mark_append, fun _ => decode_toUTF8,
    fun _ => decode_of_not_utf8⟩
  have hnamed := namedFile?_eq_none_iff.2 hplain
  have hload := hs.load_eq hmark hnamed
  exact ⟨hload, document_congr r o (hload.trans (Carries.text.load_eq hmark hnamed).symm)⟩

/-- A file whose bytes open with a mark, and bytes that are no UTF-8 though they open with one. -/
theorem document_of_carries_marked :
    let fs : Files := { top := .folder [("a.md", .file (mark ++ "é\n".toUTF8))] }
    let b : ByteArray := mark ++ ⟨#[0xff]⟩
    "é\n".toList.head? ≠ some '\uFEFF' ∧ '\n' ∈ "é\n".toList ∧
      Carries fs "é\n" (.path { names := ["a.md"] }) ∧ (∀ t : String, b ≠ t.toUTF8) ∧
      (Source.path { names := ["a.md"] }).document {} fs {} =
        (Source.text "é\n").document {} fs {} ∧
      decode (mark ++ "é\n".toUTF8) = "é\n" ∧ decode "é\n".toUTF8 = "é\n" ∧
      (decode b).toList.map Char.toNat = [0xef, 0xbb, 0xbf, 0xff] := by
  intro fs b
  have hmark : "é\n".toList.head? ≠ some '\uFEFF' := by decide +kernel
  have hline : '\n' ∈ "é\n".toList := by decide +kernel
  have hcarries : Carries fs "é\n" (.path { names := ["a.md"] }) := .path ⟨by rfl, by rfl⟩ .marked
  have hb : ∀ t : String, b ≠ t.toUTF8 := by
    intro t ht
    have hvalid : ¬ b.IsValidUTF8 := by decide +kernel
    exact hvalid (ht ▸ t.isValidUTF8)
  obtain ⟨hsame, hmarked, hplain, hbytes⟩ := document_of_carries {} fs {}
  exact ⟨hmark, hline, hcarries, hb, (hsame _ _ hmark (.inl hline) hcarries).2, hmarked _,
    hplain _ hmark, hbytes b hb⟩

end Manuscript.Source
