import Manuscript.Markdown.Address

/-!
# Names in angle brackets

A text between angle brackets is the address of a link or picture. If none of its characters means
anything there (`IsVerbatim`), the address is the text, percent-encoded (`readTarget_bracketed`).
-/

namespace Manuscript.Markdown

open Text (percentEncode)

/-- The characters of a text stand for themselves between angle brackets. -/
def IsVerbatim (cs : List Char) : Prop :=
  ∀ c ∈ cs, c ∉ ['\\', '&', '<', '>', '\n']

theorem decodeWith_length {cs : List Char} (h : '&' ∉ cs) :
    Text.Entity.decodeWith cs.length cs = cs := by
  induction cs with
  | nil => rfl
  | cons c cs ih =>
    obtain ⟨hc, hcs⟩ := List.ne_and_not_mem_of_not_mem_cons h
    rw [List.length_cons, Text.Entity.decodeWith, ih hcs]
    rintro rfl
    exact absurd rfl hc

theorem unescape_eq_self {cs : List Char} (h : '\\' ∉ cs) : unescape cs = cs := by
  induction cs with
  | nil => rfl
  | cons c cs ih =>
    obtain ⟨hc, hcs⟩ := List.ne_and_not_mem_of_not_mem_cons h
    rw [unescape, ih hcs]
    rintro d ds rfl
    exact absurd rfl hc

/-- Reading goes as far as the closing character. -/
theorem readUntil_append {close : Char} {barred cs : List Char} (hclose : close ≠ '\\')
    (h : ∀ c ∈ cs, c ≠ '\\' ∧ c ≠ close ∧ c ∉ barred) (rest : List Char) :
    readUntil close barred (cs ++ close :: rest) = some (cs, rest) := by
  induction cs with
  | nil =>
    rw [List.nil_append, readUntil, if_pos rfl]
    rintro d ds rfl
    exact absurd rfl hclose
  | cons c cs ih =>
    obtain ⟨⟨hescape, hclose, hbarred⟩, hcs⟩ := List.forall_mem_cons.1 h
    rw [List.cons_append, readUntil, if_neg hclose, if_neg (by simpa using hbarred), ih hcs]
    · rfl
    · rintro d ds rfl
      exact absurd rfl hescape

/-- A text between angle brackets that means nothing there is encoded as it stands. -/
theorem readTarget_bracketed {cs : List Char} (h : IsVerbatim cs) (rest : List Char) :
    readTarget ('<' :: cs ++ '>' :: ')' :: rest) = some ({ url := percentEncode cs }, rest) := by
  have hmem (c : Char) (hc : c ∈ ['\\', '&', '<', '>', '\n']) : c ∉ cs := fun hcs => h c hcs hc
  have hread : readUntil '>' ['<', '\n'] (cs ++ '>' :: ')' :: rest) = some (cs, ')' :: rest) := by
    refine readUntil_append (by decide) (fun c hc => ?_) _
    have hbarred := h c hc
    simp_all
  have haddress : address (unescape cs) = percentEncode cs := by
    rw [unescape_eq_self (hmem _ (by simp)), address, Text.Entity.decode,
      decodeWith_length (hmem _ (by simp))]
  have hfirst : readAddress ('<' :: cs ++ '>' :: ')' :: rest) =
      some (percentEncode cs, ')' :: rest) := by
    rw [List.cons_append, readAddress, hread, ← haddress]
    rfl
  have hstart : ('<' :: cs ++ '>' :: ')' :: rest).dropWhile isSpacing =
      '<' :: cs ++ '>' :: ')' :: rest := rfl
  rw [readTarget, hstart, hfirst]
  rfl

end Manuscript.Markdown
