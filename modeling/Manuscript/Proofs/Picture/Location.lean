import Manuscript.Picture.Location
import Manuscript.Proofs.Text.Percent
import Mathlib.Data.List.TakeWhile

/-!
# Names as addresses

The name of a file is percent-encoded where it stands for the address of a picture (`addressOf`),
and the address is taken for a path as it is. So from the folder of the document the address leads
to a file whose name is spelled like the address (`locate_addressOf`), and that is the file of the
name if and only if there is nothing in the name to encode (`locate_addressOf_iff`).

* `Path.mem_toList_of_mem_names`, `Path.exists_mem_names`: the characters of a path and its names;
* `isScheme_iff`: which addresses have a scheme;
* `hasScheme_of_percentEncode`: encoding gives no scheme to a name that has none;
* `path?_of_isAddressChar`: an address without a scheme is a path.
-/

namespace Manuscript

/-! ## The characters of paths -/

theorem exists_mem_splitOn_iff [BEq α] [LawfulBEq α] {a x : α} {xs : List α} :
    (∃ part ∈ xs.splitOn a, x ∈ part) ↔ x ∈ xs ∧ x ≠ a := by
  induction xs with
  | nil => simp
  | cons y ys ih =>
    obtain ⟨part, parts, hparts⟩ := List.exists_cons_of_ne_nil (List.splitOn_ne_nil a ys)
    have hcons (p : List α) (ps : List (List α)) :
        (∃ part ∈ p :: ps, x ∈ part) ↔ x ∈ p ∨ ∃ part ∈ ps, x ∈ part := by
      simp
    rw [List.splitOn_cons_eq_if_modifyHead, List.mem_cons]
    by_cases hy : y = a
    · rw [if_pos (beq_iff_eq.2 hy), hcons, ih]
      grind
    · rw [hparts, hcons] at ih
      rw [if_neg (by simpa using hy), hparts, List.modifyHead_cons, hcons, List.mem_cons, or_assoc,
        ih]
      grind

namespace Path

/-- A path is absolute if its text starts with a slash. -/
theorem isAbsolute_ofText_iff {s : String} :
    (ofText s).isAbsolute = true ↔ s.toList.head? = some '/' := by
  rw [isAbsolute, ofText, rootOf]
  cases s.toList with
  | nil => simp
  | cons c cs =>
    by_cases hc : c = '/'
    · subst hc
      simp only [List.takeWhile_cons, beq_self_eq_true, if_true, List.length_cons, List.head?_cons,
        iff_true]
      split <;> simp_all
    · simp [hc]

/-- A character in the names of a path is one of its text. -/
theorem mem_toList_of_mem_names {s n : String} {c : Char} (hn : n ∈ (ofText s).names)
    (hc : c ∈ n.toList) : c ∈ s.toList := by
  obtain ⟨hn, -⟩ := List.mem_filter.1 hn
  obtain ⟨part, hpart, rfl⟩ := List.mem_map.1 hn
  rw [String.toList_ofList] at hc
  exact (exists_mem_splitOn_iff.1 ⟨part, hpart, hc⟩).1

/-- All characters of a path are in its names, but for slashes and dots. -/
theorem exists_mem_names {s : String} {c : Char} (h : c ∈ s.toList) (hslash : c ≠ '/')
    (hdot : c ≠ '.') : ∃ n ∈ (ofText s).names, c ∈ n.toList := by
  obtain ⟨part, hpart, hc⟩ := exists_mem_splitOn_iff.2 ⟨h, hslash⟩
  refine ⟨.ofList part, List.mem_filter.2 ⟨List.mem_map_of_mem hpart, ?_⟩, ?_⟩
  · have hne (s : String) (hs : c ∉ s.toList) : String.ofList part ≠ s := by
      rintro rfl
      exact hs (by rwa [String.toList_ofList])
    simp [hne "" (by simp), hne "." (by simpa using hdot)]
  · rwa [String.toList_ofList]

/-- The path on from a folder says which relative path it was. -/
theorem join_inj {b p q : Path} (hp : p.isAbsolute = false) (hq : q.isAbsolute = false) :
    b.join p = b.join q ↔ p.names = q.names := by
  simp [join, hp, hq]

end Path

namespace Picture

open Text (isAddressChar percentEncode)

/-! ## Schemes -/

/-- An address has a scheme in front: a letter and other characters of schemes, and a colon. -/
def HasScheme (cs : List Char) : Prop :=
  ∃ lead rest, cs = lead ++ ':' :: rest ∧ lead.head?.any Char.isAlpha = true ∧
    ∀ c ∈ lead, isSchemeChar c = true

/-- An address has a scheme as the reader of addresses finds it. -/
theorem isScheme_iff {cs : List Char} :
    ((cs.takeWhile (· != ':')).length < cs.length &&
      (cs.takeWhile (· != ':')).head?.any Char.isAlpha &&
        (cs.takeWhile (· != ':')).all isSchemeChar) = true ↔ HasScheme cs := by
  simp only [Bool.and_eq_true, decide_eq_true_eq, List.all_eq_true]
  constructor
  · rintro ⟨⟨hlength, halpha⟩, hscheme⟩
    -- The part before the first colon is shorter than the text, so there is a colon.
    have hsplit := List.takeWhile_append_dropWhile (p := (· != ':')) (l := cs)
    have hcolon := List.head?_dropWhile_not (· != ':') cs
    cases hrest : cs.dropWhile (· != ':') with
    | nil =>
      rw [hrest, List.append_nil] at hsplit
      rw [hsplit] at hlength
      exact absurd hlength (Nat.lt_irrefl _)
    | cons c rest =>
      rw [hrest] at hsplit hcolon
      obtain rfl : c = ':' := by simpa using hcolon
      exact ⟨_, rest, hsplit.symm, halpha, hscheme⟩
  · rintro ⟨lead, rest, rfl, halpha, hscheme⟩
    -- A colon is no character of a scheme, so the first one ends it.
    have hcolon : ∀ c ∈ lead, (c != ':') = true := by
      intro c hc
      rw [bne_iff_ne]
      rintro rfl
      exact absurd (hscheme _ hc) (by decide)
    have hlead : (lead ++ ':' :: rest).takeWhile (· != ':') = lead := by
      rw [List.takeWhile_append_of_pos hcolon]
      simp
    rw [hlead]
    exact ⟨⟨by simp, halpha⟩, hscheme⟩

/-- An address without a scheme is all path. -/
theorem splitScheme_of_not {cs : List Char} (h : ¬ HasScheme cs) : splitScheme cs = ("", cs) := by
  rw [splitScheme]
  exact if_neg fun hscheme => h (isScheme_iff.1 hscheme)

theorem splitScheme_of_hasScheme {cs : List Char} (h : HasScheme cs) : (splitScheme cs).1 ≠ "" := by
  have hscheme := isScheme_iff.2 h
  rw [splitScheme, if_pos hscheme]
  intro hempty
  have hlead := congrArg String.toList hempty
  change (String.map Char.toLower _).toList = _ at hlead
  rw [String.toList_map, String.toList_ofList, String.toList_empty, List.map_eq_nil_iff] at hlead
  rw [hlead] at hscheme
  simp at hscheme

/-- Encoding leaves alone what is in front of a scheme. -/
theorem hasScheme_of_percentEncode {cs : List Char} (h : HasScheme (percentEncode cs)) :
    HasScheme cs := by
  obtain ⟨lead, rest, heq, halpha, hscheme⟩ := h
  suffices hrest : ∃ rest, cs = lead ++ ':' :: rest by
    obtain ⟨rest, rfl⟩ := hrest
    exact ⟨lead, rest, rfl, halpha, hscheme⟩
  clear halpha
  induction cs generalizing lead with
  | nil => cases lead <;> cases heq
  | cons c cs ih =>
    rw [Text.percentEncode_cons] at heq
    cases hc : isAddressChar c with
    | false =>
      -- A percent sign is no part of a scheme.
      obtain ⟨ds, hds⟩ := Text.percentChar_of_not hc
      rw [hds] at heq
      cases lead with
      | nil => cases (List.cons.inj heq).1
      | cons d lead =>
        obtain rfl : '%' = d := (List.cons.inj heq).1
        exact absurd (hscheme '%' List.mem_cons_self) (by decide)
    | true =>
      rw [Text.percentChar_of_isAddressChar hc] at heq
      cases lead with
      | nil =>
        obtain rfl : c = ':' := (List.cons.inj heq).1
        exact ⟨cs, rfl⟩
      | cons d lead =>
        obtain ⟨rfl, hlead⟩ := List.cons.inj heq
        obtain ⟨rest, rfl⟩ := ih lead hlead fun e he => hscheme e (List.mem_cons_of_mem _ he)
        exact ⟨rest, rfl⟩

/-! ## Addresses without a scheme -/

/-- Characters that addresses may hold are no control characters. -/
theorem isControl_of_isAddressChar {c : Char} (h : isAddressChar c = true) :
    isControl c = false := by
  rw [isAddressChar, Bool.or_eq_true] at h
  rw [isControl, decide_eq_false_iff_not, Nat.not_le]
  rcases h with h | h
  · delta Char.isAlphanum Char.isAlpha Char.isUpper Char.isLower Char.isDigit at h
    simp only [Bool.or_eq_true, Bool.and_eq_true, decide_eq_true_eq, ge_iff_le,
      UInt32.le_iff_toNat_le, Char.reduceVal, UInt32.reduceToNat] at h
    rw [Char.toNat]
    omega
  · have hmarks : ("_.-~:/?#@!$&()*+,;=%".toList.all fun d => 0x20 < d.toNat) = true := by decide
    exact of_decide_eq_true (List.all_eq_true.1 hmarks c (List.contains_iff_mem.1 h))

/-- An address of such characters is read as it is. -/
theorem cleaned_of_isAddressChar {s : String} (h : ∀ c ∈ s.toList, isAddressChar c = true) :
    cleaned s = s.toList := by
  have hcontrol : ∀ c ∈ s.toList, isControl c = false := fun c hc =>
    isControl_of_isAddressChar (h c hc)
  have hdrop : s.toList.dropWhile isControl = s.toList :=
    List.dropWhile_eq_self_iff.2 fun hl => by simp [hcontrol]
  rw [cleaned, hdrop, List.filter_eq_self]
  intro c hc
  have hblank (d : Char) (hd : isControl d = true) : (c != d) = true := by
    rw [bne_iff_ne]
    rintro rfl
    rw [hcontrol _ hc] at hd
    cases hd
  rw [hblank '\t' rfl, hblank '\r' rfl, hblank '\n' rfl]
  rfl

/-- An address without a scheme is a path, if it is not one from the root. -/
theorem path?_of_isAddressChar {s : String} (haddress : ∀ c ∈ s.toList, isAddressChar c = true)
    (hscheme : ¬ HasScheme s.toList) (hrelative : (Path.ofText s).isAbsolute = false) :
    path? s = .ok (some (.ofText s)) := by
  have hhead : s.toList.head? ≠ some '/' := by
    rw [Ne, ← Path.isAbsolute_ofText_iff, hrelative]
    exact Bool.false_ne_true
  have hhost : splitHost s.toList = ([], s.toList) := by
    unfold splitHost
    split
    · rename_i heq
      rw [heq] at hhead
      exact absurd rfl hhead
    · rfl
  -- What starts with a scheme for files has a scheme.
  have hfile : s.startsWith "file:" = false := by
    rw [← Bool.not_eq_true, String.startsWith_string_iff]
    rintro ⟨rest, hrest⟩
    refine hscheme ⟨"file".toList, rest, hrest.symm, by decide, List.all_eq_true.1 (by decide)⟩
  rw [path?, cleaned_of_isAddressChar haddress, splitScheme_of_not hscheme]
  dsimp only
  rw [hhost, hfile]
  rfl

/-- An address that leads to a path leads to it from the folder. -/
theorem locate_of_path? {b p : Path} {s : String} (h : path? s = .ok (some p)) :
    locate (some b) s = .ok (some (b.join p)) := by
  rw [locate, h]
  rfl

/-! ## Names -/

/-- The address of a picture that is named by a text. -/
def addressOf (name : String) : String :=
  .ofList (percentEncode name.toList)

theorem toList_addressOf (name : String) : (addressOf name).toList = percentEncode name.toList :=
  String.toList_ofList

/-- A name of characters that addresses may hold is its own address. -/
theorem addressOf_eq_self {name : String} (h : ∀ c ∈ name.toList, isAddressChar c = true) :
    addressOf name = name := by
  rw [addressOf, Text.percentEncode_eq_self_iff.2 h, String.ofList_toList]

/-- The address of a name holds only characters that it may. -/
theorem isAddressChar_of_mem_addressOf {name : String} :
    ∀ c ∈ (addressOf name).toList, isAddressChar c = true := by
  intro c hc
  rw [toList_addressOf] at hc
  exact Text.isAddressChar_of_mem_percentEncode hc

/-- The address of a relative name is relative. -/
theorem isAbsolute_addressOf {name : String} (h : (Path.ofText name).isAbsolute = false) :
    (Path.ofText (addressOf name)).isAbsolute = false := by
  rw [← Bool.not_eq_true, Path.isAbsolute_ofText_iff] at h ⊢
  rw [toList_addressOf]
  cases hname : name.toList with
  | nil => exact nofun
  | cons c cs =>
    rw [hname] at h
    rw [Text.percentEncode_cons]
    cases hc : isAddressChar c with
    | false =>
      obtain ⟨ds, hds⟩ := Text.percentChar_of_not hc
      rw [hds]
      exact fun h => absurd (Option.some.inj h) (by decide)
    | true =>
      rw [Text.percentChar_of_isAddressChar hc]
      exact h

section

variable {b : Path} {name : String} (hrelative : (Path.ofText name).isAbsolute = false)
  (hscheme : (splitScheme name.toList).1 = "")
include hrelative hscheme

/-- The address of a name leads to the file whose name is the address. -/
theorem locate_addressOf :
    locate (some b) (addressOf name) = .ok (some (b.join (.ofText (addressOf name)))) := by
  have hnone : ¬ HasScheme (addressOf name).toList := by
    rw [toList_addressOf]
    exact fun h => splitScheme_of_hasScheme (hasScheme_of_percentEncode h) hscheme
  exact locate_of_path? (path?_of_isAddressChar isAddressChar_of_mem_addressOf hnone
    (isAbsolute_addressOf hrelative))

/-- The address of a name leads to the file of that name only if there is nothing to encode. -/
theorem locate_addressOf_iff :
    locate (some b) (addressOf name) = .ok (some (b.join (.ofText name))) ↔
      ∀ c ∈ name.toList, isAddressChar c = true := by
  rw [locate_addressOf hrelative hscheme, Except.ok.injEq, Option.some.injEq,
    Path.join_inj (isAbsolute_addressOf hrelative) hrelative]
  constructor
  · intro hnames c hc
    by_cases hmark : c = '/' ∨ c = '.'
    · rcases hmark with rfl | rfl <;> rfl
    · obtain ⟨hslash, hdot⟩ := not_or.1 hmark
      obtain ⟨n, hn, hcn⟩ := Path.exists_mem_names hc hslash hdot
      rw [← hnames] at hn
      exact isAddressChar_of_mem_addressOf c (Path.mem_toList_of_mem_names hn hcn)
  · intro h
    rw [addressOf_eq_self h]

end

example : locate (some {}) (addressOf "a b.png") = .ok (some (.ofText "a%20b.png")) := by
  decide +kernel

end Picture

end Manuscript
