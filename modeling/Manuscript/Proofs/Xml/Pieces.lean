import Manuscript.Xml.Piece
import Manuscript.Xml.Print
import Mathlib.Data.List.Basic

/-!
# The pieces of what was written

A tree is written as a sequence of pieces: the start of an element, what is in it, and its finish.
-/

namespace Manuscript.Xml

/-- What is written of a text, as characters. -/
def textChars (s : String) : List Char :=
  s.toList.flatMap fun c => (writtenInText c).toList

/-- What is written of a value, as characters. -/
def valueChars (s : String) : List Char :=
  s.toList.flatMap fun c => (writtenInValue c).toList

/-- A text is allowed if each of its characters may stand in a tree. -/
def Allowed (s : String) : Prop :=
  ∀ c ∈ s.toList, isAllowed c = true

instance (s : String) : Decidable (Allowed s) :=
  decidable_of_iff (s.toList.all isAllowed = true) List.all_eq_true

namespace Piece

/-! ## Splitting -/

/-- A text is split at the first place where the character comes that what is looked for begins
    with. -/
theorem splitFrom?_append {c : Char} {s cs : List Char} (h : c ∉ cs) (before rest : List Char) :
    splitFrom? (c :: s) before (cs ++ (c :: s ++ rest)) = some (before.reverse ++ cs, rest) := by
  induction cs generalizing before with
  | nil => simp [splitFrom?, List.isPrefixOf]
  | cons d cs ih =>
    rw [List.mem_cons, not_or] at h
    have hne : (c == d) = false := beq_eq_false_iff_ne.2 h.1
    rw [List.cons_append, splitFrom?, if_neg (by simp [List.isPrefixOf, hne]), ih h.2]
    simp

/-- A text is split at a character where that first stands. -/
theorem splitAt?_char {c : Char} {cs : List Char} (h : c ∉ cs) (rest : List Char) :
    splitAt? c.toString (cs ++ c :: rest) = some (cs, rest) := by
  rw [splitAt?, show c.toString.toList = [c] by simp]
  exact splitFrom?_append h [] rest

/-- A text is not split where one of the characters looked for is missing. -/
theorem splitFrom?_eq_none {s : List Char} {c : Char} {cs : List Char} (hs : c ∈ s) (h : c ∉ cs)
    (before : List Char) : splitFrom? s before cs = none := by
  induction cs generalizing before with
  | nil => rfl
  | cons d cs ih =>
    have hnot : ¬ s.isPrefixOf (d :: cs) = true := fun hp =>
      h ((List.isPrefixOf_iff_prefix.1 hp).subset hs)
    rw [splitFrom?, if_neg hnot, ih fun hc => h (List.mem_cons_of_mem d hc)]

/-! ## References -/

section References

variable {f : Char → Char} {done rest : List Char} {fuel : Nat}

/-- A character that starts no reference stands for itself. -/
theorem resolveFrom?_self {c : Char} (hc : isAllowed c = true) (hamp : c ≠ '&') (hf : f c = c) :
    resolveFrom? f done (fuel + 1) (c :: rest) = resolveFrom? f (c :: done) fuel rest := by
  rw [resolveFrom?, if_pos hc, hf]
  rintro rfl
  exact hamp rfl

/-- What a character of a text is written as is read as that character. -/
theorem resolveFrom?_writtenInText {c : Char} (hc : isAllowed c = true)
    (hf : c ≠ '\r' → f c = c) :
    resolveFrom? f done (fuel + 1) ((writtenInText c).toList ++ rest) =
      resolveFrom? f (c :: done) fuel rest := by
  -- Four characters are written as references, which compute; the others are written as they are.
  rw [writtenInText]
  split
  case isTrue h => subst h; rfl
  split
  case isTrue h => subst h; rfl
  split
  case isTrue h => subst h; rfl
  split
  case isTrue h => subst h; rfl
  case isFalse hamp _ _ hreturn =>
    rw [show c.toString.toList = [c] by simp]
    exact resolveFrom?_self hc hamp (hf hreturn)

/-- What a character of a value is written as is read as that character, though blanks of a value
    are read as spaces: those are written as references. -/
theorem resolveFrom?_writtenInValue {c : Char} (hc : isAllowed c = true) :
    resolveFrom? (fun c => if isSpace c then ' ' else c) done (fuel + 1)
        ((writtenInValue c).toList ++ rest) =
      resolveFrom? (fun c => if isSpace c then ' ' else c) (c :: done) fuel rest := by
  rw [writtenInValue]
  split
  case isTrue h => subst h; rfl
  split
  case isTrue h => subst h; rfl
  split
  case isTrue h => subst h; rfl
  case isFalse htab hfeed =>
    refine resolveFrom?_writtenInText hc fun hreturn => ?_
    -- A blank that is written as it is is a space.
    by_cases hspace : c = ' '
    · subst hspace
      rfl
    · simp [isSpace, hspace, htab, hfeed, hreturn]

/-- Characters are read as they were before they were written, one by one. -/
theorem resolveFrom?_written {written : Char → String}
    (hwritten : ∀ c, isAllowed c = true → ∀ done fuel rest,
      resolveFrom? f done (fuel + 1) ((written c).toList ++ rest) =
        resolveFrom? f (c :: done) fuel rest)
    {cs : List Char} (hcs : ∀ c ∈ cs, isAllowed c = true) (done : List Char) (fuel : Nat)
    (hfuel : cs.length < fuel) :
    resolveFrom? f done fuel (cs.flatMap fun c => (written c).toList) =
      some (done.reverse ++ cs) := by
  induction cs generalizing done fuel with
  | nil =>
    obtain ⟨fuel, rfl⟩ := Nat.exists_eq_add_one_of_ne_zero (Nat.ne_of_gt hfuel)
    simp [resolveFrom?]
  | cons c cs ih =>
    obtain ⟨fuel, rfl⟩ := Nat.exists_eq_add_one_of_ne_zero (Nat.ne_zero_of_lt hfuel)
    rw [List.forall_mem_cons] at hcs
    rw [List.flatMap_cons, hwritten c hcs.1, ih hcs.2 _ _ (Nat.lt_of_succ_lt_succ hfuel)]
    simp

end References

theorem length_le_flatMap {f : α → List β} (h : ∀ x, f x ≠ []) (xs : List α) :
    xs.length ≤ (xs.flatMap f).length := by
  induction xs with
  | nil => exact Nat.le_refl _
  | cons x xs ih =>
    have hpos : 0 < (f x).length := List.length_pos_iff.2 (h x)
    rw [List.flatMap_cons, List.length_append, List.length_cons]
    omega

theorem writtenInText_ne_nil (c : Char) : (writtenInText c).toList ≠ [] := by
  rw [writtenInText]
  split_ifs <;> simp

theorem writtenInValue_ne_nil (c : Char) : (writtenInValue c).toList ≠ [] := by
  rw [writtenInValue]
  split_ifs
  · simp
  · simp
  · simp
  · exact writtenInText_ne_nil c

/-- Writing a text makes it no shorter, so its length is fuel enough to read it again. -/
theorem length_le_textChars (s : String) : s.toList.length ≤ (textChars s).length :=
  length_le_flatMap writtenInText_ne_nil s.toList

/-- A text is read back from what is written of it. -/
theorem resolve?_textChars {s : String} (h : Allowed s) : resolve? id (textChars s) = some s := by
  have hread : resolveFrom? id [] ((textChars s).length + 1) (textChars s) = some s.toList :=
    resolveFrom?_written (fun c hc _ _ _ => resolveFrom?_writtenInText hc fun _ => rfl) h _ _
      (Nat.lt_succ_of_le (length_le_textChars s))
  rw [resolve?, hread, Option.map_some, String.ofList_toList]

/-- Some characters never stand for themselves in what is written of a text. -/
theorem not_mem_textChars (s : String) {c : Char} (hc : c ∈ ['<', '>', '\r']) :
    c ∉ textChars s := by
  intro h
  obtain ⟨d, -, hd⟩ := List.mem_flatMap.1 h
  rw [writtenInText] at hd
  simp only [List.mem_cons, List.not_mem_nil, or_false] at hc
  obtain rfl | rfl | rfl := hc
  all_goals split_ifs at hd <;> (simp at hd; try (subst hd; contradiction))

/-- Some characters never stand for themselves in what is written of a value. -/
theorem not_mem_valueChars (s : String) {c : Char} (hc : c ∈ ['<', '>', '\r', '\x22']) :
    c ∉ valueChars s := by
  intro h
  obtain ⟨d, -, hd⟩ := List.mem_flatMap.1 h
  rw [writtenInValue, writtenInText] at hd
  simp only [List.mem_cons, List.not_mem_nil, or_false] at hc
  obtain rfl | rfl | rfl | rfl := hc
  all_goals split_ifs at hd <;> (simp at hd; try (subst hd; contradiction))

/-- A value is read back from what is written of it, between its quotes. -/
theorem value?_valueChars {s : String} (h : Allowed s) : value? (valueChars s) = some s := by
  have hlong := length_le_flatMap writtenInValue_ne_nil s.toList
  have hread : resolveFrom? (fun c => if isSpace c then ' ' else c) []
      ((valueChars s).length + 1) (valueChars s) = some s.toList :=
    resolveFrom?_written (fun c hc _ _ _ => resolveFrom?_writtenInValue hc) h _ _
      (Nat.lt_succ_of_le hlong)
  have hnot : ¬ (valueChars s).contains '<' = true := by
    rw [List.contains_iff_mem]
    exact not_mem_valueChars s (by simp)
  rw [value?, if_neg hnot, resolve?, hread, Option.map_some, String.ofList_toList]

/-! ## Names -/

/-- A text that can be the name of an element or of an attribute, as it is written. -/
structure IsName (s : String) : Prop where
  starts : s.toList.head?.any startsName = true
  continues : ∀ c ∈ s.toList, continuesName c = true

instance (s : String) : Decidable (IsName s) :=
  decidable_of_iff (s.toList.head?.any startsName = true ∧ s.toList.all continuesName = true)
    ⟨fun h => ⟨h.1, List.all_eq_true.1 h.2⟩, fun h => ⟨h.starts, List.all_eq_true.2 h.continues⟩⟩

/-- A name has a first character, which may start one. -/
theorem IsName.exists_cons {s : String} (h : IsName s) :
    ∃ c cs, s.toList = c :: cs ∧ startsName c = true := by
  have hstarts := h.starts
  cases hs : s.toList with
  | nil =>
    rw [hs] at hstarts
    cases hstarts
  | cons c cs =>
    rw [hs] at hstarts
    exact ⟨c, cs, rfl, hstarts⟩

/-- A name is read up to the first character that is of no name. -/
theorem name?_append {s : String} (h : IsName s) {c : Char} (hc : continuesName c = false)
    (rest : List Char) : name? (s.toList ++ c :: rest) = some (s, c :: rest) := by
  obtain ⟨d, ds, hs, hd⟩ := h.exists_cons
  have htake : (s.toList ++ c :: rest).takeWhile continuesName = s.toList := by
    rw [List.takeWhile_append_of_pos h.continues, List.takeWhile_cons_of_neg (by simp [hc]),
      List.append_nil]
  have hdrop : (s.toList ++ c :: rest).dropWhile continuesName = c :: rest := by
    rw [List.dropWhile_append_of_pos h.continues, List.dropWhile_cons_of_neg (by simp [hc])]
  have hname : name? (s.toList ++ c :: rest) =
      some (.ofList ((s.toList ++ c :: rest).takeWhile continuesName),
        (s.toList ++ c :: rest).dropWhile continuesName) := by
    rw [hs, List.cons_append, name?, if_pos hd]
  rw [hname, htake, hdrop, String.ofList_toList]

/-! ## Attributes -/

/-- What is written of an attribute, as characters. -/
def attributeChars (a : String × String) : List Char :=
  ' ' :: (a.1.toList ++ '=' :: '\x22' :: (valueChars a.2 ++ ['\x22']))

/-- The end of the piece that starts an element. -/
def closing (closed : Bool) : List Char :=
  if closed then ['/', '>'] else ['>']

/-- There are no attributes before the end of a tag. -/
theorem attributes?_closing (closed : Bool) (rest : List Char) (fuel : Nat) :
    attributes? (fuel + 1) (closing closed ++ rest) = some ([], closed, rest) := by
  cases closed <;> rfl

/-- The characters that separate pieces are of no name. -/
theorem startsName_eq_false {c : Char}
    (h : c ∈ ['<', '>', '/', '?', '!', '=', ' ', '\t', '\n', '\r']) : startsName c = false := by
  have hall : ['<', '>', '/', '?', '!', '=', ' ', '\t', '\n', '\r'].all (!startsName ·) = true := by
    decide
  simpa using List.all_eq_true.1 hall c h

/-- One attribute is read, and then those after it, which must not have its name. -/
theorem attributes?_attributeChars {a : String × String} (hname : IsName a.1)
    (hvalue : Allowed a.2) (rest : List Char) (fuel : Nat) :
    attributes? (fuel + 1) (attributeChars a ++ rest) =
      (attributes? fuel rest).bind fun (more, closed, rest) =>
        if more.any (·.1 == a.1) then none else some (a :: more, closed, rest) := by
  obtain ⟨c, cs, hs, hc⟩ := hname.exists_cons
  have hne {d : Char} (hd : d ∈ ['<', '>', '/', '?', '!', '=', ' ', '\t', '\n', '\r']) : c ≠ d := by
    rintro rfl
    cases hc.symm.trans (startsName_eq_false hd)
  have hspace : isSpace c = false := by
    simp [isSpace, hne (d := ' '), hne (d := '\t'), hne (d := '\n'), hne (d := '\r')]
  have hdrop : (attributeChars a ++ rest).dropWhile isSpace =
      a.1.toList ++ '=' :: '\x22' :: (valueChars a.2 ++ '\x22' :: rest) := by
    have hblank : isSpace ' ' = true := rfl
    rw [attributeChars, List.cons_append, List.dropWhile_cons_of_pos hblank, hs, List.cons_append,
      List.cons_append, List.dropWhile_cons_of_neg (by simp [hspace])]
    simp
  have hread := name?_append hname (c := '=') (by decide)
    ('\x22' :: (valueChars a.2 ++ '\x22' :: rest))
  -- The value ends at the first quote, since no quote in it is written as one.
  have hsplit : splitAt? "\x22" (valueChars a.2 ++ '\x22' :: rest) = some (valueChars a.2, rest) :=
    splitAt?_char (c := '\x22') (not_mem_valueChars a.2 (by simp)) rest
  rw [attributes?, hdrop]
  split
  · rename_i heq
    rw [hs] at heq
    exact absurd (List.cons.inj heq).1 (hne (by simp))
  · rename_i heq
    rw [hs] at heq
    exact absurd (List.cons.inj heq).1 (hne (by simp))
  · have hhead : (attributeChars a ++ rest).head?.any isSpace = true := rfl
    rw [hhead, hread]
    have hequals : isSpace '=' = false := rfl
    have hquote : isSpace '\x22' = false := rfl
    simp [hequals, hquote, hsplit, value?_valueChars hvalue]

/-- Attributes of different names are read back up to the end of their tag. -/
theorem attributes?_append {as : List (String × String)} (hnames : ∀ a ∈ as, IsName a.1)
    (hvalues : ∀ a ∈ as, Allowed a.2) (hdistinct : (as.map (·.1)).Nodup) (closed : Bool)
    (rest : List Char) {fuel : Nat} (hfuel : as.length < fuel) :
    attributes? fuel (as.flatMap attributeChars ++ (closing closed ++ rest)) =
      some (as, closed, rest) := by
  induction as generalizing fuel with
  | nil =>
    obtain ⟨fuel, rfl⟩ := Nat.exists_eq_add_one_of_ne_zero (Nat.ne_of_gt hfuel)
    exact attributes?_closing closed rest fuel
  | cons a as ih =>
    obtain ⟨fuel, rfl⟩ := Nat.exists_eq_add_one_of_ne_zero (Nat.ne_zero_of_lt hfuel)
    rw [List.forall_mem_cons] at hnames hvalues
    rw [List.map_cons, List.nodup_cons] at hdistinct
    rw [List.flatMap_cons, List.append_assoc, attributes?_attributeChars hnames.1 hvalues.1,
      ih hnames.2 hvalues.2 hdistinct.2 (Nat.lt_of_succ_lt_succ hfuel), Option.bind_some]
    -- None of the attributes after it has the name of the first.
    refine if_neg ?_
    rw [List.any_eq_true]
    rintro ⟨b, hb, heq⟩
    exact hdistinct.1 (List.mem_map.2 ⟨b, hb, beq_iff_eq.1 heq⟩)

/-! ## Reading one piece -/

section Steps

variable {done : List Piece} {rest : List Char} {fuel : Nat}

/-- What comes after the name in a tag starts with a character that is in no name. -/
theorem exists_cons_attributes (as : List (String × String)) (closed : Bool) (rest : List Char) :
    ∃ c cs, as.flatMap attributeChars ++ (closing closed ++ rest) = c :: cs ∧
      continuesName c = false := by
  cases as with
  | nil =>
    cases closed with
    | false => exact ⟨'>', rest, rfl, by decide⟩
    | true => exact ⟨'/', '>' :: rest, rfl, by decide⟩
  | cons a as => exact ⟨' ', _, rfl, by decide⟩

/-- The start of an element is read back as one piece. -/
theorem readFrom?_start {name : String} {as : List (String × String)} (hname : IsName name)
    (hnames : ∀ a ∈ as, IsName a.1) (hvalues : ∀ a ∈ as, Allowed a.2)
    (hdistinct : (as.map (·.1)).Nodup) (closed : Bool) :
    readFrom? false done (fuel + 1)
        ('<' :: (name.toList ++ (as.flatMap attributeChars ++ (closing closed ++ rest)))) =
      readFrom? false (.start name as closed :: done) fuel rest := by
  obtain ⟨c, cs, hs, hc⟩ := hname.exists_cons
  obtain ⟨d, ds, hrest, hd⟩ := exists_cons_attributes as closed rest
  have hread : name? (name.toList ++ d :: ds) = some (name, d :: ds) := name?_append hname hd ds
  -- The characters left are fuel enough, as each attribute is written with one at least.
  have hlong : as.length < (d :: ds).length + 1 := by
    have hflat := length_le_flatMap (f := attributeChars) (fun a => List.cons_ne_nil ' ' _) as
    rw [← hrest, List.length_append]
    omega
  have hattributes := attributes?_append hnames hvalues hdistinct closed rest hlong
  rw [hrest] at hattributes ⊢
  have hne {e : Char} (he : e ∈ ['<', '>', '/', '?', '!', '=', ' ', '\t', '\n', '\r']) : c ≠ e := by
    rintro rfl
    cases hc.symm.trans (startsName_eq_false he)
  rw [hs, List.cons_append] at hread ⊢
  rw [readFrom?.eq_def]
  rw [List.length_cons] at hattributes
  simp [hne, hread, hattributes]

/-- The end of an element is read back as one piece. -/
theorem readFrom?_finish {name : String} (hname : IsName name) :
    readFrom? false done (fuel + 1) ('<' :: '/' :: (name.toList ++ '>' :: rest)) =
      readFrom? false (.finish name :: done) fuel rest := by
  have hread : name? (name.toList ++ '>' :: rest) = some (name, '>' :: rest) :=
    name?_append hname (by decide) rest
  have hspace : isSpace '>' = false := by decide
  have hafter : after? ">" ('>' :: rest) = some rest := by
    rw [after?, if_pos (by simp [List.isPrefixOf])]
    rfl
  simp [readFrom?, hread, hspace, hafter]

/-- A text that is not empty is read back as one piece, where a tag comes after it. -/
theorem readFrom?_text {s : String} (hs : Allowed s) (hne : s ≠ "")
    (hrest : rest.head? = some '<') :
    readFrom? false done (fuel + 1) (textChars s ++ rest) =
      readFrom? false (.text s ((textChars s).all isSpace) :: done) fuel rest := by
  -- The text ends where the next tag starts, since nothing in it is written as the start of one.
  have hnot : '<' ∉ textChars s := not_mem_textChars s (by simp)
  obtain ⟨c, cs, htext⟩ : ∃ c cs, textChars s = c :: cs := by
    refine List.exists_cons_of_ne_nil fun hnil => hne ?_
    have hlong := length_le_textChars s
    rw [hnil] at hlong
    simpa using hlong
  have hall : ∀ c ∈ textChars s, (c != '<') = true := fun c hc =>
    bne_iff_ne.2 fun heq => hnot (heq ▸ hc)
  obtain ⟨tail, rfl⟩ := List.head?_eq_some_iff.1 hrest
  have htake : (textChars s ++ '<' :: tail).takeWhile (· != '<') = textChars s := by
    rw [List.takeWhile_append_of_pos hall, List.takeWhile_cons_of_neg (by simp), List.append_nil]
  have hdrop : (textChars s ++ '<' :: tail).dropWhile (· != '<') = '<' :: tail := by
    rw [List.dropWhile_append_of_pos hall, List.dropWhile_cons_of_neg (by simp)]
  have hsplit : splitAt? "]]>" (textChars s) = none :=
    splitFrom?_eq_none (c := '>') (by simp) (not_mem_textChars s (by simp)) []
  have hread : text? (textChars s ++ '<' :: tail) =
      some (.text s ((textChars s).all isSpace), '<' :: tail) := by
    rw [text?, htake, hdrop, hsplit, resolve?_textChars hs]
    rfl
  have hc : c ≠ '<' := by
    rintro rfl
    exact hnot (htext ▸ List.mem_cons_self)
  rw [htext, List.cons_append] at hread ⊢
  rw [readFrom?.eq_def]
  simp [hc, hread]

end Steps

end Piece

end Manuscript.Xml
