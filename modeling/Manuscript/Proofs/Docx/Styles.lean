import Manuscript.Proofs.Docx.Outcome
import Manuscript.Proofs.Xml.Children

/-!
# Finding styles

The names that styles of paragraphs are said to have are those that one is found by
(`find?_of_paragraphNames`), though they are listed in another way than they are looked for. Setting
the font of a document changes neither the kinds of its styles nor their names and identifiers
(`all_withBaseFont`), so what is found before is found afterwards, at the same place
(`find?_withBaseFont`).
-/

namespace Manuscript

namespace Docx

/-! ## What a style is known by -/

/-- A style of a kind is known by a name: as its identifier, or as the name that is shown. -/
def Style.IsKnownAs (kind : StyleKind) (name : String) (n : Xml.Node) : Prop :=
  Style.kind n = .ok kind ∧ (Style.id? n = some name ∨ Style.name? n = .ok (some name))

/-- Two nodes are styles or not, and if they are, they are known by the same. -/
structure Style.Same (n m : Xml.Node) : Prop where
  isStyle : m.isNamed (w "style") = n.isNamed (w "style")
  kind : Style.kind m = Style.kind n
  id : Style.id? m = Style.id? n
  name : Style.name? m = Style.name? n

theorem Style.Same.refl (n : Xml.Node) : Style.Same n n :=
  ⟨rfl, rfl, rfl, rfl⟩

namespace Styles

/-! ## Finding a style by its name -/

section find

variable {kind : StyleKind} {name : String} {es : List (Xml.Node × Nat)}

theorem findIn_cons {e : Xml.Node × Nat} {found : Option (Xml.Node × Nat)} :
    findIn kind name (e :: es) = .ok found ↔ ∃ k, Style.kind e.1 = .ok k ∧
      if k = kind then
        if Style.id? e.1 = some name then found = some e
        else ∃ n, Style.name? e.1 = .ok n ∧
          if n = some name then found = some e else findIn kind name es = .ok found
      else findIn kind name es = .ok found := by
  rw [findIn]
  cases hkind : Style.kind e.1 with
  | error f => simp [bind, Except.bind]
  | ok k =>
    by_cases hk : k = kind
    · by_cases hid : Style.id? e.1 = some name
      · simp [bind, Except.bind, pure, Except.pure, hk, hid, eq_comm]
      · cases hname : Style.name? e.1 with
        | error f => simp [bind, Except.bind, hk, hid]
        | ok n =>
          by_cases hn : n = some name <;>
            simp [bind, Except.bind, pure, Except.pure, hk, hid, hn, eq_comm]
    · simp [bind, Except.bind, hk]

/-- A style that is found is known by the name. -/
theorem isKnownAs_of_findIn {e : Xml.Node × Nat} (h : findIn kind name es = .ok (some e)) :
    e ∈ es ∧ Style.IsKnownAs kind name e.1 := by
  induction es with
  | nil => cases h
  | cons e' es ih =>
    have hlater (h : findIn kind name es = .ok (some e)) :
        e ∈ e' :: es ∧ Style.IsKnownAs kind name e.1 :=
      ⟨List.mem_cons_of_mem e' (ih h).1, (ih h).2⟩
    obtain ⟨k, hkind, h⟩ := findIn_cons.1 h
    split at h
    · subst k
      split at h
      · cases h
        exact ⟨List.mem_cons_self, hkind, .inl ‹_›⟩
      · obtain ⟨n, hname, h⟩ := h
        split at h
        · subst n
          cases h
          exact ⟨List.mem_cons_self, hkind, .inr hname⟩
        · exact hlater h
    · exact hlater h

/-- Where none is found, no style is known by the name. -/
theorem not_isKnownAs_of_findIn (h : findIn kind name es = .ok none) :
    ∀ e ∈ es, ¬ Style.IsKnownAs kind name e.1 := by
  induction es with
  | nil => exact List.forall_mem_nil _
  | cons e es ih =>
    obtain ⟨k, hkind, h⟩ := findIn_cons.1 h
    split at h
    · split at h
      · cases h
      · obtain ⟨n, hname, h⟩ := h
        split at h
        · cases h
        · refine List.forall_mem_cons.2 ⟨?_, ih h⟩
          rintro ⟨-, hid | hname'⟩
          · exact absurd hid ‹_›
          · rw [hname] at hname'
            cases hname'
            contradiction
    · refine List.forall_mem_cons.2 ⟨?_, ih h⟩
      rintro ⟨hkind', -⟩
      rw [hkind] at hkind'
      cases hkind'
      contradiction

/-- What a style of paragraphs is known by can be read. -/
def Legible (n : Xml.Node) : Prop :=
  ∃ k, Style.kind n = .ok k ∧ (k = .paragraph → ∃ name, Style.name? n = .ok name)

/-- Among styles that can be read, a style of paragraphs is found or not. -/
theorem exists_findIn (h : ∀ e ∈ es, Legible e.1) (name : String) :
    ∃ found, findIn .paragraph name es = .ok found := by
  induction es with
  | nil => exact ⟨none, rfl⟩
  | cons e es ih =>
    rw [List.forall_mem_cons] at h
    obtain ⟨⟨k, hkind, hname⟩, hes⟩ := h
    obtain ⟨found, hfound⟩ := ih hes
    by_cases hk : k = .paragraph
    · obtain ⟨n, hname⟩ := hname hk
      by_cases hid : Style.id? e.1 = some name
      · exact ⟨some e, findIn_cons.2 ⟨k, hkind, by rw [if_pos hk, if_pos hid]⟩⟩
      · by_cases hn : n = some name
        · refine ⟨some e, findIn_cons.2 ⟨k, hkind, ?_⟩⟩
          rw [if_pos hk, if_neg hid]
          exact ⟨n, hname, by rw [if_pos hn]⟩
        · refine ⟨found, findIn_cons.2 ⟨k, hkind, ?_⟩⟩
          rw [if_pos hk, if_neg hid]
          exact ⟨n, hname, by rwa [if_neg hn]⟩
    · exact ⟨found, findIn_cons.2 ⟨k, hkind, by rwa [if_neg hk]⟩⟩

/-- Of two styles at one place the same is known. -/
def SameAt (e e' : Xml.Node × Nat) : Prop :=
  Style.Same e.1 e'.1 ∧ e'.2 = e.2

/-- Among styles of which the same is known the same is found. -/
theorem findIn_of_forall₂ {es' : List (Xml.Node × Nat)} (hes : List.Forall₂ SameAt es es')
    {found : Option (Xml.Node × Nat)} (h : findIn kind name es = .ok found) :
    ∃ found', findIn kind name es' = .ok found' ∧ Option.Rel SameAt found found' := by
  induction hes with
  | nil =>
    cases h
    exact ⟨none, rfl, .none⟩
  | @cons e e' es es' he _ ih =>
    obtain ⟨k, hkind, h⟩ := findIn_cons.1 h
    -- All that the search asks of a style is the same on both sides.
    simp only [findIn_cons, he.1.kind, he.1.id, he.1.name]
    split at h
    · split at h
      · cases h
        exact ⟨some e', ⟨k, hkind, by rw [if_pos ‹_›, if_pos ‹_›]⟩, .some he⟩
      · obtain ⟨n, hname, h⟩ := h
        split at h
        · cases h
          refine ⟨some e', ⟨k, hkind, ?_⟩, .some he⟩
          rw [if_pos ‹_›, if_neg ‹_›]
          exact ⟨n, hname, by rw [if_pos ‹_›]⟩
        · obtain ⟨found', hfound', hrel⟩ := ih h
          refine ⟨found', ⟨k, hkind, ?_⟩, hrel⟩
          rw [if_pos ‹_›, if_neg ‹_›]
          exact ⟨n, hname, by rwa [if_neg ‹_›]⟩
    · obtain ⟨found', hfound', hrel⟩ := ih h
      exact ⟨found', ⟨k, hkind, by rwa [if_neg ‹_›]⟩, hrel⟩

end find

/-! ## The names that styles are said to have -/

/-- The names that are listed are those that styles of paragraphs are known by. -/
theorem mem_paragraphNames {s : Styles} {names : List (Option String)}
    (h : s.paragraphNames = .ok names) :
    (∀ e ∈ s.all, Legible e.1) ∧
      ∀ name, some name ∈ names ↔ ∃ e ∈ s.all, Style.IsKnownAs .paragraph name e.1 := by
  obtain ⟨listed, hlisted, h⟩ := ok_of_bind h
  cases h
  clear h
  rw [mapM_eq_ok_iff] at hlisted
  -- That names are listed without doubles makes no difference to which of them are there.
  simp only [List.mem_eraseDups, List.mem_flatten]
  generalize s.all = es at hlisted
  induction hlisted with
  | nil => simp
  | @cons e own es listed hown _ ih =>
    obtain ⟨k, hkind, hown⟩ := ok_of_bind hown
    have hfirst : Legible e.1 ∧
        ∀ name, some name ∈ own ↔ Style.IsKnownAs .paragraph name e.1 := by
      split at hown
      · subst k
        obtain ⟨n, hname, hown⟩ := ok_of_bind hown
        cases hown
        refine ⟨⟨.paragraph, hkind, fun _ => ⟨n, hname⟩⟩, fun name => ?_⟩
        simp [Style.IsKnownAs, hkind, hname, eq_comm]
      · cases hown
        refine ⟨⟨k, hkind, fun hk => absurd hk ‹_›⟩, fun name => ?_⟩
        simpa [Style.IsKnownAs, hkind] using fun hk => absurd hk ‹_›
    refine ⟨List.forall_mem_cons.2 ⟨hfirst.1, ih.1⟩, fun name => ?_⟩
    rw [List.exists_mem_cons_iff, List.exists_mem_cons_iff, hfirst.2, ih.2]

/-- A style of paragraphs is found by a name, or else not, just if the name is among those that
    styles are said to have. -/
theorem find?_of_paragraphNames {s : Styles} {names : List (Option String)}
    (h : s.paragraphNames = .ok names) (name : String) :
    (some name ∈ names ∧ ∃ e, s.find? .paragraph name = .ok (some e)) ∨
      (some name ∉ names ∧ s.find? .paragraph name = .ok none) := by
  obtain ⟨hlegible, hnames⟩ := mem_paragraphNames h
  obtain ⟨found, hfound⟩ := exists_findIn hlegible name
  rw [hnames]
  cases found with
  | none =>
    refine .inr ⟨?_, hfound⟩
    rintro ⟨e, he, hknown⟩
    exact not_isKnownAs_of_findIn hfound e he hknown
  | some e => exact .inl ⟨⟨e, isKnownAs_of_findIn hfound⟩, e, hfound⟩

/-! ## Setting the font -/

theorem isNamed_withFont (n : Xml.Node) (font size : String) (key : Xml.Name) :
    (withFont n font size).isNamed key = n.isNamed key := by
  rw [withFont, Xml.Node.isNamed_updateChild, Xml.Node.isNamed_updateChild]

theorem same_updateFont (font size : String) (n : Xml.Node) :
    Style.Same n (n.updateChild (w "rPr") afterRun fun p => withFont p font size) := by
  have hattribute := Xml.Node.attribute?_updateChild n (w "rPr") afterRun
    fun p => withFont p font size
  have hne : (w "rPr").same (w "name") = false := by decide
  have hname := Xml.Node.child?_updateChild hne (fun p key => isNamed_withFont p font size key) n
    afterRun
  refine ⟨Xml.Node.isNamed_updateChild _ _ _ _ _, ?_, hattribute _, ?_⟩
  · rw [Style.kind, Style.kind, Style.kind?, Style.kind?, hattribute]
  · rw [Style.name?, Style.name?, hname]

theorem forall₂_updateAt {f : Xml.Node → Xml.Node} (hf : ∀ n, Style.Same n (f n))
    (ns : List Xml.Node) (place : Nat) : List.Forall₂ Style.Same ns (updateAt f ns place) := by
  have hrefl (ns : List Xml.Node) : List.Forall₂ Style.Same ns ns :=
    List.forall₂_same.2 fun n _ => .refl n
  induction ns generalizing place with
  | nil => exact .nil
  | cons n ns ih =>
    cases place with
    | zero =>
      simp only [updateAt]
      split
      · exact .cons (hf n) (hrefl ns)
      · exact .cons (.refl n) (ih 0)
    | succ place =>
      simp only [updateAt]
      split
      · exact .cons (.refl n) (ih place)
      · exact .cons (.refl n) (ih (place + 1))

theorem forall₂_zipIdx {R : α → β → Prop} {as : List α} {bs : List β} (h : List.Forall₂ R as bs)
    (start : Nat) :
    List.Forall₂ (fun a b => R a.1 b.1 ∧ b.2 = a.2) (as.zipIdx start) (bs.zipIdx start) := by
  induction h generalizing start with
  | nil => exact .nil
  | cons hab _ ih => exact .cons ⟨hab, rfl⟩ (ih (start + 1))

/-- Setting the font of a document leaves its styles known by the same, in their places. -/
theorem all_withBaseFont {s s' : Styles} {font size : String}
    (h : s.withBaseFont font size = .ok s') : List.Forall₂ SameAt s.all s'.all := by
  obtain ⟨place, -, h⟩ := ok_of_bind h
  cases h
  refine forall₂_zipIdx ?_ 0
  rw [Xml.Node.childrenNamed, Xml.Node.childrenNamed]
  cases s.tree with
  | text t => exact .nil
  | element name attributes children =>
    -- A style stays one and no other node becomes one, so the styles keep their places.
    refine List.rel_filter (fun n m h => ?_) (forall₂_updateAt (same_updateFont font size) _ _)
    exact iff_of_eq (congrArg (· = true) h.isStyle.symm)

/-- What is found in a document before its font is set is found afterwards. -/
theorem find?_withBaseFont {s s' : Styles} {font size : String}
    (h : s.withBaseFont font size = .ok s') {kind : StyleKind} {name : String}
    {found : Option (Xml.Node × Nat)} (hfound : s.find? kind name = .ok found) :
    ∃ found', s'.find? kind name = .ok found' ∧ Option.Rel SameAt found found' :=
  findIn_of_forall₂ (all_withBaseFont h) hfound

end Styles

end Docx

end Manuscript
