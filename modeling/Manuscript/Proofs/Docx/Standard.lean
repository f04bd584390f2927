import Manuscript.Proofs.Docx.Links
import Manuscript.Proofs.Docx.Saving
import Manuscript.Proofs.Xml.RoundTrip

/-!
# Documents that start from nothing

A document that brings no template starts from parts that are written out. What is read of them is
known (`read_bytes_reread`), since their trees are uniform: each of their names and texts is among
those of two lists (`words`, `values`), or made of a number. So such a document can be saved if its
blocks can be written.

* `Styles.isPlain_standard`: the tree of the styles is one that is read back;
* `prepares_of_related`: what it takes to prepare a document from a template;
* `saves_of_leads`, `saves_of_leads_standard`: a document that starts from nothing can be saved if
  its blocks can be written, from which no address is reached.
-/

namespace Manuscript.Docx

open Xml (Allowed IsWord Name)

/-- The space of the text of a document. -/
def textSpace : String := (w "").space

/-- The words of the elements and attributes of a document that starts from nothing. -/
def words : List String :=
  ["w", "cp", "dc", "document", "body", "sectPr", "pgSz", "h", "pgMar", "top", "right", "bottom",
    "left", "header", "footer", "gutter", "styles", "style", "type", "default", "styleId", "name",
    "val", "basedOn", "pPr", "keepNext", "outlineLvl", "rPr", "b", "sz", "tblPr", "tblBorders",
    "insideH", "insideV", "space", "color", "coreProperties", "title", "subject", "creator",
    "keywords", "lastModifiedBy"]

/-- The texts of its attributes, those that are made of a number apart. -/
def values : List String :=
  ["12240", "15840", "1440", "1800", "720", "0", "1", "4", "single", "auto", "paragraph",
    "character", "table", "numbering", "Normal", "DefaultParagraphFont", "Default Paragraph Font",
    "TableNormal", "Normal Table", "NoList", "No List", "MacroText", "macro", "TableGrid",
    "Table Grid", "-Accent", " Accent ", "python-docx", ""]

/-- The words of the standard parts may stand in names. -/
theorem isWord_of_mem {s : String} (h : s ∈ words) : IsWord s := by
  have hall : ∀ s ∈ words, IsWord s := by decide +kernel
  exact hall s h

/-- The values of the standard parts may be written. -/
theorem allowed_of_mem {s : String} (h : s ∈ values) : Allowed s := by
  have hall : ∀ s ∈ values, Allowed s := by decide +kernel
  exact hall s h

/-- The spaces of its names. -/
theorem allowed_space {space : String}
    (h : space ∈ [textSpace, (cp "").space, (dc "").space]) :
    space ∉ ["", Xml.declarations, Xml.common] ∧ Allowed space := by
  have hall : ∀ space ∈ [textSpace, (cp "").space, (dc "").space],
      space ∉ ["", Xml.declarations, Xml.common] ∧ Allowed space := by
    decide +kernel
  exact hall space h

/-- A name of the standard parts is led, with its namespace for its lead. -/
theorem isLed_mk {σ : String → String} {lead space word : String} (hlead : lead ∈ ["w", "cp", "dc"])
    (hspace : space ∈ [textSpace, (cp "").space, (dc "").space]) (h : space = σ lead)
    (hword : IsWord word) : (Name.mk lead space word).IsLed σ := by
  refine ⟨isWord_of_mem ?_, hword, h, ?_, (allowed_space hspace).1,
    (allowed_space hspace).2⟩
  · exact List.take_subset 3 words hlead
  · simp only [List.mem_cons, List.not_mem_nil, or_false] at hlead
    obtain rfl | rfl | rfl := hlead <;> simp

/-- A name of the text's own namespace is led. -/
theorem isLed_w {word : String} (h : IsWord word) : (w word).IsLed fun _ => textSpace :=
  isLed_mk (by simp) List.mem_cons_self rfl h

/-- An element is uniform if its children are elements that are. -/
theorem isUniform_element {word : String} {attributes : List (String × String)}
    {children : List Xml.Node} (hword : IsWord word)
    (hattributes : ∀ a ∈ attributes, IsWord a.1 ∧ Allowed a.2)
    (hnodup : (attributes.map (·.1)).Nodup) (helements : ∀ c ∈ children, c.isElement = true)
    (hchildren : Xml.AreUniform (fun _ => textSpace) children) :
    (element word attributes children).IsUniform fun _ => textSpace := by
  refine ⟨⟨isLed_w hword, ?_, ?_⟩, .inr helements, hchildren⟩
  · intro _ ha
    obtain ⟨⟨name, value⟩, hmem, rfl⟩ := List.mem_map.1 ha
    exact ⟨isLed_w (hattributes _ hmem).1, (hattributes _ hmem).2⟩
  · rw [List.map_map]
    have hpair : ((attributes.map (·.1)).map fun word => (textSpace, word)).Nodup :=
      hnodup.map fun _ _ h => (Prod.mk.inj h).2
    rw [List.map_map] at hpair
    exact hpair

/-! ## The parts of a document that starts from nothing -/

/-- A tree of the text of a document that holds no text itself. -/
structure IsPlain (n : Xml.Node) : Prop where
  isElement : n.isElement = true
  uniform : n.IsUniform fun _ => textSpace

/-- An element is plain if its children are. -/
theorem isPlain_element {word : String} {attributes : List (String × String)}
    {children : List Xml.Node} (hword : IsWord word)
    (hattributes : ∀ a ∈ attributes, IsWord a.1 ∧ Allowed a.2)
    (hnodup : (attributes.map (·.1)).Nodup) (hchildren : ∀ c ∈ children, IsPlain c) :
    IsPlain (element word attributes children) :=
  ⟨rfl, isUniform_element hword hattributes hnodup (fun c hc => (hchildren c hc).isElement)
    (Xml.areUniform_iff.2 fun c hc => (hchildren c hc).uniform)⟩

/-- An element without children is plain. -/
theorem isPlain_leaf {word : String} {attributes : List (String × String)} (hword : IsWord word)
    (hattributes : ∀ a ∈ attributes, IsWord a.1 ∧ Allowed a.2)
    (hnodup : (attributes.map (·.1)).Nodup) : IsPlain (element word attributes) :=
  isPlain_element hword hattributes hnodup (List.forall_mem_nil _)

/-- An element with attributes that holds nothing. -/
theorem isPlain_known {word : String} {attributes : List (String × String)} (hword : word ∈ words)
    (hattributes : ∀ a ∈ attributes, a.1 ∈ words ∧ a.2 ∈ values)
    (hnodup : (attributes.map (·.1)).Nodup) : IsPlain (element word attributes) :=
  isPlain_leaf (isWord_of_mem hword)
    (fun a ha => ⟨isWord_of_mem (hattributes a ha).1, allowed_of_mem (hattributes a ha).2⟩) hnodup

/-- An element without attributes that holds others. -/
theorem isPlain_branch {word : String} {children : List Xml.Node} (hword : word ∈ words)
    (hchildren : ∀ c ∈ children, IsPlain c) : IsPlain (element word [] children) :=
  isPlain_element (isWord_of_mem hword) (List.forall_mem_nil _) List.nodup_nil hchildren

/-- An element with a value. -/
theorem isPlain_value {word value : String} (hword : word ∈ words) (hvalue : Allowed value) :
    IsPlain (element word [("val", value)]) :=
  isPlain_leaf (isWord_of_mem hword)
    (List.forall_mem_singleton.2 ⟨isWord_of_mem (by simp [words]), hvalue⟩) (by simp)

/-- The document that nothing has been written to is plain. -/
theorem isPlain_standardDocument :
    IsPlain (element "document" [] [element "body" [] [standardSection]]) := by
  refine isPlain_branch (by simp [words]) (List.forall_mem_singleton.2 ?_)
  refine isPlain_branch (by simp [words]) (List.forall_mem_singleton.2 ?_)
  refine isPlain_branch (by simp [words])
    (List.forall_mem_cons.2 ⟨?_, List.forall_mem_singleton.2 ?_⟩)
  · exact isPlain_known (by simp [words]) (by simp [words, values]) (by simp)
  · exact isPlain_known (by simp [words]) (by simp [words, values]) (by simp)

namespace Styles

/-- What may be written may be written one after the other. -/
theorem allowed_append {s t : String} (hs : Allowed s) (ht : Allowed t) : Allowed (s ++ t) := by
  intro c hc
  rw [String.toList_append] at hc
  exact (List.mem_append.1 hc).elim (hs c) (ht c)

/-- The identifier of a style may be written if its name may. -/
theorem allowed_idOf {name : String} (h : Allowed name) : Allowed (idOf name) := by
  intro c hc
  rw [idOf, String.toList_ofList] at hc
  exact h c (List.mem_of_mem_filter hc)

/-- The names of styles, and the names under which they are stored. -/
theorem allowed_names :
    (∀ s ∈ loweredNames, Allowed s.toLower) ∧
      ∀ name ∈ paragraphStyles ++ tableFamilies, Allowed name := by
  decide +kernel

/-- The stored name of a style may be written if its name may. -/
theorem allowed_storedName {name : String} (h : Allowed name) : Allowed (storedName name) := by
  rw [storedName]
  split
  · rename_i hmem
    exact allowed_names.1 name (List.contains_iff_mem.1 hmem)
  · exact h

/-- The entry of a style is plain, with any properties that are. -/
theorem isPlain_entry {kind : StyleKind} {id name : String} {isDefault : Bool}
    {properties : List Xml.Node} (hid : Allowed id) (hname : Allowed name)
    (hproperties : ∀ p ∈ properties, IsPlain p) :
    IsPlain (entry kind id name isDefault properties) := by
  have hkind : Allowed kind.word := by
    cases kind <;> exact allowed_of_mem (by simp [values, StyleKind.word])
  refine isPlain_element (isWord_of_mem (by simp [words])) ?_ ?_ ?_
  · have hone : Allowed "1" := allowed_of_mem (by simp [values])
    have htype : IsWord "type" := isWord_of_mem (by simp [words])
    have hdefault : IsWord "default" := isWord_of_mem (by simp [words])
    have hstyleId : IsWord "styleId" := isWord_of_mem (by simp [words])
    cases isDefault <;> simp [htype, hdefault, hstyleId, hkind, hid, hone]
  · cases isDefault <;> simp
  · intro c hc
    obtain hc | hc := List.mem_append.1 hc
    · obtain hc | hc := List.mem_append.1 hc
      · cases List.mem_singleton.1 hc
        exact isPlain_value (by simp [words]) (allowed_storedName hname)
      · split at hc
        · cases List.mem_singleton.1 hc
          exact isPlain_value (by simp [words]) (allowed_of_mem (by simp [values, baseName]))
        · cases hc
    · exact hproperties c hc

theorem isPlain_of_mem_defaults {n : Xml.Node} (h : n ∈ defaults) : IsPlain n := by
  simp only [defaults, List.mem_cons, List.not_mem_nil, or_false] at h
  obtain rfl | rfl | rfl | rfl := h
  all_goals
    refine isPlain_entry (allowed_of_mem ?_) (allowed_of_mem ?_) (List.forall_mem_nil _) <;>
      simp [values, baseName]

/-- The numbers in the names of styles, and in what is set for headings. -/
theorem allowed_toString :
    ∀ n ∈ List.range 10, Allowed (toString n) ∧ Allowed (toString (headingSize n)) := by
  decide +kernel

theorem allowed_heading :
    Allowed "Heading" ∧ Allowed "Heading " ∧ Allowed "Char" ∧ Allowed " Char" := by
  decide +kernel

theorem isPlain_heading {level : Nat} (h : level ∈ List.range 10) : IsPlain (heading level) := by
  obtain ⟨hlevel, hsize⟩ := allowed_toString level h
  have hbefore : level - 1 ∈ List.range 10 :=
    List.mem_range.2 ((Nat.sub_le level 1).trans_lt (List.mem_range.1 h))
  have hname := allowed_append allowed_heading.2.1 hlevel
  refine isPlain_entry (allowed_idOf hname) hname
    (List.forall_mem_cons.2 ⟨?_, List.forall_mem_singleton.2 ?_⟩)
  · exact isPlain_branch (by simp [words]) (List.forall_mem_cons.2
      ⟨isPlain_branch (by simp [words]) (List.forall_mem_nil _),
        List.forall_mem_singleton.2 (isPlain_value (by simp [words]) (allowed_toString _ hbefore).1)⟩)
  · exact isPlain_branch (by simp [words]) (List.forall_mem_cons.2
      ⟨isPlain_branch (by simp [words]) (List.forall_mem_nil _),
        List.forall_mem_singleton.2 (isPlain_value (by simp [words]) hsize)⟩)

theorem isPlain_headingLetters {level : Nat} (h : level ∈ List.range 10) :
    IsPlain (headingLetters level) := by
  obtain ⟨hid, hname, hchar, hspaced⟩ := allowed_heading
  have hnumber := (allowed_toString level h).1
  exact isPlain_entry (allowed_append (allowed_append hid hnumber) hchar)
    (allowed_append (allowed_append hname hnumber) hspaced) (List.forall_mem_nil _)

/-- The styles of a family of tables are plain. -/
theorem isPlain_of_mem_tableFamily {name : String} (hname : Allowed name) {n : Xml.Node}
    (h : n ∈ tableFamily name) : IsPlain n := by
  obtain rfl | h := List.mem_cons.1 h
  · exact isPlain_entry (allowed_idOf hname) hname (List.forall_mem_nil _)
  · obtain ⟨k, hk, rfl⟩ := List.mem_map.1 h
    have hnumber := (allowed_toString (k + 1) (by simp at hk ⊢; omega)).1
    have hid : Allowed "-Accent" := allowed_of_mem (by simp [values])
    have haccent : Allowed " Accent " := allowed_of_mem (by simp [values])
    exact isPlain_entry (allowed_append (allowed_append (allowed_idOf hname) hid) hnumber)
      (allowed_append (allowed_append hname haccent) hnumber) (List.forall_mem_nil _)

theorem isPlain_gridTable : IsPlain gridTable := by
  refine isPlain_entry (allowed_of_mem (by simp [values])) (allowed_of_mem (by simp [values])) ?_
  refine List.forall_mem_singleton.2 (isPlain_branch (by simp [words]) ?_)
  refine List.forall_mem_singleton.2 (isPlain_branch (by simp [words]) fun c hc => ?_)
  obtain ⟨side, hside, rfl⟩ := List.mem_map.1 hc
  have hword : side ∈ words := by
    simp only [List.mem_cons, List.not_mem_nil, or_false] at hside
    obtain rfl | rfl | rfl | rfl | rfl | rfl := hside <;> simp [words]
  exact isPlain_known hword (by simp [words, values]) (by simp)

/-- The standard styles are plain, so they are read back as they are written. -/
theorem isPlain_standard : IsPlain standard.tree := by
  refine isPlain_branch (by simp [words]) fun c hc => ?_
  simp only [List.mem_append, List.mem_map, List.mem_cons, List.not_mem_nil, or_false,
    List.mem_flatMap] at hc
  obtain ((((hc | ⟨level, ⟨k, hk, rfl⟩, rfl⟩) | ⟨level, ⟨k, hk, rfl⟩, rfl⟩) | ⟨name, hname, rfl⟩) |
    rfl | rfl) | ⟨name, hname, hc⟩ := hc
  · exact isPlain_of_mem_defaults hc
  · exact isPlain_heading (by simp at hk ⊢; omega)
  · exact isPlain_headingLetters (by simp at hk ⊢; omega)
  · have hallowed := allowed_names.2 name (List.mem_append_left _ hname)
    exact isPlain_entry (allowed_idOf hallowed) hallowed (List.forall_mem_nil _)
  · exact isPlain_entry (allowed_of_mem (by simp [values])) (allowed_of_mem (by simp [values]))
      (List.forall_mem_nil _)
  · exact isPlain_gridTable
  · exact isPlain_of_mem_tableFamily (allowed_names.2 name (List.mem_append_right _ hname)) hc

end Styles

/-- The space that each short form in the properties of a document stands for. -/
def propertySpace (lead : String) : String :=
  if lead = "cp" then (cp "").space else (dc "").space

/-- The standard properties are uniform. -/
theorem isUniform_properties : Properties.standard.IsUniform propertySpace := by
  have hcp {word : String} (h : word ∈ words) : (cp word).IsLed propertySpace :=
    isLed_mk (by simp) (by simp [cp]) (by simp [propertySpace, cp]) (isWord_of_mem h)
  have hdc {word : String} (h : word ∈ words) : (dc word).IsLed propertySpace :=
    isLed_mk (by simp) (by simp [dc]) (by simp [propertySpace, dc]) (isWord_of_mem h)
  have hleaf {name : Name} {s : String} (hname : name.IsLed propertySpace) (hs : s ∈ values) :
      (Xml.Node.element name [] [.text s]).IsUniform propertySpace :=
    ⟨⟨hname, (List.forall_mem_nil _), List.nodup_nil⟩, .inl rfl, allowed_of_mem hs, trivial⟩
  refine ⟨⟨hcp (by simp [words]), (List.forall_mem_nil _), List.nodup_nil⟩, .inr ?_,
    Xml.areUniform_iff.2 ?_⟩
  · simp [Xml.Node.isElement]
  · simp only [List.map_cons, List.map_nil, List.forall_mem_cons, List.not_mem_nil,
      IsEmpty.forall_iff, implies_true, and_true]
    exact ⟨hleaf (hdc (by simp [words])) (by simp [values]),
      hleaf (hdc (by simp [words])) (by simp [values]),
      hleaf (hdc (by simp [words])) (by simp [values]),
      hleaf (hcp (by simp [words])) (by simp [values]),
      hleaf (hcp (by simp [words])) (by simp [values])⟩

/-! ## What is read of them -/

/-- The tree that is read where one was written. -/
def reread (n : Xml.Node) : Xml.Node :=
  ((n.reread []).head?).getD n

/-- What is read of a uniform tree is the tree with its declarations as attributes. -/
theorem read_bytes_reread {σ : String → String} {n : Xml.Node} (hn : n.isElement = true)
    (h : n.IsUniform σ) : Xml.read n.bytes = .ok (reread n) := by
  obtain ⟨t, hread, heq⟩ := Xml.read_bytes hn h
  rw [heq, reread, hread]
  rfl

namespace Container

/-- The part that is the document, in one that starts from nothing. -/
def standardMain : Part where
  name := mainName
  mediaType := mainType
  content := (element "document" [] [element "body" [] [standardSection]]).bytes
  relationships := [⟨"rId1", stylesRelation, .part stylesName⟩]

/-- The standard container has its document where it says. -/
theorem main_standard : standard.main = .ok standardMain := by
  have hfilter : standard.relationships.filter (·.kind == mainRelation) =
      [⟨"rId1", mainRelation, .part mainName⟩] := by
    decide +kernel
  rw [main, related, hfilter]
  rfl

/-- The styles of the standard container are found by its document. -/
theorem related_standard_styles :
    standard.related standardMain.relationships stylesRelation = .ok (some
      { name := stylesName, mediaType := stylesType, content := Styles.standard.tree.bytes }) := by
  have hfilter : standardMain.relationships.filter (·.kind == stylesRelation) =
      [⟨"rId1", stylesRelation, .part stylesName⟩] := by
    decide +kernel
  rw [related, hfilter]
  rfl

/-- The properties of the standard container are found. -/
theorem related_standard_properties :
    standard.related standard.relationships propertiesRelation = .ok (some
      { name := propertiesName, mediaType := propertiesType
        content := Properties.standard.bytes }) := by
  have hfilter : standard.relationships.filter (·.kind == propertiesRelation) =
      [⟨"rId2", propertiesRelation, .part propertiesName⟩] := by
    decide +kernel
  rw [related, hfilter]
  rfl

/-- A document that starts from nothing leads nowhere outside. -/
theorem writable_standard :
    Writable standard.relationships ∧ ∀ p ∈ standard.parts, Writable p.relationships := by
  have hparts {rs : List Relationship} (h : ∀ r ∈ rs, ∃ name, r.target = .part name) :
      Writable rs := by
    rintro address ⟨r, hr, htarget⟩
    obtain ⟨name, hname⟩ := h r hr
    cases htarget.symm.trans hname
  constructor
  · exact hparts (by simp [standard])
  · intro p hp
    simp only [standard, List.mem_cons, List.not_mem_nil, or_false] at hp
    obtain rfl | rfl | rfl := hp
    · exact hparts (by simp)
    · exact writable_nil
    · exact writable_nil

end Container

/-! ## Drafts -/

section Prepares

variable {c : Container} {main p q : Part} {d : Draft} {tree styled properties : Xml.Node}
  {m : Metadata} {s : Setting}

/-- Styles that are found and can be read are those of the document. -/
theorem stylesOf_of_related (hp : c.related main.relationships stylesRelation = .ok (some p))
    (htype : p.mediaType = stylesType) (hread : Xml.read p.content = .ok tree) :
    stylesOf c main = .ok (⟨tree⟩, some p.name) := by
  rw [stylesOf, hp]
  change (if p.mediaType = stylesType then _ else _ : Except Fault _) = _
  rw [if_pos htype, hread]
  rfl

/-- A draft takes over styles that are found and can be read. -/
theorem withStyles_of_related
    (hp : d.container.related d.main.relationships stylesRelation = .ok (some p))
    (htype : p.mediaType = stylesType) (hread : Xml.read p.content = .ok tree) :
    d.withStyles = .ok { d with styles := ⟨tree⟩ } := by
  rw [Draft.withStyles, stylesOf_of_related hp htype hread]
  rfl

/-- The styles of a template that brings them are listed. -/
theorem availableStyles_of_related {fs : Files} {o : DocxOptions} {names : List (Option String)}
    (hopen : openTemplate fs o = .ok (c, main))
    (hp : c.related main.relationships stylesRelation = .ok (some p))
    (htype : p.mediaType = stylesType) (hread : Xml.read p.content = .ok tree)
    (hnames : (Styles.mk tree).paragraphNames = .ok names) : availableStyles fs o = .ok names := by
  have hstyles : templateStyles fs o = .ok ⟨tree⟩ := by
    rw [templateStyles, hopen]
    change (stylesOf c main).mapError Failure.fault >>= _ = _
    rw [stylesOf_of_related hp htype hread]
    rfl
  rw [availableStyles, hstyles]
  change (Styles.mk tree).paragraphNames.mapError Failure.fault = _
  rw [hnames]
  rfl

/-- A draft sets properties that are found, can be read and can be set. -/
theorem withProperties_of_related
    (hp : d.container.related d.container.relationships propertiesRelation = .ok (some p))
    (htype : p.mediaType = propertiesType) (hread : Xml.read p.content = .ok tree)
    {o : DocxOptions} (hset : Properties.update tree m o = .ok properties) :
    d.withProperties m o = .ok (d.putPart { p with content := properties.bytes }) := by
  rw [Draft.withProperties, hp]
  change (if p.mediaType ≠ propertiesType then _ else _ : Except Fault Draft) = _
  rw [if_neg (not_not.2 htype)]
  rw [hread]
  change Properties.update tree m o >>= _ = _
  rw [hset]
  rfl

/-- A document can be prepared from a template that brings its styles and its properties. -/
theorem prepares_of_related (hopen : openTemplate s.files s.options = .ok (c, main))
    (htree : Xml.read main.content = .ok tree)
    (hp : c.related main.relationships stylesRelation = .ok (some p))
    (hptype : p.mediaType = stylesType) (hpread : Xml.read p.content = .ok styled)
    {font size : String} (hfont : Xml.checked s.options.defaultFont = .ok font)
    (hsize : Length.sizeText s.options.defaultFontSize = .ok size) {styles : Styles}
    (hstyles : (Styles.mk styled).withBaseFont font size = .ok styles)
    (hq : c.related c.relationships propertiesRelation = .ok (some q))
    (hqtype : q.mediaType = propertiesType) {given : Xml.Node}
    (hqread : Xml.read q.content = .ok given)
    (hset : Properties.update given m s.options = .ok properties) :
    s.Prepares m (({ container := c, main, tree, styles, drawings := Drawing.greatest tree } :
      Draft).putPart { q with content := properties.bytes }) := by
  obtain ⟨place, hplace, -⟩ := ok_of_bind hstyles
  refine ⟨c, main, hopen, ?_⟩
  rw [Draft.start, htree]
  change prepare s.options m _ = _
  rw [prepare, withStyles_of_related hp hptype hpread]
  change (Styles.mk styled).basePlace >>= _ = _
  rw [hplace]
  change Xml.checked _ >>= _ = _
  rw [hfont]
  change Length.sizeText _ >>= _ = _
  rw [hsize]
  change (Styles.mk styled).withBaseFont font size >>= _ = _
  rw [hstyles]
  exact withProperties_of_related hq hqtype hqread hset

end Prepares

/-! ## Plain paragraphs -/

section Plain

variable {s : Setting} {d : Draft}

/-- Steps that leave a draft as it is leave it so one after the other. -/
theorem exists_leads_mapM {f : α → Drafting β} {as : List α}
    (h : ∀ a ∈ as, ∃ b, Leads (f a) d b d) : ∃ bs, Leads (as.mapM f) d bs d := by
  induction as with
  | nil => exact ⟨[], leads_pure _ _⟩
  | cons a as ih =>
    rw [List.forall_mem_cons] at h
    obtain ⟨b, hb⟩ := h.1
    obtain ⟨bs, hbs⟩ := ih h.2
    rw [List.mapM_cons]
    exact ⟨b :: bs, hb.bind (hbs.bind (leads_pure _ _))⟩

/-- Runs that belong to no link, and in place of which no picture is looked for, leave the draft as
    it is. -/
theorem exists_leads_text {rs : List Layout.Run} (hlink : ∀ r ∈ rs, r.hyperlink = none)
    (hwanted : ∀ r ∈ rs, s.wanted? r = none)
    (hwritten : ∀ r ∈ rs, ∃ n, Run.written s.options r = .ok n) :
    ∃ ns, Leads (s.text rs) d ns d := by
  have hruns {g : List Layout.Run} (hg : ∀ r ∈ g, r ∈ rs) : ∃ ns, Leads (s.runs g) d ns d := by
    obtain ⟨ns, hns⟩ := exists_mapM_eq_ok_iff.2 fun r hr => hwritten r (hg r hr)
    exact ⟨ns, (Setting.leads_runs_written fun r hr => hwanted r (hg r hr)).2 ⟨hns, rfl⟩⟩
  -- With links on, the runs are written group by group, and no group has a link.
  cases hnative : s.options.nativeHyperlinks with
  | false =>
    rw [Setting.text_eq_runs hnative]
    exact hruns fun _ => id
  | true =>
    have hgroup : ∀ g ∈ Setting.groups rs, ∃ ns, Leads (s.group s.link g) d ns d := by
      intro g hg
      have hmem : ∀ r ∈ g, r ∈ rs := fun r hr => by
        rw [← Setting.flatten_groups rs]
        exact List.mem_flatten_of_mem hg hr
      rw [Setting.group_eq_runs]
      · exact hruns hmem
      · cases g with
        | nil => rfl
        | cons r g => exact hlink r (hmem r List.mem_cons_self)
    obtain ⟨nss, hnss⟩ := exists_leads_mapM hgroup
    exact ⟨_, (Setting.leads_text_native hnative).2 ⟨nss, hnss, rfl⟩⟩

/-- A paragraph of such runs leaves the draft as it is. -/
theorem exists_leads_paragraph {p : Layout.Paragraph}
    (hproperties : ∃ ps, Paragraph.properties d.styles p = .ok ps)
    (hlink : ∀ r ∈ p.runs, r.hyperlink = none) (hwanted : ∀ r ∈ p.runs, s.wanted? r = none)
    (hwritten : ∀ r ∈ p.runs, ∃ n, Run.written s.options r = .ok n) :
    ∃ n, Leads (s.paragraph p) d n d := by
  obtain ⟨ps, hps⟩ := hproperties
  obtain ⟨ns, hns⟩ := exists_leads_text hlink hwanted hwritten
  exact ⟨_, Setting.leads_paragraph.2 ⟨ps, ns, hps, hns, rfl⟩⟩

/-- A block of paragraphs that leave the draft as it is does so as well. -/
theorem exists_leads_block {b : Layout.Block}
    (hparagraphs : ∀ cells ∈ rowsOf b, ∀ p ∈ cells, ∃ n, Leads (s.paragraph p) d n d)
    (hassembled : ∀ pss, ∃ ns, s.assembled d.tree d.styles b pss = .ok ns) :
    ∃ ns, Leads (s.block b) d ns d := by
  have hgrid : ∃ pss, Leads (s.grid (rowsOf b)) d pss d :=
    exists_leads_mapM (f := fun cells : List Layout.Paragraph => cells.mapM s.paragraph) fun _ hcells =>
      exists_leads_mapM (f := s.paragraph) (hparagraphs _ hcells)
  obtain ⟨pss, hpss⟩ := hgrid
  obtain ⟨ns, hns⟩ := hassembled pss
  exact ⟨ns, Setting.leads_block.2 ⟨pss, hpss, hns⟩⟩

end Plain

/-! ## Documents that can be saved -/

section Saves

variable {s : Setting} {document : Layout.Document}

/-- The tree of a document that starts from nothing, as it is read. -/
def startTree : Xml.Node :=
  reread (element "document" [] [element "body" [] [standardSection]])

/-- Without a template it is the standard container that is opened. -/
theorem openTemplate_standard {fs : Files} {o : DocxOptions}
    (htemplate : o.templatePath.filter (!·.isEmpty) = none) :
    openTemplate fs o = .ok (Container.standard, Container.standardMain) := by
  rw [openTemplate, htemplate, Container.main_standard]
  rfl

/-- The styles of a document that starts from nothing can be listed. -/
theorem exists_availableStyles_standard (fs : Files) :
    ∃ names, availableStyles fs {} = .ok names := by
  have hnames : (Styles.paragraphNames ⟨reread Styles.standard.tree⟩).isOk = true := by
    decide +kernel
  obtain ⟨names, hnames⟩ := exists_of_isOk hnames
  exact ⟨names, availableStyles_of_related (openTemplate_standard rfl)
    Container.related_standard_styles rfl
    (read_bytes_reread Styles.isPlain_standard.isElement Styles.isPlain_standard.uniform) hnames⟩

/-- A document that starts from nothing can be saved if its font and its properties can be set and
    its blocks can be written, from which no address is reached. -/
theorem saves_of_leads (htemplate : s.options.templatePath.filter (!·.isEmpty) = none)
    {font size : String} (hfont : Xml.checked s.options.defaultFont = .ok font)
    (hsize : Length.sizeText s.options.defaultFontSize = .ok size) {styles : Styles}
    (hstyles : (Styles.mk (reread Styles.standard.tree)).withBaseFont font size = .ok styles)
    {properties : Xml.Node}
    (hset : Properties.update (reread Properties.standard) document.metadata s.options =
      .ok properties)
    (hblocks : ∀ d : Draft, d.tree = startTree → d.styles = styles →
      ∃ nss, Leads (document.blocks.mapM s.block) d nss d) :
    Saves s document := by
  have hprepares := prepares_of_related (openTemplate_standard htemplate) (m := document.metadata)
    (read_bytes_reread isPlain_standardDocument.isElement isPlain_standardDocument.uniform)
    Container.related_standard_styles rfl
    (read_bytes_reread Styles.isPlain_standard.isElement Styles.isPlain_standard.uniform)
    hfont hsize hstyles Container.related_standard_properties rfl
    (read_bytes_reread rfl isUniform_properties) hset
  generalize hd : Draft.putPart _ _ = d at hprepares
  obtain ⟨nss, hlead⟩ := hblocks d (by rw [← hd]; rfl) (by rw [← hd]; rfl)
  -- Nothing leads outside, so all parts can be put into bytes.
  have houter : Writable d.container.relationships := by
    rw [← hd]
    exact Container.writable_standard.1
  have hmain : Writable d.main.relationships := by
    rw [← hd]
    exact Container.writable_standard.2 Container.standardMain List.mem_cons_self
  have hparts : ∀ p ∈ d.container.parts, Writable p.relationships := by
    intro p hp
    rw [← hd] at hp
    obtain rfl | ⟨hp, -⟩ := Draft.mem_parts_putPart.1 hp
    · exact writable_nil
    · exact Container.writable_standard.2 p hp
  obtain ⟨p, hp⟩ := Draft.exists_stylesPart?_iff.2 hprepares.cases.1
  have hp' : (d.withBlocks nss.flatten).stylesPart? = .ok (some p) := hp
  have hfinish := Draft.finish_eq hp'
  refine ⟨nss, d, _, gives_written hprepares hlead, hfinish,
    Container.exists_bytes_iff.2 ⟨houter, ?_⟩⟩
  -- A part is the document, its styles, or as it was in the container.
  intro q hq
  obtain rfl | ⟨rfl | ⟨hq, -⟩, -⟩ := (Draft.mem_parts_finish hp' hfinish).1 hq
  · exact hmain
  · obtain ⟨_, _, _, -, hfound⟩ := Container.related_eq_some_iff.1 hp
    exact hparts p (List.mem_of_find?_eq_some hfound)
  · exact hparts q hq

/-- With the options that hold where none are given, and without properties of its own, a document can
    be saved if its blocks can be written. -/
theorem saves_of_leads_standard (hoptions : s.options = {}) (hmetadata : document.metadata = [])
    (hblocks : ∀ d : Draft, d.tree = startTree →
      ∃ nss, Leads (document.blocks.mapM s.block) d nss d) : Saves s document := by
  have hstyles : ((Styles.mk (reread Styles.standard.tree)).withBaseFont "Calibri" "22").isOk =
      true := by
    decide +kernel
  have hset : (Properties.update (reread Properties.standard) [] {}).isOk = true := by
    decide +kernel
  obtain ⟨styles, hstyles⟩ := exists_of_isOk hstyles
  obtain ⟨properties, hset⟩ := exists_of_isOk hset
  have hfont : Xml.checked s.options.defaultFont = .ok "Calibri" := by
    rw [hoptions]
    decide +kernel
  have hsize : Length.sizeText s.options.defaultFontSize = .ok "22" := by
    rw [hoptions]
    decide +kernel
  rw [← hmetadata, ← hoptions] at hset
  exact saves_of_leads (by rw [hoptions]; rfl) hfont hsize hstyles hset fun d htree _ =>
    hblocks d htree

end Saves

end Manuscript.Docx
