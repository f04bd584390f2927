import Manuscript.Proofs.Docx.Body
import Manuscript.Proofs.Files.Place

/-!
# Saving a document

Once its blocks are written a document can always be finished (`Draft.finish_eq`): the part of its
styles is where it was when it was prepared (`Setting.Prepares.cases`). Whether its container can be
written as bytes depends on nothing but the addresses that relationships lead to
(`Container.exists_bytes_iff`). So of two documents that are written from one template both or none
can be saved, if their links lead to the same addresses (`Draft.exists_bytes_of_grows`).
-/

namespace Manuscript

namespace Archive

theorem size_append (bs : ByteArray) (more : List UInt8) :
    (append bs more).size = bs.size + more.length := by
  induction more generalizing bs with
  | nil => rfl
  | cons b more ih =>
    have hpush : (bs.push b).size = bs.size + 1 := ByteArray.size_push
    change (append (bs.push b) more).size = _
    rw [ih, hpush, List.length_cons]
    omega

/-- An archive is never empty. -/
theorem ofFiles_ne_empty (files : List (String × ByteArray)) : ofFiles files ≠ .empty := by
  intro h
  have hsize := congrArg ByteArray.size h
  rw [ofFiles, size_append] at hsize
  simp at hsize

end Archive

namespace Docx

open Relationship

/-- One of the relationships leads to an address outside. -/
def Reaches (rs : List Relationship) (address : String) : Prop :=
  ∃ r ∈ rs, r.target = .external address

/-- The addresses that relationships lead to can be written. -/
def Writable (rs : List Relationship) : Prop :=
  ∀ address, Reaches rs address → ∃ t, Xml.checked address = .ok t

/-- A new relationship adds its own address to those that are reached. -/
theorem reaches_relate {rs : List Relationship} {kind : String} {target : Target}
    {address : String} :
    Reaches (Container.relate rs kind target).1 address ↔
      Reaches rs address ∨ target = .external address := by
  obtain ⟨q, hq, -, hqt, heq⟩ | ⟨id, -, heq⟩ := Container.relate_cases rs kind target
  · rw [heq]
    constructor
    · exact .inl
    · rintro (h | h)
      · exact h
      · exact ⟨q, hq, hqt.trans h⟩
  · rw [heq]
    constructor
    · rintro ⟨r, hr, h⟩
      rcases List.mem_append.1 hr with hr | hr
      · exact .inl ⟨r, hr, h⟩
      · cases List.mem_singleton.1 hr
        exact .inr h
    · rintro (⟨r, hr, h⟩ | h)
      · exact ⟨r, List.mem_append_left _ hr, h⟩
      · exact ⟨_, List.mem_append_right _ (List.mem_singleton_self _), h⟩

/-- No address is reached from no relationships. -/
theorem writable_nil : Writable [] := by
  rintro address ⟨r, hr, -⟩
  cases hr

namespace Container

/-- Relationships can be written if their addresses can. -/
theorem exists_relationshipsTree_iff (folder : List String) {rs : List Relationship} :
    (∃ n, relationshipsTree folder rs = .ok n) ↔ Writable rs := by
  simp only [relationshipsTree]
  constructor
  · rintro ⟨n, h⟩ address ⟨r, hr, htarget⟩
    obtain ⟨entries, hentries, -⟩ := ok_of_bind h
    obtain ⟨e, he⟩ := exists_mapM_eq_ok_iff.1 ⟨_, hentries⟩ r hr
    rw [htarget] at he
    obtain ⟨t, ht, -⟩ := ok_of_bind he
    exact ⟨t, ht⟩
  · intro h
    refine exists_bind_eq_ok (exists_mapM_eq_ok_iff.2 fun r hr => ?_) fun entries => ⟨_, rfl⟩
    cases htarget : r.target with
    | part name => exact ⟨_, rfl⟩
    | external address =>
      exact exists_bind_eq_ok (h address ⟨r, hr, htarget⟩) fun t => ⟨_, rfl⟩

/-- A part can be written if the addresses that it leads to can. -/
theorem exists_filesOf_iff {p : Part} :
    (∃ files, filesOf p = .ok files) ↔ Writable p.relationships := by
  rw [filesOf]
  cases hrs : p.relationships with
  | nil => exact iff_of_true ⟨_, rfl⟩ writable_nil
  | cons r rs =>
    rw [← exists_relationshipsTree_iff (PartName.folder p.name)]
    constructor
    · rintro ⟨files, h⟩
      obtain ⟨n, hn, -⟩ := ok_of_bind h
      exact ⟨n, hn⟩
    · exact fun h => exists_bind_eq_ok h fun n => ⟨_, rfl⟩

/-- A container can be written as bytes if the addresses in it can be. -/
theorem exists_bytes_iff {c : Container} :
    (∃ bs, c.bytes = .ok bs) ↔
      Writable c.relationships ∧ ∀ p ∈ c.parts, Writable p.relationships := by
  simp only [bytes, ← exists_filesOf_iff, ← exists_mapM_eq_ok_iff]
  rw [← exists_relationshipsTree_iff []]
  constructor
  · rintro ⟨bs, h⟩
    obtain ⟨n, hn, h⟩ := ok_of_bind h
    obtain ⟨files, hfiles, -⟩ := ok_of_bind h
    exact ⟨⟨n, hn⟩, files, hfiles⟩
  · rintro ⟨hn, hfiles⟩
    exact exists_bind_eq_ok hn fun n => exists_bind_eq_ok hfiles fun files => ⟨_, rfl⟩

/-- A container finds a part if one has its name. -/
theorem exists_part?_iff {c : Container} {name : String} :
    (∃ p, c.part? name = some p) ↔ ∃ p ∈ c.parts, p.name = name := by
  rw [← Option.isSome_iff_exists, part?, List.find?_isSome]
  simp

/-- Nothing is related where there is no relationship of the kind. -/
theorem related_eq_none {c : Container} {rs : List Relationship} {kind : String}
    (h : c.related rs kind = .ok none) : rs.filter (·.kind == kind) = [] := by
  rw [related] at h
  split at h
  · rename_i heq
    exact heq
  · split at h <;> cases h
  · cases h
  · cases h

/-- A part is related by the one relationship of the kind. -/
theorem related_eq_some_iff {c : Container} {rs : List Relationship} {kind : String} {p : Part} :
    c.related rs kind = .ok (some p) ↔ ∃ id k name,
      rs.filter (·.kind == kind) = [⟨id, k, .part name⟩] ∧ c.part? name = some p := by
  rw [related]
  constructor
  · intro h
    split at h
    · cases h
    · rename_i id k name heq
      split at h
      · cases h
        exact ⟨id, k, name, heq, ‹_›⟩
      · cases h
    · cases h
    · cases h
  · rintro ⟨id, k, name, heq, hp⟩
    rw [heq]
    simp only [hp]

/-- The bytes of a container are never none. -/
theorem ne_empty_of_bytes {c : Container} {bs : ByteArray} (h : c.bytes = .ok bs) :
    bs ≠ .empty := by
  obtain ⟨_, -, h⟩ := ok_of_bind h
  obtain ⟨_, -, h⟩ := ok_of_bind h
  cases h
  exact Archive.ofFiles_ne_empty _

end Container

namespace Draft

variable {d : Draft}

/-- A part that is put into a draft takes the place of one of its name. -/
theorem mem_parts_putPart {p q : Part} :
    q ∈ (d.putPart p).container.parts ↔
      q = p ∨ q ∈ d.container.parts ∧ q.name ≠ p.name := by
  rw [putPart]
  dsimp only
  split
  · rename_i hany
    obtain ⟨o, ho, hname⟩ := List.any_eq_true.1 hany
    rw [List.mem_map]
    constructor
    · rintro ⟨o, ho, rfl⟩
      split
      · exact .inl rfl
      · exact .inr ⟨ho, ‹_›⟩
    · rintro (rfl | ⟨hq, hne⟩)
      · exact ⟨o, ho, if_pos (beq_iff_eq.1 hname)⟩
      · exact ⟨q, hq, if_neg hne⟩
  · rename_i hany
    rw [List.mem_append, List.mem_singleton]
    constructor
    · rintro (hq | rfl)
      · refine .inr ⟨hq, fun hname => hany ?_⟩
        exact List.any_eq_true.2 ⟨q, hq, beq_iff_eq.2 hname⟩
      · exact .inl rfl
    · rintro (rfl | ⟨hq, -⟩)
      · exact .inr rfl
      · exact .inl hq

/-- The styles of a draft have a part. -/
def HasStyles (d : Draft) : Prop :=
  ∃ id kind name, d.main.relationships.filter (·.kind == stylesRelation) =
    [⟨id, kind, .part name⟩] ∧ ∃ p ∈ d.container.parts, p.name = name

/-- The styles of a draft can be found where it has some. -/
theorem exists_stylesPart?_iff : (∃ p, d.stylesPart? = .ok (some p)) ↔ d.HasStyles := by
  simp only [stylesPart?, Container.related_eq_some_iff, HasStyles, ← Container.exists_part?_iff]
  constructor
  · rintro ⟨p, id, kind, name, heq, hp⟩
    exact ⟨id, kind, name, heq, p, hp⟩
  · rintro ⟨id, kind, name, heq, p, hp⟩
    exact ⟨p, id, kind, name, heq, hp⟩

/-- A draft has styles still after a part is put into it. -/
theorem HasStyles.putPart (h : d.HasStyles) (p : Part) : (d.putPart p).HasStyles := by
  obtain ⟨id, kind, name, heq, q, hq, hname⟩ := h
  refine ⟨id, kind, name, heq, ?_⟩
  by_cases hp : q.name = p.name
  · exact ⟨p, mem_parts_putPart.2 (.inl rfl), hp ▸ hname⟩
  · exact ⟨q, mem_parts_putPart.2 (.inr ⟨hq, hp⟩), hname⟩

/-- The part of the styles stays where it is when a draft grows. -/
theorem Grows.stylesPart? {d d' : Draft} (h : d.Grows d') {p : Part}
    (hp : d.stylesPart? = .ok (some p)) : d'.stylesPart? = .ok (some p) := by
  rw [Draft.stylesPart?, Container.related_eq_some_iff] at hp ⊢
  obtain ⟨id, kind, name, heq, hfound⟩ := hp
  obtain ⟨new, hnew, hkinds⟩ := h.relationships
  obtain ⟨parts, hparts, -⟩ := h.parts
  refine ⟨id, kind, name, ?_, ?_⟩
  · have hnone : new.filter (·.kind == stylesRelation) = [] := by
      refine List.filter_eq_nil_iff.2 fun r hr => ?_
      rcases hkinds r hr with hkind | hkind
      · rw [hkind]
        decide
      · rw [hkind]
        decide
    rw [hnew, List.filter_append, heq, hnone, List.append_nil]
  · rw [Container.part?] at hfound
    rw [Container.part?, hparts, List.find?_append, hfound]
    rfl

theorem hasStyles_putPart_relate {d : Draft} {p : Part}
    (h : d.main.relationships.filter (·.kind == stylesRelation) = []) :
    ((d.putPart p).relate stylesRelation (.part p.name)).1.HasStyles := by
  obtain ⟨r, hr, hkind, -⟩ | ⟨id, -, hrelate⟩ :=
    Container.relate_cases d.main.relationships stylesRelation (.part p.name)
  · exact absurd (beq_iff_eq.2 hkind) (List.filter_eq_nil_iff.1 h r hr)
  · refine ⟨id, stylesRelation, p.name, ?_, p, mem_parts_putPart.2 (.inl rfl), rfl⟩
    show (Container.relate d.main.relationships stylesRelation (.part p.name)).1.filter _ = _
    rw [hrelate, List.filter_append, h]
    simp

/-- Whether a draft brings its styles or not, it has a part for them afterwards. -/
theorem withStyles_cases {d d' : Draft} (h : d.withStyles = .ok d') :
    d'.HasStyles ∧ d'.tree = d.tree ∧
      (∃ name, stylesOf d.container d.main = .ok (d'.styles, name)) ∧
      (Distinct d.main.relationships → Distinct d'.main.relationships) := by
  rw [withStyles] at h
  obtain ⟨⟨styles, name⟩, hstyles, h⟩ := ok_of_bind h
  have hread := hstyles
  rw [stylesOf] at hread
  obtain ⟨found, hfound, hread⟩ := ok_of_bind hread
  -- The template may come without a part for the styles: then one is put in.
  cases found with
  | none =>
    cases hread
    cases h
    refine ⟨?_, rfl, ⟨none, hstyles⟩, fun hids => Container.distinct_relate hids _ _⟩
    exact hasStyles_putPart_relate (Container.related_eq_none hfound)
  | some p =>
    dsimp only at hread
    split at hread
    · obtain ⟨tree, -, hread⟩ := ok_of_bind hread
      cases hread
      cases h
      exact ⟨exists_stylesPart?_iff.1 ⟨p, hfound⟩, rfl, ⟨_, hstyles⟩, id⟩
    · cases hread

/-- Setting properties changes neither the tree, the styles nor the document. -/
theorem withProperties_cases {d d' : Draft} {m : Metadata} {o : DocxOptions}
    (h : d.withProperties m o = .ok d') :
    d'.tree = d.tree ∧ d'.styles = d.styles ∧ d'.main = d.main ∧ (d.HasStyles → d'.HasStyles) := by
  rw [withProperties] at h
  obtain ⟨found, -, h⟩ := ok_of_bind h
  cases found with
  | none =>
    obtain ⟨tree, -, h⟩ := ok_of_bind h
    cases h
    exact ⟨rfl, rfl, rfl, fun hs => hs.putPart _⟩
  | some p =>
    dsimp only at h
    split at h
    · obtain ⟨-, h, -⟩ := ok_of_bind h
      cases h
    · obtain ⟨content, -, h⟩ := ok_of_bind h
      obtain ⟨tree, -, h⟩ := ok_of_bind h
      cases h
      exact ⟨rfl, rfl, rfl, fun hs => hs.putPart _⟩

end Draft

/-! ## Prepared drafts -/

/-- A draft that blocks are written into comes from the template with its styles: it has a part for
    them, and no two of its relationships have the same identifier. -/
theorem Setting.Prepares.cases {s : Setting} {m : Metadata} {d : Draft} (h : s.Prepares m d) :
    d.HasStyles ∧ Distinct d.main.relationships ∧
      ∃ c main styles name font size, openTemplate s.files s.options = .ok (c, main) ∧
        Xml.read main.content = .ok d.tree ∧ stylesOf c main = .ok (styles, name) ∧
        styles.withBaseFont font size = .ok d.styles := by
  obtain ⟨c, main, hopen, h⟩ := h
  obtain ⟨d₀, hstart, h⟩ := ok_of_bind h
  rw [Draft.start] at hstart
  obtain ⟨tree, htree, hstart⟩ := ok_of_bind hstart
  cases hstart
  rw [prepare] at h
  obtain ⟨d₁, hstyles, h⟩ := ok_of_bind h
  obtain ⟨place, -, h⟩ := ok_of_bind h
  obtain ⟨font, -, h⟩ := ok_of_bind h
  obtain ⟨size, -, h⟩ := ok_of_bind h
  obtain ⟨styles, hfont, h⟩ := ok_of_bind h
  obtain ⟨hhas, htree₁, ⟨name, hof⟩, hids⟩ := Draft.withStyles_cases hstyles
  obtain ⟨htree₂, hstyles₂, hmain₂, hhas₂⟩ := Draft.withProperties_cases h
  -- The properties come last and change neither the tree, nor the styles, nor the main part.
  refine ⟨hhas₂ hhas, ?_, c, main, d₁.styles, name, font, size, hopen, ?_, hof, ?_⟩
  · rw [hmain₂]
    exact hids (distinct_main hopen)
  · rw [htree₂, htree₁]
    exact htree
  · rw [hstyles₂]
    exact hfont

/-- The styles of a draft that blocks are written into are those of the template with a font set. -/
theorem Setting.Prepares.styles {s : Setting} {m : Metadata} {d : Draft} (h : s.Prepares m d)
    {template : Styles} (ht : templateStyles s.files s.options = .ok template) :
    ∃ font size, template.withBaseFont font size = .ok d.styles := by
  obtain ⟨-, -, c, main, styles, name, font, size, hopen, -, hstyles, hfont⟩ := h.cases
  rw [templateStyles, hopen] at ht
  obtain ⟨⟨styles', name'⟩, hread, ht⟩ :=
    ok_of_bind (x := (stylesOf c main).mapError Failure.fault) ht
  cases ht
  rw [hstyles] at hread
  cases hread
  exact ⟨font, size, hfont⟩

/-! ## Finished drafts -/

namespace Draft

/-- A draft with styles is finished with its styles and its tree put into their parts. -/
theorem finish_eq {d : Draft} {p : Part} (hp : d.stylesPart? = .ok (some p)) :
    d.finish = .ok ((d.putPart { p with content := d.styles.tree.bytes }).putPart
      { d.main with content := d.tree.bytes }).container := by
  rw [finish, hp]
  rfl

/-- The relationships of the parts of a finished draft: those of the document, those of the part of
    the styles, and those of other parts, which are there still if they have any. -/
theorem mem_parts_finish {d : Draft} {p : Part} {c : Container} (hp : d.stylesPart? = .ok (some p))
    (h : d.finish = .ok c) {q : Part} :
    q ∈ c.parts ↔ q = { d.main with content := d.tree.bytes } ∨
      (q = { p with content := d.styles.tree.bytes } ∨
        q ∈ d.container.parts ∧ q.name ≠ p.name) ∧ q.name ≠ d.main.name := by
  rw [finish_eq hp] at h
  cases h
  rw [mem_parts_putPart, mem_parts_putPart]

/-- Of two drafts that have grown from one that has its styles, the second can be saved if the first
    can be, unless its links lead to other addresses. -/
theorem exists_bytes_of_grows {d₀ d e : Draft} (hd : d₀.Grows d) (he : d₀.Grows e)
    (hstyles : d₀.HasStyles)
    (hreach : ∀ address, Reaches e.main.relationships address →
      Reaches d.main.relationships address)
    (blocks blocks' : List Xml.Node) {c : Container} (hc : (d.withBlocks blocks).finish = .ok c)
    (hbytes : ∃ bs, c.bytes = .ok bs) :
    ∃ c', (e.withBlocks blocks').finish = .ok c' ∧ ∃ bs, c'.bytes = .ok bs := by
  obtain ⟨p, hp⟩ := exists_stylesPart?_iff.2 hstyles
  have hpd : (d.withBlocks blocks).stylesPart? = .ok (some p) := hd.stylesPart? hp
  have hpe : (e.withBlocks blocks').stylesPart? = .ok (some p) := he.stylesPart? hp
  obtain ⟨houter, hparts⟩ := Container.exists_bytes_iff.1 hbytes
  have hmem {q : Part} : q ∈ c.parts ↔ _ := mem_parts_finish hpd hc
  have hname : e.main.name = d.main.name := by
    rw [he.main, hd.main]
  refine ⟨_, finish_eq hpe, Container.exists_bytes_iff.2 ⟨?_, fun q hq => ?_⟩⟩
  · rw [finish_eq hpd] at hc
    cases hc
    have hsame : e.container.relationships = d.container.relationships :=
      he.outer.trans hd.outer.symm
    show Writable e.container.relationships
    rw [hsame]
    exact houter
  · obtain rfl | ⟨rfl | ⟨hq, hne⟩, hother⟩ := (mem_parts_finish hpe (finish_eq hpe)).1 hq
    · have hmain := hparts _ (hmem.2 (.inl rfl))
      -- The relationships of the document are the only ones that may differ.
      exact fun address h => hmain address (hreach address h)
    · have hother' : p.name ≠ d.main.name := fun h => hother (h.trans hname.symm)
      have hsame : (e.withBlocks blocks').styles = (d.withBlocks blocks).styles :=
        he.styles.trans hd.styles.symm
      exact hparts _ (hmem.2 (.inr ⟨.inl (by rw [hsame]), hother'⟩))
    -- Other parts were there before, or are pictures, which lead nowhere.
    · obtain ⟨new, hnew, hempty⟩ := he.parts
      rw [show (e.withBlocks blocks').container = e.container from rfl, hnew] at hq
      rcases List.mem_append.1 hq with hq | hq
      · have hother' : q.name ≠ d.main.name := fun h => hother (h.trans hname.symm)
        exact hparts _ (hmem.2 (.inr ⟨.inr ⟨hd.mem_parts hq, hne⟩, hother'⟩))
      · rw [hempty q hq]
        exact writable_nil

end Draft

/-! ## Documents that can be saved -/

section Saves

variable {s : Setting} {document : Layout.Document}

/-- What may be written is written, whatever was recorded before. -/
theorem gives_of_mayGive_written {made : List (List Xml.Node) × Draft}
    (h : (written s document).MayGive made) : (written s document).Gives made := by
  obtain ⟨nss, d'⟩ := made
  obtain ⟨d, hd, hlead⟩ := leads_of_mayGive_written h
  exact gives_written hd hlead

/-- A document can be written, and what is written can be put into bytes. -/
def Saves (s : Setting) (document : Layout.Document) : Prop :=
  ∃ nss d c, (written s document).Gives (nss, d) ∧ (d.withBlocks nss.flatten).finish = .ok c ∧
    ∃ bs, c.bytes = .ok bs

/-- A container that may be built is a finished draft of what was written. -/
theorem mayGive_build {c : Container} (h : (build s document).MayGive c) :
    ∃ nss d, (written s document).Gives (nss, d) ∧ (d.withBlocks nss.flatten).finish = .ok c := by
  obtain ⟨⟨nss, d⟩, hwritten, hfinish⟩ := Job.MayGive.of_bind h
  exact ⟨nss, d, gives_of_mayGive_written hwritten,
    Job.mayGive_ofFault.1 (mayGive_of_explaining hfinish)⟩

/-- A draft of what was written that can be finished is built. -/
theorem gives_build {nss : List (List Xml.Node)} {d : Draft} {c : Container}
    (hwritten : (written s document).Gives (nss, d))
    (hfinish : (d.withBlocks nss.flatten).finish = .ok c) : (build s document).Gives c :=
  hwritten.bind (gives_explaining (Job.gives_ofFault hfinish) _)

theorem exists_bytes_of_toBytes {s : Setting} {document : Layout.Document} {bs : ByteArray}
    (h : (toBytes s document).MayGive bs) : ∃ c : Container, c.bytes = .ok bs := by
  obtain ⟨c, -, hbytes⟩ := Job.MayGive.of_bind h
  exact ⟨c, Job.mayGive_ofFault.1 (mayGive_of_explaining hbytes)⟩

/-- A document can be put into bytes if and only if it can be saved. -/
theorem exists_toBytes_iff : (∃ bs, (toBytes s document).result.1 = .ok bs) ↔ Saves s document := by
  constructor
  · rintro ⟨bs, h⟩
    obtain ⟨c, hbuild, hbytes⟩ := Job.MayGive.of_bind (Job.mayGive_of_result_eq h)
    obtain ⟨nss, d, hwritten, hfinish⟩ := mayGive_build hbuild
    exact ⟨nss, d, c, hwritten, hfinish, bs, Job.mayGive_ofFault.1 (mayGive_of_explaining hbytes)⟩
  · rintro ⟨nss, d, c, hwritten, hfinish, bs, hbytes⟩
    have hgives : (toBytes s document).Gives bs :=
      (gives_build hwritten hfinish).bind (gives_explaining (Job.gives_ofFault hbytes) _)
    exact ⟨bs, hgives.result_eq⟩

/-- There is a place for a file at a path, whatever is written into it. -/
def HasPlace (fs : Files) (path : String) : Prop :=
  namesFile path = true ∧ ∃ place, fs.target (.ofText path) = .ok place

/-- Whatever is written into the file at a path is written as a whole. -/
def TakesAll (fs : Files) (path : String) : Prop :=
  namesFile path = true ∧ ∃ place, fs.target (.ofText path) = .ok place ∧ fs.breaks place = none

/-- What a place takes is given on. -/
theorem mayGive_placed {path : String} {r : Except Refusal α} {a : α} :
    (placed path r).MayGive a ↔ r = .ok a := by
  constructor
  · rintro ⟨w, w', h⟩
    rcases r with e | b
    · cases e <;> cases h
    · cases h
      rfl
  · rintro rfl
    exact (Job.gives_pure a).mayGive

/-- What is written into a file are the bytes of the document. -/
theorem write_of_toFile {path : String} {fs : Files} (h : (toFile s document path).MayGive fs) :
    ∃ bs, (toBytes s document).Gives bs ∧ s.files.write (.ofText path) bs = .ok fs := by
  obtain ⟨c, hbuild, h⟩ := Job.MayGive.of_bind h
  obtain ⟨_, -, h⟩ := Job.MayGive.of_bind h
  dsimp only at h
  split at h
  · obtain ⟨_, hnone, -⟩ := Job.MayGive.of_bind h
    cases mayGive_placed.1 hnone
  · obtain ⟨bs, hbytes, h⟩ := Job.MayGive.of_bind h
    obtain ⟨fs', hfs, h⟩ := Job.MayGive.of_bind h
    obtain ⟨_, -, h⟩ := Job.MayGive.of_bind h
    cases Job.mayGive_pure.1 h
    obtain ⟨nss, d, hwritten, hfinish⟩ := mayGive_build hbuild
    exact ⟨bs, (gives_build hwritten hfinish).bind
      (gives_explaining (Job.gives_ofFault (Job.mayGive_ofFault.1 hbytes)) _),
      mayGive_placed.1 hfs⟩

/-- A document that can be saved is, at a path that takes all. -/
theorem gives_toFile {path : String} (hsaves : Saves s document) (htakes : TakesAll s.files path) :
    ∃ fs, (toFile s document path).Gives fs := by
  obtain ⟨nss, d, c, hwritten, hfinish, bs, hbytes⟩ := hsaves
  obtain ⟨hname, place, htarget, hbreaks⟩ := htakes
  have hwrite : s.files.write (.ofText path) bs = .ok (s.files.keep place bs) :=
    Files.write_eq_ok_iff.2 ⟨place, htarget, hbreaks, rfl⟩
  refine ⟨s.files.keep place bs, (gives_build hwritten hfinish).bind ?_⟩
  rw [htarget]
  refine (Job.gives_pure place).bind ?_
  dsimp only
  rw [if_neg (by simp [hname])]
  refine (Job.gives_ofFault hbytes).bind ?_
  rw [hwrite]
  exact (Job.gives_pure _).bind ((Job.gives_record _ _ _).bind (Job.gives_pure _))

/-- A document is written to a file if and only if it can be saved and the path takes all. -/
theorem exists_toFile_iff {path : String} :
    (∃ fs, (toFile s document path).result.1 = .ok fs) ↔
      Saves s document ∧ TakesAll s.files path := by
  constructor
  · rintro ⟨fs, h⟩
    have hmay := Job.mayGive_of_result_eq h
    obtain ⟨bs, hbytes, hwrite⟩ := write_of_toFile hmay
    obtain ⟨place, htarget, hbreaks, -⟩ := Files.write_eq_ok_iff.1 hwrite
    refine ⟨exists_toBytes_iff.1 ⟨bs, hbytes.result_eq⟩, ?_, place, htarget, hbreaks⟩
    obtain ⟨c, -, h⟩ := Job.MayGive.of_bind hmay
    obtain ⟨_, -, h⟩ := Job.MayGive.of_bind h
    dsimp only at h
    split at h
    · obtain ⟨_, hnone, -⟩ := Job.MayGive.of_bind h
      cases mayGive_placed.1 hnone
    · simp_all
  · rintro ⟨hsaves, htakes⟩
    obtain ⟨fs, hfs⟩ := gives_toFile hsaves htakes
    exact ⟨fs, hfs.result_eq⟩

/-- A document can be saved if another one with the same properties can be, where whatever its
    blocks are written into they are written, and no further address is reached from them. -/
theorem Saves.of_leads {t : Setting} {document' : Layout.Document} (hsaves : Saves s document)
    (hprepares : ∀ d, s.Prepares document.metadata d → t.Prepares document'.metadata d)
    (h : ∀ ⦃d nss d'⦄, s.Prepares document.metadata d →
      Leads (document.blocks.mapM s.block) d nss d' →
      ∃ mss e', Leads (document'.blocks.mapM t.block) d mss e' ∧
        ∀ address, Reaches e'.main.relationships address → Reaches d'.main.relationships address) :
    Saves t document' := by
  obtain ⟨nss, d', c, hwritten, hfinish, hbytes⟩ := hsaves
  obtain ⟨d, hd, hlead⟩ := leads_of_mayGive_written hwritten.mayGive
  obtain ⟨mss, e', hlead', hreach⟩ := h hd hlead
  have hgrows : d.Grows d' := (steady_mapM s.steady_block _).grows hlead.mayLead
  have hgrows' : d.Grows e' := (steady_mapM t.steady_block _).grows hlead'.mayLead
  obtain ⟨hstyles, -⟩ := hd.cases
  obtain ⟨c', hfinish', hbytes'⟩ :=
    Draft.exists_bytes_of_grows hgrows hgrows' hstyles hreach _ mss.flatten hfinish hbytes
  exact ⟨mss, e', c', gives_written (hprepares d hd) hlead', hfinish', hbytes'⟩

end Saves

end Docx

end Manuscript
