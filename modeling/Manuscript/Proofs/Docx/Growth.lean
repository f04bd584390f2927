import Manuscript.Proofs.Docx.Relationships

/-!
# Drafts only grow

Whatever is written, the draft keeps its tree, its styles, and all parts and relationships that it
has (`Draft.Grows`): links and pictures add relationships, and pictures add parts that have none of
their own. So what was found out about a draft before a step still holds of the one after it. And
where a step ends does not depend on the records that it finds: if it may lead to a result, it leads
to it. A step with both properties is *steady*; every step of writing is, up to that of a block
(`steady_block`), and what a sequence of steady steps leads to is known from what each of them leads
to (`Steady.leads_bind`).
-/

namespace Manuscript.Docx

open Relationship

/-- A draft has grown into another. -/
structure Draft.Grows (d d' : Draft) : Prop where
  tree : d'.tree = d.tree
  styles : d'.styles = d.styles
  main : d'.main = { d.main with relationships := d'.main.relationships }
  outer : d'.container.relationships = d.container.relationships
  relationships : ∃ new, d'.main.relationships = d.main.relationships ++ new ∧
    ∀ r ∈ new, r.kind = imageRelation ∨ r.kind = hyperlinkRelation
  parts : ∃ new, d'.container.parts = d.container.parts ++ new ∧ ∀ p ∈ new, p.relationships = []
  distinct : Distinct d.main.relationships → Distinct d'.main.relationships

theorem Draft.Grows.refl (d : Draft) : d.Grows d where
  tree := rfl
  styles := rfl
  main := rfl
  outer := rfl
  relationships := ⟨[], by simp⟩
  parts := ⟨[], by simp⟩
  distinct := id

/-- A draft that has grown twice has grown. -/
theorem Draft.Grows.trans {d d' d'' : Draft} (h : d.Grows d') (h' : d'.Grows d'') :
    d.Grows d'' where
  tree := h'.tree.trans h.tree
  styles := h'.styles.trans h.styles
  main := by
    have hm := h'.main
    rw [h.main] at hm
    exact hm
  outer := h'.outer.trans h.outer
  relationships := by
    obtain ⟨new, hnew, hkind⟩ := h.relationships
    obtain ⟨new', hnew', hkind'⟩ := h'.relationships
    refine ⟨new ++ new', by rw [hnew', hnew, List.append_assoc], fun r hr => ?_⟩
    exact (List.mem_append.1 hr).elim (hkind r) (hkind' r)
  parts := by
    obtain ⟨new, hnew, hrel⟩ := h.parts
    obtain ⟨new', hnew', hrel'⟩ := h'.parts
    refine ⟨new ++ new', by rw [hnew', hnew, List.append_assoc], fun p hp => ?_⟩
    exact (List.mem_append.1 hp).elim (hrel p) (hrel' p)
  distinct := h'.distinct ∘ h.distinct

/-- What an identifier stands for in a draft still does when the draft has grown. -/
theorem Draft.Grows.withId? {d d' : Draft} (h : d.Grows d') {id : String} {r : Relationship}
    (hr : withId? d.main.relationships id = some r) :
    withId? d'.main.relationships id = some r := by
  obtain ⟨new, hnew, -⟩ := h.relationships
  exact withId?_of_prefix ⟨new, hnew.symm⟩ hr

/-- The parts of a draft are still there when it has grown. -/
theorem Draft.Grows.mem_parts {d d' : Draft} (h : d.Grows d') {p : Part}
    (hp : p ∈ d.container.parts) : p ∈ d'.container.parts := by
  obtain ⟨new, hnew, -⟩ := h.parts
  rw [hnew]
  exact List.mem_append_left new hp

namespace Draft

/-- A draft to which a link or a picture is related has grown, if only by nothing. -/
theorem grows_relate (d : Draft) {kind : String} (h : kind = imageRelation ∨
    kind = hyperlinkRelation) (target : Target) : d.Grows (d.relate kind target).1 where
  tree := rfl
  styles := rfl
  main := rfl
  outer := rfl
  relationships := by
    simp only [Draft.relate, Container.relate]
    split
    · exact ⟨[], by simp⟩
    · exact ⟨[_], rfl, by simpa using h⟩
  parts := ⟨[], by simp [Draft.relate]⟩
  distinct hd := Container.distinct_relate hd kind target

/-- A draft to which a picture is added has grown, if only by nothing. -/
theorem grows_addPicture (d : Draft) (p : Picture) (content : ByteArray) (file : String) :
    d.Grows (d.addPicture p content file).1 := by
  rw [addPicture]
  split
  · exact .refl d
  · exact { Grows.refl d with parts := ⟨[_], rfl, by simp⟩ }

theorem grows_draw (d : Draft) (p : Picture) (content : ByteArray) (file : String)
    (width : Length) : d.Grows (d.draw p content file width).1 := by
  have hp := d.grows_addPicture p content file
  have hr := hp.trans (grows_relate _ (.inl rfl) (.part (d.addPicture p content file).2.1))
  exact { hr with }

end Draft

/-! ## Steady steps -/

/-- A step of writing that ends in the same way after any records, and adds to the draft. -/
structure Steady (x : Drafting α) : Prop where
  leads : ∀ {d a d'}, MayLead x d a d' → Leads x d a d'
  grows : ∀ {d a d'}, MayLead x d a d' → d.Grows d'

theorem steady_pure (a : α) : Steady (pure a : Drafting α) where
  leads h := by
    obtain ⟨rfl, rfl⟩ := mayLead_pure.1 h
    exact leads_pure _ _
  grows h := by
    obtain ⟨-, rfl⟩ := mayLead_pure.1 h
    exact .refl _

/-- A job is a steady step if what it gives does not depend on the records that it finds. -/
theorem steady_lift {j : Job α} (hj : ∀ a, j.MayGive a → j.Gives a) :
    Steady (liftM j : Drafting α) where
  leads h := by
    obtain ⟨ha, rfl⟩ := mayLead_lift h
    exact leads_lift (hj _ ha) _
  grows h := by
    obtain ⟨-, rfl⟩ := mayLead_lift h
    exact .refl _

theorem steady_ofFault (x : Except Fault α) : Steady (liftM (Job.ofFault x) : Drafting α) :=
  steady_lift fun _ h => Job.gives_ofFault (Job.mayGive_ofFault.1 h)

theorem steady_warn (origin : String) (m : Message) :
    Steady (liftM (Job.warn origin m) : Drafting Unit) :=
  steady_lift fun _ _ => Job.gives_record _ _ _

/-- To refuse is steady, as it leads to no result at all. -/
theorem steady_refuse (e : Error) : Steady (liftM (Job.refuse e : Job α) : Drafting α) :=
  steady_lift fun a h => absurd h (Job.not_mayGive_refuse e a)

theorem steady_get : Steady (get : Drafting Draft) where
  leads h := by
    obtain ⟨rfl, rfl⟩ := mayLead_get.1 h
    exact leads_get _
  grows h := by
    obtain ⟨-, rfl⟩ := mayLead_get.1 h
    exact .refl _

/-- A change of the draft is steady if the draft has grown after it. -/
theorem steady_step {f : Draft → Draft × α} (hf : ∀ d : Draft, d.Grows (f d).1) :
    Steady (Setting.step f) where
  leads {d a d'} h := by
    have hd := leads_step f d
    rwa [mayLead_step.1 h] at hd
  grows {d a d'} h := by
    have hd := hf d
    rwa [mayLead_step.1 h] at hd

/-- Steady steps can be put together, one after another. -/
theorem Steady.bind {x : Drafting α} {f : α → Drafting β} (hx : Steady x)
    (hf : ∀ a, Steady (f a)) : Steady (x >>= f) where
  leads h := by
    obtain ⟨a, d', ha, hb⟩ := MayLead.of_bind h
    exact (hx.leads ha).bind ((hf a).leads hb)
  grows h := by
    obtain ⟨a, d', ha, hb⟩ := MayLead.of_bind h
    exact (hx.grows ha).trans ((hf a).grows hb)

/-- A sequence of two steady steps leads to what the second one leads to after the first. -/
theorem Steady.leads_bind {x : Drafting α} {f : α → Drafting β} (hx : Steady x)
    (hf : ∀ a, Steady (f a)) {d d'' : Draft} {b : β} :
    Leads (x >>= f) d b d'' ↔ ∃ a d', Leads x d a d' ∧ Leads (f a) d' b d'' := by
  constructor
  · intro h
    obtain ⟨a, d', ha, hb⟩ := MayLead.of_bind h.mayLead
    exact ⟨a, d', hx.leads ha, (hf a).leads hb⟩
  · rintro ⟨a, d', ha, hb⟩
    exact ha.bind hb

/-- A list of steady steps, one for each element, is steady. -/
theorem steady_mapM {f : α → Drafting β} (hf : ∀ a, Steady (f a)) (as : List α) :
    Steady (as.mapM f) := by
  induction as with
  | nil => exact steady_pure []
  | cons a as ih =>
    rw [List.mapM_cons]
    exact (hf a).bind fun b => ih.bind fun bs => steady_pure _

namespace Setting

variable (s : Setting)

/-- To refuse a picture is steady: the run is written as text, or nothing is. -/
theorem steady_refusePicture (m : Message) (cause : Option Fault) :
    Steady (s.refusePicture m cause) := by
  refine (steady_warn _ _).bind fun _ => ?_
  split
  · exact steady_refuse _
  · exact steady_pure _

/-- To draw a picture adds to the draft only. -/
theorem steady_drawing (p : Path) : Steady (s.drawing p) := by
  rw [drawing]
  split
  · exact steady_pure _
  · exact steady_step fun d => d.grows_draw _ _ _ _

theorem steady_picture (address : String) : Steady (s.picture address) := by
  refine (steady_ofFault _).bind fun found => ?_
  split
  · exact steady_pure _
  · exact (s.steady_refusePicture _ _).bind fun _ => steady_pure _
  · refine (s.steady_drawing _).bind fun drawn => ?_
    split
    · exact steady_pure _
    · exact (s.steady_refusePicture _ _).bind fun _ => steady_pure _

/-- A run is a steady step, whether it is written as a picture or as text. -/
theorem steady_run (r : Layout.Run) : Steady (s.run r) := by
  rw [run]
  split
  · exact steady_pure _
  · dsimp only
    cases s.wanted? r with
    | none => exact (steady_ofFault _).bind fun _ => steady_pure _
    | some address =>
      refine (s.steady_picture _).bind fun drawn => ?_
      obtain ⟨drawn, _ | _⟩ := drawn
      · exact (steady_ofFault _).bind fun _ => steady_pure _
      · exact steady_pure _

theorem steady_runs (rs : List Layout.Run) : Steady (s.runs rs) :=
  (steady_mapM s.steady_run rs).bind fun _ => steady_pure _

/-- A link adds a relationship to the draft only. -/
theorem steady_link (address : String) (rs : List Layout.Run) : Steady (s.link address rs) :=
  (steady_step fun d => d.grows_relate (.inr rfl) _).bind fun _ => steady_pure _

/-- A group of runs is a steady step if its link is one, as it is followed by the runs or by
    nothing. -/
theorem steady_group {link : String → List Layout.Run → Drafting (Except Fault Xml.Node)}
    (hlink : ∀ address rs, Steady (link address rs)) (rs : List Layout.Run) :
    Steady (s.group link rs) := by
  rw [group]
  split
  · exact s.steady_runs rs
  · refine (hlink _ _).bind fun made => ?_
    split
    · exact steady_pure _
    · exact (steady_warn _ _).bind fun _ => s.steady_runs rs

/-- The runs of a paragraph are a steady step, with links or without them. -/
theorem steady_text (rs : List Layout.Run) : Steady (s.text rs) := by
  rw [text]
  split
  · exact (steady_mapM (s.steady_group s.steady_link) _).bind fun _ => steady_pure _
  · exact s.steady_runs rs

/-- A paragraph is a steady step: its properties are read off the draft, which they leave alone. -/
theorem steady_paragraph (p : Layout.Paragraph) : Steady (s.paragraph p) :=
  steady_get.bind fun _ => (steady_ofFault _).bind fun _ =>
    (s.steady_text p.runs).bind fun _ => steady_pure _

theorem steady_row (columns : Nat) (width : String) (isHeader : Bool)
    (cells : List Layout.Paragraph) : Steady (s.row columns width isHeader cells) :=
  (steady_mapM s.steady_paragraph cells).bind fun _ => steady_pure _

/-- A table is a steady step, row by row. -/
theorem steady_table (t : Layout.Table) : Steady (s.table t) := by
  rw [table]
  dsimp only
  split
  · exact steady_pure _
  · refine steady_get.bind fun d => ?_
    refine (steady_ofFault _).bind fun width => ?_
    refine (steady_ofFault _).bind fun properties => ?_
    refine (steady_mapM (fun r => ?_) _).bind fun rows => steady_pure _
    exact s.steady_row _ _ _ _

/-- A block is a steady step, so that what a document leads to is known from its blocks. -/
theorem steady_block (b : Layout.Block) : Steady (s.block b) := by
  cases b with
  | table t => exact s.steady_table t
  | paragraph p =>
    refine steady_get.bind fun d => ?_
    dsimp only
    split
    · exact (steady_ofFault _).bind fun _ => (s.steady_paragraph _).bind fun _ => steady_pure _
    · exact (s.steady_paragraph _).bind fun _ => steady_pure _

end Setting

end Manuscript.Docx
