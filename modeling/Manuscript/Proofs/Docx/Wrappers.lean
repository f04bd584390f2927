import Manuscript.Proofs.Docx.Pictures
import Manuscript.Proofs.Render.WellFormed

/-!
# Links as wrappers

A document may be written with links as such or with their runs alone (`Setting.linking`). Both ways
the same pictures are added, so the drafts differ in the relationships of the document alone
(`Draft.Alike`), and each paragraph has the same runs, within links or not (`SameRuns`): but for the
identifiers that drawings refer to their pictures by, they are equal (`written_linking`). That is so
unless a link holds a picture that is there: its file is drawn only where links are not written as
such.
-/

namespace Manuscript.Docx

open Relationship

/-- The setting with links written as such, or not. -/
def Setting.linking (s : Setting) (native : Bool) : Setting :=
  { s with options := { s.options with nativeHyperlinks := native } }

/-- A picture in a part belongs to the document. -/
def Draft.HasPicture (d : Draft) (name : String) : Prop :=
  ∃ r ∈ d.main.relationships, r.kind = imageRelation ∧ r.target = .part name

/-- An identifier leads from the document to a picture in a part. -/
def Draft.Refers (d : Draft) (id name : String) : Prop :=
  ∃ r, withId? d.main.relationships id = some r ∧ r.kind = imageRelation ∧ r.target = .part name

/-- An identifier still refers to its part when the draft has grown. -/
theorem Draft.Refers.of_grows {d d' : Draft} (hd : d.Grows d') {id name : String}
    (h : d.Refers id name) : d'.Refers id name := by
  obtain ⟨r, hr, hrest⟩ := h
  exact ⟨r, hd.withId? hr, hrest⟩

/-! ## Drafts that are alike -/

/-- Two drafts differ in the relationships of the document alone, and the same pictures belong to
    it. -/
structure Draft.Alike (d e : Draft) : Prop where
  container : e.container = d.container
  main : e.main = { d.main with relationships := e.main.relationships }
  tree : e.tree = d.tree
  styles : e.styles = d.styles
  pictureFiles : e.pictureFiles = d.pictureFiles
  drawings : e.drawings = d.drawings
  hasPicture : ∀ name, d.HasPicture name ↔ e.HasPicture name
  distinct : Distinct d.main.relationships ∧ Distinct e.main.relationships

namespace Draft

variable {d e : Draft}

theorem Alike.refl (h : Distinct d.main.relationships) : d.Alike d :=
  ⟨rfl, rfl, rfl, rfl, rfl, rfl, fun _ => Iff.rfl, h, h⟩

/-- Relating something adds a picture only if it is one. -/
theorem hasPicture_relate {kind : String} {target : Target} {name : String} :
    (d.relate kind target).1.HasPicture name ↔
      d.HasPicture name ∨ kind = imageRelation ∧ target = .part name := by
  rw [HasPicture, HasPicture, relate]
  obtain ⟨q, hq, hkind, htarget, heq⟩ | ⟨id, -, heq⟩ :=
    Container.relate_cases d.main.relationships kind target
  · rw [heq]
    constructor
    · exact .inl
    · rintro (h | ⟨h, h'⟩)
      · exact h
      · exact ⟨q, hq, hkind.trans h, htarget.trans h'⟩
  · rw [heq]
    constructor
    · rintro ⟨r, hr, h⟩
      rcases List.mem_append.1 hr with hr | hr
      · exact .inl ⟨r, hr, h⟩
      · cases List.mem_singleton.1 hr
        exact .inr h
    · rintro (⟨r, hr, h⟩ | h)
      · exact ⟨r, List.mem_append_left _ hr, h⟩
      · exact ⟨_, List.mem_append_right _ (List.mem_singleton_self _), h⟩

/-- A link that is added to the second of two drafts leaves them alike. -/
theorem Alike.relate_link (h : d.Alike e) (address : String) :
    d.Alike (e.relate hyperlinkRelation (.external address)).1 :=
  { h with
    main := by
      rw [relate, h.main]
    hasPicture := fun name => by
      rw [hasPicture_relate, h.hasPicture, or_iff_left]
      rintro ⟨hkind, -⟩
      -- A link is no picture.
      exact absurd hkind (by decide)
    distinct := ⟨h.distinct.1, Container.distinct_relate h.distinct.2 _ _⟩ }

/-- A picture that comes to belong to two drafts leaves them alike. -/
theorem Alike.relate_picture (h : d.Alike e) (name : String) :
    (d.relate imageRelation (.part name)).1.Alike (e.relate imageRelation (.part name)).1 :=
  { h with
    main := by
      rw [relate, relate, h.main]
    hasPicture := fun other => by
      rw [hasPicture_relate, hasPicture_relate, h.hasPicture]
    distinct :=
      ⟨Container.distinct_relate h.distinct.1 _ _, Container.distinct_relate h.distinct.2 _ _⟩ }

/-- What relates a picture refers to it. -/
theorem refers_relate (hids : Distinct d.main.relationships) (name : String) :
    (d.relate imageRelation (.part name)).1.Refers (d.relate imageRelation (.part name)).2 name :=
  Container.withId?_relate hids imageRelation (.part name)

/-- A draft has a picture if one of its relationships leads to it. -/
theorem any_picture_iff {name : String} :
    (d.main.relationships.any fun r => r.kind == imageRelation && r.target == .part name) = true ↔
      d.HasPicture name := by
  simp [HasPicture]

/-- Drafts that are alike know the same pictures. -/
theorem Alike.pictures_eq (h : d.Alike e) : e.pictures = d.pictures := by
  have hmain (name : String) :
      (e.main.relationships.any fun r => r.kind == imageRelation && r.target == .part name) =
        d.main.relationships.any fun r => r.kind == imageRelation && r.target == .part name := by
    rw [Bool.eq_iff_iff, any_picture_iff, any_picture_iff, h.hasPicture]
  have hname : e.main.name = d.main.name := by
    rw [h.main]
  simp only [Draft.pictures, Draft.relationships, List.any_append, hmain, h.container, hname]

/-- A picture is added to two drafts as the same part. -/
theorem Alike.addPicture (h : d.Alike e) (p : Picture) (content : ByteArray) (file : String) :
    (d.addPicture p content file).1.Alike (e.addPicture p content file).1 ∧
      (e.addPicture p content file).2 = (d.addPicture p content file).2 := by
  have hpictures := h.pictures_eq
  have hname (suffix : String) : e.pictureName suffix = d.pictureName suffix := by
    unfold pictureName
    rw [hpictures]
  -- Both look among the same pictures, so either both add a part or neither does.
  rw [Draft.addPicture, Draft.addPicture, hpictures, hname, h.pictureFiles, h.container]
  cases d.pictures.find? fun q => q.content.data == content.data with
  | some q => exact ⟨h, rfl⟩
  | none => exact ⟨{ h with container := rfl, pictureFiles := rfl }, rfl⟩

end Draft

/-! ## The same runs -/

/-- Two runs in two documents are the same: equal but for the identifier of a picture, which leads
    to the same part in each. -/
def SameRun (d e : Draft) (n m : Xml.Node) : Prop :=
  n = m ∨ ∃ number id id' name cx cy part,
    n = element "r" [] [Drawing.inline number id name cx cy] ∧
    m = element "r" [] [Drawing.inline number id' name cx cy] ∧ d.Refers id part ∧ e.Refers id' part

/-- Nodes in two documents hold the same runs, within links or not. -/
def SameRuns (d e : Draft) (ns ms : List Xml.Node) : Prop :=
  List.Forall₂ (SameRun d e) (unlinked ns) (unlinked ms)

theorem lasting_sameRun : Lasting SameRun := by
  rintro d e d' e' n m hd he (rfl | ⟨number, id, id', name, cx, cy, part, rfl, rfl, hid, hid'⟩)
  · exact .inl rfl
  · exact .inr ⟨number, id, id', name, cx, cy, part, rfl, rfl, hid.of_grows hd, hid'.of_grows he⟩

theorem lasting_sameRuns : Lasting SameRuns :=
  fun _ _ _ _ _ _ hd he h => lasting_sameRun.forall₂ hd he h

theorem sameRuns_refl (d e : Draft) (ns : List Xml.Node) :
    List.Forall₂ (SameRun d e) ns ns :=
  List.forall₂_same.2 fun _ _ => .inl rfl

/-- Runs that are the same group by group are the same. -/
theorem SameRuns.flatten {d e : Draft} {nss mss : List (List Xml.Node)}
    (h : List.Forall₂ (SameRuns d e) nss mss) : SameRuns d e nss.flatten mss.flatten := by
  induction h with
  | nil => exact .nil
  | cons hns _ ih =>
    rw [SameRuns, List.flatten_cons, List.flatten_cons, unlinked_append, unlinked_append]
    exact List.rel_append hns ih

namespace Setting

variable {s : Setting} {d d' e : Draft}

/-! ## Runs outside links -/

/-- Drawings in two documents: either both are there and the same, or neither is. -/
def SameDrawing (d e : Draft) : Except Fault Xml.Node → Except Fault Xml.Node → Prop
  | .ok n, .ok m => SameRun d e (element "r" [] [n]) (element "r" [] [m])
  | .error _, .error _ => True
  | _, _ => False

/-- Drawings are the same if all that is made before is the same. -/
theorem sameDrawing_bind {x : Except Fault α} {f g : α → Except Fault Xml.Node}
    (h : ∀ a, SameDrawing d e (f a) (g a)) : SameDrawing d e (x >>= f) (x >>= g) := by
  cases x with
  | error f => trivial
  | ok a => exact h a

/-- A picture is drawn in two documents that are alike, or in neither, and they stay so. -/
theorem sameDrawing_draw (h : d.Alike e) (p : Picture) (content : ByteArray) (file : String)
    (width : Length) :
    (d.draw p content file width).1.Alike (e.draw p content file width).1 ∧
      SameDrawing (d.draw p content file width).1 (e.draw p content file width).1
        (d.draw p content file width).2 (e.draw p content file width).2 := by
  obtain ⟨hadd, hsame⟩ := h.addPicture p content file
  rw [Draft.draw, Draft.draw]
  generalize d.addPicture p content file = x at hadd hsame ⊢
  generalize e.addPicture p content file = y at hadd hsame ⊢
  obtain ⟨d₁, part, name⟩ := x
  obtain ⟨e₁, part', name'⟩ := y
  cases hsame
  have halike := hadd.relate_picture part
  have hid := Draft.refers_relate hadd.distinct.1 part
  have hid' := Draft.refers_relate hadd.distinct.2 part
  dsimp only at halike hid hid' ⊢
  rw [halike.drawings]
  refine ⟨{ halike with drawings := rfl }, ?_⟩
  refine sameDrawing_bind fun height => sameDrawing_bind fun width => ?_
  refine sameDrawing_bind fun height => sameDrawing_bind fun name => ?_
  exact .inr ⟨_, _, _, name, width, height, part, rfl, rfl, hid, hid'⟩

/-- A picture is drawn alike in drafts that are alike. -/
theorem follows_drawing (p : Path) :
    Follows Draft.Alike SameDrawing (s.drawing p) (s.drawing p) := by
  intro d e made d' h hmade
  rw [leads_drawing] at hmade
  rcases hread : s.readPicture p with f | ⟨width, content, picture⟩
  · rw [hread] at hmade
    obtain ⟨rfl, rfl⟩ := hmade
    refine ⟨.error f, e, leads_drawing.2 ?_, h, trivial⟩
    rw [hread]
    exact ⟨rfl, rfl⟩
  · rw [hread] at hmade
    obtain ⟨halike, hsame⟩ := sameDrawing_draw h picture content p.name width
    rw [show d.draw picture content p.name width = (d', made) from hmade] at halike hsame
    refine ⟨_, _, leads_drawing.2 ?_, halike, hsame⟩
    rw [hread]

/-- What is written for a picture is the same in two documents that are alike. -/
theorem follows_picture (address : String) :
    Follows Draft.Alike (fun d e drawn drawn' =>
      List.Forall₂ (SameRun d e) drawn.1 drawn'.1 ∧ drawn'.2 = drawn.2)
      (s.picture address) (s.picture address) := by
  rintro d e ⟨drawn, whole⟩ d' h hlead
  have hpicture {written : List Xml.Node × Bool} {e' : Draft} :
      Leads (s.picture address) e written e' ↔ _ := leads_picture
  rw [leads_picture] at hlead
  rcases hfound : s.lookUp address with f | _ | ⟨p, _ | _⟩
  · rw [hfound] at hlead
    exact hlead.elim
  · rw [hfound] at hlead hpicture
    obtain ⟨rfl, heq⟩ := hlead
    cases heq
    exact ⟨_, e, hpicture.2 ⟨rfl, rfl⟩, h, .nil, rfl⟩
  · simp only [hfound] at hlead hpicture
    obtain ⟨rfl, hfail, heq⟩ := hlead
    cases heq
    exact ⟨_, e, hpicture.2 ⟨rfl, hfail, rfl⟩, h, .nil, rfl⟩
  · simp only [hfound] at hlead hpicture
    obtain ⟨made, hmade, hlead⟩ := hlead
    -- Both drafts draw the picture, or neither does.
    obtain ⟨made', e', hmade', h', hsame⟩ := follows_drawing p h hmade
    rcases made with f | n <;> rcases made' with f' | m
    · obtain ⟨hfail, heq⟩ := hlead
      cases heq
      exact ⟨_, e', hpicture.2 ⟨.error f', hmade', hfail, rfl⟩, h', sameRuns_refl _ _ _, rfl⟩
    · exact hsame.elim
    · exact hsame.elim
    · cases hlead
      exact ⟨_, e', hpicture.2 ⟨.ok m, hmade', rfl⟩, h', .cons hsame .nil, rfl⟩

/-- A run is written alike in drafts that are alike. -/
theorem follows_run_same (r : Layout.Run) :
    Follows Draft.Alike (fun d e ns ms => List.Forall₂ (SameRun d e) ns ms)
      (s.run r) (s.run r) := by
  intro d e ns d' h hns
  cases hwanted : s.wanted? r with
  | none =>
    obtain ⟨n, hn, rfl, rfl⟩ := (leads_run_written hwanted).1 hns
    exact ⟨[n], e, (leads_run_written hwanted).2 ⟨n, hn, rfl, rfl⟩, h, sameRuns_refl _ _ _⟩
  | some address =>
    obtain ⟨drawn, whole, hpicture, hns⟩ := (leads_run_picture hwanted).1 hns
    obtain ⟨⟨drawn', whole'⟩, e', hpicture', h', hsame, hwhole⟩ :=
      follows_picture address h hpicture
    cases hwhole
    cases whole with
    | true =>
      cases hns
      exact ⟨drawn', e', (leads_run_picture hwanted).2 ⟨drawn', true, hpicture', rfl⟩, h', hsame⟩
    | false =>
      obtain ⟨n, hn, rfl⟩ := hns
      refine ⟨drawn' ++ [n], e',
        (leads_run_picture hwanted).2 ⟨drawn', false, hpicture', n, hn, rfl⟩, h', ?_⟩
      exact List.rel_append hsame (sameRuns_refl _ _ _)

/-- Runs outside links are the same in two documents that are alike. -/
theorem follows_runs_same (rs : List Layout.Run) :
    Follows Draft.Alike SameRuns (s.runs rs) (s.runs rs) := by
  intro d e ns d' h hns
  obtain ⟨nss, hnss, rfl⟩ := leads_runs_iff.1 hns
  have hall : List.Forall₂ (fun r r' => Follows Draft.Alike
      (fun d e ns ms => List.Forall₂ (SameRun d e) ns ms) (s.run r) (s.run r')) rs rs :=
    List.forall₂_same.2 fun r _ => follows_run_same r
  obtain ⟨mss, e', hmss, h', hsame⟩ :=
    follows_mapM lasting_sameRun.forall₂ s.steady_run s.steady_run hall h hnss
  have hms : Leads (s.runs rs) e mss.flatten e' := leads_runs_iff.2 ⟨mss, hmss, rfl⟩
  refine ⟨mss.flatten, e', hms, h', ?_⟩
  rw [SameRuns, (pictured_of_leads_runs h.distinct.1 hns).1,
    (pictured_of_leads_runs h.distinct.2 hms).1]
  exact List.rel_flatten hsame

/-! ## Runs of links -/

/-- A picture that a run stands for is there. -/
def ShowsPicture (s : Setting) (r : Layout.Run) : Prop :=
  ∃ address p, s.wanted? r = some address ∧ s.lookUp address = .ok (some (p, true))

/-- A run that stands for no picture that is there is written as its text. -/
theorem leads_run_textual {r : Layout.Run} (hbreak : r.isBreak = false)
    (hpicture : ¬ s.ShowsPicture r) {ns : List Xml.Node} (h : Leads (s.run r) d ns d') :
    ∃ n, Run.ofText s.options r = .ok n ∧ ns = [n] ∧ d' = d := by
  cases hwanted : s.wanted? r with
  | none => exact (leads_run_text hbreak hwanted).1 h
  | some address =>
    obtain ⟨drawn, whole, hlead, hns⟩ := (leads_run_picture hwanted).1 h
    rw [leads_picture] at hlead
    rcases hfound : s.lookUp address with f | _ | ⟨p, _ | _⟩
    · rw [hfound] at hlead
      exact hlead.elim
    · rw [hfound] at hlead
      obtain ⟨rfl, heq⟩ := hlead
      cases heq
      obtain ⟨n, hn, rfl⟩ := hns
      exact ⟨n, hn, rfl, rfl⟩
    · rw [hfound] at hlead
      obtain ⟨rfl, -, heq⟩ := hlead
      cases heq
      obtain ⟨n, hn, rfl⟩ := hns
      exact ⟨n, hn, rfl, rfl⟩
    · -- A picture that was found would be shown.
      exact absurd ⟨address, p, hwanted, hfound⟩ hpicture

/-- Runs without breaks and pictures are written as their texts. -/
theorem leads_runs_textual {rs : List Layout.Run} (hbreak : ∀ r ∈ rs, r.isBreak = false)
    (hpicture : ∀ r ∈ rs, ¬ s.ShowsPicture r) {ns : List Xml.Node}
    (h : Leads (s.runs rs) d ns d') : rs.mapM (Run.ofText s.options) = .ok ns ∧ d' = d := by
  rw [mapM_eq_ok_iff]
  induction rs generalizing d ns with
  | nil =>
    obtain ⟨rfl, rfl⟩ := leads_runs_nil.1 h
    exact ⟨.nil, rfl⟩
  | cons r rs ih =>
    rw [List.forall_mem_cons] at hbreak hpicture
    obtain ⟨ns₁, d₁, ns₂, hr, hrs, rfl⟩ := leads_runs_cons.1 h
    obtain ⟨n, hn, rfl, rfl⟩ := leads_run_textual hbreak.1 hpicture.1 hr
    obtain ⟨hns, rfl⟩ := ih hbreak.2 hpicture.2 hrs
    exact ⟨.cons hn hns, rfl⟩

/-- What is asked of a run of a link: it ends no line, and stands for no picture that is there. -/
def Textual (s : Setting) (r : Layout.Run) : Prop :=
  r.hyperlink ≠ none → r.isBreak = false ∧ ¬ s.ShowsPicture r

/-- A group of runs is the same within its link. -/
theorem follows_group_same {g : List Layout.Run} (hlink : ∀ r ∈ g, r.hyperlink = linkOf g)
    (hg : ∀ r ∈ g, s.Textual r) :
    Follows Draft.Alike SameRuns (s.runs g) (s.group s.link g) := by
  cases haddress : linkOf g with
  | none =>
    rw [group_eq_runs haddress]
    exact s.follows_runs_same g
  | some address =>
    -- Here a run is written outside links as within them: as its text.
    have htextual : ∀ r ∈ g, r.isBreak = false ∧ ¬ s.ShowsPicture r := fun r hr =>
      hg r hr (by rw [hlink r hr, haddress]; exact Option.some_ne_none address)
    intro d e ns d' h hns
    obtain ⟨hplain, -⟩ := pictured_of_leads_runs h.distinct.1 hns
    obtain ⟨hinner, rfl⟩ := leads_runs_textual (fun r hr => (htextual r hr).1)
      (fun r hr => (htextual r hr).2) hns
    have hgroup := (leads_group_link (d := e) haddress).2 (by rw [hinner]; exact ⟨rfl, rfl⟩)
    refine ⟨_, _, hgroup, h.relate_link address, ?_⟩
    rw [SameRuns, hplain, unlinked_hyperlink]
    exact sameRuns_refl _ _ _

/-- Runs are written group by group. -/
theorem leads_runs_flatten {gs : List (List Layout.Run)} {ns : List Xml.Node} :
    Leads (s.runs gs.flatten) d ns d' ↔
      ∃ nss, Leads (gs.mapM s.runs) d nss d' ∧ ns = nss.flatten := by
  induction gs generalizing d ns with
  | nil =>
    rw [List.flatten_nil, leads_runs_nil]
    constructor
    · rintro ⟨rfl, rfl⟩
      exact ⟨[], leads_pure _ _, rfl⟩
    · rintro ⟨nss, hnss, rfl⟩
      obtain ⟨rfl, rfl⟩ := leads_mapM_nil.1 hnss
      exact ⟨rfl, rfl⟩
  | cons g gs ih =>
    simp only [List.flatten_cons, leads_runs_append, ih, leads_mapM_cons s.steady_runs]
    constructor
    · rintro ⟨ns₁, d₁, _, hg, ⟨nss, hnss, rfl⟩, rfl⟩
      exact ⟨ns₁ :: nss, ⟨ns₁, d₁, nss, hg, hnss, rfl⟩, rfl⟩
    · rintro ⟨_, ⟨ns₁, d₁, nss, hg, hnss, rfl⟩, rfl⟩
      exact ⟨ns₁, d₁, nss.flatten, hg, ⟨nss, hnss, rfl⟩, rfl⟩

end Setting

/-! ## Documents -/

section

variable {s : Setting}

theorem runs_linking (native : Bool) (rs : List Layout.Run) :
    (s.linking native).runs rs = s.runs rs := rfl

/-- The text of a paragraph is the same with links as without them. -/
theorem follows_text_linking {rs : List Layout.Run} (h : ∀ r ∈ rs, s.Textual r) :
    Follows Draft.Alike SameRuns ((s.linking false).text rs) ((s.linking true).text rs) := by
  intro d e ns d' halike hns
  -- Without links too the runs are taken group by group, to be set beside those with links.
  rw [Setting.text_eq_runs rfl, runs_linking, ← Setting.flatten_groups rs,
    Setting.leads_runs_flatten] at hns
  obtain ⟨nss, hnss, rfl⟩ := hns
  have hall : List.Forall₂ (fun g g' => Follows Draft.Alike SameRuns (s.runs g) (s.group s.link g'))
      (Setting.groups rs) (Setting.groups rs) := by
    refine List.forall₂_same.2 fun g hg => ?_
    refine Setting.follows_group_same (Setting.hyperlink_of_mem_groups hg) fun r hr => h r ?_
    rw [← Setting.flatten_groups rs]
    exact List.mem_flatten_of_mem hg hr
  obtain ⟨mss, e', hmss, halike', hsame⟩ := follows_mapM lasting_sameRuns s.steady_runs
    (s.steady_group s.steady_link) hall halike hnss
  have htext : Leads ((s.linking true).text rs) e mss.flatten e' :=
    (Setting.leads_text_native rfl).2 ⟨mss, hmss, rfl⟩
  exact ⟨mss.flatten, e', htext, halike', .flatten hsame⟩

theorem prepares_linking {m : Metadata} {d : Draft} (h : (s.linking false).Prepares m d) :
    (s.linking true).Prepares m d := h

/-- A document that is laid out from a tree is written with links as such if it is without them, and
    each of its paragraphs has the same properties and the same runs, unless a run of a link stands
    for a picture that is there. -/
theorem written_linking (setup : Render.Setup) (ns : List Node)
    (h : ∀ r ∈ (Render.render setup ns).runs, r.hyperlink ≠ none → ¬ s.ShowsPicture r) :
    ∀ nss d, (written (s.linking false) (Render.render setup ns)).result.1 = .ok (nss, d) →
      ∃ mss e, (written (s.linking true) (Render.render setup ns)).result.1 = .ok (mss, e) ∧
        d.Alike e ∧ List.Forall₂ (RelatedParagraphs SameRuns d e) (paragraphsInList nss.flatten)
          (paragraphsInList mss.flatten) := by
  intro nss d' hwritten
  obtain ⟨d, hd, hlead⟩ := leads_of_mayGive_written (Job.mayGive_of_result_eq hwritten)
  obtain ⟨-, hids, -⟩ := hd.cases
  -- The renderer gives no link to a line break.
  have htextual : ∀ r ∈ (Render.render setup ns).runs, s.Textual r := by
    refine fun r hr hlink => ⟨?_, h r hr hlink⟩
    have hformed := Render.wellFormed_render setup ns r hr
    by_contra hbreak
    rw [Layout.Run.WellFormed, if_pos (by simpa using hbreak)] at hformed
    exact hlink hformed.2.1
  have hfollows := follows_blocks (P := Draft.Alike) (Q := SameRuns) (s := s.linking false)
    (t := s.linking true) (f := id) (g := id) (fun _ _ h => ⟨h.tree, h.styles⟩) lasting_sameRuns
    (fun _ _ => .nil) rfl fun rs hrs => by
      rw [List.map_id]
      exact follows_text_linking fun r hr => htextual r (hrs r hr)
  rw [Layout.map_mapRuns_id] at hfollows
  obtain ⟨mss, e', hlead', halike, hsame⟩ := hfollows (.refl hids) hlead
  exact ⟨mss, e', (gives_written (prepares_linking hd) hlead').result_eq, halike, hsame⟩

/-- A link with a picture that is missing, beside a picture outside the link. -/
theorem written_linking_missing :
    let s : Setting := {}
    let setup : Render.Setup := {}
    let ns : List Node := [.paragraph [.text "a",
      .link "u" [.text "b", .image "none.png" "c" none] none, .image "pic.png" "d" none]]
    (∀ r ∈ (Render.render setup ns).runs, r.hyperlink ≠ none → ¬ s.ShowsPicture r) ∧
    ∀ nss d, (written (s.linking false) (Render.render setup ns)).result.1 = .ok (nss, d) →
      ∃ mss e, (written (s.linking true) (Render.render setup ns)).result.1 = .ok (mss, e) ∧
        d.Alike e ∧ List.Forall₂ (RelatedParagraphs SameRuns d e) (paragraphsInList nss.flatten)
          (paragraphsInList mss.flatten) := by
  intro s setup ns
  have hmissing : s.lookUp "none.png" = .ok (some (.ofText "none.png", false)) := by decide +kernel
  have h : ∀ r ∈ (Render.render setup ns).runs, r.hyperlink ≠ none → ¬ s.ShowsPicture r := by
    let f := Render.linkFormat {} .plain
    have hlinked : (Render.render setup ns).runs.filter (·.hyperlink.isSome) =
        [{ text := "b", format := f, hyperlink := some "u" },
          { text := "c", format := f, hyperlink := some "u", imageSource := some "none.png" }] := by
      decide
    rintro r hr hlink ⟨address, p, hwanted, hfound⟩
    have hr : r ∈ (Render.render setup ns).runs.filter (·.hyperlink.isSome) :=
      List.mem_filter.2 ⟨hr, Option.isSome_iff_ne_none.2 hlink⟩
    rw [hlinked] at hr
    rcases List.mem_cons.1 hr with rfl | hr
    · cases hwanted
    · cases List.mem_singleton.1 hr
      cases hwanted
      rw [hmissing] at hfound
      cases hfound
  exact ⟨h, written_linking setup ns h⟩

end

end Manuscript.Docx
