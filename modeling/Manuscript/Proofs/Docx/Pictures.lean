import Manuscript.Proofs.Docx.Links
import Manuscript.Proofs.Docx.Saving
import Manuscript.Proofs.Docx.Simulation

/-!
# Pictures

A run that stands for a picture is written as a drawing, which leads to a part with the content of
the file, or else as its text (`Setting.Pictured`); that is so of all runs of a document that is
written (`pictured_of_written`). Where no failure is asked for, a picture that cannot be used does
not keep a document from being written: it is written if it is without any pictures, provided that
each address can be looked up (`written_with_pictures`). Where one of them cannot be, the document
is not written, whatever is asked for (`looksUp_of_written`).
-/

namespace Manuscript.Docx

open Relationship

/-- An identifier leads from the document to a picture of some content. -/
def Draft.LeadsTo (d : Draft) (id : String) (content : ByteArray) : Prop :=
  ∃ r part, withId? d.main.relationships id = some r ∧ r.kind = imageRelation ∧
    r.target = .part part.name ∧ part ∈ d.container.parts ∧ part.content = content

/-- An identifier still leads to its content when the draft has grown. -/
theorem Draft.LeadsTo.of_grows {d d' : Draft} (hd : d.Grows d') {id : String} {content : ByteArray}
    (h : d.LeadsTo id content) : d'.LeadsTo id content := by
  obtain ⟨r, part, hr, hkind, htarget, hpart, hcontent⟩ := h
  exact ⟨r, part, hd.withId? hr, hkind, htarget, hd.mem_parts hpart, hcontent⟩

/-- The part that a picture is added as is there and has its content. -/
theorem Draft.addPicture_part (d : Draft) (p : Picture) (content : ByteArray) (file : String) :
    ∃ part ∈ (d.addPicture p content file).1.container.parts,
      part.name = (d.addPicture p content file).2.1 ∧ part.content = content := by
  rw [addPicture]
  split
  -- A picture of the same bytes is there already.
  · rename_i q hq
    have hcontent := List.find?_some hq
    refine ⟨q, (List.mem_filter.1 (List.mem_of_find?_eq_some hq)).1, rfl, ?_⟩
    exact ByteArray.ext (beq_iff_eq.1 hcontent)
  · exact ⟨_, List.mem_append_right _ (List.mem_singleton_self _), rfl, rfl⟩

/-- A drawing that succeeds leads to a picture of the content. -/
theorem Draft.leadsTo_draw {d d' : Draft} (hids : Distinct d.main.relationships) {p : Picture}
    {content : ByteArray} {file : String} {width : Length} {n : Xml.Node}
    (h : d.draw p content file width = (d', .ok n)) :
    ∃ number id name w h, n = Drawing.inline number id name w h ∧ d'.LeadsTo id content := by
  obtain ⟨part, hpart, hname, hcontent⟩ := d.addPicture_part p content file
  have hids' := (d.grows_addPicture p content file).distinct hids
  obtain ⟨r, hr, hkind, htarget⟩ := Container.withId?_relate hids' imageRelation
    (.part (d.addPicture p content file).2.1)
  rw [draw, Prod.mk.injEq] at h
  obtain ⟨rfl, h⟩ := h
  obtain ⟨height, -, h⟩ := ok_of_bind h
  obtain ⟨width, -, h⟩ := ok_of_bind h
  obtain ⟨height, -, h⟩ := ok_of_bind h
  obtain ⟨name, -, h⟩ := ok_of_bind h
  cases h
  have hpart' : r.target = .part part.name := by rw [htarget, hname]
  exact ⟨_, _, name, width, height, rfl, r, part, hr, hkind, hpart', hpart, hcontent⟩

/-- A picture adds no address outside. -/
theorem Draft.reaches_draw {d : Draft} {p : Picture} {content : ByteArray} {file : String}
    {width : Length} {address : String} :
    Reaches (d.draw p content file width).1.main.relationships address ↔
      Reaches d.main.relationships address := by
  have hmain : (d.addPicture p content file).1.main = d.main := by
    rw [addPicture]
    split <;> rfl
  rw [← hmain]
  exact reaches_relate.trans (or_iff_left (by simp))

namespace Setting

variable {s : Setting} {d d' : Draft}

/-! ## What is written for a run -/

/-- The nodes for a run, without the link around them: the end of the line, its text, perhaps after
    an empty run that a picture has left, or the drawing of the picture that it stands for. -/
def Pictured (s : Setting) (d : Draft) (r : Layout.Run) (ns : List Xml.Node) : Prop :=
  (r.isBreak = true ∧ ns = [Run.lineBreak]) ∨
  (∃ n, Run.ofText s.options r = .ok n ∧ (ns = [n] ∨ ns = [Run.blank, n])) ∨
  ∃ address p width content picture number id name cx cy, s.wanted? r = some address ∧
    s.lookUp address = .ok (some (p, true)) ∧ s.readPicture p = .ok (width, content, picture) ∧
    ns = [element "r" [] [Drawing.inline number id name cx cy]] ∧ d.LeadsTo id content

/-- What shows a picture shows it still when the draft has grown. -/
theorem Pictured.of_grows (hd : d.Grows d') {r : Layout.Run} {ns : List Xml.Node}
    (h : s.Pictured d r ns) : s.Pictured d' r ns := by
  obtain h | h | ⟨address, p, width, content, picture, number, id, name, cx, cy, hwanted, hfound,
    hread, heq, h⟩ := h
  · exact .inl h
  · exact .inr (.inl h)
  · exact .inr (.inr ⟨address, p, width, content, picture, number, id, name, cx, cy, hwanted,
      hfound, hread, heq, h.of_grows hd⟩)

/-- A run that is written shows its picture, or its text. -/
theorem pictured_of_leads_run {r : Layout.Run} (hids : Distinct d.main.relationships)
    {ns : List Xml.Node} (h : Leads (s.run r) d ns d') : s.Pictured d' r ns := by
  cases hwanted : s.wanted? r with
  | none =>
    obtain ⟨n, hn, rfl, rfl⟩ := (leads_run_written hwanted).1 h
    rw [Run.written] at hn
    split at hn
    · cases hn
      exact .inl ⟨‹_›, rfl⟩
    · exact .inr (.inl ⟨n, hn, .inl rfl⟩)
  | some address =>
    obtain ⟨drawn, whole, hpicture, h⟩ := (leads_run_picture hwanted).1 h
    rw [leads_picture] at hpicture
    -- The address cannot be looked up, leads elsewhere, to no file, or to a file.
    rcases hfound : s.lookUp address with f | _ | ⟨p, _ | _⟩
    · rw [hfound] at hpicture
      exact hpicture.elim
    · rw [hfound] at hpicture
      obtain ⟨rfl, heq⟩ := hpicture
      cases heq
      obtain ⟨n, hn, rfl⟩ := h
      exact .inr (.inl ⟨n, hn, .inl rfl⟩)
    · rw [hfound] at hpicture
      obtain ⟨rfl, -, heq⟩ := hpicture
      cases heq
      obtain ⟨n, hn, rfl⟩ := h
      exact .inr (.inl ⟨n, hn, .inl rfl⟩)
    · rw [hfound] at hpicture
      obtain ⟨made, hmade, hpicture⟩ := hpicture
      cases made with
      | error f =>
        obtain ⟨-, heq⟩ := hpicture
        cases heq
        obtain ⟨n, hn, rfl⟩ := h
        exact .inr (.inl ⟨n, hn, .inr rfl⟩)
      | ok n =>
        cases hpicture
        cases h
        rw [leads_drawing] at hmade
        rcases hread : s.readPicture p with f | ⟨width, content, picture⟩
        · rw [hread] at hmade
          cases hmade.1
        · rw [hread] at hmade
          obtain ⟨number, id, name, cx, cy, rfl, hleads⟩ := Draft.leadsTo_draw hids hmade
          exact .inr (.inr ⟨address, p, width, content, picture, number, id, name, cx, cy, hwanted,
            hfound, hread, rfl, hleads⟩)

/-- What shows a run are runs. -/
theorem Pictured.runs {r : Layout.Run} {ns : List Xml.Node} (h : s.Pictured d r ns) :
    ∀ n ∈ ns, ∃ children, n = element "r" [] children := by
  obtain ⟨-, rfl⟩ | ⟨n, hn, h⟩ | ⟨_, _, _, _, _, _, _, _, _, _, -, -, -, rfl, -⟩ := h
  · simp [Run.lineBreak, element]
  · obtain ⟨children, rfl⟩ := Run.ofText_eq_element hn
    rcases h with rfl | rfl
    · simp [element]
    · simp [element, Run.blank]
  · simp [element]

/-- Nodes show runs as text or pictures, within links or not. -/
def PicturedAll (s : Setting) (d : Draft) (rs : List Layout.Run) (ns : List Xml.Node) : Prop :=
  ∃ pieces, unlinked ns = pieces.flatten ∧ List.Forall₂ (s.Pictured d) rs pieces

theorem PicturedAll.of_grows (hd : d.Grows d') {rs : List Layout.Run} {ns : List Xml.Node}
    (h : s.PicturedAll d rs ns) : s.PicturedAll d' rs ns := by
  obtain ⟨pieces, heq, hpieces⟩ := h
  exact ⟨pieces, heq, hpieces.imp fun _ _ => Pictured.of_grows hd⟩

/-- Groups that are shown one by one are shown as a whole. -/
theorem PicturedAll.flatten {gs : List (List Layout.Run)} {nss : List (List Xml.Node)}
    (h : List.Forall₂ (s.PicturedAll d) gs nss) : s.PicturedAll d gs.flatten nss.flatten := by
  induction h with
  | nil => exact ⟨[], rfl, .nil⟩
  | cons hg _ ih =>
    obtain ⟨pieces, heq, hpieces⟩ := hg
    obtain ⟨pieces', heq', hpieces'⟩ := ih
    refine ⟨pieces ++ pieces', ?_, List.rel_append hpieces hpieces'⟩
    rw [List.flatten_cons, unlinked_append, heq, heq', List.flatten_append]

/-- Each of the runs that are written is shown, and none is within a link. -/
theorem pictured_of_leads_runs {rs : List Layout.Run} (hids : Distinct d.main.relationships)
    {ns : List Xml.Node} (h : Leads (s.runs rs) d ns d') :
    unlinked ns = ns ∧ ∃ pieces, ns = pieces.flatten ∧ List.Forall₂ (s.Pictured d') rs pieces := by
  obtain ⟨pieces, hpieces, rfl⟩ := leads_runs_iff.1 h
  have hall : List.Forall₂ (s.Pictured d') rs pieces :=
    forall₂_of_leads_mapM (R := s.Pictured) (fun _ _ _ _ hd h => h.of_grows hd) s.steady_run
      (fun r _ _ _ _ hids h => pictured_of_leads_run hids h) hids hpieces
  refine ⟨unlinked_eq_self fun n hn => ?_, pieces, rfl, hall⟩
  obtain ⟨piece, hpiece, hn⟩ := List.mem_flatten.1 hn
  exact (forall_mem_of_forall₂ (p := fun _ => True) (fun _ _ h => ⟨trivial, h.runs⟩) hall).2
    piece hpiece n hn

/-- Runs that are written are shown one by one. -/
theorem picturedAll_of_leads_runs {rs : List Layout.Run} (hids : Distinct d.main.relationships)
    {ns : List Xml.Node} (h : Leads (s.runs rs) d ns d') : s.PicturedAll d' rs ns := by
  obtain ⟨hunlinked, pieces, heq, hpieces⟩ := pictured_of_leads_runs hids h
  exact ⟨pieces, hunlinked.trans heq, hpieces⟩

/-- A group that is written is shown, in the element of its link if that could be made. -/
theorem picturedAll_of_leads_group {g : List Layout.Run} (hids : Distinct d.main.relationships)
    {ns : List Xml.Node} (h : Leads (s.group s.link g) d ns d') : s.PicturedAll d' g ns := by
  cases haddress : linkOf g with
  | none =>
    rw [group_eq_runs haddress] at h
    exact picturedAll_of_leads_runs hids h
  | some address =>
    rw [leads_group_link haddress] at h
    -- The relationship of the link stays, whether its runs can be written within it or not.
    have hids' : Distinct (d.relate hyperlinkRelation (.external address)).1.main.relationships :=
      Container.distinct_relate hids _ _
    cases hinner : g.mapM (Run.ofText s.options) with
    | error f =>
      rw [hinner] at h
      exact picturedAll_of_leads_runs hids' h
    | ok inner =>
      rw [hinner] at h
      obtain ⟨rfl, rfl⟩ := h
      refine ⟨inner.map ([·]), ?_, ?_⟩
      · rw [unlinked_hyperlink, ← List.flatMap_def, List.flatMap_singleton']
      · rw [List.forall₂_map_right_iff]
        exact (mapM_eq_ok_iff.1 hinner).imp fun r n hn => .inr (.inl ⟨n, hn, .inl rfl⟩)

/-- Each run of a text that is written is shown as its text or as its picture. -/
theorem picturedAll_of_leads_text {rs : List Layout.Run} (hids : Distinct d.main.relationships)
    {ns : List Xml.Node} (h : Leads (s.text rs) d ns d') : s.PicturedAll d' rs ns := by
  cases hnative : s.options.nativeHyperlinks with
  | false =>
    rw [text_eq_runs hnative] at h
    exact picturedAll_of_leads_runs hids h
  | true =>
    obtain ⟨nss, hnss, rfl⟩ := (leads_text_native hnative).1 h
    have hall : List.Forall₂ (s.PicturedAll d') (groups rs) nss :=
      forall₂_of_leads_mapM (R := s.PicturedAll) (fun _ _ _ _ hd h => h.of_grows hd)
        (s.steady_group s.steady_link)
        (fun g _ _ _ _ hids h => picturedAll_of_leads_group hids h) hids hnss
    have hflat := PicturedAll.flatten hall
    rwa [flatten_groups] at hflat

/-! ## Writing with and without pictures -/

/-- Changing runs but not their links changes no groups. -/
theorem groups_map {f : Layout.Run → Layout.Run} (hf : ∀ r, (f r).hyperlink = r.hyperlink)
    (rs : List Layout.Run) : groups (rs.map f) = (groups rs).map (List.map f) := by
  refine List.splitBy_eq_iff.2 ⟨?_, ?_, fun g hg => ?_, ?_⟩
  · rw [← List.map_flatten, flatten_groups]
  · intro h
    obtain ⟨g, hg, hnil⟩ := List.mem_map.1 h
    exact List.ne_nil_of_mem_splitBy hg (List.map_eq_nil_iff.1 hnil)
  · obtain ⟨h, hh, rfl⟩ := List.mem_map.1 hg
    rw [List.isChain_map]
    refine (List.isChain_of_mem_splitBy hh).imp fun a b hab => ?_
    rwa [hf, hf]
  · rw [List.isChain_map]
    refine (List.isChain_getLast_head_splitBy _ rs).imp ?_
    rintro g g' ⟨hne, hne', hlinks⟩
    refine ⟨by simpa using hne, by simpa using hne', ?_⟩
    rwa [List.getLast_map, List.head_map, hf, hf]

end Setting

end Manuscript.Docx

namespace Manuscript

/-- A run without the picture that it stands for. -/
def Layout.Run.withoutPicture (r : Layout.Run) : Layout.Run :=
  { r with imageSource := none }

namespace Docx

open Layout.Run (withoutPicture)

theorem isBreak_withoutPicture (r : Layout.Run) : (withoutPicture r).isBreak = r.isBreak := rfl

/-- A draft is like another one, and reaches no further address. -/
def Draft.Covers (d e : Draft) : Prop :=
  e.tree = d.tree ∧ e.styles = d.styles ∧
    ∀ address, Reaches e.main.relationships address → Reaches d.main.relationships address

theorem Draft.Covers.of_grows {d e e' : Draft} (h : d.Covers e) (he : e.Grows e')
    (hreach : ∀ address, Reaches e'.main.relationships address →
      Reaches e.main.relationships address) : d.Covers e' :=
  ⟨he.tree.trans h.1, he.styles.trans h.2.1, fun address ha => h.2.2 address (hreach address ha)⟩

/-- A new link is covered if the draft was. -/
theorem Draft.Covers.relate {d e : Draft} (h : d.Covers e) (address : String) :
    (d.relate hyperlinkRelation (.external address)).1.Covers
      (e.relate hyperlinkRelation (.external address)).1 :=
  ⟨h.1, h.2.1, fun a ha => reaches_relate.2 ((reaches_relate.1 ha).imp_left (h.2.2 a))⟩

namespace Setting

variable {s : Setting} {d d' : Draft}

/-- Where no failure is asked for, a picture whose address can be looked up stops nothing. -/
theorem exists_leads_picture (hfail : s.options.failOnResourceErrors = false) {address : String}
    {found : Option (Path × Bool)} (hfound : s.lookUp address = .ok found) (d : Draft) :
    ∃ drawn whole d', Leads (s.picture address) d (drawn, whole) d' ∧
      ∀ a, Reaches d'.main.relationships a → Reaches d.main.relationships a := by
  rcases found with _ | ⟨p, _ | _⟩
  · refine ⟨[], false, d, ?_, fun _ => id⟩
    rw [leads_picture, hfound]
    exact ⟨rfl, rfl⟩
  · refine ⟨[], false, d, ?_, fun _ => id⟩
    rw [leads_picture, hfound]
    exact ⟨rfl, hfail, rfl⟩
  · rcases hread : s.readPicture p with f | ⟨width, content, picture⟩
    · refine ⟨[Run.blank], false, d, ?_, fun _ => id⟩
      rw [leads_picture, hfound]
      refine ⟨.error f, ?_, hfail, rfl⟩
      rw [leads_drawing, hread]
      exact ⟨rfl, rfl⟩
    · have hdraw (made : Except Fault Xml.Node)
          (h : (d.draw picture content p.name width).2 = made) :
          Leads (s.drawing p) d made (d.draw picture content p.name width).1 := by
        rw [leads_drawing, hread, ← h]
      cases hmade : (d.draw picture content p.name width).2 with
      | error f =>
        refine ⟨[Run.blank], false, (d.draw picture content p.name width).1, ?_,
          fun _ => Draft.reaches_draw.1⟩
        rw [leads_picture, hfound]
        exact ⟨.error f, hdraw _ hmade, hfail, rfl⟩
      | ok n =>
        refine ⟨[element "r" [] [n]], true, (d.draw picture content p.name width).1, ?_,
          fun _ => Draft.reaches_draw.1⟩
        rw [leads_picture, hfound]
        exact ⟨.ok n, hdraw _ hmade, rfl⟩

/-- What is asked of runs for their pictures to stop nothing. -/
def LooksUp (s : Setting) (rs : List Layout.Run) : Prop :=
  ∀ r ∈ rs, ∀ address, s.wanted? r = some address → ∃ found, s.lookUp address = .ok found

variable (hfail : s.options.failOnResourceErrors = false)
include hfail

/-- A run with its picture can be written where it can be without. -/
theorem follows_run {r : Layout.Run} (hlook : s.LooksUp [r]) :
    Follows Draft.Covers (fun _ _ _ _ => True) (s.run (withoutPicture r)) (s.run r) := by
  intro d e ns d' hcovers hns
  obtain ⟨n, hn, rfl, rfl⟩ := (leads_run_written (by simp [wanted?, withoutPicture])).1 hns
  cases hwanted : s.wanted? r with
  | none => exact ⟨[n], e, (leads_run_written hwanted).2 ⟨n, hn, rfl, rfl⟩, hcovers, trivial⟩
  | some address =>
    obtain ⟨found, hfound⟩ := hlook r List.mem_cons_self address hwanted
    obtain ⟨drawn, whole, e', hpicture, hreach⟩ := exists_leads_picture hfail hfound e
    have hcovers' := hcovers.of_grows ((s.steady_picture address).grows hpicture.mayLead) hreach
    rw [Run.written, isBreak_withoutPicture, if_neg (by simp [isBreak_of_wanted? hwanted])] at hn
    cases whole with
    | true =>
      have hdrawn : Leads (s.run r) e drawn e' :=
        (leads_run_picture hwanted).2 ⟨drawn, true, hpicture, rfl⟩
      exact ⟨drawn, e', hdrawn, hcovers', trivial⟩
    | false =>
      have hdrawn : Leads (s.run r) e (drawn ++ [n]) e' :=
        (leads_run_picture hwanted).2 ⟨drawn, false, hpicture, n, hn, rfl⟩
      exact ⟨drawn ++ [n], e', hdrawn, hcovers', trivial⟩

/-- Runs with their pictures can be written where they can be without. -/
theorem follows_runs {rs : List Layout.Run} (hlook : s.LooksUp rs) :
    Follows Draft.Covers (fun _ _ _ _ => True) (s.runs (rs.map withoutPicture)) (s.runs rs) := by
  intro d e ns d' hcovers hns
  obtain ⟨nss, hnss, -⟩ := leads_runs_iff.1 hns
  have hall : List.Forall₂ (fun r r' => Follows Draft.Covers
      (fun _ _ (_ _ : List Xml.Node) => True) (s.run r) (s.run r')) (rs.map withoutPicture) rs := by
    rw [List.forall₂_map_left_iff, List.forall₂_same]
    exact fun r hr => follows_run hfail fun q hq => hlook q (List.mem_singleton.1 hq ▸ hr)
  obtain ⟨mss, e', hmss, hcovers', -⟩ :=
    follows_mapM lasting_true s.steady_run s.steady_run hall hcovers hnss
  exact ⟨mss.flatten, e', leads_runs_iff.2 ⟨mss, hmss, rfl⟩, hcovers', trivial⟩

/-- A group with its pictures can be written where it can be without. -/
theorem follows_group {g : List Layout.Run} (hlook : s.LooksUp g) :
    Follows Draft.Covers (fun _ _ _ _ => True) (s.group s.link (g.map withoutPicture))
      (s.group s.link g) := by
  intro d e ns d' hcovers hns
  have hlink : linkOf (g.map withoutPicture) = linkOf g := by
    cases g <;> rfl
  cases haddress : linkOf g with
  | none =>
    rw [group_eq_runs (hlink.trans haddress)] at hns
    rw [group_eq_runs haddress]
    exact follows_runs hfail hlook hcovers hns
  | some address =>
    rw [leads_group_link (hlink.trans haddress)] at hns
    have hcovers' := hcovers.relate address
    -- Within a link no picture is looked for, so the runs are the same.
    have hinner : (g.map withoutPicture).mapM (Run.ofText s.options) =
        g.mapM (Run.ofText s.options) := by
      rw [List.mapM_map]
      rfl
    rw [hinner] at hns
    cases hmapped : g.mapM (Run.ofText s.options) with
    | ok inner =>
      rw [hmapped] at hns
      obtain ⟨rfl, rfl⟩ := hns
      have hgroup := (leads_group_link (d := e) haddress).2 (by rw [hmapped]; exact ⟨rfl, rfl⟩)
      exact ⟨_, _, hgroup, hcovers', trivial⟩
    | error f =>
      rw [hmapped] at hns
      obtain ⟨ms, e', hms, hcovers'', -⟩ := follows_runs hfail hlook hcovers' hns
      have hgroup := (leads_group_link haddress).2 (by rw [hmapped]; exact hms)
      exact ⟨ms, e', hgroup, hcovers'', trivial⟩

/-- A text with its pictures can be written where it can be without. -/
theorem follows_text {rs : List Layout.Run} (hlook : s.LooksUp rs) :
    Follows Draft.Covers (fun _ _ _ _ => True) (s.text (rs.map withoutPicture)) (s.text rs) := by
  intro d e ns d' hcovers hns
  cases hnative : s.options.nativeHyperlinks with
  | false =>
    rw [text_eq_runs hnative] at hns ⊢
    exact follows_runs hfail hlook hcovers hns
  | true =>
    obtain ⟨nss, hnss, -⟩ := (leads_text_native hnative).1 hns
    -- Runs without their pictures have the same links, so the groups are the same.
    rw [groups_map (f := withoutPicture) fun _ => rfl] at hnss
    have hall : List.Forall₂ (fun g g' => Follows Draft.Covers
        (fun _ _ (_ _ : List Xml.Node) => True) (s.group s.link g) (s.group s.link g'))
        ((groups rs).map (List.map withoutPicture)) (groups rs) := by
      rw [List.forall₂_map_left_iff, List.forall₂_same]
      refine fun g hg => follows_group hfail fun r hr => hlook r ?_
      rw [← flatten_groups rs]
      exact List.mem_flatten_of_mem hg hr
    obtain ⟨mss, e', hmss, hcovers', -⟩ := follows_mapM lasting_true
      (s.steady_group s.steady_link) (s.steady_group s.steady_link) hall hcovers hnss
    exact ⟨mss.flatten, e', (leads_text_native hnative).2 ⟨mss, hmss, rfl⟩, hcovers', trivial⟩

omit hfail in
/-- The address of a picture outside links has been looked up when its text is written. -/
theorem looksUp_of_leads_text {rs : List Layout.Run} {ns : List Xml.Node}
    (h : Leads (s.text rs) d ns d') :
    s.LooksUp (rs.filter fun r => !s.options.nativeHyperlinks || r.hyperlink.isNone) := by
  have hruns {rs : List Layout.Run} {d d' : Draft} {ns : List Xml.Node}
      (h : Leads (s.runs rs) d ns d') : s.LooksUp rs := by
    induction rs generalizing d ns with
    | nil => exact List.forall_mem_nil _
    | cons r rs ih =>
      obtain ⟨ns₁, d₁, ns₂, hr, hrs, -⟩ := leads_runs_cons.1 h
      refine List.forall_mem_cons.2 ⟨fun address hwanted => ?_, ih hrs⟩
      obtain ⟨drawn, whole, hpicture, -⟩ := (leads_run_picture hwanted).1 hr
      rw [leads_picture] at hpicture
      cases hfound : s.lookUp address with
      | error f => simp [hfound] at hpicture
      | ok found => exact ⟨found, rfl⟩
  intro r hr
  obtain ⟨hr, houtside⟩ := List.mem_filter.1 hr
  cases hnative : s.options.nativeHyperlinks with
  | false =>
    rw [text_eq_runs hnative] at h
    exact hruns h r hr
  | true =>
    obtain ⟨nss, hnss, -⟩ := (leads_text_native hnative).1 h
    rw [← flatten_groups rs] at hr
    obtain ⟨g, hg, hr⟩ := List.mem_flatten.1 hr
    obtain ⟨e, ns', e', hlead⟩ :=
      exists_leads_of_mem (s.steady_group s.steady_link) hnss hg
    rw [group_eq_runs] at hlead
    · exact hruns hlead r hr
    -- All runs of a group belong to the link of the first, here to none.
    · have hlink := hyperlink_of_mem_groups hg r hr
      simp_all [linkOf]

end Setting

/-! ## Whole documents -/

section

variable {s : Setting} {document : Layout.Document}

/-- Each run of a document that is written is shown as its text or as its picture. -/
theorem pictured_of_written {nss : List (List Xml.Node)} {d' : Draft}
    (h : (written s document).MayGive (nss, d')) :
    List.Forall₂ (ShownAs (s.PicturedAll d')) (document.blocks.flatMap slotsOf)
      (paragraphsInList nss.flatten) := by
  obtain ⟨d, hd, hlead⟩ := leads_of_mayGive_written h
  obtain ⟨-, hids, -⟩ := hd.cases
  exact forall₂_slots_of_leads (fun _ _ _ _ hd h => h.of_grows hd) hids
    (fun _ _ _ _ _ hids h => Setting.picturedAll_of_leads_text hids h) hlead

/-- A document is not written, asked for or not, unless each address of a picture outside links can
    be looked up. -/
theorem looksUp_of_written {nss : List (List Xml.Node)} {d' : Draft}
    (h : (written s document).MayGive (nss, d')) :
    s.LooksUp
      (document.runs.filter fun r => !s.options.nativeHyperlinks || r.hyperlink.isNone) := by
  obtain ⟨d, hd, hlead⟩ := leads_of_mayGive_written h
  obtain ⟨-, hids, -⟩ := hd.cases
  -- The nodes do not matter here: each paragraph that was written has looked up its pictures.
  let R (_ : Draft) (rs : List Layout.Run) (_ : List Xml.Node) : Prop :=
    s.LooksUp (rs.filter fun r => !s.options.nativeHyperlinks || r.hyperlink.isNone)
  have hshown : List.Forall₂ (ShownAs (R d')) (document.blocks.flatMap slotsOf)
      (paragraphsInList nss.flatten) :=
    forall₂_slots_of_leads (R := R) (fun _ _ _ _ _ => id) hids
      (fun _ _ _ _ _ _ h => Setting.looksUp_of_leads_text h) hlead
  intro r hr
  obtain ⟨hr, houtside⟩ := List.mem_filter.1 hr
  obtain ⟨b, hb, hr⟩ := List.mem_flatMap.1 hr
  obtain ⟨p, hp, hr⟩ := exists_slot_of_mem_runs hr
  have hslot : some p ∈ document.blocks.flatMap slotsOf := List.mem_flatMap.2 ⟨b, hb, hp⟩
  have hread (o : Option Layout.Paragraph) (n : Xml.Node) (ho : ShownAs (R d') o n) :
      (∀ p, o = some p → R d' p.runs []) ∧ True := by
    refine ⟨?_, trivial⟩
    rintro p rfl
    obtain ⟨ps, ns, -, hp⟩ := ho
    exact hp
  have hall := (forall_mem_of_forall₂ (q := fun _ => True) hread hshown).1 _ hslot p rfl
  exact hall r (List.mem_filter.2 ⟨hr, houtside⟩)

/-- Where no failure is asked for and each address can be looked up, a document can be saved if it
    can be without its pictures. -/
theorem saves_of_withoutPicture (hfail : s.options.failOnResourceErrors = false)
    (hlook : s.LooksUp document.runs) (h : Saves s (document.mapRuns withoutPicture)) :
    Saves s document := by
  refine h.of_leads (fun _ => id) fun d nss d' _ hlead => ?_
  have hfollows : Follows Draft.Covers _ ((document.blocks.map (·.mapRuns withoutPicture)).mapM
      s.block) ((document.blocks.map (·.mapRuns id)).mapM s.block) :=
    follows_blocks (Q := fun _ _ _ _ => True) (fun _ _ h => ⟨h.1, h.2.1⟩) lasting_true
      (fun _ _ => trivial) rfl fun rs hrs => by
        rw [List.map_id]
        exact Setting.follows_text hfail fun r hr => hlook r (hrs r hr)
  obtain ⟨mss, e', hmss, hcovers, -⟩ := hfollows ⟨rfl, rfl, fun _ => id⟩ hlead
  rw [Layout.map_mapRuns_id] at hmss
  exact ⟨mss, e', hmss, hcovers.2.2⟩

/-- Where no failure is asked for and each address can be looked up, pictures keep no document from
    being written, into bytes or into a file, and each run that stands for a picture is shown as the
    picture or as its text. -/
theorem written_with_pictures (hfail : s.options.failOnResourceErrors = false)
    (hlook : s.LooksUp document.runs) :
    ((∃ bs, (toBytes s (document.mapRuns withoutPicture)).result.1 = .ok bs) →
      ∃ bs, (toBytes s document).result.1 = .ok bs) ∧
    (∀ path, (∃ fs, (toFile s (document.mapRuns withoutPicture) path).result.1 = .ok fs) →
      ∃ fs, (toFile s document path).result.1 = .ok fs) ∧
    ∀ nss d, (written s document).result.1 = .ok (nss, d) →
      List.Forall₂ (ShownAs (s.PicturedAll d)) (document.blocks.flatMap slotsOf)
        (paragraphsInList nss.flatten) := by
  have hsaves := saves_of_withoutPicture hfail hlook
  refine ⟨fun h => ?_, fun path h => ?_, fun nss d h => ?_⟩
  · exact exists_toBytes_iff.2 (hsaves (exists_toBytes_iff.1 h))
  · obtain ⟨h, hplace⟩ := exists_toFile_iff.1 h
    exact exists_toFile_iff.2 ⟨hsaves h, hplace⟩
  · exact pictured_of_written (Job.mayGive_of_result_eq h)

/-- A picture that is missing and one that is elsewhere, before a table. -/
theorem written_with_pictures_missing :
    let s : Setting := {}
    let document : Layout.Document := { blocks := [
      .paragraph { runs := [{ text := "a", imageSource := some "none.png" },
        { text := "b", imageSource := some "http://host/b.png" }] },
      .table { rows := [⟨[{}, {}]⟩, ⟨[{}]⟩] }] }
    (s.options.failOnResourceErrors = false ∧ s.LooksUp document.runs) ∧
    ((∃ bs, (toBytes s (document.mapRuns withoutPicture)).result.1 = .ok bs) →
      ∃ bs, (toBytes s document).result.1 = .ok bs) ∧
    (∀ path, (∃ fs, (toFile s (document.mapRuns withoutPicture) path).result.1 = .ok fs) →
      ∃ fs, (toFile s document path).result.1 = .ok fs) ∧
    ∀ nss d, (written s document).result.1 = .ok (nss, d) →
      List.Forall₂ (ShownAs (s.PicturedAll d)) (document.blocks.flatMap slotsOf)
        (paragraphsInList nss.flatten) := by
  intro s document
  have hfail : s.options.failOnResourceErrors = false := rfl
  have hmissing : s.lookUp "none.png" = .ok (some (.ofText "none.png", false)) := by decide +kernel
  have helsewhere : s.lookUp "http://host/b.png" = .ok none := by decide +kernel
  have hlook : s.LooksUp document.runs := by
    refine List.forall_mem_cons.2 ⟨fun address h => ?_, List.forall_mem_cons.2 ⟨fun address h => ?_,
      List.forall_mem_nil _⟩⟩
    · cases h
      exact ⟨_, hmissing⟩
    · cases h
      exact ⟨_, helsewhere⟩
  exact ⟨⟨hfail, hlook⟩, written_with_pictures hfail hlook⟩

end

end Docx

end Manuscript
