import Manuscript.Proofs.Docx.Runs
import Mathlib.Data.List.SplitBy

/-!
# Links

Runs in a row that belong to one link are written within it, one way of writing a link for each
group of them (`Setting.textWith`). A link may give up at any point, whatever relationships it has
added until then (`GivesUp`); then its runs are written as they are. So each run is written once, in
its place and with its text and format, whichever of the links give up, and it stands within a link
that leads to its address just if that one did not (`leads_textWith`).
-/

namespace Manuscript.Docx

open Relationship

/-- Nodes without the links around them. -/
def unlinked (ns : List Xml.Node) : List Xml.Node :=
  ns.flatMap fun n => if n.isNamed (w "hyperlink") then n.children else [n]

theorem unlinked_append (ns ns' : List Xml.Node) :
    unlinked (ns ++ ns') = unlinked ns ++ unlinked ns' :=
  List.flatMap_append

theorem unlinked_hyperlink (attributes : List (Xml.Name × String)) (ns : List Xml.Node) :
    unlinked [.element (w "hyperlink") attributes ns] = ns := by
  simp [unlinked, Xml.Node.isNamed, Xml.Name.same, Xml.Node.children]

/-- Runs are left as they are when links around them are taken away. -/
theorem unlinked_eq_self {ns : List Xml.Node}
    (h : ∀ n ∈ ns, ∃ children, n = element "r" [] children) :
    unlinked ns = ns := by
  induction ns with
  | nil => rfl
  | cons n ns ih =>
    rw [List.forall_mem_cons] at h
    obtain ⟨⟨children, rfl⟩, hns⟩ := h
    rw [unlinked, List.flatMap_cons, if_neg (by simp [isNamed_element])]
    exact congrArg _ (ih hns)

/-- A step that was to write a link and gives up: whatever it adds, it ends with a fault. -/
structure GivesUp (link : Drafting (Except Fault Xml.Node)) : Prop where
  steady : Steady link
  fails : ∀ d, ∃ f d', Leads link d (.error f) d'

namespace Setting

/-- Writing of a link that is broken off with a fault: before its relationship is added, or after
    that and some of its runs. -/
def interrupted (s : Setting) (point : Option Nat) (f : Fault) (address : String)
    (rs : List Layout.Run) : Drafting (Except Fault Xml.Node) :=
  match point with
  | none => return .error f
  | some n => do
    let _ ← step fun d => d.relate hyperlinkRelation (.external address)
    return do
      let _ ← (rs.take n).mapM (Run.ofText s.options)
      throw f

/-- Wherever writing a link is broken off, it gives up. -/
theorem givesUp_interrupted (s : Setting) (point : Option Nat) (f : Fault) (address : String)
    (rs : List Layout.Run) : GivesUp (s.interrupted point f address rs) := by
  cases point with
  | none => exact ⟨steady_pure _, fun d => ⟨f, d, leads_pure _ d⟩⟩
  | some n =>
    refine ⟨(steady_step fun d => d.grows_relate (.inr rfl) _).bind fun _ => steady_pure _, ?_⟩
    intro d
    rw [interrupted]
    cases (rs.take n).mapM (Run.ofText s.options) with
    | error g => exact ⟨g, _, leads_step_bind.2 (leads_pure _ _)⟩
    | ok ns => exact ⟨f, _, leads_step_bind.2 (leads_pure _ _)⟩

/-! ## Groups -/

/-- The address of the link that a group of runs belongs to. -/
def linkOf (g : List Layout.Run) : Option String :=
  g.head?.bind (·.hyperlink)

theorem flatten_groups (rs : List Layout.Run) : (groups rs).flatten = rs :=
  List.flatten_splitBy _ rs

theorem hyperlink_of_mem_groups {rs g : List Layout.Run} (hg : g ∈ groups rs) :
    ∀ r ∈ g, r.hyperlink = linkOf g := by
  have hchain := List.isChain_of_mem_splitBy hg
  cases g with
  | nil => simp
  | cons a g =>
    have htrans : List.Pairwise (fun a b : Layout.Run => a.hyperlink = b.hyperlink) (a :: g) := by
      rw [← List.isChain_iff_pairwise]
      exact hchain.imp fun _ _ h => beq_iff_eq.1 h
    intro r hr
    rcases List.mem_cons.1 hr with rfl | hr
    · rfl
    · exact ((List.pairwise_cons.1 htrans).1 r hr).symm

/-! ## Ways of writing links -/

/-- The runs of a paragraph, where each of their groups has its own way of writing a link. -/
def textWith (s : Setting)
    (links : Nat → String → List Layout.Run → Drafting (Except Fault Xml.Node))
    (rs : List Layout.Run) : Drafting (List Xml.Node) := do
  return (← (groups rs).zipIdx.mapM fun g => s.group (links g.2) g.1).flatten

/-- Where links are written, each of them is in the same way. -/
theorem textWith_link (s : Setting) (h : s.options.nativeHyperlinks = true)
    (rs : List Layout.Run) : s.textWith (fun _ => s.link) rs = s.text rs := by
  rw [textWith, text, if_pos h]
  have hmap : (groups rs).zipIdx.mapM (fun g => s.group s.link g.1) =
      (groups rs).mapM (s.group s.link) := by
    rw [← List.zipIdx_map_fst 0 (groups rs), List.mapM_map, List.zipIdx_map_fst]
    rfl
  rw [hmap]

/-- The nodes for a group of runs: an element for each of them, within a link that leads to the
    address that they belong to, unless there is none or the link has given up. -/
def ShownGroup (o : DocxOptions) (relationships : List Relationship) (failed : Bool)
    (g : List Layout.Run) (ns : List Xml.Node) : Prop :=
  match linkOf g, failed with
  | some address, false => ∃ r inner, withId? relationships r.id = some r ∧
      r.kind = hyperlinkRelation ∧ r.target = .external address ∧
      List.Forall₂ (Run.Shows o) g inner ∧
      ns = [.element (w "hyperlink") [(Docx.r "id", r.id)] inner]
  | _, _ => List.Forall₂ (Run.Shows o) g ns

theorem ShownGroup.of_grows {o : DocxOptions} {d d' : Draft} (hd : d.Grows d') {failed : Bool}
    {g : List Layout.Run} {ns : List Xml.Node}
    (h : ShownGroup o d.main.relationships failed g ns) :
    ShownGroup o d'.main.relationships failed g ns := by
  unfold ShownGroup at h ⊢
  split at h
  · obtain ⟨r, inner, hr, hrest⟩ := h
    exact ⟨r, inner, hd.withId? hr, hrest⟩
  · exact h

variable {s : Setting} {d d' : Draft}

/-- Runs that belong to a link and are no breaks are written within it as they are outside. -/
theorem mapM_ofText_of_written {g : List Layout.Run} {ns : List Xml.Node}
    (hbreak : ∀ r ∈ g, r.isBreak = false) (h : g.mapM (Run.written s.options) = .ok ns) :
    g.mapM (Run.ofText s.options) = .ok ns := by
  rw [mapM_eq_ok_iff] at h ⊢
  refine ((List.forall₂_and_left _ _).2 ⟨hbreak, h⟩).imp fun r n hn => ?_
  obtain ⟨hr, hn⟩ := hn
  rwa [Run.written, if_neg (by simp [hr])] at hn

theorem unlinked_of_shows {o : DocxOptions} {g : List Layout.Run} {ns : List Xml.Node}
    (h : List.Forall₂ (Run.Shows o) g ns) : unlinked ns = ns := by
  refine unlinked_eq_self ?_
  induction h with
  | nil => simp
  | @cons r n _ _ hn _ ih =>
    rw [List.forall_mem_cons]
    refine ⟨?_, ih⟩
    rw [Run.Shows] at hn
    split at hn
    · exact ⟨_, hn⟩
    · obtain ⟨ps, cs, -, -, rfl⟩ := hn
      exact ⟨_, rfl⟩

/-- A group whose link does not give up is written within the link, and otherwise as it is. -/
theorem leads_group_shown {g : List Layout.Run} {plain : List Xml.Node}
    (hwanted : ∀ r ∈ g, s.wanted? r = none)
    (hbreak : ∀ r ∈ g, r.isBreak = true → r.hyperlink = none)
    (hg : ∀ r ∈ g, r.hyperlink = linkOf g) (hplain : g.mapM (Run.written s.options) = .ok plain)
    (hids : Distinct d.main.relationships)
    {failed : Bool} {broken : String → List Layout.Run → Drafting (Except Fault Xml.Node)}
    (hbroken : ∀ address rs, GivesUp (broken address rs)) :
    ∃ ns d', Leads (s.group (if failed then broken else s.link) g) d ns d' ∧
      ShownGroup s.options d'.main.relationships failed g ns ∧ unlinked ns = plain := by
  have hshows : List.Forall₂ (Run.Shows s.options) g plain :=
    (mapM_eq_ok_iff.1 hplain).imp fun _ _ => Run.shows_of_written
  have hruns (d : Draft) : Leads (s.runs g) d plain d :=
    (leads_runs_written hwanted).2 ⟨hplain, rfl⟩
  unfold ShownGroup
  cases haddress : linkOf g with
  | none =>
    refine ⟨plain, d, ?_, hshows, unlinked_of_shows hshows⟩
    rw [group_eq_runs haddress]
    exact hruns d
  | some address =>
    cases failed with
    | true =>
      -- What the link leaves behind is in the draft alone, which runs do not depend on.
      obtain ⟨f, d₁, hfails⟩ := (hbroken address g).fails d
      refine ⟨plain, d₁, ?_, hshows, unlinked_of_shows hshows⟩
      rw [if_pos rfl, leads_group_linked (fun address rs => (hbroken address rs).steady) haddress]
      exact ⟨_, d₁, hfails, hruns d₁⟩
    | false =>
      -- A break belongs to no link, so there is none among these runs.
      have hnone : ∀ r ∈ g, r.isBreak = false := by
        intro r hr
        by_contra hb
        have hnone := hbreak r hr (Bool.not_eq_false _ ▸ hb)
        rw [hg r hr, haddress] at hnone
        cases hnone
      obtain ⟨r, hr, hkind, htarget⟩ :=
        Container.withId?_relate hids hyperlinkRelation (.external address)
      have hid := id_of_withId? hr
      refine ⟨_, (d.relate hyperlinkRelation (.external address)).1, ?_,
        ⟨r, plain, ?_, hkind, htarget, hshows, rfl⟩, unlinked_hyperlink _ _⟩
      · rw [if_neg Bool.false_ne_true, leads_group_linked s.steady_link haddress]
        refine ⟨_, _, leads_link.2 ⟨rfl, rfl⟩, ?_⟩
        rw [mapM_ofText_of_written hnone hplain, hid]
        exact ⟨rfl, rfl⟩
      · rw [hid]
        exact hr

/-- Groups are written one after another, each within its link or as it is. -/
theorem leads_groups_shown {gs : List (List Layout.Run)} {plain : List Xml.Node}
    (hwanted : ∀ g ∈ gs, ∀ r ∈ g, s.wanted? r = none)
    (hbreak : ∀ g ∈ gs, ∀ r ∈ g, r.isBreak = true → r.hyperlink = none)
    (hgs : ∀ g ∈ gs, ∀ r ∈ g, r.hyperlink = linkOf g)
    (hplain : gs.flatten.mapM (Run.written s.options) = .ok plain)
    (hids : Distinct d.main.relationships) (failed : Nat → Bool)
    {broken : Nat → String → List Layout.Run → Drafting (Except Fault Xml.Node)}
    (hbroken : ∀ i address rs, GivesUp (broken i address rs)) (start : Nat) :
    ∃ nss d', Leads ((gs.zipIdx start).mapM fun g =>
        s.group (if failed g.2 then broken g.2 else s.link) g.1) d nss d' ∧
      List.Forall₂ (fun g ns => ShownGroup s.options d'.main.relationships (failed g.2) g.1 ns)
        (gs.zipIdx start) nss ∧
      unlinked nss.flatten = plain := by
  have hsteady (g : List Layout.Run × Nat) :
      Steady (s.group (if failed g.2 then broken g.2 else s.link) g.1) := by
    refine s.steady_group (fun address rs => ?_) _
    split
    · exact (hbroken _ _ _).steady
    · exact s.steady_link _ _
  -- The places go on counting, since they say which of the links give up.
  induction gs generalizing d plain start with
  | nil =>
    cases hplain
    exact ⟨[], d, leads_pure _ _, .nil, rfl⟩
  | cons g gs ih =>
    rw [List.flatten_cons, List.mapM_append] at hplain
    obtain ⟨plain₁, hplain₁, hplain⟩ := ok_of_bind hplain
    obtain ⟨plain₂, hplain₂, hplain⟩ := ok_of_bind hplain
    cases hplain
    rw [List.forall_mem_cons] at hwanted hbreak hgs
    obtain ⟨ns, d₁, hns, hshown, hunlinked⟩ : ∃ ns d₁, Leads (s.group
        (if failed start then broken start else s.link) g) d ns d₁ ∧
        ShownGroup s.options d₁.main.relationships (failed start) g ns ∧ unlinked ns = plain₁ :=
      leads_group_shown hwanted.1 hbreak.1 hgs.1 hplain₁ hids (hbroken start)
    have hgrows := (hsteady (g, start)).grows hns.mayLead
    obtain ⟨nss, d₂, hnss, hshowns, hunlinkeds⟩ :=
      ih hwanted.2 hbreak.2 hgs.2 hplain₂ (hgrows.distinct hids) (start + 1)
    have hgrows' := (steady_mapM hsteady _).grows hnss.mayLead
    refine ⟨ns :: nss, d₂, ?_, ?_, ?_⟩
    · rw [List.zipIdx_cons]
      exact (leads_mapM_cons hsteady).2 ⟨ns, d₁, nss, hns, hnss, rfl⟩
    · rw [List.zipIdx_cons]
      exact .cons (hshown.of_grows hgrows') hshowns
    · rw [List.flatten_cons, unlinked_append, hunlinked, hunlinkeds]

/-- Runs are written in their order, each once and with its text and format, whichever of the links
    of their groups give up, and each group is within its link if that does not. -/
theorem leads_textWith {rs : List Layout.Run} {plain : List Xml.Node}
    (hpicture : ∀ r ∈ rs, r.imageSource = none)
    (hbreak : ∀ r ∈ rs, r.isBreak = true → r.hyperlink = none)
    (hids : Distinct d.main.relationships) (hplain : Leads (s.runs rs) d plain d')
    (failed : Nat → Bool)
    {broken : Nat → String → List Layout.Run → Drafting (Except Fault Xml.Node)}
    (hbroken : ∀ i address g, GivesUp (broken i address g)) :
    ∃ nss d'', Leads (s.textWith (fun i => if failed i then broken i else s.link) rs) d
        nss.flatten d'' ∧
      List.Forall₂ (Run.Shows s.options) rs (unlinked nss.flatten) ∧
      List.Forall₂ (fun g ns =>
        ShownGroup s.options d''.main.relationships (failed g.2) g.1 ns) (groups rs).zipIdx nss := by
  -- No run wants a picture, so the runs of each group are written as they are on their own.
  have hwanted : ∀ r ∈ rs, s.wanted? r = none := by
    intro r hr
    simp [wanted?, hpicture r hr]
  have hmem : ∀ g ∈ groups rs, ∀ r ∈ g, r ∈ rs := by
    intro g hg r hr
    rw [← flatten_groups rs]
    exact List.mem_flatten_of_mem hg hr
  obtain ⟨hwritten, -⟩ := (leads_runs_written hwanted).1 hplain
  obtain ⟨nss, d'', hnss, hshown, hunlinked⟩ := leads_groups_shown
    (fun g hg r hr => hwanted r (hmem g hg r hr)) (fun g hg r hr => hbreak r (hmem g hg r hr))
    (fun g hg => hyperlink_of_mem_groups hg) (by rwa [flatten_groups]) hids failed hbroken 0
  refine ⟨nss, d'', ?_, ?_, hshown⟩
  · exact hnss.bind (leads_pure _ _)
  · rw [hunlinked]
    exact (mapM_eq_ok_iff.1 hwritten).imp fun _ _ => Run.shows_of_written

/-- Of two links with a break between them the first is broken off after its first run. -/
theorem leads_textWith_interrupted :
    let s : Setting := {}
    let d : Draft := {
      container := {}, tree := element "document", styles := .least
      main := { name := Container.mainName, mediaType := mainType, content := .empty } }
    let rs : List Layout.Run := [{ text := "a\t", hyperlink := some "u" },
      { text := "b", format := .boldface, hyperlink := some "u" },
      { text := "", kind := .hardBreak }, { text := "c", hyperlink := some "v" }]
    let failed : Nat → Bool := (· == 0)
    let broken : Nat → String → List Layout.Run → Drafting (Except Fault Xml.Node) :=
      fun _ => s.interrupted (some 1) .wrongKind
    ∃ nss d'', Leads (s.textWith (fun i => if failed i then broken i else s.link) rs) d
        nss.flatten d'' ∧
      List.Forall₂ (Run.Shows s.options) rs (unlinked nss.flatten) ∧
      List.Forall₂ (fun g ns =>
        ShownGroup s.options d''.main.relationships (failed g.2) g.1 ns)
        [(rs.take 2, 0), ([{ text := "", kind := .hardBreak }], 1), (rs.drop 3, 2)] nss := by
  intro s d rs failed broken
  have hwritten : rs.mapM (Run.written s.options) = .ok
      [element "r" [] [.element (w "t") [] [.text "a"], element "tab"],
        element "r" [] [element "rPr" [] [element "b"], .element (w "t") [] [.text "b"]],
        Run.lineBreak, element "r" [] [.element (w "t") [] [.text "c"]]] := by
    rfl
  have hplain := (leads_runs_written (d := d) (by decide)).2 ⟨hwritten, rfl⟩
  have hids : Distinct d.main.relationships := List.nodup_nil
  exact leads_textWith (by decide) (by decide) hids hplain failed
    fun _ address g => s.givesUp_interrupted (some 1) .wrongKind address g

end Setting

end Manuscript.Docx
