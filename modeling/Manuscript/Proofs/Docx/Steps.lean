import Manuscript.Proofs.Docx.Growth

/-!
# What the steps of writing lead to

Each step of writing text is opened here once: what it leads to, and from what (`leads_picture`,
`leads_run_text`, `leads_group_linked` and so on). What is shown of texts later on is shown from
these, in both directions: what has been written was written so, and what can be written is.
-/

namespace Manuscript.Docx

variable {d d' : Draft}

/-- Nothing to do leads to where it starts, and nowhere else. -/
theorem leads_pure_iff {a b : α} : Leads (pure a) d b d' ↔ b = a ∧ d' = d := by
  constructor
  · exact fun h => mayLead_pure.1 h.mayLead
  · rintro ⟨rfl, rfl⟩
    exact leads_pure _ _

/-- What is computed without the draft leaves it as it is. -/
theorem leads_ofFault_iff {x : Except Fault α} {a : α} :
    Leads (liftM (Job.ofFault x)) d a d' ↔ x = .ok a ∧ d' = d := by
  constructor
  · intro h
    obtain ⟨ha, rfl⟩ := mayLead_lift h.mayLead
    exact ⟨Job.mayGive_ofFault.1 ha, rfl⟩
  · rintro ⟨hx, rfl⟩
    exact leads_lift (Job.gives_ofFault hx) _

/-- A warning leaves the draft as it is. -/
theorem leads_warn_iff {origin : String} {m : Message} {a : Unit} :
    Leads (liftM (Job.warn origin m)) d a d' ↔ d' = d := by
  constructor
  · exact fun h => (mayLead_lift h.mayLead).2
  · rintro rfl
    exact leads_lift (Job.gives_record _ _ _) _

/-- A step that changes the draft leads to what it makes of it, and nowhere else. -/
theorem leads_step_iff {f : Draft → Draft × α} {a : α} :
    Leads (Setting.step f) d a d' ↔ f d = (d', a) := by
  constructor
  · exact fun h => mayLead_step.1 h.mayLead
  · intro h
    have hd := leads_step f d
    rwa [h] at hd

theorem leads_ofFault_bind {x : Except Fault α} {f : α → Drafting β} {b : β} :
    Leads (liftM (Job.ofFault x) >>= f) d b d' ↔ ∃ a, x = .ok a ∧ Leads (f a) d b d' := by
  constructor
  · intro h
    cases x with
    | error e =>
      obtain ⟨a, d₁, hx, -⟩ := MayLead.of_bind h.mayLead
      exact absurd (Job.mayGive_ofFault.1 (mayLead_lift hx).1) (by simp)
    | ok a => exact ⟨a, rfl, h⟩
  · rintro ⟨a, hx, h⟩
    exact (leads_ofFault_iff.2 ⟨hx, rfl⟩).bind h

theorem leads_get_bind {f : Draft → Drafting β} {b : β} :
    Leads (get >>= f) d b d' ↔ Leads (f d) d b d' :=
  Iff.rfl

theorem leads_step_bind {f : Draft → Draft × α} {g : α → Drafting β} {b : β} :
    Leads (Setting.step f >>= g) d b d' ↔ Leads (g (f d).2) (f d).1 b d' :=
  Iff.rfl

/-! ## Lists of steps -/

section mapM

variable {f : α → Drafting β}

theorem leads_mapM_nil {bs : List β} : Leads ([].mapM f) d bs d' ↔ bs = [] ∧ d' = d :=
  leads_pure_iff

/-- Steady steps for some members are that for the first, and then those for the others. -/
theorem leads_mapM_cons (hf : ∀ a, Steady (f a)) {a : α} {as : List α} {bs : List β}
    {d'' : Draft} :
    Leads ((a :: as).mapM f) d bs d'' ↔ ∃ b d' bs', Leads (f a) d b d' ∧
      Leads (as.mapM f) d' bs' d'' ∧ bs = b :: bs' := by
  have hrest (b : β) : Steady (as.mapM f >>= fun bs => pure (b :: bs)) :=
    (steady_mapM hf as).bind fun _ => steady_pure _
  rw [List.mapM_cons, (hf a).leads_bind hrest]
  refine exists_congr fun b => exists_congr fun d' => ?_
  rw [(steady_mapM hf as).leads_bind fun _ => steady_pure _]
  constructor
  · rintro ⟨hb, bs', d₁, hbs, heq⟩
    obtain ⟨rfl, rfl⟩ := leads_pure_iff.1 heq
    exact ⟨bs', hb, hbs, rfl⟩
  · rintro ⟨bs', hb, hbs, rfl⟩
    exact ⟨hb, bs', d'', hbs, leads_pure _ _⟩

/-- Steady steps for two lists are those for one, and then those for the other. -/
theorem leads_mapM_append (hf : ∀ a, Steady (f a)) {as as' : List α} {bs : List β}
    {d'' : Draft} :
    Leads ((as ++ as').mapM f) d bs d'' ↔ ∃ bs₁ d' bs₂, Leads (as.mapM f) d bs₁ d' ∧
      Leads (as'.mapM f) d' bs₂ d'' ∧ bs = bs₁ ++ bs₂ := by
  induction as generalizing d bs with
  | nil =>
    constructor
    · exact fun h => ⟨[], d, bs, leads_pure _ _, h, rfl⟩
    · rintro ⟨bs₁, d₁, bs₂, h₁, h₂, rfl⟩
      obtain ⟨rfl, rfl⟩ := leads_mapM_nil.1 h₁
      exact h₂
  | cons a as ih =>
    rw [List.cons_append, leads_mapM_cons hf]
    constructor
    · rintro ⟨b, d₁, bs', hb, hbs, rfl⟩
      obtain ⟨bs₁, d₂, bs₂, h₁, h₂, rfl⟩ := ih.1 hbs
      exact ⟨b :: bs₁, d₂, bs₂, (leads_mapM_cons hf).2 ⟨b, d₁, bs₁, hb, h₁, rfl⟩, h₂, rfl⟩
    · rintro ⟨bs₁, d₂, bs₂, h₁, h₂, rfl⟩
      obtain ⟨b, d₁, bs', hb, hbs, rfl⟩ := (leads_mapM_cons hf).1 h₁
      exact ⟨b, d₁, bs' ++ bs₂, hb, ih.2 ⟨bs', d₂, bs₂, hbs, h₂, rfl⟩, rfl⟩

/-- Each step of a list leads to something. -/
theorem exists_leads_of_mem (hf : ∀ a, Steady (f a)) {as : List α} {bs : List β}
    (h : Leads (as.mapM f) d bs d') {a : α} (ha : a ∈ as) : ∃ e b e', Leads (f a) e b e' := by
  induction as generalizing d bs with
  | nil => cases ha
  | cons a' as ih =>
    obtain ⟨b, d₁, bs', hb, hbs, -⟩ := (leads_mapM_cons hf).1 h
    rcases List.mem_cons.1 ha with rfl | ha
    · exact ⟨d, b, d₁, hb⟩
    · exact ih hbs ha

end mapM

/-! ## Pictures and runs -/

namespace Setting

variable {s : Setting}

/-- A picture is refused without an error only if none is asked for. -/
theorem leads_refusePicture {m : Message} {cause : Option Fault} {a : Unit} :
    Leads (s.refusePicture m cause) d a d' ↔
      s.options.failOnResourceErrors = false ∧ d' = d := by
  have hrest : ∀ _ : Unit, Steady (if s.options.failOnResourceErrors then
      (Job.refuse { kind := .rendering (some "image_processing"), message := m, cause } : Job Unit)
      else pure () : Drafting Unit) := by
    intro _
    split
    · exact steady_refuse _
    · exact steady_pure _
  rw [refusePicture, (steady_warn _ _).leads_bind hrest]
  constructor
  · rintro ⟨_, d₁, hwarn, h⟩
    cases leads_warn_iff.1 hwarn
    split at h
    · exact absurd (mayLead_lift h.mayLead).1 (Job.not_mayGive_refuse _ _)
    · exact ⟨Bool.not_eq_true _ ▸ ‹¬ _›, (leads_pure_iff.1 h).2⟩
  · rintro ⟨hfail, rfl⟩
    refine ⟨(), d', leads_warn_iff.2 rfl, ?_⟩
    rw [hfail]
    exact leads_pure _ _

/-- A drawing is made of a file that can be read as a picture, and nothing is drawn of any other. -/
theorem leads_drawing {p : Path} {made : Except Fault Xml.Node} :
    Leads (s.drawing p) d made d' ↔
      match s.readPicture p with
      | .error f => made = .error f ∧ d' = d
      | .ok (width, content, picture) => d.draw picture content p.name width = (d', made) := by
  rw [drawing]
  rcases s.readPicture p with f | ⟨width, content, picture⟩
  · exact leads_pure_iff
  · exact leads_step_iff

/-- What becomes of a picture, by what its address leads to. -/
theorem leads_picture {address : String} {written : List Xml.Node × Bool} :
    Leads (s.picture address) d written d' ↔
      match s.lookUp address with
      | .error _ => False
      | .ok none => d' = d ∧ written = ([], false)
      | .ok (some (_, false)) =>
        d' = d ∧ s.options.failOnResourceErrors = false ∧ written = ([], false)
      | .ok (some (p, true)) => ∃ made, Leads (s.drawing p) d made d' ∧
        match made with
        | .ok n => written = ([element "r" [] [n]], true)
        | .error _ => s.options.failOnResourceErrors = false ∧ written = ([Run.blank], false) := by
  rw [picture, leads_ofFault_bind]
  -- The cases are those of the statement: looking fails, finds nothing, something that is no
  -- picture, or a picture.
  rcases s.lookUp address with f | _ | ⟨p, _ | _⟩
  · simp
  · simp only [Except.ok.injEq, exists_eq_left']
    exact leads_pure_iff.trans and_comm
  · simp only [Except.ok.injEq, exists_eq_left']
    rw [(s.steady_refusePicture _ _).leads_bind fun _ => steady_pure _]
    constructor
    · rintro ⟨_, d₁, hrefuse, h⟩
      obtain ⟨hfail, rfl⟩ := leads_refusePicture.1 hrefuse
      obtain ⟨rfl, rfl⟩ := leads_pure_iff.1 h
      exact ⟨rfl, hfail, rfl⟩
    · rintro ⟨rfl, hfail, rfl⟩
      exact ⟨(), d', leads_refusePicture.2 ⟨hfail, rfl⟩, leads_pure _ _⟩
  · simp only [Except.ok.injEq, exists_eq_left']
    refine ((s.steady_drawing p).leads_bind fun made => ?_).trans ?_
    · rcases made with f | n
      · exact (s.steady_refusePicture _ _).bind fun _ => steady_pure _
      · exact steady_pure _
    · refine exists_congr fun made => ?_
      rcases made with f | n
      · constructor
        · rintro ⟨d₁, hdrawn, h⟩
          rw [(s.steady_refusePicture _ _).leads_bind fun _ => steady_pure _] at h
          obtain ⟨_, d₂, hrefuse, h⟩ := h
          obtain ⟨hfail, rfl⟩ := leads_refusePicture.1 hrefuse
          obtain ⟨rfl, rfl⟩ := leads_pure_iff.1 h
          exact ⟨hdrawn, hfail, rfl⟩
        · rintro ⟨hdrawn, hfail, rfl⟩
          have hrefuse (m : Message) : Leads (s.refusePicture m (some f)) d' () d' :=
            leads_refusePicture.2 ⟨hfail, rfl⟩
          exact ⟨d', hdrawn, (hrefuse _).bind (leads_pure _ _)⟩
      · constructor
        · rintro ⟨d₁, hdrawn, h⟩
          obtain ⟨rfl, rfl⟩ := leads_pure_iff.1 h
          exact ⟨hdrawn, rfl⟩
        · rintro ⟨hdrawn, rfl⟩
          exact ⟨d', hdrawn, leads_pure _ _⟩

variable {r : Layout.Run}

/-- A break is written as one, and no picture is looked for. -/
theorem leads_run_break (hr : r.isBreak = true) {ns : List Xml.Node} :
    Leads (s.run r) d ns d' ↔ ns = [Run.lineBreak] ∧ d' = d := by
  rw [run, if_pos hr]
  exact leads_pure_iff

/-- Where no picture is wanted, a run is written as its text. -/
theorem run_of_unwanted (hr : r.isBreak = false) (hw : s.wanted? r = none) :
    s.run r = do return [← (Job.ofFault (Run.ofText s.options r) : Job _)] := by
  rw [run, if_neg (by simp [hr])]
  dsimp only
  rw [hw]

/-- A picture is looked for in place of a run only if that is no break. -/
theorem isBreak_of_wanted? {address : String} (hw : s.wanted? r = some address) :
    r.isBreak = false := by
  by_contra hr
  simp [wanted?, hr] at hw

/-- Where a picture is wanted, the run is written as the picture, and as its text unless that is
    all. -/
theorem run_of_wanted {address : String} (hw : s.wanted? r = some address) :
    s.run r = (do
      let (drawn, whole) ← s.picture address
      if whole then return drawn
      return drawn ++ [← (Job.ofFault (Run.ofText s.options r) : Job _)]) := by
  rw [run, if_neg (by simp [isBreak_of_wanted? hw])]
  dsimp only
  rw [hw]

/-- A run without a picture is written if its text can be. -/
theorem leads_run_text (hr : r.isBreak = false) (hw : s.wanted? r = none) {ns : List Xml.Node} :
    Leads (s.run r) d ns d' ↔ ∃ n, Run.ofText s.options r = .ok n ∧ ns = [n] ∧ d' = d := by
  rw [run_of_unwanted hr hw, leads_ofFault_bind]
  exact exists_congr fun n => and_congr_right fun _ => leads_pure_iff

/-- A run with a picture is written as what is drawn, with its text after it unless the drawing is
    all. -/
theorem leads_run_picture {address : String} (hw : s.wanted? r = some address)
    {ns : List Xml.Node} :
    Leads (s.run r) d ns d' ↔ ∃ drawn whole, Leads (s.picture address) d (drawn, whole) d' ∧
      if whole then ns = drawn else ∃ n, Run.ofText s.options r = .ok n ∧ ns = drawn ++ [n] := by
  rw [run_of_wanted hw]
  refine ((s.steady_picture address).leads_bind fun written => ?_).trans ?_
  · -- What comes after the picture changes no draft, whether or not the text is still to be written.
    obtain ⟨drawn, _ | _⟩ := written
    · exact (steady_ofFault _).bind fun _ => steady_pure _
    · exact steady_pure _
  · constructor
    · rintro ⟨⟨drawn, whole⟩, d₁, hpicture, h⟩
      refine ⟨drawn, whole, ?_⟩
      cases whole with
      | false =>
        obtain ⟨n, hn, h⟩ := leads_ofFault_bind.1 h
        obtain ⟨rfl, rfl⟩ := leads_pure_iff.1 h
        exact ⟨hpicture, n, hn, rfl⟩
      | true =>
        obtain ⟨rfl, rfl⟩ := leads_pure_iff.1 h
        exact ⟨hpicture, rfl⟩
    · rintro ⟨drawn, whole, hpicture, h⟩
      refine ⟨(drawn, whole), d', hpicture, ?_⟩
      cases whole with
      | false =>
        obtain ⟨n, hn, rfl⟩ := h
        exact leads_ofFault_bind.2 ⟨n, hn, leads_pure _ _⟩
      | true =>
        cases h
        exact leads_pure _ _

/-! ## Texts -/

/-- Runs are written one after the other. -/
theorem leads_runs_iff {rs : List Layout.Run} {ns : List Xml.Node} :
    Leads (s.runs rs) d ns d' ↔ ∃ nss, Leads (rs.mapM s.run) d nss d' ∧ ns = nss.flatten := by
  rw [runs, (steady_mapM s.steady_run rs).leads_bind fun _ => steady_pure _]
  constructor
  · rintro ⟨nss, d₁, hnss, h⟩
    obtain ⟨rfl, rfl⟩ := leads_pure_iff.1 h
    exact ⟨nss, hnss, rfl⟩
  · rintro ⟨nss, hnss, rfl⟩
    exact ⟨nss, d', hnss, leads_pure _ _⟩

theorem leads_runs_nil {ns : List Xml.Node} : Leads (s.runs []) d ns d' ↔ ns = [] ∧ d' = d := by
  rw [leads_runs_iff]
  constructor
  · rintro ⟨nss, hnss, rfl⟩
    obtain ⟨rfl, rfl⟩ := leads_mapM_nil.1 hnss
    exact ⟨rfl, rfl⟩
  · rintro ⟨rfl, rfl⟩
    exact ⟨[], leads_pure _ _, rfl⟩

/-- Two lists of runs are written one after the other. -/
theorem leads_runs_append {rs rs' : List Layout.Run} {ns : List Xml.Node} {d'' : Draft} :
    Leads (s.runs (rs ++ rs')) d ns d'' ↔ ∃ ns₁ d' ns₂, Leads (s.runs rs) d ns₁ d' ∧
      Leads (s.runs rs') d' ns₂ d'' ∧ ns = ns₁ ++ ns₂ := by
  simp only [leads_runs_iff, leads_mapM_append s.steady_run]
  constructor
  · rintro ⟨_, ⟨nss₁, d₁, nss₂, h₁, h₂, rfl⟩, rfl⟩
    exact ⟨_, d₁, _, ⟨nss₁, h₁, rfl⟩, ⟨nss₂, h₂, rfl⟩, List.flatten_append⟩
  · rintro ⟨_, d₁, _, ⟨nss₁, h₁, rfl⟩, ⟨nss₂, h₂, rfl⟩, rfl⟩
    exact ⟨_, ⟨nss₁, d₁, nss₂, h₁, h₂, rfl⟩, List.flatten_append.symm⟩

theorem leads_runs_cons {rs : List Layout.Run} {ns : List Xml.Node} {d'' : Draft} :
    Leads (s.runs (r :: rs)) d ns d'' ↔ ∃ ns₁ d' ns₂, Leads (s.run r) d ns₁ d' ∧
      Leads (s.runs rs) d' ns₂ d'' ∧ ns = ns₁ ++ ns₂ := by
  simp only [leads_runs_iff, leads_mapM_cons s.steady_run]
  constructor
  · rintro ⟨_, ⟨ns₁, d₁, nss, h₁, h₂, rfl⟩, rfl⟩
    exact ⟨ns₁, d₁, _, h₁, ⟨nss, h₂, rfl⟩, rfl⟩
  · rintro ⟨ns₁, d₁, _, h₁, ⟨nss, h₂, rfl⟩, rfl⟩
    exact ⟨_, ⟨ns₁, d₁, nss, h₁, h₂, rfl⟩, rfl⟩

/-- The hyperlink around the runs of a link. -/
theorem leads_link {address : String} {rs : List Layout.Run} {made : Except Fault Xml.Node} :
    Leads (s.link address rs) d made d' ↔
      d' = (d.relate hyperlinkRelation (.external address)).1 ∧
      made = (rs.mapM (Run.ofText s.options)).map fun ns => .element (w "hyperlink")
        [(Docx.r "id", (d.relate hyperlinkRelation (.external address)).2)] ns := by
  rw [link, leads_step_bind, leads_pure_iff, and_comm]
  rcases rs.mapM (Run.ofText s.options) with f | ns <;> rfl

/-- A group without a link is written as its runs. -/
theorem group_eq_runs {link : String → List Layout.Run → Drafting (Except Fault Xml.Node)}
    {rs : List Layout.Run} (hrs : rs.head?.bind (·.hyperlink) = none) :
    s.group link rs = s.runs rs := by
  rw [group, hrs]

/-- A group with a link is written as one element, or as its runs where that fails. -/
theorem leads_group_linked {link : String → List Layout.Run → Drafting (Except Fault Xml.Node)}
    (hlink : ∀ address rs, Steady (link address rs)) {rs : List Layout.Run} {address : String}
    (hrs : rs.head?.bind (·.hyperlink) = some address) {ns : List Xml.Node} {d'' : Draft} :
    Leads (s.group link rs) d ns d'' ↔ ∃ made d', Leads (link address rs) d made d' ∧
      match made with
      | .ok n => ns = [n] ∧ d'' = d'
      | .error _ => Leads (s.runs rs) d' ns d'' := by
  rw [group, hrs]
  refine ((hlink address rs).leads_bind fun made => ?_).trans ?_
  · rcases made with f | n
    · exact (steady_warn _ _).bind fun _ => s.steady_runs rs
    · exact steady_pure _
  -- A link that gives up may have changed the draft, so its runs begin with what it has left.
  · refine exists_congr fun made => exists_congr fun d₁ => and_congr_right fun _ => ?_
    rcases made with f | n
    · refine ((steady_warn _ _).leads_bind fun _ => s.steady_runs rs).trans ?_
      constructor
      · rintro ⟨_, d₂, hwarn, h⟩
        cases leads_warn_iff.1 hwarn
        exact h
      · exact fun h => ⟨(), d₁, leads_warn_iff.2 rfl, h⟩
    · exact leads_pure_iff

/-- Runs of a link are written within it, or as they are if one of them cannot be written there. -/
theorem leads_group_link {rs : List Layout.Run} {address : String}
    (hrs : rs.head?.bind (·.hyperlink) = some address) {ns : List Xml.Node} {d'' : Draft} :
    Leads (s.group s.link rs) d ns d'' ↔
      match rs.mapM (Run.ofText s.options) with
      | .ok inner => ns = [.element (w "hyperlink")
          [(Docx.r "id", (d.relate hyperlinkRelation (.external address)).2)] inner] ∧
          d'' = (d.relate hyperlinkRelation (.external address)).1
      | .error _ =>
        Leads (s.runs rs) (d.relate hyperlinkRelation (.external address)).1 ns d'' := by
  simp only [leads_group_linked s.steady_link hrs, leads_link]
  constructor
  · rintro ⟨_, _, ⟨rfl, rfl⟩, h⟩
    cases hinner : rs.mapM (Run.ofText s.options) <;> rw [hinner] at h <;> exact h
  · intro h
    refine ⟨_, _, ⟨rfl, rfl⟩, ?_⟩
    cases hinner : rs.mapM (Run.ofText s.options) <;> rw [hinner] at h <;> exact h

/-- With links on, a text is written group by group. -/
theorem leads_text_native (hs : s.options.nativeHyperlinks = true) {rs : List Layout.Run}
    {ns : List Xml.Node} :
    Leads (s.text rs) d ns d' ↔
      ∃ nss, Leads ((groups rs).mapM (s.group s.link)) d nss d' ∧ ns = nss.flatten := by
  rw [text, if_pos hs,
    (steady_mapM (s.steady_group s.steady_link) _).leads_bind fun _ => steady_pure _]
  constructor
  · rintro ⟨nss, d₁, hnss, h⟩
    obtain ⟨rfl, rfl⟩ := leads_pure_iff.1 h
    exact ⟨nss, hnss, rfl⟩
  · rintro ⟨nss, hnss, rfl⟩
    exact ⟨nss, d', hnss, leads_pure _ _⟩

/-- With links off, a text is written run by run. -/
theorem text_eq_runs (hs : s.options.nativeHyperlinks = false) (rs : List Layout.Run) :
    s.text rs = s.runs rs := by
  rw [text, if_neg (by simp [hs])]

end Setting

end Manuscript.Docx
