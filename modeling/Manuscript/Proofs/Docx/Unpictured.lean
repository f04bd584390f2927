import Manuscript.Proofs.Docx.Runs

/-!
# Runs that keep their text

A run that stands for a picture keeps its text if no picture comes of it (`Setting.Unpictured`). It
is then written as if no pictures were looked for, after what the attempt has left in the paragraph
(`Setting.ends_run_unpictured`). An attempt that ends before anything is drawn leaves nothing. One
that fails to draw the picture of a file leaves an empty run, and may leave a part and a
relationship in the draft.

* `Job.Ends`: how a job ends, in success or failure;
* `Setting.leads_picture_iff_unpictured`: the attempts from which no picture comes;
* `Setting.ends_runs_unpictured`: a list of runs of which none becomes a picture.
-/

namespace Manuscript

namespace Job

/-- A job ends in one way, whatever records it is begun after. -/
def Ends (j : Job α) (y : Except Failure α) : Prop :=
  ∀ w, (j.run.run w).1 = y

variable {j : Job α} {y : Except Failure α}

/-- What a job ends with, whatever was recorded before, is its result. -/
theorem Ends.result_eq (h : j.Ends y) : j.result.1 = y :=
  h []

/-- A job ends with what it gives. -/
theorem Gives.ends {a : α} (h : j.Gives a) : j.Ends (.ok a) := by
  intro w
  obtain ⟨w', hw⟩ := h w
  rw [hw]

/-- A job ends with what it fails with. -/
theorem Fails.ends {e : Failure} (h : j.Fails e) : j.Ends (.error e) := by
  intro w
  obtain ⟨w', hw⟩ := h w
  rw [hw]

theorem Ends.gives {a : α} (h : j.Ends (.ok a)) : j.Gives a :=
  fun w => ⟨_, Prod.ext (h w) rfl⟩

theorem Ends.fails {e : Failure} (h : j.Ends (.error e)) : j.Fails e :=
  fun w => ⟨_, Prod.ext (h w) rfl⟩

end Job

namespace Docx

variable {d d' : Draft}

/-- A fault ends what comes after it. -/
theorem fails_ofFault_bind {x : Except Fault α} {f : α → Drafting β} {e : Fault}
    (h : x = .error e) : ((liftM (Job.ofFault x) >>= f).run d).Fails (.fault e) := by
  subst h
  exact fun w => ⟨w, rfl⟩

/-- A sequence of two steps ends as the second one does after the first. -/
theorem Leads.bind_ends {x : Drafting α} {f : α → Drafting β} {a : α}
    {y : Except Failure (β × Draft)} (hx : Leads x d a d') (hf : ((f a).run d').Ends y) :
    ((x >>= f).run d).Ends y := by
  rw [StateT.run_bind]
  cases y with
  | ok b => exact (Job.Gives.bind hx hf.gives).ends
  | error e => exact (Job.Gives.bind_fails hx hf.fails).ends

/-- A step whose result is put into another form ends in the same way. -/
theorem ends_bind_pure {x : Drafting α} {y : Except Failure (α × Draft)} (h : (x.run d).Ends y)
    (g : α → β) :
    ((do return g (← x) : Drafting β).run d).Ends (y.map fun a => (g a.1, a.2)) := by
  cases y with
  | ok a => exact (Leads.bind h.gives (leads_pure (g a.1) a.2)).ends
  | error e =>
    rw [StateT.run_bind]
    exact (h.fails.bind _).ends

namespace Setting

variable {s : Setting} {r : Layout.Run}

/-- The same setting, in which no pictures are looked for. -/
def withoutPictures (s : Setting) : Setting :=
  { s with options := { s.options with embedImages := false } }

/-- With pictures off, no picture is wanted. -/
theorem wanted?_withoutPictures (s : Setting) (r : Layout.Run) :
    s.withoutPictures.wanted? r = none := by
  simp [wanted?, withoutPictures]

/-! ## Attempts from which no picture comes -/

/-- An attempt at the picture of a run ends before anything is drawn: no picture is looked for, it
    is elsewhere, its file is not taken for a picture, or there is no such file. -/
inductive PassesOver (s : Setting) (r : Layout.Run) : Prop
  | unwanted (h : s.wanted? r = none)
  | elsewhere {address : String} (h : s.wanted? r = some address)
    (hplace : Picture.locate s.base address = .ok none)
  | unsupported {address : String} {p : Path} (h : s.wanted? r = some address)
    (hplace : Picture.locate s.base address = .ok (some p)) (hp : Picture.isSupported p = false)
  | missing {address : String} {p : Path} (h : s.wanted? r = some address)
    (hplace : Picture.locate s.base address = .ok (some p)) (hp : Picture.isSupported p = true)
    (hfile : s.files.isFile p = .ok false)

/-- An attempt at the picture of a run finds a file, and fails to draw the picture in it. -/
def FailsToDraw (s : Setting) (r : Layout.Run) (d d' : Draft) : Prop :=
  ∃ address p f, s.wanted? r = some address ∧ Picture.locate s.base address = .ok (some p) ∧
    Picture.isSupported p = true ∧ s.files.isFile p = .ok true ∧
    Leads (s.drawing p) d (.error f) d'

/-- No picture comes of an attempt. It leaves some nodes in the paragraph, and a draft. -/
inductive Unpictured (s : Setting) (r : Layout.Run) (d : Draft) : List Xml.Node → Draft → Prop
  | passedOver (h : s.PassesOver r) : Unpictured s r d [] d
  | undrawn {d' : Draft} (h : s.FailsToDraw r d d') : Unpictured s r d [Run.blank] d'

/-- A file that cannot be read as a picture leaves the draft as it is. -/
theorem failsToDraw_of_readPicture {address : String} {p : Path} {f : Fault}
    (h : s.wanted? r = some address) (hplace : Picture.locate s.base address = .ok (some p))
    (hp : Picture.isSupported p = true) (hfile : s.files.isFile p = .ok true)
    (hread : s.readPicture p = .error f) : s.FailsToDraw r d d := by
  have hmade : Leads (s.drawing p) d (.error f) d := by
    rw [leads_drawing, hread]
    exact ⟨rfl, rfl⟩
  exact ⟨address, p, f, h, hplace, hp, hfile, hmade⟩

/-- What is of no known format cannot be read as a picture. -/
theorem readPicture_of_unknown {p : Path} {width : Length} {content : ByteArray}
    (hwidth : Length.ofUnits s.options.imageWidthInches Length.inch = .ok width)
    (hcontent : s.files.read p = .ok content) (hunknown : Picture.read? content = none) :
    s.readPicture p = .error (.malformed "not a picture of a known format") := by
  rw [readPicture, hwidth, hcontent]
  dsimp only [bind, Except.bind, Except.mapError]
  rw [hunknown]
  rfl

theorem lookUp_eq_ite {address : String} {p : Path}
    (h : Picture.locate s.base address = .ok (some p)) :
    s.lookUp address = if Picture.isSupported p then
      (s.files.isFile p).map fun there => some (p, there) else .ok none := by
  simp only [lookUp, h, bind, Except.bind]
  split
  · cases s.files.isFile p <;> rfl
  · rfl

/-- No file is looked for if the address leads to none, or not to a picture. -/
theorem lookUp_eq_none_iff {address : String} :
    s.lookUp address = .ok none ↔ Picture.locate s.base address = .ok none ∨
      ∃ p, Picture.locate s.base address = .ok (some p) ∧ Picture.isSupported p = false := by
  rcases hplace : Picture.locate s.base address with f | _ | p
  · simp [lookUp, hplace, bind, Except.bind]
  · simp [lookUp, hplace, bind, Except.bind, pure, Except.pure]
  · rw [lookUp_eq_ite hplace]
    cases hp : Picture.isSupported p with
    | false => simp [hp]
    | true => cases hfile : s.files.isFile p <;> simp [hp, Except.map]

/-- A file is looked for if the address leads to one that passes for a picture. -/
theorem lookUp_eq_some_iff {address : String} {p : Path} {there : Bool} :
    s.lookUp address = .ok (some (p, there)) ↔ Picture.locate s.base address = .ok (some p) ∧
      Picture.isSupported p = true ∧ s.files.isFile p = .ok there := by
  rcases hplace : Picture.locate s.base address with f | _ | q
  · simp [lookUp, hplace, bind, Except.bind]
  · simp [lookUp, hplace, bind, Except.bind, pure, Except.pure]
  · rw [lookUp_eq_ite hplace]
    cases hq : Picture.isSupported q with
    | false =>
      refine iff_of_false (by simp) ?_
      rintro ⟨⟨⟩, hp, -⟩
      simp [hq] at hp
    | true =>
      cases hfile : s.files.isFile q with
      | error f =>
        refine iff_of_false (by simp [Except.map]) ?_
        rintro ⟨⟨⟩, -, hp⟩
        simp [hfile] at hp
      | ok there' =>
        rw [if_pos rfl, Except.map]
        constructor
        · rintro ⟨⟩
          exact ⟨rfl, hq, hfile⟩
        · rintro ⟨⟨⟩, -, hp⟩
          cases hfile.symm.trans hp
          rfl

/-- The attempts that give no picture, where no failure is asked for. -/
theorem leads_picture_iff_unpictured (hfail : s.options.failOnResourceErrors = false)
    {address : String} (hw : s.wanted? r = some address) {drawn : List Xml.Node} :
    Leads (s.picture address) d (drawn, false) d' ↔ s.Unpictured r d drawn d' := by
  rw [leads_picture]
  constructor
  · intro h
    -- The address cannot be looked up, leads to no picture, to no file, or to a file.
    rcases hfound : s.lookUp address with f | _ | ⟨p, _ | _⟩ <;> rw [hfound] at h
    · exact h.elim
    · obtain ⟨rfl, heq⟩ := h
      cases heq
      rcases lookUp_eq_none_iff.1 hfound with hplace | ⟨p, hplace, hp⟩
      · exact .passedOver (.elsewhere hw hplace)
      · exact .passedOver (.unsupported hw hplace hp)
    · obtain ⟨rfl, -, heq⟩ := h
      cases heq
      obtain ⟨hplace, hp, hfile⟩ := lookUp_eq_some_iff.1 hfound
      exact .passedOver (.missing hw hplace hp hfile)
    · obtain ⟨made, hmade, h⟩ := h
      obtain ⟨hplace, hp, hfile⟩ := lookUp_eq_some_iff.1 hfound
      cases made with
      | error f =>
        cases h.2
        exact .undrawn ⟨address, p, f, hw, hplace, hp, hfile, hmade⟩
      | ok n => cases h
  · intro h
    cases h with
    | passedOver h =>
      cases h with
      | unwanted hnone => cases hw.symm.trans hnone
      | elsewhere hw' hplace =>
        cases hw.symm.trans hw'
        rw [lookUp_eq_none_iff.2 (.inl hplace)]
        exact ⟨rfl, rfl⟩
      | unsupported hw' hplace hp =>
        cases hw.symm.trans hw'
        rw [lookUp_eq_none_iff.2 (.inr ⟨_, hplace, hp⟩)]
        exact ⟨rfl, rfl⟩
      | missing hw' hplace hp hfile =>
        cases hw.symm.trans hw'
        rw [lookUp_eq_some_iff.2 ⟨hplace, hp, hfile⟩]
        exact ⟨rfl, hfail, rfl⟩
    | undrawn h =>
      obtain ⟨address', p, f, hw', hplace, hp, hfile, hmade⟩ := h
      cases hw.symm.trans hw'
      rw [lookUp_eq_some_iff.2 ⟨hplace, hp, hfile⟩]
      exact ⟨_, hmade, hfail, rfl⟩

/-! ## Writing runs without pictures -/

/-- A run without a picture is written, and changes nothing. -/
theorem ends_run_of_unwanted (hw : s.wanted? r = none) (d : Draft) :
    ((s.run r).run d).Ends
      (((Run.written s.options r).mapError .fault).map fun n => ([n], d)) := by
  cases hn : Run.written s.options r with
  | ok n => exact Job.Gives.ends ((leads_run_written hw).2 ⟨n, hn, rfl, rfl⟩)
  | error f =>
    have hr : r.isBreak = false := by
      by_contra hr
      rw [Run.written, if_pos (by simpa using hr)] at hn
      cases hn
    rw [Run.written, if_neg (by simp [hr])] at hn
    rw [run_of_unwanted hr hw]
    exact (fails_ofFault_bind hn).ends

/-- A run from which no picture comes is written as its text, after what the attempt has left. -/
theorem ends_run_unpictured (hfail : s.options.failOnResourceErrors = false)
    {drawn : List Xml.Node} (h : s.Unpictured r d drawn d') :
    ((s.run r).run d).Ends
      (((Run.written s.options r).mapError .fault).map fun n => (drawn ++ [n], d')) := by
  cases hw : s.wanted? r with
  | none =>
    -- Only attempts at pictures that are looked for leave something.
    cases h with
    | passedOver h => exact ends_run_of_unwanted hw d
    | undrawn h =>
      obtain ⟨_, _, _, hw', -⟩ := h
      cases hw.symm.trans hw'
  | some address =>
    have hpicture := (leads_picture_iff_unpictured hfail hw).2 h
    rw [Run.written, if_neg (by simp [isBreak_of_wanted? hw])]
    cases hn : Run.ofText s.options r with
    | ok n => exact Job.Gives.ends ((leads_run_picture hw).2 ⟨drawn, false, hpicture, n, hn, rfl⟩)
    | error f =>
      rw [run_of_wanted hw]
      exact hpicture.bind_ends (fails_ofFault_bind hn).ends

/-- Runs are written one part after the other. -/
theorem runs_append (s : Setting) (rs rs' : List Layout.Run) :
    s.runs (rs ++ rs') = do return (← s.runs rs) ++ (← s.runs rs') := by
  simp [runs]

theorem runs_singleton (s : Setting) (r : Layout.Run) : s.runs [r] = s.run r := by
  simp [runs]

/-- Runs are written one after the other. -/
theorem runs_cons (s : Setting) (r : Layout.Run) (rs : List Layout.Run) :
    s.runs (r :: rs) = do return (← s.run r) ++ (← s.runs rs) := by
  rw [← List.singleton_append, runs_append, runs_singleton]

/-- No picture comes of the attempts at those of some runs, one after another. -/
inductive UnpicturedAll (s : Setting) :
    List Layout.Run → Draft → List (List Xml.Node) → Draft → Prop
  | nil {d : Draft} : UnpicturedAll s [] d [] d
  | cons {r : Layout.Run} {rs : List Layout.Run} {d d' d'' : Draft} {drawn : List Xml.Node}
    {rest : List (List Xml.Node)} (h : s.Unpictured r d drawn d')
    (hrest : UnpicturedAll s rs d' rest d'') : UnpicturedAll s (r :: rs) d (drawn :: rest) d''

/-- Runs from which no pictures come are written as their texts, each after what the attempt at its
    picture has left. -/
theorem ends_runs_unpictured (hfail : s.options.failOnResourceErrors = false)
    {rs : List Layout.Run} {drawn : List (List Xml.Node)} (h : s.UnpicturedAll rs d drawn d') :
    ((s.runs rs).run d).Ends
      (((rs.mapM (Run.written s.options)).mapError .fault).map fun ns =>
        ((List.zipWith (fun left n => left ++ [n]) drawn ns).flatten, d')) := by
  induction h with
  | nil => exact (Job.gives_pure _).ends
  | cons h _ ih =>
    -- The other runs begin with the draft that the attempt at the first has left.
    rename_i r rs _ _ _ drawn rest _
    have hrun := ends_run_unpictured hfail h
    rw [runs_cons, List.mapM_cons]
    cases hn : Run.written s.options r with
    | error f =>
      rw [hn] at hrun
      rw [StateT.run_bind]
      exact (hrun.fails.bind _).ends
    | ok n =>
      rw [hn] at hrun
      have hrest := ends_bind_pure ih ((drawn ++ [n]) ++ ·)
      refine Leads.bind_ends hrun.gives ?_
      cases hns : rs.mapM (Run.written s.options) with
      | error f =>
        rw [hns] at hrest
        exact hrest
      | ok ns =>
        rw [hns] at hrest
        exact hrest

/-- With pictures off, every run goes unpictured and nothing is drawn. -/
theorem unpicturedAll_withoutPictures (s : Setting) (rs : List Layout.Run) (d : Draft) :
    s.withoutPictures.UnpicturedAll rs d (rs.map fun _ => []) d := by
  induction rs with
  | nil => exact .nil
  | cons r rs ih => exact .cons (.passedOver (.unwanted (s.wanted?_withoutPictures r))) ih

/-- With pictures off, runs are written as their texts. -/
theorem ends_runs_withoutPictures (hfail : s.options.failOnResourceErrors = false)
    (rs : List Layout.Run) (d : Draft) :
    ((s.withoutPictures.runs rs).run d).Ends
      (((rs.mapM (Run.written s.options)).mapError .fault).map fun ns => (ns, d)) := by
  have hoptions : Run.written s.withoutPictures.options = Run.written s.options := rfl
  cases hns : rs.mapM (Run.written s.options) with
  | ok ns =>
    have hplain : Leads (s.withoutPictures.runs rs) d ns d :=
      (leads_runs_written fun r _ => s.wanted?_withoutPictures r).2 ⟨hns, rfl⟩
    exact Job.Gives.ends hplain
  | error f =>
    have hfail' : s.withoutPictures.options.failOnResourceErrors = false := hfail
    have hruns := ends_runs_unpictured hfail' (s.unpicturedAll_withoutPictures rs d)
    rw [hoptions, hns] at hruns
    exact hruns

/-- Where no failure is asked for, a run whose picture is passed over is written as if no pictures
    were looked for: one run with its text and its format, behind whatever the paragraph holds. The
    attempt to draw the picture in a file leaves an empty run before it if it fails. There are no
    other attempts from which no picture comes, and the runs of a whole text are written so one by
    one if none comes of any. -/
theorem run_unpictured (hfail : s.options.failOnResourceErrors = false) (r : Layout.Run)
    (d : Draft) :
    (∀ address, s.wanted? r = some address → ∀ drawn d',
      Leads (s.picture address) d (drawn, false) d' ↔ s.Unpictured r d drawn d') ∧
    (s.PassesOver r → ((s.run r).run d).result.1 = ((s.withoutPictures.run r).run d).result.1) ∧
    (∀ d', s.FailsToDraw r d d' →
      ((s.run r).run d).result.1 = ((s.withoutPictures.run r).run d).result.1.map fun written =>
        (Run.blank :: written.1, d')) ∧
    (∀ ns d', ((s.withoutPictures.run r).run d).result.1 = .ok (ns, d') →
      d' = d ∧ ∃ n, ns = [n] ∧ Run.Shows s.options r n) ∧
    (∀ drawn d', s.Unpictured r d drawn d' → ∀ rs before d₀, Leads (s.runs rs) d₀ before d →
      ((s.runs (rs ++ [r])).run d₀).result.1 =
        ((s.withoutPictures.run r).run d).result.1.map fun written =>
          (before ++ (drawn ++ written.1), d')) ∧
    ∀ rs drawn d', s.UnpicturedAll rs d drawn d' →
      ((s.runs rs).run d).result.1 =
        ((s.withoutPictures.runs rs).run d).result.1.map fun written =>
          ((List.zipWith (fun left n => left ++ [n]) drawn written.1).flatten, d') := by
  -- Without pictures, all that a run leaves are its text and the draft as it was.
  have hplain : ((s.withoutPictures.run r).run d).result.1 =
      ((Run.written s.options r).mapError .fault).map fun n => ([n], d) :=
    (ends_run_of_unwanted (s.wanted?_withoutPictures r) d).result_eq
  refine ⟨fun address hw drawn d' => leads_picture_iff_unpictured hfail hw, ?_, ?_, ?_, ?_, ?_⟩
  · intro h
    rw [hplain, (ends_run_unpictured hfail (.passedOver h)).result_eq]
    rfl
  · intro d' h
    rw [hplain, (ends_run_unpictured hfail (.undrawn h)).result_eq]
    cases Run.written s.options r <;> rfl
  · intro ns d' h
    rw [hplain] at h
    cases hn : Run.written s.options r with
    | error f =>
      rw [hn] at h
      cases h
    | ok n =>
      rw [hn] at h
      cases h
      exact ⟨rfl, n, rfl, Run.shows_of_written hn⟩
  · intro drawn d' h rs before d₀ hrs
    have hrun := ends_bind_pure (ends_run_unpictured hfail h) (before ++ ·)
    rw [hplain, runs_append, runs_singleton, (hrs.bind_ends hrun).result_eq]
    cases Run.written s.options r <;> rfl
  · intro rs drawn d' h
    rw [(ends_runs_unpictured hfail h).result_eq, (ends_runs_withoutPictures hfail rs d).result_eq]
    cases rs.mapM (Run.written s.options) <;> rfl

/-- A picture that is elsewhere leaves nothing, and a file without content an empty run. -/
theorem run_unpictured_unreadable :
    let s : Setting := { files.top := .folder [("bad.png", .file .empty)] }
    let elsewhere : Layout.Run := { text := "alt", imageSource := some "https://host/a.png" }
    let bad : Layout.Run := { text := "alt", imageSource := some "bad.png" }
    s.options.failOnResourceErrors = false ∧ ∃ text, Run.Shows s.options bad text ∧
      ((s.run elsewhere).run default).result.1 = .ok ([text], default) ∧
      ((s.run bad).run default).result.1 = .ok ([Run.blank, text], default) ∧
      ((s.runs [elsewhere, bad]).run default).result.1 = .ok ([text, Run.blank, text], default) := by
  intro s elsewhere bad
  have hfail : s.options.failOnResourceErrors = false := rfl
  have hwritten : (Run.written s.options bad).isOk = true := by decide +kernel
  cases hbad : Run.written s.options bad with
  | error f =>
    rw [hbad] at hwritten
    cases hwritten
  | ok text =>
    have hpasses : s.PassesOver elsewhere := .elsewhere rfl (by decide +kernel)
    have hwidth : Length.ofUnits s.options.imageWidthInches Length.inch = .ok 3657600 := by
      decide +kernel
    have hcontent : s.files.read (.ofText "bad.png") = .ok .empty := by decide +kernel
    have hunknown : Picture.read? .empty = none := by decide +kernel
    have hfails : s.FailsToDraw bad default default :=
      failsToDraw_of_readPicture rfl (by decide +kernel) (by decide +kernel) (by decide +kernel)
        (readPicture_of_unknown hwidth hcontent hunknown)
    have htext (r : Layout.Run) (hr : Run.written s.options r = .ok text) :
        ((s.withoutPictures.run r).run default).result.1 = .ok ([text], default) := by
      have hplain := ends_run_of_unwanted (s.wanted?_withoutPictures r) default
      rw [hplain.result_eq, show Run.written s.withoutPictures.options r = _ from hr]
      rfl
    obtain ⟨-, hplain, -⟩ := run_unpictured hfail elsewhere default
    obtain ⟨-, -, hblank, -, hbehind, -⟩ := run_unpictured hfail bad default
    have hfirst : Leads (s.runs [elsewhere]) default [text] default := by
      rw [runs_singleton]
      exact (leads_run_picture rfl).2 ⟨[], false,
        (leads_picture_iff_unpictured hfail rfl).2 (.passedOver hpasses), text, hbad, rfl⟩
    have hruns := hbehind [Run.blank] default (.undrawn hfails) [elsewhere] [text] default hfirst
    refine ⟨hfail, text, Run.shows_of_written hbad, ?_, ?_, ?_⟩
    · rw [hplain hpasses, htext elsewhere hbad]
    · rw [hblank default hfails, htext bad hbad]
      rfl
    · rw [htext bad hbad] at hruns
      exact hruns

end Setting

end Docx

end Manuscript
