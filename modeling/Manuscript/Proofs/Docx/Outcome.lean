import Manuscript.Docx
import Mathlib.Data.List.Forall2

/-!
# How jobs end

The records that a job finds have no say in how it ends, but they are part of its state. A job *may
give* a result if it does so after some records (`Job.MayGive`), and it *gives* the result if it
does so after any (`Job.Gives`). From a job that has succeeded the first is read off its parts; of a
job that is to succeed the second is shown part by part. A step of writing has a draft as well,
which it takes over and hands on (`MayLead`, `Leads`).

* `Job.MayGive.of_bind`, `MayLead.of_bind`: where a sequence of steps may end, each of them may;
* `Job.Gives.bind`, `Leads.bind`: where each step ends, a sequence of them does.
-/

namespace Manuscript

/-- Where a sequence of two computations succeeds, each of them does. -/
theorem ok_of_bind {x : Except ε α} {f : α → Except ε β} {b : β} (h : x >>= f = .ok b) :
    ∃ a, x = .ok a ∧ f a = .ok b := by
  cases x with
  | error e => cases h
  | ok a => exact ⟨a, rfl, h⟩

/-- A step that gives a result, before one that gives a result whatever comes before it, gives one.
    -/
theorem exists_bind_eq_ok {x : Except ε α} {f : α → Except ε β} (hx : ∃ a, x = .ok a)
    (hf : ∀ a, ∃ b, f a = .ok b) : ∃ b, x >>= f = .ok b := by
  obtain ⟨a, rfl⟩ := hx
  exact hf a

/-- What is known to be a result, and can be computed to be one, is some result. -/
theorem exists_of_isOk {x : Except ε α} (h : x.isOk = true) : ∃ a, x = .ok a := by
  cases x with
  | error e => cases h
  | ok a => exact ⟨a, rfl⟩

/-- A sequence of two computations fails as the first or, after that, as the second. -/
theorem bind_eq_error_iff {x : Except ε α} {g : α → Except ε β} {e : ε} :
    x >>= g = .error e ↔ x = .error e ∨ ∃ a, x = .ok a ∧ g a = .error e := by
  cases x with
  | error e' => simp [bind, Except.bind]
  | ok a => simp [bind, Except.bind]

/-- A list of computations succeeds with the results of each of them. -/
theorem mapM_eq_ok_iff {f : α → Except ε β} {as : List α} {bs : List β} :
    as.mapM f = .ok bs ↔ List.Forall₂ (fun a b => f a = .ok b) as bs := by
  induction as generalizing bs with
  | nil =>
    rw [List.mapM_nil, List.forall₂_nil_left_iff]
    constructor
    · intro h
      cases h
      rfl
    · rintro rfl
      rfl
  | cons a as ih =>
    rw [List.mapM_cons, List.forall₂_cons_left_iff]
    constructor
    · intro h
      obtain ⟨b, hb, h⟩ := ok_of_bind h
      obtain ⟨bs', hbs, h⟩ := ok_of_bind h
      cases h
      exact ⟨b, bs', hb, ih.1 hbs, rfl⟩
    · rintro ⟨b, bs', hb, hbs, rfl⟩
      rw [hb, ih.2 hbs]
      rfl

/-- A list of computations succeeds if each of them does. -/
theorem exists_mapM_eq_ok_iff {f : α → Except ε β} {as : List α} :
    (∃ bs, as.mapM f = .ok bs) ↔ ∀ a ∈ as, ∃ b, f a = .ok b := by
  simp only [mapM_eq_ok_iff]
  induction as with
  | nil => simp
  | cons a as ih =>
    rw [List.forall_mem_cons, ← ih]
    constructor
    · rintro ⟨_, h⟩
      obtain ⟨b, bs, hb, hbs, rfl⟩ := List.forall₂_cons_left_iff.1 h
      exact ⟨⟨b, hb⟩, bs, hbs⟩
    · rintro ⟨⟨b, hb⟩, bs, hbs⟩
      exact ⟨b :: bs, .cons hb hbs⟩

/-- A list of computations fails as one of them. -/
theorem exists_of_mapM_eq_error {f : α → Except ε β} {as : List α} {e : ε}
    (h : as.mapM f = .error e) : ∃ a ∈ as, f a = .error e := by
  induction as with
  | nil => cases h
  | cons a as ih =>
    rw [List.mapM_cons, bind_eq_error_iff] at h
    obtain ha | ⟨b, -, h⟩ := h
    · exact ⟨a, List.mem_cons_self, ha⟩
    · obtain h | ⟨bs, -, h⟩ := bind_eq_error_iff.1 h
      · obtain ⟨a', ha', h⟩ := ih h
        exact ⟨a', List.mem_cons_of_mem a ha', h⟩
      · cases h

theorem mapError_fault_eq_iff {x : Except Fault α} {f : Fault} :
    x.mapError Failure.fault = .error (.fault f) ↔ x = .error f := by
  cases x <;> simp [Except.mapError]

namespace Job

/-- A job ends with a result if it is begun after some records. -/
def MayGive (j : Job α) (a : α) : Prop :=
  ∃ w w', j.run.run w = (.ok a, w')

/-- A job ends with a result, whatever records it is begun after. -/
def Gives (j : Job α) (a : α) : Prop :=
  ∀ w, ∃ w', j.run.run w = (.ok a, w')

/-- What a job gives, whatever was recorded before, it may give. -/
theorem Gives.mayGive {j : Job α} {a : α} (h : j.Gives a) : j.MayGive a :=
  ⟨[], h []⟩

/-- What a job gives is its result. -/
theorem Gives.result_eq {j : Job α} {a : α} (h : j.Gives a) : j.result.1 = .ok a := by
  obtain ⟨w, hw⟩ := h []
  rw [result, hw]

/-- The result of a job is what it may give. -/
theorem mayGive_of_result_eq {j : Job α} {a : α} (h : j.result.1 = .ok a) : j.MayGive a :=
  ⟨[], j.result.2, Prod.ext h rfl⟩

/-- One job after another runs on the records that the first has left. -/
theorem run_bind (x : Job α) (f : α → Job β) (w : List Log.Record) :
    (x >>= f).run.run w =
      match x.run.run w with
      | (.ok a, w') => (f a).run.run w'
      | (.error e, w') => (.error e, w') := by
  rw [ExceptT.run_bind, StateT.run_bind]
  generalize x.run.run w = p
  obtain ⟨_ | a, w'⟩ := p <;> rfl

/-- What may be given by one job after another has come through both. -/
theorem MayGive.of_bind {x : Job α} {f : α → Job β} {b : β} (h : (x >>= f).MayGive b) :
    ∃ a, x.MayGive a ∧ (f a).MayGive b := by
  obtain ⟨w, w', h⟩ := h
  rw [run_bind] at h
  split at h
  · rename_i a v hx
    exact ⟨a, ⟨w, v, hx⟩, v, w', h⟩
  · cases h

/-- A sequence of two jobs ends with a result if the first does, and the second after it. -/
theorem result_of_bind {x : Job α} {f : α → Job β} {b : β} (h : (x >>= f).result.1 = .ok b) :
    ∃ a, x.result.1 = .ok a ∧ (f a).MayGive b := by
  rw [result, run_bind] at h
  split at h
  · rename_i a w hx
    exact ⟨a, by rw [result, hx], w, _, Prod.ext h rfl⟩
  · cases h

/-- A result can be handed to a job that gives another whatever was recorded. -/
theorem result_bind_of_gives {x : Job α} {f : α → Job β} {a : α} {b : β} (hx : x.result.1 = .ok a)
    (hf : (f a).Gives b) : (x >>= f).result.1 = .ok b := by
  obtain ⟨w, hw⟩ := hf x.result.2
  rw [result, run_bind, show x.run.run [] = (.ok a, x.result.2) from Prod.ext hx rfl]
  dsimp only
  rw [hw]

theorem Gives.bind {x : Job α} {f : α → Job β} {a : α} {b : β} (hx : x.Gives a)
    (hf : (f a).Gives b) : (x >>= f).Gives b := by
  intro w
  obtain ⟨v, hv⟩ := hx w
  rw [run_bind, hv]
  exact hf v

theorem gives_pure (a : α) : (pure a : Job α).Gives a :=
  fun w => ⟨w, rfl⟩

theorem mayGive_pure {a b : α} : (pure a : Job α).MayGive b ↔ b = a := by
  constructor
  · rintro ⟨w, w', h⟩
    cases h
    rfl
  · rintro rfl
    exact (gives_pure b).mayGive

theorem gives_of_ok {x : Except Failure α} {a : α} (h : x = .ok a) : (Job.of x).Gives a := by
  subst h
  exact gives_pure a

/-- A job without records gives what it computes and nothing else. -/
theorem mayGive_of {x : Except Failure α} {a : α} : (Job.of x).MayGive a ↔ x = .ok a := by
  constructor
  · rintro ⟨w, w', h⟩
    cases x with
    | error e => cases h
    | ok b => cases h; rfl
  · exact fun h => (gives_of_ok h).mayGive

theorem gives_ofFault {x : Except Fault α} {a : α} (h : x = .ok a) : (Job.ofFault x).Gives a := by
  subst h
  exact gives_pure a

/-- A job that only a fault can end gives what it computes and nothing else. -/
theorem mayGive_ofFault {x : Except Fault α} {a : α} :
    (Job.ofFault x).MayGive a ↔ x = .ok a := by
  rw [Job.ofFault, mayGive_of]
  cases x <;> simp [Except.mapError]

/-- Recording always goes well. -/
theorem gives_record (level : Nat) (origin : String) (m : Message) :
    (Job.record level origin m).Gives () :=
  fun w => ⟨w ++ [⟨level, origin, m⟩], rfl⟩

/-- A job that refuses gives nothing. -/
theorem not_mayGive_refuse (e : Error) (a : α) : ¬ (Job.refuse e).MayGive a := by
  rintro ⟨w, w', h⟩
  cases h

/-! ## Failures -/

/-- A job ends with a failure if it is begun after some records. -/
def MayFail (j : Job α) (e : Failure) : Prop :=
  ∃ w w', j.run.run w = (.error e, w')

/-- A job ends with a failure, whatever records it is begun after. -/
def Fails (j : Job α) (e : Failure) : Prop :=
  ∀ w, ∃ w', j.run.run w = (.error e, w')

variable {j : Job α} {g : α → Job β} {a : α} {e : Failure}

theorem Fails.mayFail (h : j.Fails e) : j.MayFail e :=
  ⟨[], h []⟩

/-- What a job fails with, whatever was recorded before, is its result. -/
theorem Fails.result_eq (h : j.Fails e) : j.result.1 = .error e := by
  obtain ⟨w, hw⟩ := h []
  rw [result, hw]

theorem mayFail_of_result_eq (h : j.result.1 = .error e) : j.MayFail e :=
  ⟨[], j.result.2, Prod.ext h rfl⟩

/-- Where one job after another fails, the first has failed, or the second on what the first has
    given. -/
theorem MayFail.of_bind (h : (j >>= g).MayFail e) :
    j.MayFail e ∨ ∃ a, j.MayGive a ∧ (g a).MayFail e := by
  obtain ⟨w, w', h⟩ := h
  rw [run_bind] at h
  split at h
  · rename_i a v hj
    exact .inr ⟨a, ⟨w, v, hj⟩, v, w', h⟩
  · rename_i hj
    cases h
    exact .inl ⟨w, _, hj⟩

theorem Fails.bind (h : j.Fails e) (g : α → Job β) : (j >>= g).Fails e := by
  intro w
  obtain ⟨v, hv⟩ := h w
  exact ⟨v, by rw [run_bind, hv]⟩

/-- A job that fails makes one fail that hands it something. -/
theorem Gives.bind_fails (hj : j.Gives a) (hg : (g a).Fails e) : (j >>= g).Fails e := by
  intro w
  obtain ⟨v, hv⟩ := hj w
  rw [run_bind, hv]
  exact hg v

theorem fails_throw (e : Failure) : (throw e : Job α).Fails e :=
  fun w => ⟨w, rfl⟩

theorem mayFail_throw {e' : Failure} : (throw e' : Job α).MayFail e ↔ e' = e := by
  constructor
  · rintro ⟨w, w', h⟩
    cases h
    rfl
  · rintro rfl
    exact (fails_throw e').mayFail

theorem not_mayFail_pure (a : α) (e : Failure) : ¬ (pure a : Job α).MayFail e := by
  rintro ⟨w, w', h⟩
  cases h

/-- A job without records fails with what its computation fails with and nothing else. -/
theorem mayFail_of {x : Except Failure α} : (Job.of x).MayFail e ↔ x = .error e := by
  cases x with
  | error e' => exact mayFail_throw.trans (by simp)
  | ok a => exact iff_of_false (not_mayFail_pure a e) nofun

theorem fails_of {x : Except Failure α} (h : x = .error e) : (Job.of x).Fails e := by
  subst h
  exact fails_throw e

/-- A job that only a fault can end fails with that fault. -/
theorem mayFail_ofFault {x : Except Fault α} {f : Fault} :
    (Job.ofFault x).MayFail (.fault f) ↔ x = .error f := by
  rw [Job.ofFault, mayFail_of, mapError_fault_eq_iff]

theorem fails_ofFault {x : Except Fault α} {f : Fault} (h : x = .error f) :
    (Job.ofFault x).Fails (.fault f) :=
  fails_of (mapError_fault_eq_iff.2 h)

theorem not_mayFail_record (level : Nat) (origin : String) (m : Message) (e : Failure) :
    ¬ (Job.record level origin m).MayFail e := by
  rintro ⟨w, w', h⟩
  cases h

end Job

namespace Docx

/-- Explaining keeps errors and results as they are, and makes an error of a fault. -/
theorem run_explaining (j : Job α) (explain : Fault → Error) (w : List Log.Record) :
    (explaining j explain).run.run w =
      match j.run.run w with
      | (.ok a, w') => (.ok a, w')
      | (.error (.fault f), w') => (.error (.error (explain f)), w')
      | (.error (.error e), w') => (.error (.error e), w') := by
  simp only [explaining, tryCatch, tryCatchThe, MonadExceptOf.tryCatch, ExceptT.tryCatch,
    ExceptT.run_mk, StateT.run_bind]
  rcases hj : j.run.run w with ⟨(_ | _) | a, w'⟩ <;> rw [show StateT.run j w = _ from hj] <;> rfl

/-- Explaining adds no results. -/
theorem mayGive_of_explaining {j : Job α} {explain : Fault → Error} {a : α}
    (h : (explaining j explain).MayGive a) : j.MayGive a := by
  obtain ⟨w, w', h⟩ := h
  rw [run_explaining] at h
  split at h
  · cases h
    exact ⟨w, w', ‹_›⟩
  · cases h
  · cases h

/-- Explaining takes no results away. -/
theorem gives_explaining {j : Job α} {a : α} (h : j.Gives a) (explain : Fault → Error) :
    (explaining j explain).Gives a := by
  intro w
  obtain ⟨w', hw⟩ := h w
  exact ⟨w', by rw [run_explaining, hw]⟩

/-- A job whose faults become errors ends with no fault. -/
theorem not_mayFail_explaining (j : Job α) (explain : Fault → Error) (f : Fault) :
    ¬ (explaining j explain).MayFail (.fault f) := by
  rintro ⟨w, w', h⟩
  rw [run_explaining] at h
  split at h <;> cases h

/-! ## Steps of writing -/

/-- A step of writing, begun with a draft after some records, ends with a result and a draft. -/
def MayLead (x : Drafting α) (d : Draft) (a : α) (d' : Draft) : Prop :=
  (x.run d).MayGive (a, d')

/-- A step of writing, begun with a draft after any records, ends with a result and a draft. -/
def Leads (x : Drafting α) (d : Draft) (a : α) (d' : Draft) : Prop :=
  (x.run d).Gives (a, d')

/-- Where a step leads, whatever was recorded before, it may lead. -/
theorem Leads.mayLead {x : Drafting α} {d d' : Draft} {a : α} (h : Leads x d a d') :
    MayLead x d a d' :=
  Job.Gives.mayGive h

/-- Where one step after another may lead, it has come through both. -/
theorem MayLead.of_bind {x : Drafting α} {f : α → Drafting β} {d d'' : Draft} {b : β}
    (h : MayLead (x >>= f) d b d'') : ∃ a d', MayLead x d a d' ∧ MayLead (f a) d' b d'' := by
  rw [MayLead, StateT.run_bind] at h
  obtain ⟨⟨a, d'⟩, hx, hf⟩ := h.of_bind
  exact ⟨a, d', hx, hf⟩

/-- One step leads to a draft, and another leads on from there. -/
theorem Leads.bind {x : Drafting α} {f : α → Drafting β} {d d' d'' : Draft} {a : α} {b : β}
    (hx : Leads x d a d') (hf : Leads (f a) d' b d'') : Leads (x >>= f) d b d'' := by
  rw [Leads, StateT.run_bind]
  exact Job.Gives.bind hx hf

theorem leads_pure (a : α) (d : Draft) : Leads (pure a) d a d :=
  Job.gives_pure (a, d)

/-- Nothing to do leads nowhere else. -/
theorem mayLead_pure {a b : α} {d d' : Draft} : MayLead (pure a) d b d' ↔ b = a ∧ d' = d := by
  rw [MayLead, StateT.run_pure, Job.mayGive_pure, Prod.mk.injEq]

/-- What a job gives leaves the draft as it is. -/
theorem leads_lift {j : Job α} {a : α} (h : j.Gives a) (d : Draft) :
    Leads (liftM j) d a d := by
  exact h.bind (Job.gives_pure (a, d))

/-- What a job may give leaves the draft as it is. -/
theorem mayLead_lift {j : Job α} {a : α} {d d' : Draft} (h : MayLead (liftM j) d a d') :
    j.MayGive a ∧ d' = d := by
  obtain ⟨b, hj, hb⟩ := Job.MayGive.of_bind h
  cases Job.mayGive_pure.1 hb
  exact ⟨hj, rfl⟩

/-- A step that changes the draft leads to what it makes of it. -/
theorem leads_step (f : Draft → Draft × α) (d : Draft) :
    Leads (Setting.step f) d (f d).2 (f d).1 :=
  Job.gives_pure ((f d).2, (f d).1)

theorem mayLead_step {f : Draft → Draft × α} {a : α} {d d' : Draft} :
    MayLead (Setting.step f) d a d' ↔ f d = (d', a) := by
  constructor
  · intro h
    have h := Job.mayGive_pure.1 h
    cases h
    rfl
  · intro h
    have := (leads_step f d).mayLead
    rwa [h] at this

/-- Looking at the draft leaves it as it is. -/
theorem leads_get (d : Draft) : Leads get d d d :=
  Job.gives_pure (d, d)

theorem mayLead_get {d d' a : Draft} : MayLead get d a d' ↔ a = d ∧ d' = d := by
  constructor
  · intro h
    have h := Job.mayGive_pure.1 h
    cases h
    exact ⟨rfl, rfl⟩
  · rintro ⟨rfl, rfl⟩
    exact (leads_get _).mayLead

end Docx

end Manuscript
