import Manuscript.Layout.Style

/-!
# Merging settings into styles

The fields of a style do not depend on each other: what calls leave in a field follows from what was
there and the values that they give to that field, in order (`value_mergeAll`). A call with a name of
no field gives no values at all, whatever else it names (`given`).

The rule for one field has two regimes (`Style.join`). Until a truth value comes up, the last value
given stays (`foldl_join_of_forall`). From the first one on, the field says whether one of the values
counts as given (`foldl_join_of_truth`). The flags of a style are in the second regime from the start,
so that no call takes a flag away and the order of calls that only set flags is irrelevant. Colours and
sizes are in the first one, unless a truth value is given to them (`mergeAll_merges`).

The formats that a renderer refines are styles to which this never happens, and merging does to them
what it does to styles (`Format.style_merge`).
-/

namespace Manuscript.Layout

namespace Style

/-! ## Names -/

namespace Field

/-- Whether a field is one of the flags. -/
def isFlag : Field → Bool
  | bold | italic | underline | monospace => true
  | color | fontSize => false

@[simp] theorem ofName?_name (f : Field) : ofName? f.name = some f := by
  cases f <;> rfl

/-- A field is found by its own name only. -/
theorem ofName?_eq_some_iff {name : String} {f : Field} :
    ofName? name = some f ↔ f.name = name := by
  constructor
  · intro h
    simpa using List.find?_some h
  · rintro rfl
    exact ofName?_name f

/-- A name is that of a field if a field has it. -/
theorem isSome_ofName?_iff {name : String} :
    (ofName? name).isSome ↔ ∃ f : Field, f.name = name := by
  simp only [Option.isSome_iff_exists, ofName?_eq_some_iff]

theorem name_inj {f g : Field} : f.name = g.name ↔ f = g := by
  rw [← ofName?_eq_some_iff, ofName?_name, Option.some_inj, eq_comm]

end Field

instance (name : String) : Decidable (∃ f : Field, f.name = name) :=
  decidable_of_iff _ Field.isSome_ofName?_iff

/-- Settings of fields, and of nothing else. -/
def Known (changes : Settings) : Prop :=
  ∀ e ∈ changes, ∃ f : Field, f.name = e.1

instance (changes : Settings) : Decidable (Known changes) :=
  inferInstanceAs (Decidable (∀ e ∈ changes, _))

/-- Settings of what a style has, be it a field or not. -/
def Found (changes : Settings) : Prop :=
  ∀ e ∈ changes, (∃ f : Field, f.name = e.1) ∨ e.1 ∈ members

/-- Settings that a style does not miss anything of: it has all of them, or one of them has the name
    of the style itself, so that no other one is looked for. -/
def Had (changes : Settings) : Prop :=
  (changes.find? ownName).isSome ∨ Found changes

instance (changes : Settings) : Decidable (Found changes) :=
  inferInstanceAs (Decidable (∀ e ∈ changes, _))

instance (changes : Settings) : Decidable (Had changes) :=
  inferInstanceAs (Decidable (_ ∨ _))

/-- Names of fields are found. -/
theorem Known.found {c : Settings} (h : Known c) : Found c :=
  fun e he => .inl (h e he)

theorem Known.find?_ownName {c : Settings} (h : Known c) : c.find? ownName = none := by
  refine Option.map_eq_none_iff.2 (List.find?_eq_none.2 fun e he => ?_)
  obtain ⟨f, hf⟩ := h e he
  rw [← hf]
  cases f <;> decide

/-- Settings of flags, and of nothing else. -/
def OnlyFlags (changes : Settings) : Prop :=
  ∀ e ∈ changes, ∃ f : Field, f.isFlag ∧ f.name = e.1

/-! ## One call -/

variable {s : Style} {c : Settings} {calls : List Settings} {f : Field}

/-- A setting with the value that merging it leaves. -/
def resolved (s : Style) (e : String × Value) : String × Value :=
  (e.1, ((Field.ofName? e.1).map fun f => join (s.value f) e.2).getD e.2)

theorem resolve_eq (s : Style) (e : String × Value) :
    s.resolve e =
      if (∃ f : Field, f.name = e.1) ∨ e.1 ∈ members then .ok (s.resolved e)
      else .error .noSuchAttribute := by
  simp only [← Field.isSome_ofName?_iff, resolve, resolved]
  cases Field.ofName? e.1 <;> simp

/-- Settings are resolved if all their names are found. -/
theorem mapM_resolve (s : Style) (c : Settings) :
    c.mapM s.resolve = if Found c then .ok (c.map s.resolved) else .error .noSuchAttribute := by
  induction c with
  | nil => rfl
  | cons e c ih =>
    have hcons : Found (e :: c) ↔ ((∃ f : Field, f.name = e.1) ∨ e.1 ∈ members) ∧ Found c :=
      List.forall_mem_cons
    rw [List.mapM_cons, ih, resolve_eq]
    simp only [hcons]
    -- There is one fault for all names, so it does not matter which of them comes first.
    split <;> split <;> simp_all [bind, Except.bind, pure, Except.pure]

/-- What is resolved for a field is joined to the value that it has. -/
theorem find?_resolved (s : Style) (c : Settings) (f : Field) :
    Settings.find? (c.map s.resolved) f.name = (c.find? f.name).map (join (s.value f)) := by
  induction c with
  | nil => rfl
  | cons e c ih =>
    obtain ⟨name, v⟩ := e
    by_cases h : name = f.name
    · subst h
      simp [Settings.find?, resolved]
    · simpa [Settings.find?, resolved, h] using ih

/-- All that is resolved is of a field if all names are. -/
theorem all_resolved_iff :
    (c.map s.resolved).all (fun e => (Field.ofName? e.1).isSome) ↔ Known c := by
  simp [Known, resolved, Field.isSome_ofName?_iff]

/-- A call that names fields only merges each value into its field. -/
theorem merge_of_known (h : Known c) (s : Style) :
    s.merge c =
      .ok { value := fun f => ((c.find? f.name).map (join (s.value f))).getD (s.value f) } := by
  simp [merge, h.find?_ownName, mapM_resolve, h.found, bind, Except.bind, replace,
    all_resolved_iff.2 h, find?_resolved]

/-- A call that names anything else fails. -/
theorem merge_of_not_known (h : ¬ Known c) (s : Style) :
    s.merge c = .error (if Had c then .wrongKind else .noSuchAttribute) := by
  have hhad : Had c ↔ (c.find? ownName).isSome ∨ Found c := Iff.rfl
  rw [merge, mapM_resolve]
  by_cases hown : (c.find? ownName).isSome
  · rw [if_pos hown, if_pos (hhad.2 (.inl hown))]
    rfl
  by_cases hfound : Found c
  · simp [hhad, hown, hfound, bind, Except.bind, replace, mt all_resolved_iff.1 h]
  · simp [hhad, hown, hfound, bind, Except.bind]

/-- Settings of known names are merged. -/
theorem merge_eq_ok_attempt (h : Known c) (s : Style) : s.merge c = .ok (s.attempt c) := by
  rw [attempt, merge_of_known h]

/-- A call that fails leaves the style as it is. -/
theorem attempt_of_not_known (h : ¬ Known c) (s : Style) : s.attempt c = s := by
  rw [attempt, merge_of_not_known h]

/-- A call joins the value that it gives to a field. -/
theorem value_attempt (h : Known c) (s : Style) (f : Field) :
    (s.attempt c).value f = (c.find? f.name).toList.foldl join (s.value f) := by
  rw [attempt, merge_of_known h]
  cases hf : c.find? f.name <;> simp [hf]

/-! ## Calls -/

/-- The values that calls give to a field, in order. A call that fails gives none. -/
def given (f : Field) (calls : List Settings) : List Value :=
  (calls.filter fun c => Known c).filterMap fun c => c.find? f.name

/-- A call of known names gives what it gives. -/
theorem given_cons_of_known (h : Known c) (f : Field) (calls : List Settings) :
    given f (c :: calls) = (c.find? f.name).toList ++ given f calls := by
  cases hf : c.find? f.name <;> simp [given, h, hf]

/-- A call that fails gives nothing. -/
theorem given_cons_of_not_known (h : ¬ Known c) (f : Field) (calls : List Settings) :
    given f (c :: calls) = given f calls := by
  simp [given, h]

theorem given_append (f : Field) (calls more : List Settings) :
    given f (calls ++ more) = given f calls ++ given f more := by
  simp [given]

/-- What is given to a field is given by a call of known names. -/
theorem mem_given_iff {v : Value} :
    v ∈ given f calls ↔ ∃ c ∈ calls, Known c ∧ c.find? f.name = some v := by
  simp [given, and_assoc]

theorem mergeAll_append (s : Style) (calls more : List Settings) :
    s.mergeAll (calls ++ more) = (s.mergeAll calls).mergeAll more :=
  List.foldl_append

theorem mergeAll_cons (s : Style) (c : Settings) (calls : List Settings) :
    s.mergeAll (c :: calls) = (s.attempt c).mergeAll calls :=
  rfl

/-- What calls leave in a field follows from the values that they give to it. -/
theorem value_mergeAll (s : Style) (calls : List Settings) (f : Field) :
    (s.mergeAll calls).value f = (given f calls).foldl join (s.value f) := by
  -- For every style, as the calls after the first one start from what it leaves.
  induction calls generalizing s with
  | nil => rfl
  | cons c calls ih =>
    rw [mergeAll_cons, ih]
    by_cases h : Known c
    · rw [value_attempt h, given_cons_of_known h, List.foldl_append]
    · rw [attempt_of_not_known h, given_cons_of_not_known h]

/-! ## One field -/

/-- A truth value. -/
def IsTruth (v : Value) : Prop := ∃ on, v = .bool on

/-- A value that is no truth value takes the place of the one before it. -/
theorem join_of_not_isTruth {v : Value} (h : ¬ IsTruth v) (w : Value) : join v w = w := by
  cases v with
  | bool on => exact absurd ⟨on, rfl⟩ h
  | _ => rfl

/-- A truth value is on when it was, or when one of the values merged into it counts as given. -/
theorem foldl_join_bool (on : Bool) (vs : List Value) :
    vs.foldl join (.bool on) = .bool (on || vs.any Value.isTruthy) := by
  induction vs generalizing on with
  | nil => simp
  | cons v vs ih => rw [List.foldl_cons, join, ih, List.any_cons, Bool.or_assoc]

/-- Where no truth value is to be replaced, the last value stays. -/
theorem foldl_join_of_forall {v : Value} {vs : List Value}
    (h : ∀ w ∈ (v :: vs).dropLast, ¬ IsTruth w) : vs.foldl join v = vs.getLastD v := by
  induction vs generalizing v with
  | nil => rfl
  | cons w vs ih =>
    rw [List.dropLast_cons_cons, List.forall_mem_cons] at h
    rw [List.foldl_cons, join_of_not_isTruth h.1, ih h.2, List.getLastD_cons]

/-- From the first truth value on, what counts is whether one of the values counts as given. -/
theorem foldl_join_of_truth {v : Value} {vs before after : List Value} {on : Bool}
    (hvs : v :: vs = before ++ .bool on :: after) (h : ∀ w ∈ before, ¬ IsTruth w) :
    vs.foldl join v = .bool (on || after.any Value.isTruthy) := by
  induction before generalizing v vs with
  | nil =>
    obtain ⟨rfl, rfl⟩ := List.cons.inj hvs
    exact foldl_join_bool on vs
  | cons w before ih =>
    rw [List.cons_append] at hvs
    obtain ⟨rfl, rfl⟩ := List.cons.inj hvs
    rw [List.forall_mem_cons] at h
    -- The value that is there is no truth value, so the next one takes its place.
    obtain ⟨x, xs, hx⟩ := List.exists_cons_of_ne_nil
      (List.append_ne_nil_of_right_ne_nil before (List.cons_ne_nil (.bool on) after))
    rw [hx, List.foldl_cons, join_of_not_isTruth h.1]
    exact ih hx.symm h.2

/-! ## Flags -/

/-- The flags of a style are truth values. -/
def Flagged (s : Style) : Prop :=
  ∀ f : Field, f.isFlag → IsTruth (s.value f)

/-- The flags of a format are truth values, and its other fields are not. -/
theorem isTruth_style_iff (f : Format) (g : Field) : IsTruth (f.style.value g) ↔ g.isFlag := by
  obtain ⟨bold, italic, underline, monospace, color, size⟩ := f
  cases g <;> cases color <;> cases size <;> simp [IsTruth, Format.style, Field.isFlag]

/-- The formats of renderers have truth values for their flags. -/
theorem flagged_style (f : Format) : f.style.Flagged :=
  fun g hg => (isTruth_style_iff f g).2 hg

/-- A flag is on when it was, or when some value given to it counts as given. -/
theorem value_of_isFlag (hs : s.Flagged) (hf : f.isFlag) (calls : List Settings) :
    (s.mergeAll calls).value f =
      .bool ((s.value f).isTruthy || (given f calls).any Value.isTruthy) := by
  obtain ⟨on, hon⟩ := hs f hf
  rw [value_mergeAll, hon, foldl_join_bool, Value.isTruthy]

/-- Calls that set flags only give nothing to the other fields. -/
theorem given_of_onlyFlags (h : ∀ c ∈ calls, OnlyFlags c) (hf : ¬ f.isFlag) :
    given f calls = [] := by
  refine List.eq_nil_iff_forall_not_mem.2 fun v hv => ?_
  obtain ⟨c, hc, -, hfind⟩ := mem_given_iff.1 hv
  obtain ⟨e, he, -⟩ := Option.map_eq_some_iff.1 hfind
  obtain ⟨g, hg, hname⟩ := h c hc e (List.mem_of_find?_eq_some he)
  have hfe : e.1 = f.name := by simpa using List.find?_some he
  obtain rfl := Field.name_inj.1 (hname.trans hfe)
  exact hf hg

/-- Calls that only set flags come to the same in any order, and however often each is made. -/
theorem mergeAll_congr (hs : s.Flagged) {calls' : List Settings}
    (h : ∀ c ∈ calls ++ calls', OnlyFlags c) (hcalls : ∀ c, c ∈ calls ↔ c ∈ calls') :
    s.mergeAll calls = s.mergeAll calls' := by
  obtain ⟨h, h'⟩ := List.forall_mem_append.1 h
  refine Style.ext (funext fun f => ?_)
  by_cases hf : f.isFlag
  · have hgiven : (given f calls).any Value.isTruthy = (given f calls').any Value.isTruthy := by
      rw [Bool.eq_iff_iff, List.any_eq_true, List.any_eq_true]
      simp only [mem_given_iff, hcalls]
    rw [value_of_isFlag hs hf, value_of_isFlag hs hf, hgiven]
  · rw [value_mergeAll, value_mergeAll, given_of_onlyFlags h hf, given_of_onlyFlags h' hf]

/-! ## All fields -/

/-- What calls make of a style whose flags are truth values. A flag is on at the end if it was on or
    some call gave it a value that counts as given, and no call turns it off again. A colour or a size
    is the last value given, or what it was, where no truth value is to be replaced; if one is, the
    field becomes a flag with the first truth value. Calls that only set flags may change places and be
    made again. A call fails if it has a name of no field, and the calls after it find the style as it
    was. -/
theorem mergeAll_merges (s : Style) (hs : s.Flagged) (calls : List Settings) :
    (∀ f : Field, f.isFlag → (s.mergeAll calls).value f =
      .bool ((s.value f).isTruthy || (given f calls).any Value.isTruthy)) ∧
    (∀ f : Field, f.isFlag → ∀ before after, calls = before ++ after →
      ((s.mergeAll before).value f).isTruthy → ((s.mergeAll calls).value f).isTruthy) ∧
    (∀ f : Field, ¬ f.isFlag → (∀ v ∈ (s.value f :: given f calls).dropLast, ¬ IsTruth v) →
      (s.mergeAll calls).value f = (given f calls).getLastD (s.value f)) ∧
    (∀ f : Field, ¬ f.isFlag → ∀ before on after,
      s.value f :: given f calls = before ++ .bool on :: after → (∀ v ∈ before, ¬ IsTruth v) →
      (s.mergeAll calls).value f = .bool (on || after.any Value.isTruthy)) ∧
    (∀ calls', (∀ c ∈ calls ++ calls', OnlyFlags c) → (∀ c, c ∈ calls ↔ c ∈ calls') →
      s.mergeAll calls = s.mergeAll calls') ∧
    (∀ before c after, calls = before ++ c :: after →
      (Known c → (s.mergeAll before).merge c = .ok (s.mergeAll (before ++ [c]))) ∧
      (¬ Known c →
        (s.mergeAll before).merge c = .error (if Had c then .wrongKind else .noSuchAttribute) ∧
        s.mergeAll calls = s.mergeAll (before ++ after))) := by
  refine ⟨fun f hf => value_of_isFlag hs hf calls, fun f hf before after hcalls hon => ?_,
    fun f _ h => ?_, fun f _ before on after hsplit h => ?_, fun calls' h => mergeAll_congr hs h,
    fun before c after hcalls => ⟨fun hc => ?_, fun hc => ⟨merge_of_not_known hc _, ?_⟩⟩⟩
  · rw [value_of_isFlag hs hf, Value.isTruthy, Bool.or_eq_true] at hon ⊢
    rw [hcalls, given_append, List.any_append, Bool.or_eq_true]
    exact hon.imp_right .inl
  · rw [value_mergeAll, foldl_join_of_forall h]
  · rw [value_mergeAll, foldl_join_of_truth hsplit h]
  · rw [merge_eq_ok_attempt hc, mergeAll_append]
    rfl
  · rw [hcalls, mergeAll_append, mergeAll_append, mergeAll_cons, attempt_of_not_known hc]

/-- A size that was a truth value for a moment: the size given after it is lost. A call that fails
    does nothing to the flag that it names. -/
theorem mergeAll_merges_lost_size :
    let first : Settings := [("italic", .int 1), ("font_size", .bool false)]
    let second : Settings := [("bold", .bool true), ("strike", .bool true)]
    let third : Settings :=
      [("italic", .bool false), ("color", .text "0000FF"), ("font_size", .int 12)]
    let t := plain.mergeAll [first, second, third]
    plain.Flagged ∧ t.value .italic = .bool true ∧ t.value .bold = .bool false ∧
      t.value .color = .text "0000FF" ∧ t.value .fontSize = .bool true ∧
      (plain.mergeAll [first]).merge second = .error .noSuchAttribute := by
  intro first second third t
  obtain ⟨hflag, -, hlast, htruth, -, hcall⟩ :=
    mergeAll_merges plain (flagged_style .plain) [first, second, third]
  have hcolor : given .color [first, second, third] = [.text "0000FF"] := rfl
  have hsize : given .fontSize [first, second, third] = [.bool false, .int 12] := rfl
  refine ⟨flagged_style .plain, hflag .italic rfl, hflag .bold rfl, ?_, ?_, ?_⟩
  · refine (hlast .color (by decide) ?_).trans (by rw [hcolor]; rfl)
    rintro v hv ⟨on, rfl⟩
    rw [hcolor] at hv
    simp [plain, Format.plain, Format.style] at hv
  · refine htruth .fontSize (by decide) [.null] false [.int 12] (by rw [hsize]; rfl) ?_
    rintro v hv ⟨on, rfl⟩
    simp at hv
  · exact ((hcall [first] second [third] rfl).2 (by decide)).1

end Style

/-! ## Formats -/

namespace Format

namespace Change

/-- The field that a change is of. -/
def field : Change → Style.Field
  | bold _ => .bold
  | italic _ => .italic
  | underline _ => .underline
  | monospace _ => .monospace
  | color _ => .color
  | fontSize _ => .fontSize

/-- The value that a change gives to its field. -/
def value : Change → Value
  | bold on | italic on | underline on | monospace on => .bool on
  | color c => (c.map .text).getD .null
  | fontSize size => (size.map .number).getD .null

/-- A change as a setting. -/
def setting (c : Change) : String × Value :=
  (c.field.name, c.value)

end Change

/-- One change merges its value into its field. -/
theorem value_style_apply (f : Format) (c : Change) (g : Style.Field) :
    (f.apply c).style.value g =
      if c.field = g then Style.join (f.style.value g) c.value else f.style.value g := by
  obtain ⟨bold, italic, underline, monospace, color, size⟩ := f
  cases c <;> cases g <;> cases color <;> cases size <;>
    simp [apply, style, Change.field, Change.value, Style.join, Value.isTruthy]

theorem find?_setting (changes : List Change) (g : Style.Field) :
    Settings.find? (changes.map Change.setting) g.name =
      (changes.find? (·.field = g)).map Change.value := by
  simp only [Settings.find?, List.find?_map, Option.map_map]
  refine congrArg (Option.map _) (congrArg (List.find? · changes) (funext fun c => ?_))
  rw [Bool.eq_iff_iff]
  simp [Change.setting, Style.Field.name_inj]

/-- A merge of changes of different fields joins each to its field. -/
theorem value_style_merge (f : Format) {changes : List Change}
    (h : (changes.map Change.field).Nodup) (g : Style.Field) :
    (f.merge changes).style.value g =
      (((changes.find? (·.field = g)).map Change.value).map (Style.join (f.style.value g))).getD
        (f.style.value g) := by
  induction changes generalizing f with
  | nil => rfl
  | cons c changes ih =>
    rw [List.map_cons, List.nodup_cons] at h
    rw [merge, List.foldl_cons, ← merge, ih (f.apply c) h.2, value_style_apply]
    by_cases hc : c.field = g
    · have hrest : changes.find? (·.field = g) = none := by
        refine List.find?_eq_none.2 fun d hd => ?_
        have hne : d.field ≠ c.field := fun heq => h.1 (heq ▸ List.mem_map_of_mem hd)
        simpa [← hc] using hne
      simp [hc, hrest]
    · simp [hc]

/-- Changes of different fields, one after another, do what one call with all of them does. -/
theorem style_merge (f : Format) {changes : List Change} (h : (changes.map Change.field).Nodup) :
    f.style.merge (changes.map Change.setting) = .ok (f.merge changes).style := by
  have hknown : Style.Known (changes.map Change.setting) :=
    List.forall_mem_map.2 fun c _ => ⟨c.field, rfl⟩
  rw [Style.merge_of_known hknown]
  refine congrArg Except.ok (Style.ext (funext fun g => ?_))
  rw [value_style_merge f h, ← find?_setting]

end Format

end Manuscript.Layout
