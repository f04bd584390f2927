import Manuscript.Proofs.Config.Validity

/-!
# Sizes of headings

Options that are given a ladder have whole numbers for its keys from then on, and the size of a
level is that of the last key that stands for it (`Options.HasLadder`). Setting other options changes
nothing about it, however often it is done, as a ladder that has been read is read as it is. Only
the size that holds for levels without a key may be set anew.

A ladder is refused as its first size that is not positive or, if there is none, as its first key
that stands for no level (`Options.GivesLadder.update_eq_error_iff`).

* `Ladder.sizeAt_of_readsTo`: the size of a level in the ladder that is kept;
* `Options.value_updateAll`, `Options.exists_updateAll_iff_fits`: what updates leave as it is, and
  when they are taken, however many there are;
* `Options.update_ladder`: all of this about the options that are made of a ladder.
-/

namespace Manuscript

/-! ## Ladders -/

namespace Ladder

variable {given kept : List (Value × Value)}

/-- No two keys of a ladder are equal, as in any mapping. Two keys may still stand for one level. -/
def DistinctKeys (entries : List (Value × Value)) : Prop :=
  entries.Pairwise fun e e' => e.1.same e'.1 = false

instance (entries : List (Value × Value)) : Decidable (DistinctKeys entries) :=
  inferInstanceAs (Decidable (List.Pairwise _ _))

theorem bool_or_int_of_isLevel {v : Value} (h : isLevel v = true) :
    (∃ b, v = .bool b) ∨ ∃ n, v = .int n := by
  cases v with
  | bool b => exact .inl ⟨b, rfl⟩
  | number n =>
    cases n with
    | whole n => exact .inr ⟨n, rfl⟩
    | float x => cases h
  | _ => cases h

/-- Keys that are whole numbers are equal if and only if they stand for one level. -/
theorem same_iff_of_isLevel {v w : Value} (hv : isLevel v = true) (hw : isLevel w = true) :
    v.same w = true ↔ (readLevel v).toOption = (readLevel w).toOption := by
  rcases bool_or_int_of_isLevel hv with ⟨b, rfl⟩ | ⟨n, rfl⟩ <;>
    rcases bool_or_int_of_isLevel hw with ⟨c, rfl⟩ | ⟨m, rfl⟩
  · cases b <;> cases c <;> decide
  · simp [Value.same, Value.sameNumber, readLevel, Except.toOption]
  · simp only [Value.same, Value.sameNumber, readLevel, Except.toOption, beq_iff_eq,
      Option.some.injEq]
    exact eq_comm
  · simp [Value.same, Value.sameNumber, readLevel, Except.toOption]

theorem lastSize_eq_none_iff {n : Int} :
    lastSize given n = none ↔ ∀ e ∈ given, (readLevel e.1).toOption ≠ some n := by
  simp [lastSize]

theorem exists_of_lastSize {n : Int} {size : Value} (h : lastSize given n = some size) :
    ∃ e ∈ given, e.2 = size := by
  obtain ⟨e, he, rfl⟩ := Option.map_eq_some_iff.1 h
  exact ⟨e, (List.mem_filter.1 (List.mem_of_getLast? he)).1, rfl⟩

theorem sizeAt_of_isLevel (hlevels : ∀ e ∈ given, isLevel e.1 = true) (hkeys : DistinctKeys given)
    (n : Int) : sizeAt given n = lastSize given n := by
  induction given with
  | nil => rfl
  | cons e rest ih =>
    obtain ⟨he, hrest⟩ := List.forall_mem_cons.1 hlevels
    obtain ⟨hfresh, hkeys⟩ := List.pairwise_cons.1 hkeys
    have hsame : e.1.same (.int n) = true ↔ (readLevel e.1).toOption = some n :=
      same_iff_of_isLevel he (w := .int n) rfl
    rw [lastSize_cons, ← ih hrest hkeys, sizeAt, List.find?_cons]
    by_cases hn : (readLevel e.1).toOption = some n
    · -- No other key stands for the level, as it would be equal to this one.
      have hnone : lastSize rest n = none := by
        refine lastSize_eq_none_iff.2 fun e' he' hn' => ?_
        have hequal := (same_iff_of_isLevel he (hrest e' he')).2 (hn.trans hn'.symm)
        rw [hfresh e' he'] at hequal
        cases hequal
      rw [hsame.2 hn, ih hrest hkeys, hnone, if_pos hn]
      rfl
    · rw [Bool.eq_false_iff.2 (mt hsame.1 hn), if_neg hn, Option.or_none]
      rfl

/-- The size of a level in the ladder that is kept is that of the last key for it in the ladder that
    is given. -/
theorem sizeAt_of_readsTo (h : ReadsTo given kept) (hkeys : DistinctKeys given) (n : Int) :
    sizeAt kept n = lastSize given n := by
  cases h with
  | asGiven hlevels => exact sizeAt_of_isLevel hlevels hkeys n
  | byLevel _ _ hsize => exact hsize n

theorem isLevel_of_readsTo (h : ReadsTo given kept) : ∀ e ∈ kept, isLevel e.1 = true := by
  cases h with
  | asGiven hlevels => exact hlevels
  | byLevel _ hkeys _ =>
    intro e he
    obtain ⟨n, hn⟩ := hkeys e he
    rw [hn]
    rfl

end Ladder

/-! ## Refusing a ladder -/

open DocxOptions (ladderName)

theorem Value.nonpos_of_isSize {v : Value} {n : Number} (h : v.isSize = true)
    (hv : v.asNumber = .ok n) : n.nonpos = false := by
  cases v with
  | number m =>
    cases hv
    simpa [isSize] using h
  | bool b =>
    cases hv
    obtain rfl : b = true := h
    rfl
  | _ => cases hv

/-- A number that is no size is refused as a bad value. -/
theorem Rule.exists_badValue_of_size {name : String} {level : Option Value} {v : Value} {n : Number}
    (hv : v.asNumber = .ok n) {e : SettingError} (h : size name level v = .error e) :
    ∃ m, e.fault = .badValue m := by
  obtain rfl | ⟨-, hkind⟩ := eq_of_size h
  · exact SettingError.exists_fault_notPositive name level v
  · cases hv.symm.trans hkind

/-- A whole number is not refused as a key, and a text is so as a bad value. -/
theorem Ladder.exists_badValue_of_readLevel {v : Value} (hv : isLevel v = true ∨ ∃ s, v = .text s)
    {e : SettingError} (h : readLevel v = .error e) : ∃ m, e.fault = .badValue m := by
  rcases hv with hv | ⟨s, rfl⟩
  · obtain ⟨n, hn⟩ := readLevel_of_isLevel hv
    cases hn.symm.trans h
  · rw [readLevel] at h
    cases hs : Text.readInteger s with
    | ok n =>
      rw [hs] at h
      cases h
    | error why =>
      rw [hs] at h
      cases h
      exact ⟨why.message, SettingError.fault_of_message rfl⟩

namespace Options

variable {o o' o'' : Options .docx} {new : Settings} {given : List (Value × Value)}

/-- New settings that give a ladder, a mapping, and can be refused for nothing else. -/
structure GivesLadder (o : Options .docx) (new : Settings) (given : List (Value × Value)) :
    Prop where
  names : ∀ name ∈ new.names, name ∈ OptionSet.docx.names
  ladder : new.find? ladderName = some (.map given)
  keys : Ladder.DistinctKeys given
  others : ∀ rule ∈ DocxOptions.rules, rule.1 ≠ ladderName →
    rule.2 (o.given new rule.1) = .ok ()

/-- A ladder that is given alone. -/
theorem givesLadder_singleton (o : Options .docx) (hkeys : Ladder.DistinctKeys given) :
    o.GivesLadder [(ladderName, .map given)] given := by
  refine ⟨?_, by simp [Settings.find?], hkeys, fun rule hrule hne => ?_⟩
  · have hname : ladderName ∈ OptionSet.docx.names := by decide
    exact List.forall_mem_singleton.2 hname
  · rw [given_of_not_mem (by simpa [Settings.names] using hne)]
    exact o.rules_value rule hrule

namespace GivesLadder

theorem given_ladder (h : o.GivesLadder new given) : o.given new ladderName = .map given := by
  rw [Options.given, h.ladder, Option.getD_some]

/-- The rules are kept if and only if all sizes are positive. -/
theorem rules_iff_sizes (h : o.GivesLadder new given) :
    (∀ rule ∈ DocxOptions.rules, rule.2 (o.given new rule.1) = .ok ()) ↔
      ∀ e ∈ given, e.2.isSize = true := by
  constructor
  · intro hrules
    have hladder : Rule.ladder ladderName (o.given new ladderName) = .ok () :=
      hrules _ OptionSet.ladder_mem_rules
    rw [h.given_ladder] at hladder
    obtain ⟨_, ⟨⟩, hsizes⟩ := Rule.ladder_eq_ok_iff.1 hladder
    exact hsizes
  · intro hsizes rule hrule
    by_cases hname : rule.1 = ladderName
    · rw [DocxOptions.rule_ladder rule hrule hname, hname, h.given_ladder]
      exact Rule.ladder_eq_ok_iff.2 ⟨given, rfl, hsizes⟩
    · exact h.others rule hrule hname

/-- What breaks a rule is a size of the ladder. -/
theorem failsFirst_rules_iff (h : o.GivesLadder new given) {e : SettingError} :
    FailsFirst (fun rule => rule.2 (o.given new rule.1)) DocxOptions.rules e ↔
      FailsFirst (fun entry => Rule.size ladderName (some entry.1) entry.2) given e := by
  have hfails {e : SettingError}
      (he : FailsFirst (fun rule => rule.2 (o.given new rule.1)) DocxOptions.rules e) :
      Rule.ladder ladderName (.map given) = .error e := by
    obtain ⟨rule, hrule, he⟩ := he.exists_mem
    have hname : rule.1 = ladderName := by
      by_contra hne
      cases (h.others rule hrule hne).symm.trans he
    rwa [DocxOptions.rule_ladder rule hrule hname, hname, h.given_ladder] at he
  have hladder : Rule.ladder ladderName (.map given) = .error e ↔
      FailsFirst (fun entry => Rule.size ladderName (some entry.1) entry.2) given e :=
    forM_eq_error_iff
  rw [← hladder]
  refine ⟨hfails, fun he => ?_⟩
  -- As the ladder breaks its rule, some rule is the first that is broken, and it is that one.
  obtain hall | ⟨e', he'⟩ :=
    forall_ok_or_failsFirst (fun rule => rule.2 (o.given new rule.1)) DocxOptions.rules
  · obtain ⟨_, hok⟩ : ∃ r, Rule.ladder ladderName (o.given new ladderName) = .ok r :=
      hall _ OptionSet.ladder_mem_rules
    rw [h.given_ladder] at hok
    cases hok.symm.trans he
  · cases he.symm.trans (hfails he')
    exact he'

/-- A ladder is refused as its first size that is not positive, or as its first key that stands for
    no level. -/
theorem update_eq_error_iff (h : o.GivesLadder new given) {e : SettingError} :
    o.update new = .error e ↔
      FailsFirst (fun entry => Rule.size ladderName (some entry.1) entry.2) given e ∨
        (∀ entry ∈ given, entry.2.isSize = true) ∧
          FailsFirst (fun entry => Ladder.readLevel entry.1) given e := by
  rw [Options.update_eq_error_iff h.names, ← h.failsFirst_rules_iff]
  constructor
  · intro hrefuses
    cases hrefuses with
    | rule hrule => exact .inl hrule
    | ladder _ hrules hread =>
      rw [h.given_ladder] at hread
      obtain ⟨_, ⟨⟩, hlevel⟩ := Ladder.read_eq_error_iff.1 hread
      exact .inr ⟨h.rules_iff_sizes.1 hrules, hlevel⟩
  · rintro (hrule | ⟨hsizes, hlevel⟩)
    · exact .rule hrule
    · refine .ladder rfl (h.rules_iff_sizes.2 hsizes) ?_
      exact Ladder.read_eq_error_iff.2 ⟨given, h.given_ladder, hlevel⟩

end GivesLadder

/-! ## Taking a ladder -/

/-- Options have read a ladder: its keys are whole numbers, the size of a level is that of the last
    key for it, and it is positive. Without such a key it is the size for levels that have none. -/
structure HasLadder (o : Options .docx) (given : List (Value × Value)) : Prop where
  levels : ∃ kept, o.value ladderName = .map kept ∧ ∀ e ∈ kept, Ladder.isLevel e.1 = true
  sizes : ∀ n, o.headingSize n =
    (Ladder.lastSize given n).getD (o.value "heading_fallback_size")
  positive : o.value "heading_fallback_size" ≠ .float .nan → ∀ n, (o.headingSize n).IsPositive

theorem isSize_fallback (o : Options .docx) :
    (o.value "heading_fallback_size").isSize = true := by
  have hrule : ("heading_fallback_size", Rule.size "heading_fallback_size") ∈
      DocxOptions.rules := by
    simp [DocxOptions.rules]
  exact Rule.size_eq_ok_iff.1 (o.rules_value _ hrule)

theorem hasLadder_of_readsTo {kept : List (Value × Value)} (hkept : o.value ladderName = .map kept)
    (hreads : Ladder.ReadsTo given kept) (hkeys : Ladder.DistinctKeys given)
    (hsizes : ∀ e ∈ given, e.2.IsPositive) : o.HasLadder given := by
  have hsize (n : Int) : o.headingSize n =
      (Ladder.lastSize given n).getD (o.value "heading_fallback_size") := by
    rw [headingSize, hkept, ← Ladder.sizeAt_of_readsTo hreads hkeys]
  refine ⟨⟨kept, hkept, Ladder.isLevel_of_readsTo hreads⟩, hsize, fun hnan n => ?_⟩
  rw [hsize]
  cases hlast : Ladder.lastSize given n with
  | none => exact (Value.isSize_iff.1 o.isSize_fallback).resolve_right hnan
  | some size =>
    obtain ⟨e, he, rfl⟩ := Ladder.exists_of_lastSize hlast
    exact hsizes e he

namespace GivesLadder

/-- A ladder of positive sizes is taken if each of its keys stands for a level. -/
theorem exists_update (h : o.GivesLadder new given) (hsizes : ∀ e ∈ given, e.2.isSize = true)
    (hlevels : ∀ e ∈ given, ∃ n, Ladder.readLevel e.1 = .ok n) : ∃ o', o.update new = .ok o' := by
  cases hup : o.update new with
  | ok o' => exact ⟨o', rfl⟩
  | error why =>
    rcases h.update_eq_error_iff.1 hup with hsize | ⟨-, hlevel⟩
    · obtain ⟨e, he, hfails⟩ := hsize.exists_mem
      cases (Rule.size_eq_ok_iff.2 (hsizes e he)).symm.trans hfails
    · obtain ⟨e, he, hfails⟩ := hlevel.exists_mem
      obtain ⟨n, hn⟩ := hlevels e he
      cases hn.symm.trans hfails

theorem readsTo (h : o.GivesLadder new given) (hup : o.update new = .ok o') :
    ∃ kept, o'.value ladderName = .map kept ∧ Ladder.ReadsTo given kept := by
  have hread := (update_eq_ok_iff.1 hup).kept ladderName (by decide)
  rw [h.given_ladder] at hread
  exact Ladder.readsTo_of_read hread

/-- A ladder is refused if one of its sizes is at most zero or one of its keys stands for no
    level. -/
theorem exists_error (h : o.GivesLadder new given) {e : Value × Value} (he : e ∈ given)
    (hbad : (∃ n, e.2.asNumber = .ok n ∧ n.nonpos = true) ∨ ∀ n, Ladder.readLevel e.1 ≠ .ok n) :
    ∃ why, o.update new = .error why := by
  cases hup : o.update new with
  | error why => exact ⟨why, rfl⟩
  | ok o' =>
    obtain ⟨-, hrules, hkept⟩ := update_eq_ok_iff.1 hup
    rcases hbad with ⟨n, hn, hnonpos⟩ | hlevel
    · rw [Value.nonpos_of_isSize (h.rules_iff_sizes.1 hrules e he) hn] at hnonpos
      cases hnonpos
    · have hread : Ladder.read (o.given new ladderName) = .ok (o'.value ladderName) :=
        hkept ladderName (by decide)
      rw [h.given_ladder] at hread
      obtain ⟨n, hn⟩ := Ladder.exists_read_iff.1 ⟨_, hread⟩ given rfl e he
      exact absurd hn (hlevel n)

end GivesLadder

/-! ## Updating other options -/

section

variable {set : OptionSet} {o o' : Options set} {later : List Settings}

/-- Options that are updated again and again. -/
def updateAll (o : Options set) (later : List Settings) : Except SettingError (Options set) :=
  later.foldlM update o

theorem updateAll_cons_eq_ok_iff {new : Settings} :
    o.updateAll (new :: later) = .ok o' ↔
      ∃ next, o.update new = .ok next ∧ next.updateAll later = .ok o' := by
  rw [updateAll, List.foldlM_cons]
  cases o.update new with
  | error e => exact iff_of_false nofun nofun
  | ok next => simp [bind, Except.bind, updateAll]

/-- An option that no update sets stays as it is. -/
theorem value_updateAll (h : o.updateAll later = .ok o') {name : String} (hname : name ∈ set.names)
    (hlater : ∀ new ∈ later, name ∉ new.names) : o'.value name = o.value name := by
  induction later generalizing o with
  | nil =>
    cases h
    rfl
  | cons new later ih =>
    obtain ⟨next, hnext, h⟩ := updateAll_cons_eq_ok_iff.1 h
    obtain ⟨hnew, hlater⟩ := List.forall_mem_cons.1 hlater
    rw [ih h hlater]
    exact (update_eq_ok_iff.1 hnext).value_eq hname (Settings.find?_of_not_mem hnew)

/-- Updates of other options than the ladder are all taken if each of them fits. -/
theorem exists_updateAll_iff_fits
    (hladder : ∀ new ∈ later, set = .docx → ladderName ∉ new.names) :
    (∃ o', o.updateAll later = .ok o') ↔ ∀ new ∈ later, Fits set new := by
  induction later generalizing o with
  | nil => exact iff_of_true ⟨o, rfl⟩ (List.forall_mem_nil _)
  | cons new later ih =>
    obtain ⟨hnew, hladder⟩ := List.forall_mem_cons.1 hladder
    rw [List.forall_mem_cons, ← o.exists_update_iff_fits hnew]
    constructor
    · rintro ⟨o', h⟩
      obtain ⟨next, hnext, h⟩ := updateAll_cons_eq_ok_iff.1 h
      exact ⟨⟨next, hnext⟩, (ih hladder).1 ⟨o', h⟩⟩
    · rintro ⟨⟨next, hnext⟩, hlater⟩
      obtain ⟨o', h⟩ := (ih (o := next) hladder).2 hlater
      exact ⟨o', updateAll_cons_eq_ok_iff.2 ⟨next, hnext, h⟩⟩

end

/-! ## The ladder for good -/

/-- What options make of a ladder. If its sizes are positive and its keys stand for levels, it is
    taken and read. Updates of other options are then taken if they fit, and however many there are,
    the ladder stays as it has been read; so do all sizes, unless the size for levels without a key
    is set. A ladder with a size that is at most zero, or with a key that stands for no level, is
    refused, and where its sizes are numbers and its keys are whole numbers or texts, it is so as a
    bad value. -/
theorem update_ladder (h : o.GivesLadder new given) :
    ((∀ e ∈ given, e.2.IsPositive ∧ ∃ n, Ladder.readLevel e.1 = .ok n) →
      ∃ o', o.update new = .ok o' ∧ o'.HasLadder given ∧
        o'.value "heading_fallback_size" = o.given new "heading_fallback_size" ∧
        ∀ later : List Settings, (∀ s ∈ later, ladderName ∉ s.names) →
          ((∃ o'', o'.updateAll later = .ok o'') ↔ ∀ s ∈ later, Fits .docx s) ∧
          ∀ o'', o'.updateAll later = .ok o'' →
            o''.HasLadder given ∧ o''.value ladderName = o'.value ladderName ∧
            ((∀ s ∈ later, "heading_fallback_size" ∉ s.names) →
              ∀ n, o''.headingSize n = o'.headingSize n)) ∧
    ((∃ e ∈ given, (∃ n, e.2.asNumber = .ok n ∧ n.nonpos = true) ∨
        ∀ n, Ladder.readLevel e.1 ≠ .ok n) →
      ∃ why, o.update new = .error why ∧
        ((∀ e ∈ given, (∃ n, e.2.asNumber = .ok n) ∧
            (Ladder.isLevel e.1 = true ∨ ∃ s, e.1 = .text s)) →
          ∃ m, why.fault = .badValue m)) := by
  refine ⟨fun hgiven => ?_, fun ⟨e, he, hbad⟩ => ?_⟩
  · have hsizes : ∀ e ∈ given, e.2.IsPositive := fun e he => (hgiven e he).1
    obtain ⟨o', hup⟩ := h.exists_update (fun e he => Value.isSize_iff.2 (.inl (hsizes e he)))
      fun e he => (hgiven e he).2
    obtain ⟨kept, hkept, hreads⟩ := h.readsTo hup
    have hfallback : "heading_fallback_size" ∈ OptionSet.docx.names := by decide
    have hladder : ladderName ∈ OptionSet.docx.names := by decide
    refine ⟨o', hup, hasLadder_of_readsTo hkept hreads h.keys hsizes,
      (update_eq_ok_iff.1 hup).value_eq_given hfallback (by decide), fun later hlater =>
      ⟨exists_updateAll_iff_fits fun s hs _ => hlater s hs, fun o'' ho'' => ?_⟩⟩
    have hsame : o''.value ladderName = o'.value ladderName := value_updateAll ho'' hladder hlater
    refine ⟨hasLadder_of_readsTo (hsame.trans hkept) hreads h.keys hsizes, hsame, ?_⟩
    intro hunset n
    rw [headingSize, headingSize, hsame, value_updateAll ho'' hfallback hunset]
  · obtain ⟨why, hwhy⟩ := h.exists_error he hbad
    refine ⟨why, hwhy, fun hkinds => ?_⟩
    -- A size is refused before any level is read.
    rcases h.update_eq_error_iff.1 hwhy with hsize | ⟨-, hlevel⟩
    · obtain ⟨e, he, hfails⟩ := hsize.exists_mem
      obtain ⟨n, hn⟩ := (hkinds e he).1
      exact Rule.exists_badValue_of_size hn hfails
    · obtain ⟨e, he, hfails⟩ := hlevel.exists_mem
      exact Ladder.exists_badValue_of_readLevel (hkinds e he).2 hfails

/-- Keys that are read as one level: the last of them gives its size, and other options do not
    change it. A text that is no whole number is refused. -/
theorem update_ladder_merged_keys :
    let given := [(.text "1", .int 30), (.text " 2", .int 20), (.text "01", .int 28)]
    let refused := [(.text "1", .int 30), (.text "x", .int 20)]
    let o := start .docx
    o.GivesLadder [(ladderName, .map given)] given ∧
      o.GivesLadder [(ladderName, .map refused)] refused ∧
      (∃ o' o'', o.update [(ladderName, .map given)] = .ok o' ∧
        o'.updateAll [[("code_font", .text "Mono")], [("table_width", .int 5)]] = .ok o'' ∧
        o'.headingSize 1 = .int 28 ∧ o''.headingSize 1 = .int 28 ∧ o''.headingSize 9 = .int 14) ∧
      ∃ why m, o.update [(ladderName, .map refused)] = .error why ∧ why.fault = .badValue m := by
  intro given refused o
  have hgiven : o.GivesLadder [(ladderName, .map given)] given :=
    o.givesLadder_singleton (by decide)
  have hrefused : o.GivesLadder [(ladderName, .map refused)] refused :=
    o.givesLadder_singleton (by decide)
  refine ⟨hgiven, hrefused, ?_, ?_⟩
  · have hpositive (n : Int) (hn : 0 < n) : (Value.int n).IsPositive := ⟨_, rfl, hn⟩
    obtain ⟨o', hup, hladder, hfallback, hlater⟩ := (update_ladder hgiven).1 (by
      simp only [given, List.forall_mem_cons]
      exact ⟨⟨hpositive 30 (by decide), 1, rfl⟩, ⟨hpositive 20 (by decide), 2, rfl⟩,
        ⟨hpositive 28 (by decide), 1, rfl⟩, List.forall_mem_nil _⟩)
    obtain ⟨hfits, hkeeps⟩ := hlater [[("code_font", .text "Mono")], [("table_width", .int 5)]]
      (by decide)
    have hcode : Fits .docx [("code_font", .text "Mono")] :=
      (o.exists_update_iff_fits fun _ => by decide).1 ⟨_, rfl⟩
    have hwidth : Fits .docx [("table_width", .int 5)] :=
      (o.exists_update_iff_fits fun _ => by decide).1 ⟨_, rfl⟩
    obtain ⟨o'', hupAll⟩ := hfits.2 (by simp [hcode, hwidth])
    obtain ⟨-, -, hsame⟩ := hkeeps o'' hupAll
    have hsizes := hsame (by decide)
    refine ⟨o', o'', hup, hupAll, hladder.sizes 1, (hsizes 1).trans (hladder.sizes 1), ?_⟩
    rw [hsizes 9, hladder.sizes 9, hfallback]
    rfl
  · have hx : ∀ n, Ladder.readLevel (.text "x") ≠ .ok n := by
      intro n h
      cases h
    obtain ⟨why, hwhy, hbad⟩ :=
      (update_ladder hrefused).2 ⟨(.text "x", .int 20), by simp [refused], .inr hx⟩
    obtain ⟨m, hm⟩ := hbad (by
      simp only [refused, List.forall_mem_cons]
      exact ⟨⟨⟨_, rfl⟩, .inr ⟨_, rfl⟩⟩, ⟨⟨_, rfl⟩, .inr ⟨_, rfl⟩⟩, List.forall_mem_nil _⟩)
    exact ⟨why, m, hwhy, hm⟩

/-- A key that is nothing is not refused as a bad value, but as one of the wrong kind. And a level
    without a key changes its size with the option that holds it. -/
theorem update_null_level_and_fallback :
    (∃ why, (start .docx).update [(ladderName, .map [(.null, .int 24)])] = .error why ∧
      ∀ m, why.fault ≠ .badValue m) ∧
    ∃ o o', (start .docx).update [(ladderName, .map [(.text "1", .int 30)])] = .ok o ∧
      o.update [("heading_fallback_size", .int 20)] = .ok o' ∧
      o.headingSize 9 = .int 14 ∧ o'.headingSize 9 = .int 20 := by
  constructor
  · exact ⟨.wrongKind ladderName, rfl, nofun⟩
  · exact ⟨_, _, rfl, rfl, rfl, rfl⟩

end Options

end Manuscript
