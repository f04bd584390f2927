import Manuscript.Proofs.Options.Ladder

/-!
# Why options are refused

Options are refused with a fault in a value or in the kind of one (`Fault.IsOfValue`), but for two
cases: what is given for the ladder is no table, or has a key that is infinite (`Options.Escapes`).

* `Options.Refuses.escapes`, `Options.Escapes.refuses`: there are no other cases, and both are;
* `Options.not_refuses_markdown`: options of reading Markdown are never refused.
-/

namespace Manuscript

/-- The fault is in a value or in the kind of a value. -/
def Fault.IsOfValue (f : Fault) : Prop :=
  f = .wrongKind ∨ ∃ m, f = .badValue m

variable {name : String} {v : Value} {e : SettingError}

namespace SettingError

/-- A refusal with a message is a fault of a value. -/
theorem fault_of_message {m : String} (h : e.message? = some m) : e.fault = .badValue m := by
  simp only [fault, h]

theorem exists_fault_notPositive (name : String) (level : Option Value) (v : Value) :
    ∃ m, (notPositive name level v).fault = .badValue m := by
  have hm : ∃ m, (notPositive name level v).message? = some m := by
    simp only [message?]
    split
    · exact ⟨_, rfl⟩
    · exact ⟨_, rfl⟩
  obtain ⟨m, hm⟩ := hm
  exact ⟨m, fault_of_message hm⟩

/-- All refusals are of a value, but for a ladder that is no table and a level that is infinite. -/
theorem isOfValue_fault_iff :
    e.fault.IsOfValue ↔ (∀ name, e ≠ .noTable name) ∧ e ≠ .unboundedLevel false := by
  cases e with
  | notPositive name level v =>
    exact iff_of_true (.inr (exists_fault_notPositive name level v)) (by simp)
  | unboundedLevel isNan => cases isNan <;> simp [fault, message?, Fault.IsOfValue]
  | _ => simp [fault, message?, Fault.IsOfValue]

end SettingError

open SettingError (isOfValue_fault_iff)

/-! ## Rules -/

namespace Rule

/-- A size is refused as one that is not positive, or as no number. -/
theorem eq_of_size {level : Option Value} (h : size name level v = .error e) :
    e = .notPositive name level v ∨ e = .wrongKind name ∧ v.asNumber = .error .wrongKind := by
  cases v with
  | number n =>
    rw [size] at h
    split at h
    · exact .inl (Except.error.inj h).symm
    · cases h
  | bool b =>
    cases b
    · exact .inl (Except.error.inj h).symm
    · cases h
  | _ => exact .inr ⟨(Except.error.inj h).symm, rfl⟩

/-- A size is refused for its value. -/
theorem isOfValue_of_size {level : Option Value} (h : size name level v = .error e) :
    e.fault.IsOfValue := by
  obtain rfl | ⟨rfl, -⟩ := eq_of_size h <;> simp [isOfValue_fault_iff]

/-- A colour is refused for its value. -/
theorem isOfValue_of_color (h : color name v = .error e) : e.fault.IsOfValue := by
  have hshape : (∃ s, e = .badColor name s) ∨ e = .wrongKind name := by
    cases v with
    | text s =>
      rw [color] at h
      split at h
      · cases h
      · exact .inl ⟨s, (Except.error.inj h).symm⟩
    | _ => exact .inr (Except.error.inj h).symm
  obtain ⟨s, rfl⟩ | rfl := hshape <;> simp [isOfValue_fault_iff]

theorem isOfValue_of_optionalColor (h : optionalColor name v = .error e) : e.fault.IsOfValue := by
  unfold optionalColor at h
  split at h
  · cases h
  · exact isOfValue_of_color h

/-- A ladder is refused for a value in it, or because it is no table. -/
theorem isOfValue_or_of_ladder (h : ladder name v = .error e) :
    e.fault.IsOfValue ∨ e = .noTable name ∧ ∀ entries, v ≠ .map entries := by
  cases v with
  | map entries =>
    obtain ⟨entry, -, hsize⟩ := (forM_eq_error_iff.1 h).exists_mem
    exact .inl (isOfValue_of_size hsize)
  | _ => exact .inr ⟨(Except.error.inj h).symm, by simp⟩

/-- A ladder that is no table is refused for that. -/
theorem ladder_of_no_table (h : ∀ entries, v ≠ .map entries) :
    ladder name v = .error (.noTable name) := by
  cases v with
  | map entries => exact absurd rfl (h entries)
  | _ => rfl

end Rule

/-! ## Levels -/

/-- A finite number has a whole part. -/
theorem exists_truncate_finite (negative : Bool) (mantissa : Nat) (exponent : Int) :
    ∃ n, (Binary.finite negative mantissa exponent).truncate = some n := by
  simp only [Binary.truncate, Binary.ratio]
  split
  · exact ⟨_, rfl⟩
  · exact ⟨_, rfl⟩

namespace Ladder

/-- An infinite number is no level, and that is no fault of its value. -/
theorem readLevel_infinite (negative : Bool) :
    readLevel (.float (.infinite negative)) = .error (.unboundedLevel false) :=
  rfl

/-- The key of a ladder is refused with a fault in it, unless it is infinite. -/
theorem isOfValue_or_of_readLevel (h : readLevel v = .error e) :
    e.fault.IsOfValue ∨
      e = .unboundedLevel false ∧ ∃ negative, v = .float (.infinite negative) := by
  unfold readLevel at h
  split at h
  · cases h
  · next x =>
    split at h
    · cases h
    · next hx =>
      cases h
      cases x with
      | nan => exact .inl (by simp [isOfValue_fault_iff])
      | infinite negative => exact .inr ⟨rfl, negative, rfl⟩
      | finite negative mantissa exponent =>
        obtain ⟨n, hn⟩ := exists_truncate_finite negative mantissa exponent
        cases hx.symm.trans hn
  · cases h
  · next s =>
    cases hs : Text.readInteger s with
    | ok n =>
      rw [hs] at h
      cases h
    | error why =>
      rw [hs] at h
      cases h
      exact .inl (by simp [isOfValue_fault_iff])
  · next bs =>
    cases hbs : Text.readInteger (asciiText bs) with
    | ok n =>
      rw [hbs] at h
      cases h
    | error why =>
      rw [hbs] at h
      cases why with
      | malformed | tooLong =>
        cases h
        exact .inl (by simp [isOfValue_fault_iff])
  · cases h
    exact .inl (by simp [isOfValue_fault_iff])

end Ladder

/-! ## Options -/

namespace DocxOptions

/-- The options that are checked before the ladder. -/
def sizesBeforeLadder : List String :=
  ["default_font_size", "code_font_size", "heading_fallback_size"]

/-- The rules that come after that of the ladder. -/
theorem isOfValue_of_later_rules {given : String → Value}
    (h : FailsFirst (fun rule => rule.2 (given rule.1)) (rules.drop 4) e) : e.fault.IsOfValue := by
  obtain ⟨rule, hrule, he⟩ := h.exists_mem
  simp only [rules, List.drop_succ_cons, List.drop_zero, List.mem_cons, List.not_mem_nil,
    or_false] at hrule
  obtain rfl | rfl | rfl | rfl := hrule
  · exact Rule.isOfValue_of_size he
  · exact Rule.isOfValue_of_size he
  · exact Rule.isOfValue_of_color he
  · exact Rule.isOfValue_of_optionalColor he

/-- The rules refuse a value, or find that the ladder is no table after all sizes before it have
    passed. -/
theorem isOfValue_or_of_rules {given : String → Value}
    (h : FailsFirst (fun rule => rule.2 (given rule.1)) rules e) :
    e.fault.IsOfValue ∨ e = .noTable ladderName ∧ (∀ entries, given ladderName ≠ .map entries) ∧
      ∀ name ∈ sizesBeforeLadder, (given name).isSize = true := by
  obtain h | ⟨⟨_, hfont⟩, h⟩ := failsFirst_cons.1 h
  · exact .inl (Rule.isOfValue_of_size h)
  obtain h | ⟨⟨_, hcode⟩, h⟩ := failsFirst_cons.1 h
  · exact .inl (Rule.isOfValue_of_size h)
  obtain h | ⟨⟨_, hheading⟩, h⟩ := failsFirst_cons.1 h
  · exact .inl (Rule.isOfValue_of_size h)
  obtain h | ⟨-, h⟩ := failsFirst_cons.1 h
  · refine (Rule.isOfValue_or_of_ladder h).imp_right fun ⟨he, hmap⟩ => ⟨he, hmap, ?_⟩
    simp only [sizesBeforeLadder, List.forall_mem_cons]
    exact ⟨Rule.size_eq_ok_iff.1 hfont, Rule.size_eq_ok_iff.1 hcode,
      Rule.size_eq_ok_iff.1 hheading, by simp⟩
  · exact .inl (isOfValue_of_later_rules h)

/-- If the sizes before it pass, the rules find that a ladder is no table. -/
theorem rules_of_no_ladder {given : String → Value}
    (hsizes : ∀ name ∈ sizesBeforeLadder, (given name).isSize = true)
    (hladder : ∀ entries, given ladderName ≠ .map entries) :
    FailsFirst (fun rule => rule.2 (given rule.1)) rules (.noTable ladderName) := by
  refine ⟨rules.take 3, (ladderName, .ladder ladderName), rules.drop 4, rfl, ?_,
    Rule.ladder_of_no_table hladder⟩
  simp only [sizesBeforeLadder, List.forall_mem_cons] at hsizes
  obtain ⟨hfont, hcode, hheading, -⟩ := hsizes
  simp only [rules, List.take_succ_cons, List.take_zero, List.forall_mem_cons]
  exact ⟨⟨_, Rule.size_eq_ok_iff.2 hfont⟩, ⟨_, Rule.size_eq_ok_iff.2 hcode⟩,
    ⟨_, Rule.size_eq_ok_iff.2 hheading⟩, by simp⟩

end DocxOptions

namespace Options

variable {new : Settings} {f : Fault}

/-- Options with new settings are refused with a fault that is not in a value: what is given for the
    ladder is no table, or has a key that is infinite. -/
inductive Escapes (o : Options .docx) (new : Settings) : Fault → Prop
  | noTable
    (hsizes : ∀ name ∈ DocxOptions.sizesBeforeLadder, (o.given new name).isSize = true)
    (hladder : ∀ entries, o.given new DocxOptions.ladderName ≠ .map entries) :
    Escapes o new .noSuchAttribute
  | infinite {before after : List (Value × Value)} {negative : Bool} {size : Value}
    (hrules : ∀ rule ∈ OptionSet.docx.rules, rule.2 (o.given new rule.1) = .ok ())
    (hladder : o.given new DocxOptions.ladderName =
      .map (before ++ (.float (.infinite negative), size) :: after))
    (hbefore : ∀ e ∈ before, ∃ n, Ladder.readLevel e.1 = .ok n) : Escapes o new .overflow

theorem not_refuses_markdown {o : Options .markdown} : ¬ o.Refuses new e := by
  intro h
  cases h with
  | rule h => exact failsFirst_nil h
  | ladder hset => cases hset

variable {o : Options .docx}

/-- A refusal that is no fault of a value escapes. -/
theorem Refuses.escapes (h : o.Refuses new e) (hf : ¬ e.fault.IsOfValue) :
    o.Escapes new e.fault := by
  cases h with
  | rule h =>
    obtain ⟨rfl, hladder, hsizes⟩ := (DocxOptions.isOfValue_or_of_rules h).resolve_left hf
    exact .noTable hsizes hladder
  | ladder _ hrules h =>
    obtain ⟨entries, hladder, before, ⟨key, size⟩, after, rfl, hbefore, hkey⟩ :=
      Ladder.read_eq_error_iff.1 h
    obtain ⟨rfl, negative, rfl⟩ := (Ladder.isOfValue_or_of_readLevel hkey).resolve_left hf
    exact .infinite hrules hladder hbefore

/-- What escapes is a refusal that is no fault of a value. -/
theorem Escapes.refuses (h : o.Escapes new f) :
    ∃ e, o.Refuses new e ∧ e.fault = f ∧ ¬ f.IsOfValue := by
  cases h with
  | noTable hsizes hladder =>
    exact ⟨_, .rule (DocxOptions.rules_of_no_ladder hsizes hladder), rfl, by simp [Fault.IsOfValue]⟩
  | infinite hrules hladder hbefore =>
    refine ⟨.unboundedLevel false, .ladder rfl hrules ?_, rfl, by simp [Fault.IsOfValue]⟩
    exact Ladder.read_eq_error_iff.2
      ⟨_, hladder, _, _, _, rfl, hbefore, Ladder.readLevel_infinite _⟩

end Options

end Manuscript
