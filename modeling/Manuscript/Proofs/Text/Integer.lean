import Manuscript.Error.Fault
import Manuscript.Text.Integer
import Manuscript.Text.Numeral

/-!
# Reading whole numbers

A text of digits, perhaps after a dash, is a whole number unless it has too many of them
(`readInteger_of_isDigit`). So a reader that has taken the digits of a number itself is refused the
number for that reason only. Such readers are bounded (`Bounded`): whatever they end with, it is a
value, a text that is malformed, or a number that is too long.
-/

namespace Manuscript.Text

/-- A fault says that a text breaks the rules of its format. -/
def Malformed (f : Fault) : Prop :=
  ∃ why, f = .malformed why

/-- A fault says that a whole number has too many digits. -/
def TooLong (f : Fault) : Prop :=
  ∃ n, maxDigits < n ∧ f = .badValue (IntegerError.tooLong n).message

theorem toNat_of_isDigit {c : Char} (h : c.isDigit = true) : 48 ≤ c.toNat ∧ c.toNat ≤ 57 :=
  Char.isDigit_iff_toNat.1 h

/-- A digit has a value. -/
theorem digitValue?_of_isDigit {c : Char} (h : c.isDigit = true) : ∃ d, digitValue? c = some d := by
  have hascii : c.toNat < 0x80 := by
    have := toNat_of_isDigit h
    omega
  exact ⟨c.toNat - 0x30, by rw [digitValue?, if_pos hascii, if_pos h]⟩

/-- A digit is no blank. -/
theorem isNumberBlank_of_isDigit {c : Char} (h : c.isDigit = true) : isNumberBlank c = false := by
  have hnot : isBlank c = false := by
    have := toNat_of_isDigit h
    simp only [isBlank, Bool.or_eq_false_iff, Bool.and_eq_false_iff, decide_eq_false_iff_not,
      beq_eq_false_iff_ne]
    omega
  rw [isNumberBlank, hnot, Bool.false_and]

theorem stripBy_eq_self {p : Char → Bool} {cs : List Char} (h : ∀ c ∈ cs, p c = false) :
    stripBy p cs = cs := by
  have hdrop {l : List Char} (hl : ∀ c ∈ l, p c = false) : l.dropWhile p = l := by
    cases l with
    | nil => rfl
    | cons c l => exact List.dropWhile_cons_of_neg (by simp [hl c List.mem_cons_self])
  rw [stripBy, dropEnd, hdrop h, hdrop fun c hc => h c (List.mem_reverse.1 hc), List.reverse_reverse]

/-- Digits are taken as they come, each with its value. -/
theorem takeDigits_of_isDigit {ds : List Char} (h : ∀ c ∈ ds, c.isDigit = true) (acc : List Nat)
    (hne : ds ≠ [] ∨ acc ≠ []) :
    ∃ values, takeDigits acc ds = some (values, []) ∧ values.length = ds.length + acc.length := by
  induction ds generalizing acc with
  | nil =>
    have hacc : acc ≠ [] := hne.resolve_left fun h => h rfl
    exact ⟨acc, by rw [takeDigits, if_neg (by simpa using hacc)], by simp⟩
  | cons c ds ih =>
    obtain ⟨hc, hds⟩ := List.forall_mem_cons.1 h
    obtain ⟨d, hd⟩ := digitValue?_of_isDigit hc
    obtain ⟨values, htake, hlength⟩ := ih hds (d :: acc) (.inr (List.cons_ne_nil d acc))
    refine ⟨values, ?_, ?_⟩
    · unfold takeDigits
      simpa only [hd] using htake
    · rw [hlength, List.length_cons, List.length_cons]
      omega

/-- Digits, perhaps after a dash, are a whole number unless there are too many of them. -/
theorem readInteger_of_isDigit {ds : List Char} (h : ∀ c ∈ ds, c.isDigit = true) (hne : ds ≠ [])
    (negative : Bool) {e : IntegerError}
    (he : readInteger (.ofList (if negative then '-' :: ds else ds)) = .error e) :
    maxDigits < ds.length ∧ e = .tooLong ds.length := by
  obtain ⟨values, htake, hlength⟩ := takeDigits_of_isDigit h [] (.inl hne)
  rw [List.length_nil, Nat.add_zero] at hlength
  have hstrip {cs : List Char} (hcs : ∀ c ∈ cs, c = '-' ∨ c.isDigit = true) :
      stripBy isNumberBlank (String.ofList cs).toList = cs := by
    rw [String.toList_ofList]
    refine stripBy_eq_self fun c hc => ?_
    obtain rfl | hdigit := hcs c hc
    · decide
    · exact isNumberBlank_of_isDigit hdigit
  have hlimit {n : Int} (hn : (if maxDigits < ds.length then .error (.tooLong ds.length)
      else .ok n) = Except.error e) : maxDigits < ds.length ∧ e = .tooLong ds.length := by
    split at hn
    · cases hn
      exact ⟨‹_›, rfl⟩
    · cases hn
  unfold readInteger at he
  cases negative with
  | true =>
    rw [if_pos rfl, hstrip (by simpa using fun c hc => .inr (h c hc))] at he
    simp only [htake, hlength, List.isEmpty_nil, if_true] at he
    exact hlimit he
  | false =>
    -- A digit is no sign.
    have hminus (rest : List Char) : ds ≠ '-' :: rest := by
      rintro rfl
      exact absurd (h '-' List.mem_cons_self) (by decide)
    have hplus (rest : List Char) : ds ≠ '+' :: rest := by
      rintro rfl
      exact absurd (h '+' List.mem_cons_self) (by decide)
    rw [if_neg Bool.false_ne_true, hstrip fun c hc => .inr (h c hc)] at he
    simp only [htake, hlength, List.isEmpty_nil, if_true] at he
    exact hlimit he

/-- The digits before the point are digits, and there are some. -/
theorem isDigit_of_takeWhole {take : List Char → List Char × List Char}
    (htake : ∀ cs, ∀ c ∈ (take cs).1, c.isDigit = true) {cs ds rest : List Char}
    (h : takeWhole take cs = some (ds, rest)) : (∀ c ∈ ds, c.isDigit = true) ∧ ds ≠ [] := by
  unfold takeWhole at h
  split at h
  · cases h
    exact ⟨List.forall_mem_singleton.2 rfl, List.cons_ne_nil _ _⟩
  · dsimp only at h
    split at h
    · cases h
    case isFalse hne =>
      cases h
      exact ⟨htake _, by simpa using hne⟩

/-- A reader ends with no fault but that the text is malformed, or that a whole number in it is too
    long. -/
def Bounded (x : Except Fault α) : Prop :=
  ∀ f, x = .error f → Malformed f ∨ TooLong f

theorem bounded_ok (a : α) : Bounded (.ok a) :=
  nofun

/-- What is malformed is no other fault. -/
theorem bounded_malformed (why : String) : Bounded (.error (.malformed why) : Except Fault α) := by
  rintro _ ⟨⟩
  exact .inl ⟨why, rfl⟩

/-- Steps one after the other are bounded if each of them is. -/
theorem Bounded.bind {x : Except Fault α} {g : α → Except Fault β} (hx : Bounded x)
    (hg : ∀ a, Bounded (g a)) : Bounded (x >>= g) := by
  cases x with
  | error f =>
    rintro _ ⟨⟩
    exact hx f rfl
  | ok a => exact hg a

theorem Bounded.map {x : Except Fault α} (hx : Bounded x) (g : α → β) : Bounded (x.map g) := by
  cases x with
  | error f =>
    rintro _ ⟨⟩
    exact hx f rfl
  | ok a => exact bounded_ok (g a)

theorem bounded_ite {x y : Except Fault α} {p : Prop} [Decidable p] (hx : Bounded x)
    (hy : Bounded y) : Bounded (if p then x else y) := by
  split
  · exact hx
  · exact hy

/-- Refusing a text under a condition, and going on otherwise, is bounded if what follows is. -/
theorem bounded_guard {g : Unit → Except Fault α} {p : Prop} [Decidable p] (why : String)
    (hg : ∀ u, Bounded (g u)) :
    Bounded (if p then (.error (.malformed why) : Except Fault Unit) >>= g else g ()) :=
  bounded_ite ((bounded_malformed why).bind hg) (hg ())

/-- A number whose digits a reader has taken itself is refused only for their count. -/
theorem bounded_number {ds : List Char} (h : ∀ c ∈ ds, c.isDigit = true) (hne : ds ≠ [])
    (negative : Bool) {e : IntegerError}
    (he : readInteger (.ofList (if negative then '-' :: ds else ds)) = .error e) :
    Bounded (.error (.badValue e.message) : Except Fault α) := by
  obtain ⟨hlong, rfl⟩ := readInteger_of_isDigit h hne negative he
  rintro _ ⟨⟩
  exact .inr ⟨_, hlong, rfl⟩

end Manuscript.Text
