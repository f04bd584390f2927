import Manuscript.Json
import Manuscript.Proofs.Text.Integer
import Mathlib.Data.List.TakeDrop
import Mathlib.Data.List.TakeWhile

/-!
# How JSON is refused

A text of JSON that breaks the rules is malformed. There is one other fault: that of a whole number
with too many digits (`bounded_read`).
-/

namespace Manuscript.Json

open Text

/-- A text in quotes is taken, or it is malformed. -/
theorem bounded_takeText (fuel : Nat) (cs : List Char) : Bounded (takeText fuel cs) := by
  induction fuel generalizing cs with
  | zero => exact bounded_malformed _
  | succ fuel ih =>
    have hmore (c : Char) (rest : List Char) :
        Bounded (takeText fuel rest >>= fun taken => pure (c :: taken.1, taken.2)) :=
      (ih _).bind fun _ => bounded_ok _
    unfold takeText
    split
    · exact bounded_malformed _
    · exact bounded_ok _
    · split
      · exact hmore _ _
      · exact bounded_malformed _
    · split
      · exact hmore _ _
      · exact bounded_malformed _
    · exact bounded_ite (bounded_malformed _) (hmore _ _)

/-! ## Numbers -/

theorem isDigit_of_takeDigits (cs : List Char) : ∀ c ∈ (takeDigits cs).1, c.isDigit = true := by
  rw [takeDigits, List.span_eq_takeWhile_dropWhile]
  exact fun _ => List.mem_takeWhile_imp

/-- The whole part of a number is of digits, and there is one. -/
theorem isDigit_of_takeNumber {cs whole tail rest : List Char}
    (h : takeNumber cs = some (whole, tail, rest)) :
    (∀ c ∈ whole, c.isDigit = true) ∧ whole ≠ [] := by
  unfold takeNumber at h
  obtain ⟨_, hwhole, h⟩ := Option.bind_eq_some_iff.1 h
  cases h
  exact isDigit_of_takeWhole isDigit_of_takeDigits hwhole

/-- A number is read, or it has too many digits. -/
theorem bounded_readNumber (negative : Bool) {whole : List Char}
    (hdigits : ∀ c ∈ whole, c.isDigit = true) (hne : whole ≠ []) (tail : List Char) :
    Bounded (readNumber negative whole tail) := by
  unfold readNumber
  extract_lets text
  refine bounded_ite ?_ ?_
  · split
    · exact bounded_ok _
    case h_2 e he => exact bounded_number hdigits hne _ he
  · split
    · exact bounded_ok _
    · exact bounded_malformed _

/-! ## Values -/

/-- All that is read within a number of levels is read without other faults. -/
structure BoundedLevels (fuel : Nat) : Prop where
  value (cs : List Char) : Bounded (takeValue fuel cs)
  items (cs : List Char) : Bounded (takeItems fuel cs)
  members (before : List (Value × Value)) (cs : List Char) : Bounded (takeMembers fuel before cs)

section

variable {fuel : Nat} (h : BoundedLevels fuel)
include h

/-- A value is bounded if values one level further in are. -/
theorem bounded_takeValue (cs : List Char) : Bounded (takeValue (fuel + 1) cs) := by
  unfold takeValue
  split
  · exact (bounded_takeText _ _).bind fun _ => bounded_ok _
  · split
    · exact bounded_ok _
    · exact (h.members _ _).bind fun _ => bounded_ok _
  · split
    · exact bounded_ok _
    · exact (h.items _).bind fun _ => bounded_ok _
  · exact bounded_ok _
  · exact bounded_ok _
  · exact bounded_ok _
  · exact bounded_ok _
  · dsimp only
    split
    · exact bounded_ok _
    case h_2 hnumber _ =>
      obtain ⟨hdigits, hne⟩ := isDigit_of_takeNumber hnumber
      exact (bounded_readNumber _ hdigits hne _).bind fun _ => bounded_ok _
    · exact bounded_malformed _

theorem bounded_takeItems (cs : List Char) : Bounded (takeItems (fuel + 1) cs) := by
  unfold takeItems
  refine (h.value _).bind fun _ => ?_
  dsimp only
  split
  · exact (h.items _).bind fun _ => bounded_ok _
  · exact bounded_ok _
  · exact bounded_malformed _

theorem bounded_takeMembers (before : List (Value × Value)) (cs : List Char) :
    Bounded (takeMembers (fuel + 1) before cs) := by
  unfold takeMembers
  split
  · refine (bounded_takeText _ _).bind fun ⟨_, _⟩ => ?_
    dsimp only
    split
    · refine (h.value _).bind fun ⟨_, _⟩ => ?_
      dsimp only
      split
      · exact h.members _ _
      · exact bounded_ok _
      · exact bounded_malformed _
    · exact bounded_malformed _
  · exact bounded_malformed _

end

/-- Values of all levels are bounded, by induction on how deep they may go. -/
theorem boundedLevels (fuel : Nat) : BoundedLevels fuel := by
  induction fuel with
  | zero =>
    constructor <;> intros <;>
      simp only [takeValue, takeItems, takeMembers] <;> exact bounded_malformed _
  | succ fuel h => exact ⟨bounded_takeValue h, bounded_takeItems h, bounded_takeMembers h⟩

/-- A text is refused because it is malformed, or because a whole number in it is too long. -/
theorem bounded_read (text : String) : Bounded (read text) :=
  ((boundedLevels _).value _).bind fun _ => bounded_ite (bounded_ok _) (bounded_malformed _)

end Manuscript.Json
