import Manuscript.Proofs.Text.Integer
import Manuscript.Toml

/-!
# How TOML is refused

A text of TOML that breaks the rules is malformed. There is one other fault: that of a whole number
with too many digits (`bounded_read`). What is read is always a table (`exists_of_read`).
-/

namespace Manuscript.Toml

open Text

/-! ## Texts -/

theorem bounded_takeCode (length : Nat) (cs : List Char) : Bounded (takeCode length cs) := by
  unfold takeCode
  extract_lets digits
  split
  · exact bounded_ite (bounded_ok _) (bounded_malformed _)
  · exact bounded_malformed _

/-- What an escape stands for is taken, or it is malformed. -/
theorem bounded_takeEscape (multiline : Bool) (cs : List Char) :
    Bounded (takeEscape multiline cs) := by
  unfold takeEscape
  split
  · exact bounded_malformed _
  · refine bounded_ite ?_ (bounded_ite ((bounded_takeCode _ _).map _)
      (bounded_ite ((bounded_takeCode _ _).map _) ?_))
    · split
      · exact bounded_ok _
      · exact bounded_ok _
      · exact bounded_malformed _
    · split
      · exact bounded_ok _
      · exact bounded_malformed _

theorem bounded_takeBasic (multiline : Bool) (fuel : Nat) (cs : List Char) :
    Bounded (takeBasic multiline fuel cs) := by
  induction fuel generalizing cs with
  | zero => exact bounded_malformed _
  | succ fuel ih =>
    unfold takeBasic
    split
    · exact bounded_malformed _
    · exact (bounded_takeEscape _ _).bind fun _ => (ih _).bind fun _ => bounded_ok _
    · refine bounded_ite (bounded_ok _) (bounded_ite (bounded_ok _) (bounded_ite ?_ ?_))
      · exact (ih _).bind fun _ => bounded_ok _
      · exact bounded_malformed _

theorem bounded_takeLiteral (multiline : Bool) (cs : List Char) :
    Bounded (takeLiteral multiline cs) := by
  induction cs with
  | nil => exact bounded_malformed _
  | cons c rest ih =>
    unfold takeLiteral
    refine bounded_ite (bounded_ok _) (bounded_ite ?_ (bounded_malformed _))
    exact ih.bind fun _ => bounded_ok _

/-- A text in quotes of any kind is taken, or it is malformed. -/
theorem bounded_takeText (lines : Bool) (cs : List Char) : Bounded (takeText lines cs) := by
  unfold takeText
  extract_lets quote scan
  have hscan (multiline : Bool) (cs : List Char) : Bounded (scan multiline cs) :=
    bounded_ite (bounded_takeLiteral _ _) (bounded_takeBasic _ _ _)
  exact bounded_ite ((hscan _ _).bind fun _ => bounded_ok _) ((hscan _ _).bind fun _ => bounded_ok _)

/-! ## Numbers -/

/-- Underscores between numerals are dropped, and only numerals are left. -/
theorem of_mem_takeGrouped {p : Char → Bool} (cs : List Char) :
    ∀ c ∈ (takeGrouped p cs).1, p c = true := by
  fun_induction takeGrouped p cs with
  | case1 c rest hc ds rest' htake ih | case3 c rest hnot hc ds rest' htake ih =>
    rw [htake] at ih
    exact List.forall_mem_cons.2 ⟨hc, ih⟩
  | _ => nofun

/-- The numerals that a number goes on with are numerals. -/
theorem of_mem_takeNumerals {p : Char → Bool} (cs : List Char) :
    ∀ c ∈ (takeNumerals p cs).1, p c = true := by
  rw [takeNumerals]
  split
  · exact of_mem_takeGrouped cs
  · nofun

theorem bounded_takeDate? {cs : List Char} {x : Except Fault (Value × List Char)}
    (h : takeDate? cs = some x) : Bounded x := by
  unfold takeDate? at h
  simp only [Option.bind_eq_bind, Option.bind_eq_some_iff] at h
  obtain ⟨_, _, _, _, _, _, _, _, _, _, h⟩ := h
  split at h
  · cases h
    exact bounded_malformed _
  · cases h
    exact bounded_ok _

/-- A number that is written in tens is read, is malformed, or has too many digits to be read. -/
theorem bounded_takeDecimal? {cs : List Char} {x : Except Fault (Value × List Char)}
    (h : takeDecimal? cs = some x) : Bounded x := by
  unfold takeDecimal? at h
  obtain ⟨⟨whole, rest⟩, hwhole, h⟩ := Option.bind_eq_some_iff.1 h
  obtain ⟨hdigits, hne⟩ := isDigit_of_takeWhole of_mem_takeNumerals hwhole
  dsimp only at h
  split at h
  · split at h
    · cases h
      exact bounded_ok _
    case h_2 e he =>
      cases h
      exact bounded_number hdigits hne _ he
  · obtain ⟨y, -, h⟩ := Option.bind_eq_some_iff.1 h
    cases h
    exact bounded_ok _

/-- What starts like a number is a date, a number of some base, or malformed. -/
theorem bounded_takeNumeric (cs : List Char) : Bounded (takeNumeric cs) := by
  unfold takeNumeric
  split
  case h_1 h => exact bounded_takeDate? h
  case h_4 h => exact bounded_takeDecimal? h
  case h_6 => exact bounded_malformed _
  all_goals exact bounded_ok _

/-! ## Keys and values -/

theorem bounded_takeKeyPart (cs : List Char) : Bounded (takeKeyPart cs) := by
  unfold takeKeyPart
  split
  · exact bounded_malformed _
  · refine bounded_ite (bounded_takeText _ _) ?_
    split
    exact bounded_ite (bounded_malformed _) (bounded_ok _)

/-- The parts of a key are taken, or one of them is malformed. -/
theorem bounded_takeKey (fuel : Nat) (cs : List Char) : Bounded (takeKey fuel cs) := by
  induction fuel generalizing cs with
  | zero => exact bounded_malformed _
  | succ fuel ih =>
    unfold takeKey
    refine (bounded_takeKeyPart _).bind fun ⟨_, _⟩ => ?_
    dsimp only
    split
    · exact (ih _).bind fun _ => bounded_ok _
    · exact bounded_ok _

/-- What cannot be put into a table is malformed. -/
theorem bounded_orRefuse (t : Option α) : Bounded (orRefuse t) := by
  cases t with
  | none => exact bounded_malformed _
  | some a => exact bounded_ok _

theorem bounded_skipComment (cs : List Char) : Bounded (skipComment cs) := by
  unfold skipComment
  split
  · exact bounded_ite (bounded_ok _) (bounded_malformed _)
  · exact bounded_ok _

theorem bounded_skipFiller (fuel : Nat) (cs : List Char) : Bounded (skipFiller fuel cs) := by
  induction fuel generalizing cs with
  | zero => exact bounded_ok _
  | succ fuel ih =>
    unfold skipFiller
    split
    · exact (bounded_skipComment _).bind ih
    · exact bounded_ok _

/-- All that is read within a number of levels is read without other faults. -/
structure BoundedLevels (fuel : Nat) : Prop where
  value (cs : List Char) : Bounded (takeValue fuel cs)
  items (cs : List Char) : Bounded (takeItems fuel cs)
  pair (cs : List Char) : Bounded (takePair fuel cs)
  entries (marks : Marks) (before : Entries) (cs : List Char) :
    Bounded (takeEntries fuel marks before cs)

section

variable {fuel : Nat} (h : BoundedLevels fuel)
include h

/-- A value is bounded if values one level further in are. -/
theorem bounded_takeValue (cs : List Char) : Bounded (takeValue (fuel + 1) cs) := by
  unfold takeValue
  split
  · exact (bounded_takeText _ _).map _
  · exact (bounded_takeText _ _).map _
  · exact bounded_ok _
  · exact bounded_ok _
  · exact (h.items _).bind fun _ => bounded_ok _
  · split
    · exact bounded_ok _
    · exact (h.entries _ _ _).bind fun _ => bounded_ok _
  · exact bounded_takeNumeric _

theorem bounded_takeItems (cs : List Char) : Bounded (takeItems (fuel + 1) cs) := by
  unfold takeItems
  refine (bounded_skipFiller _ _).bind fun _ => ?_
  split
  · exact bounded_ok _
  · refine (h.value _).bind fun _ => (bounded_skipFiller _ _).bind fun _ => ?_
    split
    · exact bounded_ok _
    · exact (h.items _).bind fun _ => bounded_ok _
    · exact bounded_malformed _

theorem bounded_takePair (cs : List Char) : Bounded (takePair (fuel + 1) cs) := by
  unfold takePair
  refine (bounded_takeKey _ _).bind fun ⟨_, _⟩ => ?_
  dsimp only
  split
  · exact (h.value _).bind fun _ => bounded_ok _
  · exact bounded_malformed _

/-- The entries of an inline table are bounded if values one level further in are. -/
theorem bounded_takeEntries (marks : Marks) (before : Entries) (cs : List Char) :
    Bounded (takeEntries (fuel + 1) marks before cs) := by
  unfold takeEntries
  refine (h.pair _).bind fun _ => bounded_guard _ fun _ => (bounded_orRefuse _).bind fun _ => ?_
  split
  · exact bounded_ok _
  · exact h.entries _ _ _
  · exact bounded_malformed _

end

/-- Values of all levels are bounded, by induction on how deep they may go. -/
theorem boundedLevels (fuel : Nat) : BoundedLevels fuel := by
  induction fuel with
  | zero =>
    constructor <;> intros <;>
      simp only [takeValue, takeItems, takePair, takeEntries] <;> exact bounded_malformed _
  | succ fuel h =>
    exact ⟨bounded_takeValue h, bounded_takeItems h, bounded_takePair h, bounded_takeEntries h⟩

/-! ## Documents -/

namespace State

/-- Adding an entry to the tables is refused as malformed only. -/
theorem bounded_add (s : State) (key : Key) (v : Value) : Bounded (s.add key v) := by
  unfold add
  extract_lets inner parent
  exact bounded_guard _ fun _ => bounded_guard _ fun _ =>
    (bounded_orRefuse _).bind fun _ => bounded_ok _

/-- Opening a table is refused as malformed only. -/
theorem bounded_openTable (s : State) (key : Key) : Bounded (s.openTable key) := by
  unfold openTable
  exact bounded_guard _ fun _ => (bounded_orRefuse _).bind fun _ => bounded_ok _

/-- Opening an item of an array of tables is refused as malformed only. -/
theorem bounded_openItem (s : State) (key : Key) : Bounded (s.openItem key) := by
  unfold openItem
  exact bounded_guard _ fun _ => (bounded_orRefuse _).bind fun _ => bounded_ok _

/-- Reading one line is bounded, of whatever kind it is. -/
theorem bounded_step (s : State) (cs : List Char) : Bounded (s.step cs) := by
  unfold step
  split
  · refine (bounded_takeKey _ _).bind fun ⟨_, _⟩ => ?_
    dsimp only
    split
    · exact (bounded_openItem _ _).bind fun _ => bounded_ok _
    · exact bounded_malformed _
  · refine (bounded_takeKey _ _).bind fun ⟨_, _⟩ => ?_
    dsimp only
    split
    · exact (bounded_openTable _ _).bind fun _ => bounded_ok _
    · exact bounded_malformed _
  · exact bounded_ok _
  · exact ((boundedLevels _).pair _).bind fun _ => (bounded_add _ _ _).bind fun _ => bounded_ok _

/-- Reading line after line is bounded, by induction on how many may be left. -/
theorem bounded_run (fuel : Nat) (s : State) (cs : List Char) : Bounded (run fuel s cs) := by
  induction fuel generalizing s cs with
  | zero => exact bounded_ok _
  | succ fuel ih =>
    unfold run
    split
    · exact bounded_ok _
    · exact ih _ _
    · refine (bounded_step _ _).bind fun _ => (bounded_skipComment _).bind fun _ => ?_
      split
      · exact bounded_ok _
      · exact ih _ _
      · exact bounded_malformed _

end State

/-- A text is refused because it is malformed, or because a whole number in it is too long. -/
theorem bounded_read (text : String) : Bounded (read text) :=
  (State.bounded_run _ _ _).bind fun _ => bounded_ok _

/-- What is read is a table. -/
theorem exists_of_read {text : String} {v : Value} (h : read text = .ok v) :
    ∃ entries, v = .map entries := by
  unfold read at h
  extract_lets cs at h
  cases hrun : State.run (cs.length + 1) {} cs with
  | error f =>
    rw [hrun] at h
    cases h
  | ok s =>
    rw [hrun] at h
    cases h
    exact ⟨_, rfl⟩

end Manuscript.Toml
