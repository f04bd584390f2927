import Manuscript.Error.Fault
import Manuscript.Text.Integer
import Manuscript.Value

/-!
# Settings

Options are set by name: a setting is a name with a value. Most options take any value; some have a
rule that their values have to meet (`Rule`), and a value that does not is refused
(`SettingError`).
-/

namespace Manuscript

/-- A list of checks succeeds if each of them does. -/
theorem forM_eq_ok_iff {f : α → Except ε PUnit} {as : List α} :
    forM as f = .ok () ↔ ∀ a ∈ as, f a = .ok () := by
  induction as with
  | nil => simp [pure, Except.pure]
  | cons a as ih =>
    rw [List.forM_cons, List.forall_mem_cons, ← ih]
    cases f a <;> simp [bind, Except.bind]

/-- Names with the values that they are set to. -/
abbrev Settings := List (String × Value)

namespace Settings

/-- The value that a name is set to. -/
def find? (s : Settings) (name : String) : Option Value :=
  (List.find? (fun e => e.1 == name) s).map (·.2)

/-- The value that a name is set to, or nothing if it is not set. -/
def value (s : Settings) (name : String) : Value :=
  (s.find? name).getD .null

/-- The names that are set, in order. -/
def names (s : Settings) : List String :=
  s.map (·.1)

/-- The settings with new values for names that are set. -/
def override (s new : Settings) : Settings :=
  s.map fun e => (e.1, (new.find? e.1).getD e.2)

theorem value_cons_self (name : String) (v : Value) (s : Settings) :
    value ((name, v) :: s) name = v := by
  simp [value, find?]

theorem value_cons_of_ne {n name : String} (h : n ≠ name) (v : Value) (s : Settings) :
    value ((n, v) :: s) name = s.value name := by
  simp [value, find?, h]

theorem names_override (s new : Settings) : (s.override new).names = s.names := by
  simp [names, override]

end Settings

/-- Whether a value is a whole number that is too long to be shown. -/
def Value.isTooLong : Value → Bool
  | .number (.whole n) => Nat.pow 10 Text.maxDigits ≤ n.natAbs
  | _ => false

/-- Why options cannot be set. -/
inductive SettingError
  /-- There is no option of this name. -/
  | unknownName (name : String)
  /-- The value is of another kind than the option. -/
  | wrongKind (name : String)
  /-- A table is needed and the value is none. -/
  | noTable (name : String)
  /-- A size, or the size of a level, has to be positive. -/
  | notPositive (name : String) (level : Option Value) (value : Value)
  /-- A colour has to be six hexadecimal digits. -/
  | badColor (name : String) (value : String)
  /-- The key of a table is no whole number. -/
  | badLevel (why : Text.IntegerError)
  /-- The key of a table is bytes that are no whole number. -/
  | badLevelBytes (bytes : List UInt8)
  /-- The key of a table is a number that is not finite. -/
  | unboundedLevel (isNan : Bool)
  deriving Repr, Inhabited

namespace SettingError

/-- The message of an error in the range of a value; errors in its kind have none. A number that is
    too long to be shown has a message of its own. -/
def message? : SettingError → Option String
  | unknownName _ | wrongKind _ | noTable _ | unboundedLevel false => none
  | notPositive name level value =>
    if (level.toList ++ [value]).any Value.isTooLong then
      some ("Exceeds the limit (4300 digits) for integer string conversion; use " ++
        "sys.set_int_max_str_digits() to increase the limit")
    else
      let place := (level.map fun l => "[" ++ l.toText ++ "]").getD ""
      some (name ++ place ++ " must be positive, got " ++ value.toText)
  | badColor name value =>
    some (name ++ " must be a 6-digit hex colour, got " ++ Text.quoted value)
  | badLevel why => some why.message
  | badLevelBytes bytes =>
    let shown := (Value.bytes (bytes.take 200)).quoted
    some ("invalid literal for int() with base 10: " ++ String.ofList (shown.toList.take 200))
  | unboundedLevel true => some "cannot convert float NaN to integer"

/-- The fault that an error is. -/
def fault (e : SettingError) : Fault :=
  match e, e.message? with
  | _, some m => .badValue m
  | noTable _, none => .noSuchAttribute
  | unboundedLevel _, none => .overflow
  | _, none => .wrongKind

end SettingError

/-- Refuses settings of which one has a name that is not among `names`. -/
def Settings.checkNames (s : Settings) (names : List String) : Except SettingError Unit :=
  match List.find? (fun e => !names.contains e.1) s with
  | some e => .error (.unknownName e.1)
  | none => .ok ()

/-- Six hexadecimal digits. One line feed may follow them. -/
def isColor (s : String) : Bool :=
  let cs := s.toList
  let cs := if cs.length = 7 ∧ cs.getLast? = some '\n' then cs.take 6 else cs
  cs.length == 6 && cs.all fun c =>
    c.isDigit || ('a' ≤ c && c ≤ 'f') || ('A' ≤ c && c ≤ 'F')

/-- Whether a value is a positive number. The truth value that stands for one is a number. -/
def Value.isSize : Value → Bool
  | .number n => !n.nonpos
  | .bool b => b
  | _ => false

/-- What the values of an option have to be. -/
abbrev Rule := Value → Except SettingError Unit

namespace Rule

/-- Positive numbers, which may be the sizes of a level. -/
def size (name : String) (level : Option Value := none) : Rule
  | .number n => if n.nonpos then .error (.notPositive name level (.number n)) else .ok ()
  | .bool b => if b then .ok () else .error (.notPositive name level (.bool b))
  | _ => .error (.wrongKind name)

/-- Tables of positive numbers. -/
def ladder (name : String) : Rule
  | .map entries => forM entries fun e => size name (some e.1) e.2
  | _ => .error (.noTable name)

/-- Colours. -/
def color (name : String) : Rule
  | .text s => if isColor s then .ok () else .error (.badColor name s)
  | _ => .error (.wrongKind name)

/-- Colours that may be absent. -/
def optionalColor (name : String) : Rule
  | .null => .ok ()
  | v => color name v

theorem size_eq_ok_iff {name : String} {level : Option Value} {v : Value} :
    size name level v = .ok () ↔ v.isSize = true := by
  cases v with
  | number n => cases h : n.nonpos <;> simp [size, Value.isSize, h]
  | bool b => cases b <;> simp [size, Value.isSize]
  | _ => simp [size, Value.isSize]

theorem ladder_eq_ok_iff {name : String} {v : Value} :
    ladder name v = .ok () ↔ ∃ entries, v = .map entries ∧ ∀ e ∈ entries, e.2.isSize = true := by
  cases v with
  | map entries => simp [ladder, forM_eq_ok_iff, size_eq_ok_iff]
  | _ => simp [ladder]

end Rule

end Manuscript
