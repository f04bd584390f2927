import Manuscript.Layout.Format
import Manuscript.Options.Setting

/-!
# Styles

A style is a format whose fields are set by name, as a mapping of settings says. Merging settings into
a style goes by the values that are there (`Style.join`): a truth value stays on when it is on, and any
other value is replaced. The flags of a style are truth values, and so merging adds flags and takes
none away. That a field is a flag is not asked, though: a colour or a size that is a truth value is
dealt with as a flag is.
-/

namespace Manuscript.Layout

/-- The fields of a style. -/
inductive Style.Field
  | bold | italic | underline | monospace | color | fontSize
  deriving DecidableEq, Repr

namespace Style.Field

/-- The name of a field. -/
def name : Field → String
  | bold => "bold"
  | italic => "italic"
  | underline => "underline"
  | monospace => "monospace"
  | color => "color"
  | fontSize => "font_size"

/-- The fields, in order. -/
def all : List Field := [bold, italic, underline, monospace, color, fontSize]

/-- The field of a name. -/
def ofName? (name : String) : Option Field :=
  all.find? fun f => f.name == name

end Style.Field

/-- A style: a value for each field. -/
@[ext]
structure Style where
  value : Style.Field → Value

/-- A format as a style. -/
def Format.style (f : Format) : Style where
  value
    | .bold => .bool f.bold
    | .italic => .bool f.italic
    | .underline => .bool f.underline
    | .monospace => .bool f.monospace
    | .color => (f.color.map .text).getD .null
    | .fontSize => (f.fontSize.map .number).getD .null

namespace Style

/-- The style of text as it comes. -/
def plain : Style := Format.plain.style

/-- The style of bold text. -/
def boldface : Style := Format.boldface.style

/-- What a style has by a name besides its fields: what it can do, and what every record has. -/
def members : List String :=
  ["merge", "is_plain", "to_dict", "__annotations__", "__class__", "__dataclass_fields__",
    "__dataclass_params__", "__delattr__", "__dict__", "__dir__", "__doc__", "__eq__", "__format__",
    "__ge__", "__getattribute__", "__getstate__", "__gt__", "__hash__", "__init__",
    "__init_subclass__", "__le__", "__lt__", "__match_args__", "__module__", "__ne__", "__new__",
    "__reduce__", "__reduce_ex__", "__repr__", "__setattr__", "__sizeof__", "__str__",
    "__subclasshook__", "__weakref__"]

/-- The name that a call gives to the style itself, so that no setting may have it. -/
def ownName : String := "self"

/-- The style with other values in the fields that are set. -/
def replace (s : Style) (new : Settings) : Except Fault Style :=
  if new.all fun e => (Field.ofName? e.1).isSome then
    .ok { value := fun f => (new.find? f.name).getD (s.value f) }
  else .error .wrongKind

/-- The style with the fields that are set. -/
def ofSettings (new : Settings) : Except Fault Style :=
  plain.replace new

/-- What merging a value leaves in a field, by the value that is there. -/
def join (current new : Value) : Value :=
  match current with
  | .bool on => .bool (on || new.isTruthy)
  | _ => new

/-- The value that merging a setting leaves in the field of its name. A name of something that is no
    field is not noticed here. -/
def resolve (s : Style) (setting : String × Value) : Except Fault (String × Value) :=
  match Field.ofName? setting.1 with
  | some f => .ok (setting.1, join (s.value f) setting.2)
  | none => if setting.1 ∈ members then .ok setting else .error .noSuchAttribute

/-- Merges settings into a style: all of them, or none when one of them is of no field. -/
def merge (s : Style) (changes : Settings) : Except Fault Style := do
  if (changes.find? ownName).isSome then throw .wrongKind
  s.replace (← changes.mapM s.resolve)

/-- The style after settings are merged into it, or the style as it was when they cannot be. -/
def attempt (s : Style) (changes : Settings) : Style :=
  match s.merge changes with
  | .ok t => t
  | .error _ => s

/-- Merges settings into a style call by call. A call that fails leaves the style as it was. -/
def mergeAll (s : Style) (calls : List Settings) : Style :=
  calls.foldl attempt s

/-- Whether two styles are equal in every field. -/
def same (s t : Style) : Bool :=
  Field.all.all fun f => (s.value f).same (t.value f)

/-- Whether a style is that of text as it comes. -/
def isPlain (s : Style) : Bool :=
  s.same plain

/-- The format that a style gives to a run, if its colour is a text and its size a number. -/
def format? (s : Style) : Option Format := do
  let color ← match s.value .color with
    | .null => some none
    | .text c => some (some c)
    | _ => none
  let fontSize ← match s.value .fontSize with
    | .null => some none
    | .number n => some (some n)
    | _ => none
  return {
    bold := (s.value .bold).isTruthy
    italic := (s.value .italic).isTruthy
    underline := (s.value .underline).isTruthy
    monospace := (s.value .monospace).isTruthy
    color
    fontSize }

end Style

end Manuscript.Layout
