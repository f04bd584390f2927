/-!
# Messages

The text of a message. Some messages end in words that are not this library's, such as what the
operating system says about a file: these are kept apart (`Message.detail`), so that only the rest
is promised.
-/

namespace Manuscript

/-- A text and, after it, words that others may say otherwise. -/
structure Message where
  text : String
  detail : Option String := none
  deriving DecidableEq, Repr, Inhabited

namespace Message

instance : Coe String Message := ⟨fun s => { text := s }⟩

/-- The whole text. -/
def toText (m : Message) : String :=
  m.text ++ m.detail.getD ""

/-- The message with a text before it. -/
def after (lead : String) (m : Message) : Message :=
  { m with text := lead ++ m.text }

end Message

end Manuscript
