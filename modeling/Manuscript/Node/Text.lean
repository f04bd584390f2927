import Manuscript.Node

/-!
# The text of a tree

The literal text beneath a node, in document order (`Node.plainText`): text and code spans as they
are, the description of each picture, and a line end for each break of a line. Raw HTML has no text
of its own, and neither have code blocks.
-/

namespace Manuscript.Node

mutual

/-- The literal text beneath a node. -/
def plainText : Node → String
  | .text s _ | .code s _ | .image _ s _ _ => s
  | .softBreak _ | .hardBreak _ => "\n"
  | .htmlInline .. | .htmlBlock .. | .fencedCode .. | .indentedCode .. | .thematicBreak .. => ""
  | .table none rows _ => plainTextList rows
  | .table (some header) rows _ => plainText header ++ plainTextList rows
  | .document ns _ | .heading _ ns _ | .paragraph ns _ | .bulletList ns _ | .orderedList _ ns _
  | .listItem ns _ | .tableRow ns _ | .tableCell ns _ | .blockQuote ns _ | .emphasis ns _
  | .strong ns _ | .underline ns _ | .link _ ns _ _ => plainTextList ns

/-- The literal text beneath a list of nodes. -/
def plainTextList : List Node → String
  | [] => ""
  | n :: ns => plainText n ++ plainTextList ns

end

theorem plainTextList_append (ns ms : List Node) :
    plainTextList (ns ++ ms) = plainTextList ns ++ plainTextList ms := by
  induction ns with
  | nil => simp [plainTextList]
  | cons n ns ih => simp [plainTextList, ih, String.append_assoc]

end Manuscript.Node
