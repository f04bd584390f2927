import Manuscript.Xml

/-!
# Writing of trees

A tree is written without any blanks of its own. The short form of a space is declared where it is
first needed, unless it is declared around that place already.
-/

namespace Manuscript.Xml

/-- A character of text as it is written. -/
def writtenInText (c : Char) : String :=
  if c = '&' then "&amp;" else if c = '<' then "&lt;" else if c = '>' then "&gt;"
  else if c = '\r' then "&#13;" else c.toString

/-- A character of a value as it is written. -/
def writtenInValue (c : Char) : String :=
  if c = '\x22' then "&quot;" else if c = '\t' then "&#9;" else if c = '\n' then "&#10;"
  else writtenInText c

/-- A name as it is written. -/
def Name.written (n : Name) : String :=
  if n.lead.isEmpty then n.word else n.lead ++ ":" ++ n.word

/-- An attribute as it is written, with a blank before it. -/
def attributeText (a : Name × String) : String :=
  " " ++ a.1.written ++ "=\"" ++ String.join (a.2.toList.map writtenInValue) ++ "\""

/-- The short forms that attributes declare, with their spaces. -/
def declaredIn (attributes : List (Name × String)) : List (String × String) :=
  attributes.filterMap fun (n, v) =>
    if n.space = declarations then some (if n.lead.isEmpty then "" else n.word, v) else none

/-- Whether the short form of a name has to be declared within a scope. -/
def needsDeclaring (scope : List (String × String)) (isAttribute : Bool) (n : Name) : Bool :=
  if n.space = declarations ∨ n.space = common then false
  else if n.lead.isEmpty then !isAttribute && (scope.lookup "").getD "" != n.space
  else scope.lookup n.lead != some n.space

/-- The declarations that an element needs within a scope. -/
def missing (scope : List (String × String)) (name : Name) (attributes : List (Name × String)) :
    List (String × String) :=
  let own := if needsDeclaring scope false name then [(name.lead, name.space)] else []
  ((attributes.filter fun a => needsDeclaring scope true a.1).map fun a => (a.1.lead, a.1.space))
    |>.foldl (fun ds d => if ds.contains d then ds else ds ++ [d]) own

mutual

/-- A tree as it is written within a scope. -/
def Node.written (scope : List (String × String)) : Node → String
  | .text s => String.join (s.toList.map writtenInText)
  | .element name attributes children =>
    let scope := declaredIn attributes ++ scope
    let new := missing scope name attributes
    let all := attributes ++ new.map fun d => (Name.declaring d.1, d.2)
    let opening := "<" ++ name.written ++ String.join (all.map attributeText)
    if children.isEmpty then opening ++ "/>"
    else opening ++ ">" ++ writtenList (new ++ scope) children ++ "</" ++ name.written ++ ">"

/-- Trees as they are written within a scope, one after another. -/
def writtenList (scope : List (String × String)) : List Node → String
  | [] => ""
  | n :: ns => n.written scope ++ writtenList scope ns

end

/-- The bytes of a tree. -/
def Node.bytes (n : Node) : ByteArray :=
  ("<?xml version=\"1.0\" encoding=\"UTF-8\" standalone=\"yes\"?>\n" ++ n.written []).toUTF8

end Manuscript.Xml
