import Manuscript.Node.OfToken
import Manuscript.Node.Text

/-!
# The text of tokens

The literal text of inline tokens is in the nodes that are made of them, in order and with nothing
added to it (`plainTextList_ofInlineTokens`). Whatever the tokens lie in, all of it is there but for
the descriptions of pictures. Of these only plain text is taken over, so that emphasis, code and
links in a description are lost together with the text that they hold.

* `Token.literalList`: the literal text of tokens;
* `Token.picturesList`: the pictures among tokens, and which of them lose nothing (`IsPlain`);
* `Keeps`: a text that keeps another in part, and when it keeps it whole;
* `keeps_description`, `keeps_ofInlineTokens`: what a description keeps, and what nodes do.
-/

namespace Manuscript

namespace Markdown.Token

mutual

/-- The literal text of an inline token: what it says if it is text or code, a line end if it
    breaks the line, and what the tokens beneath it say if it gives them a form. -/
def literal : Token → String
  | .mk kind raw _ children =>
    match kind with
    | .text | .codeSpan => raw
    | .softBreak | .lineBreak => "\n"
    | .strong | .emphasis | .insert | .link | .image => literalList children
    | _ => ""

/-- The literal text of inline tokens. -/
def literalList : List Token → String
  | [] => ""
  | t :: ts => literal t ++ literalList ts

end

mutual

/-- The pictures in an inline token, less those in the description of another. -/
def pictures : Token → List Token
  | .mk kind raw attributes children =>
    match kind with
    | .strong | .emphasis | .insert | .link => picturesList children
    | .image => [.mk kind raw attributes children]
    | _ => []

/-- The pictures in inline tokens. -/
def picturesList : List Token → List Token
  | [] => []
  | t :: ts => pictures t ++ picturesList ts

end

/-- There is no text in the description of a picture but plain text. -/
def IsPlain (t : Token) : Prop :=
  ∀ c ∈ t.children, c.kind ≠ .text → literal c = ""

/-- The literal of a token of text is its text. -/
theorem literal_of_text {t : Token} (h : t.kind = .text) : t.literal = t.raw := by
  obtain ⟨kind, raw, attributes, children⟩ := t
  obtain rfl : kind = .text := h
  rw [literal, Token.raw]

end Markdown.Token

namespace Node

open Markdown

/-! ## Texts kept in part -/

/-- A text is another one with some of it left out, and `whole` says when nothing is. -/
structure Keeps (part all : String) (whole : Prop) : Prop where
  sublist : part.toList.Sublist all.toList
  eq_iff : part = all ↔ whole

theorem keeps_rfl (s : String) : Keeps s s True :=
  ⟨.refl _, iff_true_intro rfl⟩

/-- What is left out of two texts is left out of the one or of the other. -/
theorem Keeps.append {p p' a a' : String} {P P' : Prop} (h : Keeps p a P) (h' : Keeps p' a' P') :
    Keeps (p ++ p') (a ++ a') (P ∧ P') := by
  refine ⟨?_, fun heq => ?_, fun hwhole => ?_⟩
  · rw [String.toList_append, String.toList_append]
    exact h.sublist.append h'.sublist
  · -- A part is as long as the text only if it is the text.
    have hlength := congrArg List.length (congrArg String.toList heq)
    rw [String.toList_append, String.toList_append, List.length_append,
      List.length_append] at hlength
    have hle := h.sublist.length_le
    have hle' := h'.sublist.length_le
    exact ⟨h.eq_iff.1 (String.toList_injective (h.sublist.eq_of_length (by omega))),
      h'.eq_iff.1 (String.toList_injective (h'.sublist.eq_of_length (by omega)))⟩
  · rw [h.eq_iff.2 hwhole.1, h'.eq_iff.2 hwhole.2]

/-- What is kept under a condition is kept under one that is equivalent. -/
theorem Keeps.of_iff {p a : String} {P Q : Prop} (h : Keeps p a P) (hiff : P ↔ Q) : Keeps p a Q :=
  ⟨h.sublist, h.eq_iff.trans hiff⟩

/-! ## Descriptions -/

/-- What the description of a picture takes over of a token. -/
def described (t : Token) : String :=
  if t.kind = .text then t.raw else ""

/-- The description that a picture gets from its tokens. -/
def description (ts : List Token) : String :=
  String.join (ts.filterMap fun c => if c.kind = .text then some c.raw else none)

theorem description_cons (t : Token) (ts : List Token) :
    description (t :: ts) = described t ++ description ts := by
  rw [description, described, List.filterMap_cons]
  split <;> simp_all [description]

/-- A description has the literal of a token, if that is text or has none. -/
theorem keeps_described (t : Token) :
    Keeps (described t) t.literal (t.kind ≠ .text → t.literal = "") := by
  rw [described]
  split
  case isTrue htext =>
    rw [Token.literal_of_text htext]
    exact (keeps_rfl t.raw).of_iff (iff_of_true trivial (absurd htext))
  case isFalse htext =>
    refine ⟨List.nil_sublist _, ?_⟩
    rw [eq_comm, forall_prop_of_true htext]

/-- A description keeps its text if all its tokens that are no text have none. -/
theorem keeps_description (ts : List Token) :
    Keeps (description ts) (Token.literalList ts)
      (∀ c ∈ ts, c.kind ≠ .text → c.literal = "") := by
  induction ts with
  | nil => exact (keeps_rfl "").of_iff (iff_of_true trivial nofun)
  | cons t ts ih =>
    rw [description_cons, Token.literalList]
    exact ((keeps_described t).append ih).of_iff (by rw [List.forall_mem_cons])

/-! ## Nodes -/

theorem ofInlineTokens_cons (t : Token) (ts : List Token) :
    ofInlineTokens (t :: ts) = (ofInlineToken? t).toList ++ ofInlineTokens ts := by
  rw [ofInlineTokens]
  cases ofInlineToken? t <;> rfl

theorem plainTextList_singleton (n : Node) : plainTextList [n] = plainText n := by
  rw [plainTextList, plainTextList, String.append_empty]

mutual

/-- The plain text of the node of a token is its literal, if the pictures in it are plain. -/
theorem keeps_ofInlineToken (t : Token) :
    Keeps (plainTextList (ofInlineToken? t).toList) t.literal (∀ p ∈ t.pictures, p.IsPlain) := by
  obtain ⟨kind, raw, attributes, children⟩ := t
  cases kind with
  | strong | emphasis | insert | link =>
    simp only [ofInlineToken?, Option.toList_some, plainTextList_singleton, plainText,
      Token.literal, Token.pictures]
    exact keeps_ofInlineTokens children
  | image =>
    simp only [ofInlineToken?, Option.toList_some, plainTextList_singleton, plainText,
      Token.literal, Token.pictures, List.forall_mem_singleton]
    exact keeps_description children
  | text | codeSpan | softBreak | lineBreak | inlineHtml =>
    simp only [ofInlineToken?, Option.toList_some, plainTextList_singleton, plainText,
      Token.literal, Token.pictures]
    exact (keeps_rfl _).of_iff (iff_of_true trivial nofun)
  | heading | paragraph | blockText | blockCode | blockQuote | list | listItem | table | tableHead
  | tableBody | tableRow | tableCell | thematicBreak | blockHtml | blankLine | other =>
    simp only [ofInlineToken?, Option.toList_none, plainTextList, Token.literal, Token.pictures]
    exact (keeps_rfl _).of_iff (iff_of_true trivial nofun)

/-- The plain text of the nodes of tokens is their literal, if the pictures in them are plain. -/
theorem keeps_ofInlineTokens (ts : List Token) :
    Keeps (plainTextList (ofInlineTokens ts)) (Token.literalList ts)
      (∀ p ∈ Token.picturesList ts, p.IsPlain) := by
  cases ts with
  | nil =>
    rw [ofInlineTokens, plainTextList, Token.literalList, Token.picturesList]
    exact (keeps_rfl "").of_iff (iff_of_true trivial nofun)
  | cons t ts =>
    rw [ofInlineTokens_cons, plainTextList_append, Token.literalList, Token.picturesList]
    exact ((keeps_ofInlineToken t).append (keeps_ofInlineTokens ts)).of_iff
      List.forall_mem_append.symm

end

/-- No text is added to that of the tokens and none changes its place, and nothing is missing if
    and only if each picture among them is described with plain text alone. -/
theorem plainTextList_ofInlineTokens (ts : List Token) :
    (plainTextList (ofInlineTokens ts)).toList.Sublist (Token.literalList ts).toList ∧
      (plainTextList (ofInlineTokens ts) = Token.literalList ts ↔
        ∀ p ∈ Token.picturesList ts, p.IsPlain) :=
  ⟨(keeps_ofInlineTokens ts).sublist, (keeps_ofInlineTokens ts).eq_iff⟩

/-- Emphasised text is lost in the description of a picture, and is not in a link. -/
example :
    let ts : List Token := [.branch .emphasis [.leaf .text "a"], .leaf .text "b"]
    plainTextList (ofInlineTokens [.branch .image ts]) = "b" ∧
      plainTextList (ofInlineTokens [.branch .link ts]) = "ab" := by
  decide

end Node

end Manuscript
