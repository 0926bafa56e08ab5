import TemplateLang.Syntax.Expr

/-!
# Templates

A template is a list of elements: runs of raw text, and tags with a statement.
Block statements hold the elements of their bodies and all their inner tags, so
that nothing of the text is lost.
-/

namespace TemplateLang

/-- The pair of marks around a tag. -/
structure Delimiters where
  opening : String
  closing : String
deriving DecidableEq, Repr

/-- The delimiters of a template that asks for no others. -/
def Delimiters.standard : Delimiters :=
  ⟨"\x7b\x7b", "\x7d\x7d"⟩

/-- A pair of delimiters in words. -/
def Delimiters.describe (tags : Delimiters) : String :=
  tags.opening ++ " " ++ tags.closing

instance : Inhabited Delimiters :=
  ⟨Delimiters.standard⟩

/-- Which end of a tag a mark is. -/
inductive TagEnd where
  | opening
  | closing
deriving DecidableEq, Repr

/-- One end of a tag: its delimiter, whether it trims the text outside, and the
comments next to it inside the tag. -/
structure Tag where
  kind : TagEnd
  delimiter : String
  trims : Bool
  comments : List Comment
  span : Span
deriving DecidableEq, Repr

/-- The text of a tag's end, with its trim marker. -/
def Tag.text (tag : Tag) : String :=
  if tag.trims then
    match tag.kind with
    | .opening => tag.delimiter ++ "-"
    | .closing => "-" ++ tag.delimiter
  else tag.delimiter

/-- A name that a statement binds, and its place. -/
structure Identifier where
  name : String
  span : Span
deriving DecidableEq, Repr

mutual

/-- A piece of a template.  The closing end of a tag with a block is that of the
tag that ends the block. -/
inductive Element where
  | raw (text : String) (span : Span)
  | tag (opening : Tag) (statement : Statement) (closing : Tag) (span : Span)

/-- What a tag does. -/
inductive Statement where
  | empty
  | expression (expr : Expr)
  | assign (target : Identifier) (value : Expr) (span : Span)
  | branch (branch : Branch)
  | loop (value : Identifier) (index : Option Identifier) (iterable : Expr) (closing : Tag)
      (body : List Element) (endOpening : Tag) (span : Span)
  | breakLoop (span : Span)
  | continueLoop (span : Span)

/-- A condition, the elements under it, and what comes after them. -/
inductive Branch where
  | mk (test : Expr) (closing : Tag) (body : List Element) (alternate : Alternate) (span : Span)

/-- The rest of a conditional block: its end, an `else` body, or another
condition. -/
inductive Alternate where
  | done (endOpening : Tag)
  | otherwise (elseOpening elseClosing : Tag) (body : List Element) (endOpening : Tag)
  | chain (elseOpening : Tag) (next : Branch)

end

/-- A template read from a source text. -/
structure Template where
  elements : List Element

/-- The span of an element. -/
def Element.span : Element → Span
  | .raw _ span => span
  | .tag _ _ _ span => span

mutual

/-- The opening end of the tag that ends a conditional block. -/
def Branch.endOpening : Branch → Tag
  | .mk _ _ _ alternate _ => alternate.endOpening

/-- The opening end of the tag that ends what is left of a conditional block. -/
def Alternate.endOpening : Alternate → Tag
  | .done endOpening => endOpening
  | .otherwise _ _ _ endOpening => endOpening
  | .chain _ next => next.endOpening

end

end TemplateLang
