import TemplateLang.Syntax.Template
import TemplateLang.Token.Basic

/-!
# The outline of a template

What is left of a template when the insides of its tags are dropped: its raw text, the
ends of its tags, and its comments, in the order in which they stand in the source.
Comments are kept with expressions and with the ends of tags, and a value that is piped
into a call stands before what is called.
-/

namespace TemplateLang

/-- Tokens for raw text, the ends of tags, and comments. -/
def Token.isStructural (token : Token) : Bool :=
  match token.lexeme with
  | .text _ | .opening _ | .closing _ | .comment _ => true
  | _ => false

/-- A comment as a token. -/
def Comment.token (comment : Comment) : Token :=
  ⟨.comment comment.body, comment.span⟩

/-- The comments of a note around those of what it notes. -/
def Note.around (note : Note) (inside : List Comment) : List Comment :=
  note.leading ++ inside ++ note.trailing

mutual

/-- The comments of an expression as they stand in the source. -/
def Expr.comments : Expr → List Comment
  | .null note | .undefined note | .boolean _ note | .number _ note | .text _ _ note
  | .identifier _ note => note.around []
  | .array items note => note.around (exprComments items)
  | .field object _ _ note => note.around object.comments
  | .item object key note => note.around (object.comments ++ key.comments)
  | .call callee (piped :: extra) true note =>
    note.around (piped.comments ++ callee.comments ++ exprComments extra)
  | .call callee arguments _ note =>
    note.around (callee.comments ++ exprComments arguments)
  | .unary _ argument note | .update _ _ argument note => note.around argument.comments
  | .binary _ left right note | .logical _ left right note =>
    note.around (left.comments ++ right.comments)
  | .conditional test consequent alternate note =>
    note.around (test.comments ++ consequent.comments ++ alternate.comments)
  | .paren inner note => note.around inner.comments

/-- The comments of expressions that stand one after another. -/
def exprComments : List Expr → List Comment
  | [] => []
  | first :: others => first.comments ++ exprComments others

end

/-- An end of a tag with the comments next to it inside the tag. -/
def Tag.outline (tag : Tag) : List Token :=
  match tag.kind with
  | .opening => ⟨.opening tag.trims, tag.span⟩ :: tag.comments.map Comment.token
  | .closing => tag.comments.map Comment.token ++ [⟨.closing tag.trims, tag.span⟩]

/-- The comments of an expression as tokens. -/
def Expr.outline (expr : Expr) : List Token :=
  expr.comments.map Comment.token

mutual

/-- The outline of an element: its text, or that of a tag from end to end. -/
def Element.outline : Element → List Token
  | .raw text span => [⟨.text text, span⟩]
  | .tag opening statement closing _ => opening.outline ++ statement.outline ++ closing.outline

/-- What a statement holds besides the ends of its own tag. -/
def Statement.outline : Statement → List Token
  | .expression expr => expr.outline
  | .assign _ value _ => value.outline
  | .branch branch => branch.outline
  | .loop _ _ iterable closing body endOpening _ =>
    iterable.outline ++ closing.outline ++ outlineOf body ++ endOpening.outline
  | .empty | .breakLoop _ | .continueLoop _ => []

/-- A condition, its body, and the rest of the block. -/
def Branch.outline : Branch → List Token
  | .mk test closing body alternate _ =>
    test.outline ++ closing.outline ++ outlineOf body ++ alternate.outline

/-- The rest of a conditional block. -/
def Alternate.outline : Alternate → List Token
  | .done endOpening => endOpening.outline
  | .otherwise elseOpening elseClosing body endOpening =>
    elseOpening.outline ++ elseClosing.outline ++ outlineOf body ++ endOpening.outline
  | .chain elseOpening next => elseOpening.outline ++ next.outline

/-- The outlines of elements one after another. -/
def outlineOf : List Element → List Token
  | [] => []
  | first :: others => first.outline ++ outlineOf others

end

/-- The outline of a template. -/
def Template.outline (template : Template) : List Token :=
  outlineOf template.elements

/-! ## Comments of expressions that are built -/

theorem exprComments_append (first second : List Expr) :
    exprComments (first ++ second) = exprComments first ++ exprComments second := by
  induction first with
  | nil => rfl
  | cons expr others ih => simp [exprComments, ih]

namespace Expr

theorem withNote_note (expr : Expr) : expr.withNote expr.note = expr := by
  cases expr <;> rfl

/-- The comments of an expression are those of its note around others that do not depend
on the note. -/
theorem exists_comments_withNote (expr : Expr) :
    ∃ inside, ∀ note, (expr.withNote note).comments = note.around inside := by
  cases expr with
  | call callee arguments isPiped note =>
    cases isPiped with
    | false =>
      refine ⟨callee.comments ++ exprComments arguments, fun note => ?_⟩
      cases arguments <;> rfl
    | true =>
      cases arguments with
      | nil => exact ⟨_, fun _ => rfl⟩
      | cons piped extra => exact ⟨_, fun _ => rfl⟩
  | _ => exact ⟨_, fun _ => rfl⟩

theorem comments_addLeading (comments : List Comment) (expr : Expr) :
    (expr.addLeading comments).comments = comments ++ expr.comments := by
  obtain ⟨inside, commentsEq⟩ := expr.exists_comments_withNote
  have own := commentsEq expr.note
  rw [withNote_note] at own
  rw [addLeading, commentsEq, own]
  simp [Note.around]

theorem comments_addTrailing (comments : List Comment) (expr : Expr) :
    (expr.addTrailing comments).comments = expr.comments ++ comments := by
  obtain ⟨inside, commentsEq⟩ := expr.exists_comments_withNote
  have own := commentsEq expr.note
  rw [withNote_note] at own
  rw [addTrailing, commentsEq, own]
  simp [Note.around]

/-- Comments come around those of an expression that had none of its own. -/
theorem comments_withNote {expr : Expr} (bare : expr.note.isBare = true) (note : Note) :
    (expr.withNote note).comments = note.around expr.comments := by
  obtain ⟨inside, commentsEq⟩ := expr.exists_comments_withNote
  have own := commentsEq expr.note
  obtain ⟨noLeading, noTrailing⟩ : expr.note.leading = [] ∧ expr.note.trailing = [] := by
    simpa [Note.isBare] using bare
  rw [withNote_note] at own
  rw [commentsEq, own]
  simp [Note.around, noLeading, noTrailing]

/-- A command has the comments of its head and then those of its arguments. -/
theorem comments_command (head : Expr) (extra : List Expr) :
    (head.command extra).comments = head.comments ++ exprComments extra := by
  rw [command]
  rcases applyTo_cases head [] extra false (spanWith head head extra) with
    ⟨inner, arguments, note, bare, rfl, same⟩ | same
  · rw [same]
    obtain ⟨noLeading, noTrailing⟩ : note.leading = [] ∧ note.trailing = [] := by
      simpa [Note.isBare] using bare
    simp [comments, exprComments_append, Note.around, Note.at, noLeading, noTrailing]
  · simp [same, comments, Note.around, Note.at]

/-- A pipe has the comments of the value, those of the segment, and then those of its
arguments. -/
theorem comments_pipeInto (value segment : Expr) (extra : List Expr) :
    (value.pipeInto segment extra).comments =
      value.comments ++ segment.comments ++ exprComments extra := by
  rw [pipeInto]
  rcases applyTo_cases segment [value] extra true (spanWith value segment extra) with
    ⟨inner, arguments, note, bare, rfl, same⟩ | same
  · rw [same]
    obtain ⟨noLeading, noTrailing⟩ : note.leading = [] ∧ note.trailing = [] := by
      simpa [Note.isBare] using bare
    simp [comments, exprComments_append, Note.around, Note.at, noLeading, noTrailing]
  · simp [same, comments, Note.around, Note.at]

end Expr

end TemplateLang
