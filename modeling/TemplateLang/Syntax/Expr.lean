import TemplateLang.Source.Span
import TemplateLang.Number.Binary64

/-!
# Expressions

The syntax tree of what stands inside a tag.  Every expression carries a note:
the span it was read from and the comments written before and after it.  Member
access has two forms, `a.b` with a key that is fixed by the text, and `a[b]` with
one that is evaluated.
-/

namespace TemplateLang

/-- A block comment: the text between its markers, and its place. -/
structure Comment where
  body : String
  span : Span
deriving DecidableEq, Repr

/-- A comment with a line break in it. -/
def Comment.isMultiline (comment : Comment) : Bool :=
  comment.body.toList.contains '\n'

/-- What the text says about an expression besides its meaning. -/
structure Note where
  span : Span
  leading : List Comment
  trailing : List Comment
deriving DecidableEq, Repr

/-- The note of an expression without comments. -/
def Note.at (span : Span) : Note :=
  ⟨span, [], []⟩

/-- Whether no comment is attached. -/
def Note.isBare (note : Note) : Bool :=
  note.leading.isEmpty && note.trailing.isEmpty

/-- The quote around a string literal. -/
inductive Quote where
  | single
  | double
deriving DecidableEq, Repr

def Quote.char : Quote → Char
  | single => '\''
  | double => '"'

/-- Operators in front of one operand. -/
inductive UnaryOp where
  | plus
  | minus
  | complement
  | negate
deriving DecidableEq, Repr

def UnaryOp.symbol : UnaryOp → String
  | plus => "+"
  | minus => "-"
  | complement => "~"
  | negate => "!"

/-- Operators that change a variable or a member by one. -/
inductive UpdateOp where
  | increment
  | decrement
deriving DecidableEq, Repr

def UpdateOp.symbol : UpdateOp → String
  | increment => "++"
  | decrement => "--"

/-- Where an update operator stands, which decides whether the value before or
after the change is the result. -/
inductive UpdatePlace where
  | before
  | after
deriving DecidableEq, Repr

/-- Operators between two operands that are both evaluated. -/
inductive BinaryOp where
  | equal
  | notEqual
  | less
  | greater
  | lessEqual
  | greaterEqual
  | add
  | subtract
  | multiply
  | divide
  | remainder
deriving DecidableEq, Repr

def BinaryOp.symbol : BinaryOp → String
  | equal => "=="
  | notEqual => "!="
  | less => "<"
  | greater => ">"
  | lessEqual => "<="
  | greaterEqual => ">="
  | add => "+"
  | subtract => "-"
  | multiply => "*"
  | divide => "/"
  | remainder => "%"

/-- Operators whose right operand is evaluated only when it decides. -/
inductive LogicalOp where
  | or
  | and
deriving DecidableEq, Repr

def LogicalOp.symbol : LogicalOp → String
  | or => "||"
  | and => "&&"

/-- The key after a dot: a name or a position. -/
inductive FieldKey where
  | name (name : String)
  | position (index : Number)
deriving DecidableEq, Repr

/-- An expression. -/
inductive Expr where
  | null (note : Note)
  | undefined (note : Note)
  | boolean (value : Bool) (note : Note)
  | number (value : Number) (note : Note)
  | text (value : String) (quote : Quote) (note : Note)
  | identifier (name : String) (note : Note)
  | array (items : List Expr) (note : Note)
  | field (object : Expr) (key : FieldKey) (keySpan : Span) (note : Note)
  | item (object key : Expr) (note : Note)
  | call (callee : Expr) (arguments : List Expr) (isPiped : Bool) (note : Note)
  | unary (op : UnaryOp) (argument : Expr) (note : Note)
  | update (op : UpdateOp) (place : UpdatePlace) (argument : Expr) (note : Note)
  | binary (op : BinaryOp) (left right : Expr) (note : Note)
  | logical (op : LogicalOp) (left right : Expr) (note : Note)
  | conditional (test consequent alternate : Expr) (note : Note)
  | paren (inner : Expr) (note : Note)
deriving Repr

namespace Expr

/-- The note of an expression. -/
def note : Expr → Note
  | null note | undefined note | boolean _ note | number _ note | text _ _ note
  | identifier _ note | array _ note | field _ _ _ note | item _ _ note | call _ _ _ note
  | unary _ _ note | update _ _ _ note | binary _ _ _ note | logical _ _ _ note
  | conditional _ _ _ note | paren _ note => note

/-- The span of an expression. -/
def span (expr : Expr) : Span :=
  expr.note.span

/-- An expression with another note. -/
def withNote (note : Note) : Expr → Expr
  | null _ => null note
  | undefined _ => undefined note
  | boolean value _ => boolean value note
  | number value _ => number value note
  | text value quote _ => text value quote note
  | identifier name _ => identifier name note
  | array items _ => array items note
  | field object key keySpan _ => field object key keySpan note
  | item object key _ => item object key note
  | call callee arguments isPiped _ => call callee arguments isPiped note
  | unary op argument _ => unary op argument note
  | update op place argument _ => update op place argument note
  | binary op left right _ => binary op left right note
  | logical op left right _ => logical op left right note
  | conditional test consequent alternate _ => conditional test consequent alternate note
  | paren inner _ => paren inner note

@[simp]
theorem note_withNote (note : Note) (expr : Expr) : (expr.withNote note).note = note := by
  cases expr <;> rfl

/-- An expression with comments before those it has. -/
def addLeading (comments : List Comment) (expr : Expr) : Expr :=
  expr.withNote { expr.note with leading := comments ++ expr.note.leading }

/-- An expression with comments after those it has. -/
def addTrailing (comments : List Comment) (expr : Expr) : Expr :=
  expr.withNote { expr.note with trailing := expr.note.trailing ++ comments }

/-- Whether an expression can be updated: a variable or a member, in any number of
parentheses. -/
def isAssignable : Expr → Bool
  | identifier _ _ | field _ _ _ _ | item _ _ _ => true
  | paren inner _ => inner.isAssignable
  | _ => false

/-- Whether arguments after an expression make it a command: variables, members
and calls that are not piped. -/
def isCallable : Expr → Bool
  | identifier _ _ | field _ _ _ _ | item _ _ _ | call _ _ false _ => true
  | _ => false

/-- The span from an expression to the last of the arguments after it. -/
def spanWith (start : Expr) (last : Expr) (extra : List Expr) : Span :=
  Span.between start.span.start ((extra.getLast?.getD last).span.stop)

/-- A call on `first` arguments, those of the callee and `extra` ones.  A callee
that is itself a bare call passes its arguments on; any other one is called. -/
def applyTo (callee : Expr) (first extra : List Expr) (isPiped : Bool) (span : Span) : Expr :=
  match callee with
  | call inner arguments false note =>
    if note.isBare then call inner (first ++ arguments ++ extra) isPiped (Note.at span)
    else call callee (first ++ extra) isPiped (Note.at span)
  | _ => call callee (first ++ extra) isPiped (Note.at span)

/-- A callee either passes its arguments on or is called itself. -/
theorem applyTo_cases (callee : Expr) (first extra : List Expr) (isPiped : Bool) (span : Span) :
    (∃ inner arguments note, note.isBare = true ∧ callee = call inner arguments false note ∧
      callee.applyTo first extra isPiped span =
        call inner (first ++ arguments ++ extra) isPiped (Note.at span)) ∨
      callee.applyTo first extra isPiped span =
        call callee (first ++ extra) isPiped (Note.at span) := by
  unfold applyTo
  split
  · split
    · rename_i inner arguments note bare
      exact .inl ⟨inner, arguments, note, bare, rfl, rfl⟩
    · exact .inr rfl
  · exact .inr rfl

/-- A command: an expression with arguments after it. -/
def command (head : Expr) (extra : List Expr) : Expr :=
  head.applyTo [] extra false (spanWith head head extra)

/-- A pipe segment applied to the value piped into it. -/
def pipeInto (value segment : Expr) (extra : List Expr) : Expr :=
  segment.applyTo [value] extra true (spanWith value segment extra)

end Expr

end TemplateLang
