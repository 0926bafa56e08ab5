import TemplateLang.Proofs.Grammar.Derivation
import TemplateLang.Proofs.RoundTrip.Boundary
import TemplateLang.Proofs.RoundTrip.Printed

/-!
# Expressions whose printed text can be read

`Written` lists the expressions that a layer of the grammar reads back from their printed
text, with the levels of nesting that the text takes.  There is one rule for each form that
the printer chooses, with the conditions under which the text of that form is read as it:
a word must not be reserved, a number alone must not stand before a point, and a call in
parentheses must have a callee without comments after it.

`Reads` is what reading back means for each layer.  The comments before an operand may have
been read with what precedes it, and more comments may follow it than are its own, so the
expression read is compared with the one printed up to the comments at both ends.
-/

namespace TemplateLang

namespace Grammar

open Cursor Print

/-! ## Printed forms -/

/-- The layers of the grammar in which a printed expression is read. -/
inductive Layer where
  | suffixed
  | unary
  | joined (levels : List (List InfixOp))
  | conditional
  | pipeline

/-- Keys that read back after a dot. -/
inductive DotKey : FieldKey → Prop where
  | name {word : String} (shaped : isWordShaped word.toList = true) : DotKey (.name word)
  | position {n : Nat} (small : n < 10 ^ 15) : DotKey (.position (Number.ofInt n))

/-- A number that is printed in digits alone. -/
def isWholeNumber : Expr → Bool
  | .number x _ => x.isWhole
  | _ => false

/-- No comment of a note would end early. -/
def ClosedNote (note : Note) : Prop :=
  (∀ c ∈ note.leading, c.Closed) ∧ ∀ c ∈ note.trailing, c.Closed

/-- The expressions that a layer reads back from their text, with the nesting it takes. -/
inductive Written : Nat → Layer → Expr → Prop where
  | null {room : Nat} {note : Note} (bare : note.isBare = true) :
      Written room .suffixed (.null note)
  | undefined {room : Nat} {note : Note} (bare : note.isBare = true) :
      Written room .suffixed (.undefined note)
  | boolean {room : Nat} {value : Bool} {note : Note} (bare : note.isBare = true) :
      Written room .suffixed (.boolean value note)
  | number {room : Nat} {value : Number} {note : Note} (bare : note.isBare = true)
      (rereads : value.Rereads) : Written room .suffixed (.number value note)
  | text {room : Nat} {value : String} {quote : Quote} {note : Note}
      (bare : note.isBare = true) : Written room .suffixed (.text value quote note)
  | identifier {room : Nat} {name : String} {note : Note} (bare : note.isBare = true)
      (shaped : isWordShaped name.toList = true) (free : isReserved name = false) :
      Written room .suffixed (.identifier name note)
  | array {room : Nat} {items : List Expr} {note : Note} (bare : note.isBare = true)
      (content : ∀ item ∈ items, Written room .conditional item) :
      Written room .suffixed (.array items note)
  | paren {room : Nat} {inner : Expr} {note : Note} (bare : note.isBare = true)
      (content : Written room .pipeline inner) : Written room .suffixed (.paren inner note)
  | field {room : Nat} {object : Expr} {key : FieldKey} {keySpan : Span} {note : Note}
      (bare : note.isBare = true) (start : Written room .suffixed object)
      (apart : isWholeNumber object = false) (dotKey : DotKey key) :
      Written room .suffixed (.field object key keySpan note)
  | position {room : Nat} {object : Expr} {index : Number} {keySpan : Span} {note : Note}
      (bare : note.isBare = true) (start : Written room .suffixed object)
      (notDot : isDotIndex index = false)
      (content : Written room .pipeline (.number index .blank)) :
      Written room .suffixed (.field object (.position index) keySpan note)
  | fixed {room : Nat} {object key : Expr} {fixed : FieldKey} {note : Note}
      (bare : note.isBare = true) (start : Written room .suffixed object)
      (apart : isWholeNumber object = false) (isFixed : fixedKey? key = some fixed)
      (dotKey : DotKey fixed) : Written room .suffixed (.item object key note)
  | item {room : Nat} {object key : Expr} {note : Note} (bare : note.isBare = true)
      (start : Written room .suffixed object) (notFixed : fixedKey? key = none)
      (content : Written room .pipeline key) : Written room .suffixed (.item object key note)
  | call {room : Nat} {callee : Expr} {arguments : List Expr} {note : Note}
      (bare : note.isBare = true) (start : Written room .suffixed callee)
      (content : ∀ argument ∈ arguments, Written room .conditional argument) :
      Written room .suffixed (.call callee arguments false note)
  | operand {room : Nat} {expr : Expr} {note : Note} (closed : ClosedNote note)
      (content : Written room .suffixed expr) : Written (room + 1) .unary (expr.withNote note)
  | updateAfter {room : Nat} {op : UpdateOp} {target : Expr} {note : Note}
      (closed : ClosedNote note) (content : Written room .suffixed target)
      (assignable : target.isAssignable = true) :
      Written (room + 1) .unary (.update op .after target note)
  | updateBefore {room : Nat} {op : UpdateOp} {target : Expr} {note : Note}
      (closed : ClosedNote note) (noTrailing : note.trailing = [])
      (content : Written room .unary target) (assignable : target.isAssignable = true) :
      Written (room + 1) .unary (.update op .before target note)
  | operator {room : Nat} {op : UnaryOp} {argument : Expr} {note : Note}
      (closed : ClosedNote note) (noTrailing : note.trailing = [])
      (content : Written room .unary argument) :
      Written (room + 1) .unary (.unary op argument note)
  | tightest {room : Nat} {expr : Expr} (content : Written room .unary expr) :
      Written room (.joined []) expr
  | looser {room : Nat} {tier : List InfixOp} {tighter : List (List InfixOp)} {expr : Expr}
      (content : Written room (.joined tighter) expr) :
      Written room (.joined (tier :: tighter)) expr
  | join {room : Nat} {tier : List InfixOp} {tighter : List (List InfixOp)} {op : InfixOp}
      {left right : Expr} {note : Note} (bare : note.isBare = true)
      (inTiers : tier :: tighter <:+ tiers) (isIn : op ∈ tier)
      (first : Written room (.joined (tier :: tighter)) left)
      (second : Written room (.joined tighter) right) :
      Written room (.joined (tier :: tighter)) (op.node left right note)
  | test {room : Nat} {expr : Expr} (content : Written room (.joined tiers) expr) :
      Written room .conditional expr
  | choice {room : Nat} {test consequent alternate : Expr} {note : Note}
      (bare : note.isBare = true) (start : Written room (.joined tiers) test)
      (first : Written room .conditional consequent)
      (second : Written room .conditional alternate) :
      Written room .conditional (.conditional test consequent alternate note)
  | plain {room : Nat} {expr : Expr} (content : Written room .conditional expr)
      (notSpread : expr.isSpread = false) : Written room .pipeline expr
  | floated {room : Nat} {callee : Expr} {arguments : List Expr} {note calleeNote : Note}
      (bare : note.isBare = true) (closed : ClosedNote calleeNote)
      (noTrailing : calleeNote.trailing = []) (start : Written room .suffixed callee)
      (content : ∀ argument ∈ arguments, Written room .conditional argument)
      (notCommand : Print.isCommand callee arguments = false) :
      Written (room + 1) .pipeline (.call (callee.withNote calleeNote) arguments false note)
  | command {room : Nat} {callee : Expr} {arguments : List Expr} {note : Note}
      (closed : ClosedNote note) (start : Written room .unary callee)
      (content : ∀ argument ∈ arguments, Written room .unary argument)
      (isCommand : Print.isCommand callee arguments = true) :
      Written room .pipeline (.call callee arguments false note)
  | pipe {room : Nat} {callee value : Expr} {extra : List Expr} {note calleeNote : Note}
      (bare : note.isBare = true) (closed : ClosedNote calleeNote)
      (start : Written room .pipeline value) (segment : Written room .suffixed callee)
      (content : ∀ argument ∈ extra, Written room .unary argument)
      (simple : (isSimpleCallee callee && extra.all isTight) = true) :
      Written room .pipeline (.call (callee.withNote calleeNote) (value :: extra) true note)
  | pipeEnclosed {room : Nat} {callee value : Expr} {extra : List Expr} {note : Note}
      (bare : note.isBare = true) (start : Written room .pipeline value)
      (segment : Written room .suffixed callee)
      (content : ∀ argument ∈ extra, Written room .conditional argument)
      (notSimple : (isSimpleCallee callee && extra.all isTight) = false) :
      Written room .pipeline (.call callee (value :: extra) true note)

/-! ## What is read -/

/-- The same expression but for spans and the forms of keys, with the same text. -/
structure Echoes (top : Bool) (expr expr' : Expr) : Prop where
  bare : expr'.bare = expr.bare
  text : chars top expr' = chars top expr
  comments : expr'.comments.length = expr.comments.length

/-- The text of an expression is some comments and a body that opens as an operand. -/
structure Spelled (top : Bool) (expr : Expr) (before : List Comment) (body : List Char) :
    Prop where
  text : chars top expr = leading before ++ body
  closed : ∀ c ∈ before, c.Closed
  opens : Opens body

/-- What is read of the body of an expression, with the comments `before'` read ahead of it
and `after'` behind it. -/
structure Reread (top : Bool) (expr : Expr) (before : List Comment) (body : List Char)
    (before' after' : List Comment) (expr' : Expr) : Prop where
  bare : expr'.bare = expr.bare
  text : chars top expr' = leading before' ++ body ++ trailing after'
  comments : expr'.comments.length + before.length =
    before'.length + expr.comments.length + after'.length

/-- A setting with the standard delimiters and some levels of nesting left. -/
def Standard (setting : Setting) (room : Nat) : Prop :=
  setting.tags = Delimiters.standard ∧ setting.room = room

/-- An expression read up to a place at which suffixes may follow. -/
def Suffixable (setting : Setting) (expr : Expr) (start stop : Cursor) : Prop :=
  ∀ whole next, Derives setting (.suffixes expr whole) stop next →
    Derives setting (.suffixed whole) start next

/-- Operands read up to a place at which more operators of the loosest of the tiers may
follow. -/
def Joins (setting : Setting) (expr : Expr) (cursor next : Cursor) :
    List (List InfixOp) → Prop
  | [] => Derives setting (.joined [] expr) cursor next
  | tier :: tighter => ∀ whole last, Derives setting (.infixes tier tighter expr whole) next last →
    Derives setting (.joined (tier :: tighter) whole) cursor last

/-- A value read up to a place at which pipes may follow. -/
def Pipeable (setting : Setting) (expr : Expr) (cursor next : Cursor) : Prop :=
  ∀ whole last, Derives setting (.pipes expr whole) next last →
    Derives setting (.pipeline whole) cursor last

/-- The expression is read with suffixes from its text, which has no comment at its ends. -/
structure ReadsSuffixed (room : Nat) (expr : Expr) : Prop where
  bare : expr.note.isBare = true
  opens : ∃ c rest, chars false expr = c :: rest ∧ startsPrimary c = true
  reads : ∀ {setting start stop}, Standard setting room →
    start.Crosses (chars false expr) stop → stop.Apart →
    (isWholeNumber expr = true → stop.isAt ['.'] = false) →
    ∃ expr', expr'.note.isBare = true ∧ Echoes false expr expr' ∧
      Suffixable setting expr' start stop

/-- The expression is read from the body of its text up to where `Ends` holds, with comments
at both ends, so that `Read` holds of what is read. -/
def ReadsBody (room : Nat) (top : Bool) (expr : Expr) (before : List Comment) (body : List Char)
    (Ends : Setting → List Comment → Cursor → Prop)
    (Read : Setting → Expr → Cursor → Cursor → Prop) : Prop :=
  Spelled top expr before body ∧
    ∀ {setting cursor before' after next}, Standard setting room →
      cursor.Lies before' body after next → Ends setting after next →
      ∃ expr', Read setting expr' cursor next ∧ Reread top expr before body before' after expr'

/-- A layer reads an expression from its text. -/
def Reads (room : Nat) : Layer → Expr → Prop
  | .suffixed, expr => ReadsSuffixed room expr
  | .unary, expr => ∃ before body,
    ReadsBody room false expr before body (fun _ _ _ => True)
      (fun setting expr' cursor next => Derives setting (.unary expr') cursor next) ∧
    (isSigned expr = false → Unsigned body)
  | .joined levels, expr => ∃ before body,
    ReadsBody room false expr before body
      (fun setting _ next => ∀ tier ∈ levels.tail, infixOp? setting tier next.rest = none)
      (fun setting expr' cursor next => Joins setting expr' cursor next levels)
  | .conditional, expr => ∃ before body,
    ReadsBody room false expr before body (fun setting _ next => EndsConditional setting next)
      (fun setting expr' cursor next => Derives setting (.conditional expr') cursor next)
  | .pipeline, expr => ∃ before body,
    ReadsBody room true expr before body
      (fun setting after next => after = [] ∧ EndsCommand setting next) Pipeable

/-! ## Comparing what is read -/

theorem Echoes.withNote {top : Bool} {expr : Expr} {note : Note} (bare : expr.note.isBare = true)
    (bare' : note.isBare = true) : Echoes top expr (expr.withNote note) := by
  have bareNote : (expr.withNote note).note.isBare = true := by rwa [Expr.note_withNote]
  obtain ⟨noLeading, noTrailing⟩ : note.leading = [] ∧ note.trailing = [] := by
    simpa [Note.isBare] using bare'
  refine ⟨expr.bare_withNote note, ?_, ?_⟩
  · rw [chars_of_bare _ bareNote, chars_of_bare _ bare, core_withNote]
  · rw [Expr.comments_withNote_length note bare, noLeading, noTrailing]
    simp

/-- Nothing is lost of an expression with its own comments around it. -/
theorem Reread.echoes {top : Bool} {expr expr' : Expr} {before before' : List Comment}
    {body : List Char} (spelled : Spelled top expr before body) (alike : Alike before before')
    (reread : Reread top expr before body before' [] expr') : Echoes top expr expr' := by
  refine ⟨reread.bare, ?_, ?_⟩
  · rw [reread.text, spelled.text, alike.leading_eq, trailing_nil, List.append_nil]
  · have lengths := reread.comments
    rw [alike.length_eq] at lengths
    simp only [List.length_nil] at lengths
    omega

/-- Expressions in a list are read one by one. -/
abbrev EchoesAll : List Expr → List Expr → Prop :=
  List.Forall₂ (Echoes false)

variable {exprs exprs' : List Expr}

theorem EchoesAll.bareAll_eq (echoes : EchoesAll exprs exprs') :
    bareAll exprs' = bareAll exprs := by
  induction echoes with
  | nil => rfl
  | cons first _ ih => rw [bareAll, bareAll, first.bare, ih]

theorem EchoesAll.comments_eq (echoes : EchoesAll exprs exprs') :
    (exprComments exprs').length = (exprComments exprs).length := by
  induction echoes with
  | nil => rfl
  | cons first _ ih => simp [exprComments, first.comments, ih]

theorem EchoesAll.listed_eq (echoes : EchoesAll exprs exprs') : listed exprs' = listed exprs := by
  induction echoes with
  | nil => rfl
  | @cons expr expr' _ _ first others ih =>
    cases others with
    | nil => exact first.text
    | @cons second second' rest rest' =>
      rw [listed_cons expr' (List.cons_ne_nil second' rest'),
        listed_cons expr (List.cons_ne_nil second rest), first.text, ih]

end Grammar

end TemplateLang
