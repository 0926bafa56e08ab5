import TemplateLang.Grammar.Basic

/-!
# The grammar of expressions

From the loosest binding to the tightest: pipes `a | f b`, commands `f a b`,
conditionals `a ? b : c`, six tiers of operators between operands, operators in
front of an operand, updates `++a` and `a--`, members and calls `a.b`, `a[b]`,
`a(b)`, and last literals, variables, parentheses and arrays.

Each layer is written in terms of the tighter ones.  Where the grammar goes up
again, inside brackets, after a prefix and in the arms of a conditional, it uses
the readers in an `Inner`.  Those are tied by counting how often the grammar has
gone up; it does so only past a character, so the length of the text bounds it.
-/

namespace TemplateLang

namespace Grammar

/-- The readers of the expressions inside other expressions. -/
structure Inner where
  pipeline : Setting → Cursor → Reading (Expr × Cursor)
  conditional : Setting → Cursor → Reading (Expr × Cursor)
  unary : Setting → Cursor → Reading (Expr × Cursor)

/-! ## Primary expressions -/

/-- An item of a bracketed list, or its end.  A comma may stand before the end. -/
def listRound (inner : Inner) (setting : Setting) (close : Char) (items : List Expr)
    (cursor : Cursor) : Reading (Reading.Round (List Expr) (List Expr) × Cursor) :=
  let cursor := cursor.skipBlanks
  let missing := Fault.missing close.toString
  if cursor.isAt [close] then .ok (.done items, cursor.skip 1)
  else do
    let (item, cursor) ← (inner.conditional setting cursor).commit missing
    if cursor.isAt [','] then .ok (.again (items ++ [item]), cursor.skip 1)
    else
      let cursor ← requireChar close missing cursor
      .ok (.done (items ++ [item]), cursor)

/-- Conditionals with commas between, up to and with the closing bracket. -/
def list (inner : Inner) (setting : Setting) (close : Char) (cursor : Cursor) :
    Reading (List Expr × Cursor) :=
  Reading.loop (listRound inner setting close) [] cursor

/-- A word as an expression; reserved words other than the constants are none. -/
def wordExpr (cursor : Cursor) (word : String) : Reading (Expr × Cursor) :=
  let next := cursor.skipWord
  let note := Note.at (cursor.spanTo next)
  if word = "null" then .ok (.null note, next)
  else if word = "undefined" then .ok (.undefined note, next)
  else if word = "true" then .ok (.boolean true note, next)
  else if word = "false" then .ok (.boolean false note, next)
  else if isReserved word then .error (.soft (.reservedWord word) (cursor.spanTo next))
  else .ok (.identifier word note, next)

/-- A literal that is no word. -/
def literal (cursor : Cursor) : Reading (Expr × Cursor) :=
  match Literal.quote? cursor with
  | some _ => do
    let absent := Failure.soft (.expressionExpected cursor.rest.head?) cursor.nextSpan
    let ((value, quote), next) ← Reading.ofScan absent (Literal.string cursor)
    .ok (.text value quote (Note.at (cursor.spanTo next)), next)
  | none => do
    let absent := Failure.soft (.expressionExpected cursor.rest.head?) cursor.nextSpan
    let (value, next) ← Reading.ofScan absent (Literal.number cursor)
    .ok (.number value (Note.at (cursor.spanTo next)), next)

/-- A primary expression. -/
def primary (inner : Inner) (setting : Setting) (cursor : Cursor) : Reading (Expr × Cursor) :=
  if cursor.isAt ['('] then do
    let (expr, next) ←
      (inner.pipeline setting (cursor.skip 1)).commit (.missingExpressionAfter "(")
    let next ← requireChar ')' (.missing ")") next
    .ok (.paren expr (Note.at (cursor.spanTo next)), next)
  else if cursor.isAt ['['] then do
    let (items, next) ← list inner setting ']' (cursor.skip 1)
    .ok (.array items (Note.at (cursor.spanTo next)), next)
  else
    match cursor.peekWord? with
    | some word => wordExpr cursor word
    | none => literal cursor

/-! ## Members and calls -/

/-- The key after a dot. -/
def fieldKey (cursor : Cursor) : Reading (FieldKey × Cursor) :=
  match cursor.peekWord? with
  | some word => .ok (.name word, cursor.skipWord)
  | none =>
    let digits := Literal.decimalDigits cursor
    if digits.isEmpty then .error (.hard .missingProperty cursor.nextSpan)
    else
      .ok (.position (Number.ofDecimal false ⟨naturalOfDigits 10 digits, 0⟩),
        cursor.skip digits.length)

/-- One suffix, which directly follows the expression before it. -/
def suffixRound (inner : Inner) (setting : Setting) (expr : Expr) (cursor : Cursor) :
    Reading (Reading.Round Expr Expr × Cursor) :=
  let note (next : Cursor) := Note.at (Span.between expr.span.start next.offset)
  if cursor.isAt ['.'] then do
    let start := cursor.skip 1
    let (key, next) ← fieldKey start
    .ok (.again (.field expr key (start.spanTo next) (note next)), next)
  else if cursor.isAt ['['] then do
    let (key, next) ←
      (inner.pipeline setting (cursor.skip 1)).commit (.missingExpressionAfter "[")
    let next ← requireChar ']' (.missing "]") next
    .ok (.again (.item expr key (note next)), next)
  else if cursor.isAt ['('] then do
    let (arguments, next) ← list inner setting ')' (cursor.skip 1)
    .ok (.again (.call expr arguments false (note next)), next)
  else .ok (.done expr, cursor)

/-- A primary expression with its suffixes. -/
def suffixed (inner : Inner) (setting : Setting) (cursor : Cursor) : Reading (Expr × Cursor) := do
  let (expr, next) ← primary inner setting cursor
  Reading.loop (suffixRound inner setting) expr next

/-! ## Operators of one operand -/

/-- The update operator at the front of a text.  A minus that trims a closing mark
is part of that mark. -/
def updateOp? (setting : Setting) : List Char → Option UpdateOp
  | '+' :: '+' :: _ => some .increment
  | '-' :: '-' :: rest => if setting.atClosing ('-' :: rest) then none else some .decrement
  | _ => none

/-- The fault of an update whose target is neither a variable nor a member. -/
def requireAssignable (place : UpdatePlace) (target : Expr) : Except Failure Unit :=
  if target.isAssignable then .ok ()
  else .error (.hard (.invalidTarget place) target.span)

/-- An update operator before or after its target, or neither. -/
def bareUpdate (inner : Inner) (setting : Setting) (cursor : Cursor) : Reading (Expr × Cursor) :=
  match updateOp? setting cursor.rest with
  | some op => do
    let (target, next) ←
      (inner.unary setting (cursor.skip 2)).commit (.missingExpressionAfter op.symbol)
    requireAssignable .before target
    let note := Note.at (Span.between cursor.offset target.span.stop)
    .ok (.update op .before target note, next)
  | none => do
    let (target, next) ← suffixed inner setting cursor
    match updateOp? setting next.rest with
    | some op =>
      requireAssignable .after target
      let next := next.skip 2
      .ok (.update op .after target (Note.at (cursor.spanTo next)), next)
    | none => .ok (target, next)

/-- An update and the comments after it. -/
def update (inner : Inner) (setting : Setting) (cursor : Cursor) : Reading (Expr × Cursor) := do
  let (expr, next) ← bareUpdate inner setting cursor
  let (comments, next) ← trivia next
  .ok (expr.addTrailing comments, next)

/-- The operator before an operand at the front of a text.  Two signs are an
update, `!=` compares, and a minus that trims a closing mark is part of that
mark. -/
def unaryOp? (setting : Setting) : List Char → Option UnaryOp
  | '+' :: rest => if rest.head? = some '+' then none else some .plus
  | '-' :: rest =>
    if rest.head? = some '-' || setting.atClosing ('-' :: rest) then none else some .minus
  | '~' :: _ => some .complement
  | '!' :: rest => if rest.head? = some '=' then none else some .negate
  | _ => none

/-- Comments, and an operand with the operators before it. -/
def prefixed (inner : Inner) (setting : Setting) (cursor : Cursor) : Reading (Expr × Cursor) := do
  let (comments, start) ← trivia cursor
  let (expr, next) ← match unaryOp? setting start.rest with
    | some op => do
      let (argument, next) ←
        (inner.unary setting (start.skip 1)).commit (.missingExpressionAfter op.symbol)
      let note := Note.at (Span.between start.offset argument.span.stop)
      .ok (.unary op argument note, next)
    | none => update inner setting start
  .ok (expr.addLeading comments, next)

/-- An operand.  Every bracket and every operator before an operand passes here, so
this is where the nesting of expressions is counted. -/
def unary (inner : Inner) (setting : Setting) (cursor : Cursor) : Reading (Expr × Cursor) :=
  setting.nested cursor fun setting => prefixed inner setting cursor

/-! ## Operators between operands -/

/-- An operator between two operands. -/
inductive InfixOp where
  | binary (op : BinaryOp)
  | logical (op : LogicalOp)
deriving DecidableEq, Repr

def InfixOp.symbol : InfixOp → String
  | binary op => op.symbol
  | logical op => op.symbol

/-- Two operands joined by an operator. -/
def InfixOp.join (op : InfixOp) (left right : Expr) : Expr :=
  let note := Note.at (left.span.union right.span)
  match op with
  | binary op => .binary op left right note
  | logical op => .logical op left right note

/-- The operators in tiers, the loosest first.  Within a tier the first that
matches counts. -/
def tiers : List (List InfixOp) :=
  [[.logical .or], [.logical .and],
    [.binary .equal, .binary .notEqual],
    [.binary .lessEqual, .binary .greaterEqual, .binary .less, .binary .greater],
    [.binary .add, .binary .subtract],
    [.binary .multiply, .binary .divide, .binary .remainder]]

/-- The operator of a tier at the front of a text.  Neither a closing mark nor a
comment is split for one. -/
def infixOp? (setting : Setting) (tier : List InfixOp) (text : List Char) : Option InfixOp :=
  if setting.atClosing text || Literal.commentOpening.isPrefixOf text then none
  else tier.find? fun op => op.symbol.toList.isPrefixOf text

/-- One more operator of a tier with its right operand. -/
def infixRound (setting : Setting) (tier : List InfixOp)
    (operand : Cursor → Reading (Expr × Cursor)) (left : Expr) (cursor : Cursor) :
    Reading (Reading.Round Expr Expr × Cursor) :=
  match infixOp? setting tier cursor.rest with
  | some op => do
    let (right, next) ← (operand (cursor.skip op.symbol.length)).commit
      (.missingExpressionAfter op.symbol)
    .ok (.again (op.join left right), next)
  | none => .ok (.done left, cursor)

/-- Operands joined by the operators of some tiers, each from left to right. -/
def joined (inner : Inner) (setting : Setting) :
    List (List InfixOp) → Cursor → Reading (Expr × Cursor)
  | [], cursor => unary inner setting cursor
  | tier :: tighter, cursor => do
    let (left, next) ← joined inner setting tighter cursor
    Reading.loop (infixRound setting tier (joined inner setting tighter)) left next

/-- A conditional, or its condition alone. -/
def conditional (inner : Inner) (setting : Setting) (cursor : Cursor) :
    Reading (Expr × Cursor) := do
  let (test, next) ← joined inner setting tiers cursor
  if next.isAt ['?'] then
    let (consequent, next) ←
      (inner.conditional setting (next.skip 1)).commit (.missingExpressionAfter "?")
    let next ← requireChar ':' .missingColon next
    let (alternate, next) ←
      (inner.conditional setting next).commit (.missingExpressionAfter ":")
    let note := Note.at (test.span.union alternate.span)
    .ok (.conditional test consequent alternate note, next)
  else .ok (test, next)

/-! ## Commands and pipes -/

/-- Whether a text can begin an argument of a command. -/
def atArgument (setting : Setting) (text : List Char) : Bool :=
  if setting.atClosing text then false
  else
    match text with
    | [] => false
    | c :: rest =>
      if isWordStart c || c.isDigit then true
      else if c = '.' then (rest.head?.map Char.isDigit).getD false
      else if c = '!' then rest.head? != some '='
      else ['"', '\'', '(', '[', '~', '+', '-'].contains c

/-- One more argument, or the end of them. -/
def argumentRound (inner : Inner) (setting : Setting) (arguments : List Expr)
    (cursor : Cursor) : Reading (Reading.Round (List Expr) (List Expr) × Cursor) :=
  if atArgument setting cursor.rest then
    match unary inner setting cursor with
    | .ok (argument, next) => .ok (.again (arguments ++ [argument]), next)
    | .error (.soft _ _) => .ok (.done arguments, cursor)
    | .error failure => .error failure
  else .ok (.done arguments, cursor)

/-- Arguments with blanks between. -/
def arguments (inner : Inner) (setting : Setting) (cursor : Cursor) :
    Reading (List Expr × Cursor) :=
  Reading.loop (argumentRound inner setting) [] cursor

/-- A conditional, or a command if arguments follow something that can be called. -/
def command (inner : Inner) (setting : Setting) (cursor : Cursor) : Reading (Expr × Cursor) := do
  let (head, next) ← conditional inner setting cursor
  if head.isCallable && atArgument setting next.rest then
    let (extra, next) ← arguments inner setting next
    .ok (head.command extra, next)
  else .ok (head, next)

/-- Whether a pipe begins a text. -/
def atPipe (setting : Setting) (text : List Char) : Bool :=
  match text with
  | '|' :: rest => rest.head? != some '|' && !setting.atClosing text
  | _ => false

/-- One more segment of a pipe. -/
def pipeRound (inner : Inner) (setting : Setting) (value : Expr) (cursor : Cursor) :
    Reading (Reading.Round Expr Expr × Cursor) :=
  if atPipe setting cursor.rest then do
    let (leading, next) ← trivia (cursor.skip 1)
    let (segment, next) ←
      (suffixed inner setting next).commit (.missingExpressionAfter "|")
    let (trailing, next) ← trivia next
    let segment := segment.withNote ⟨segment.span, leading, trailing⟩
    let (extra, next) ← arguments inner setting next
    .ok (.again (value.pipeInto segment extra), next)
  else .ok (.done value, cursor)

/-- A command and the segments it is piped through. -/
def pipeline (inner : Inner) (setting : Setting) (cursor : Cursor) : Reading (Expr × Cursor) := do
  let (head, next) ← command inner setting cursor
  Reading.loop (pipeRound inner setting) head next

/-! ## Tying the layers -/

/-- The readers of inner expressions that may go up `fuel` more times. -/
def innerOf : Nat → Inner
  | 0 =>
    { pipeline := fun _ _ => .error .exhausted
      conditional := fun _ _ => .error .exhausted
      unary := fun _ _ => .error .exhausted }
  | fuel + 1 =>
    { pipeline := fun setting cursor => pipeline (innerOf fuel) setting cursor
      conditional := fun setting cursor => conditional (innerOf fuel) setting cursor
      unary := fun setting cursor => unary (innerOf fuel) setting cursor }

/-- An expression of a tag, as loosely bound as it may be. -/
def expression (setting : Setting) (cursor : Cursor) : Reading (Expr × Cursor) :=
  pipeline (innerOf (cursor.room + 1)) setting cursor

end Grammar

end TemplateLang
