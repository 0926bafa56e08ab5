import TemplateLang.Grammar.Expression

/-!
# The grammar of templates

A template is read element by element: raw text up to the next opening mark, or
a tag with its statement.  Block statements read the elements of their bodies,
which end before the tag of an `else` or `end`; both readers are tied as those of
expressions are.  Reading stops at the first error.
-/

namespace TemplateLang

namespace Grammar

/-- The readers of what is inside a block. -/
structure Blocks where
  body : Setting → List String → Cursor → Reading (List Element × Cursor)
  branch : Setting → Cursor → Reading (Branch × Cursor)

/-! ## Names -/

/-- A name and `:=` after it, if both are there: the name, and the place after
them. -/
def declaration? (cursor : Cursor) : Option (Identifier × Cursor) :=
  match cursor.peekWord? with
  | some word =>
    let afterName := cursor.skipWord
    let afterBlanks := afterName.skipBlanks
    if afterBlanks.isAt [':', '='] then
      some (⟨word, cursor.spanTo afterName⟩, afterBlanks.skip 2)
    else none
  | none => none

/-- A name that a loop binds.  `missing` is the fault of there being none. -/
def binding (missing : Fault) (cursor : Cursor) : Reading (Identifier × Cursor) :=
  match cursor.peekWord? with
  | some word =>
    let next := cursor.skipWord
    let span := cursor.spanTo next
    if isReserved word then .error (.hard (.reservedWord word) span)
    else .ok (⟨word, span⟩, next)
  | none => .error (.hard missing cursor.nextSpan)

/-! ## Blocks -/

/-- Whether a tag starts here whose first word is one of those that stop a body. -/
def atBlockWord (setting : Setting) (stops : List String) (cursor : Cursor) : Bool :=
  match openingTag setting cursor with
  | .ok (_, next) =>
    match next.peekWord? with
    | some word => stops.contains word
    | none => false
  | .error _ => false

/-- The opening end of the tag that ends a body, and the word in it.  A body ends
at such a tag or at the end of the text. -/
def blockWord (setting : Setting) (keyword : Span) (cursor : Cursor) :
    Reading ((Tag × String) × Cursor) :=
  if cursor.rest.isEmpty then .error (.hard (.missingEnd setting.tags) keyword)
  else do
    let (opening, next) ← openingTag setting cursor
    .ok ((opening, (next.peekWord?).getD ""), next.skipWord)

/-- What comes after the body of a condition: an `else` with its body, another
condition, or the end. -/
def alternate (blocks : Blocks) (setting : Setting) (keyword : Span) (cursor : Cursor) :
    Reading (Alternate × Cursor) := do
  let ((opening, word), next) ← blockWord setting keyword cursor
  if word = "end" then .ok (.done opening, next)
  else
    let next := next.skipBlanks
    if next.peekWord? = some "if" then
      let (branch, next) ← blocks.branch setting next
      .ok (.chain opening branch, next)
    else
      let (closing, next) ← requireClosing setting next
      let (body, next) ← blocks.body setting ["end"] next
      let ((endOpening, _), next) ← blockWord setting keyword next
      .ok (.otherwise opening closing body endOpening, next)

/-- A condition from its `if` on. -/
def branch (blocks : Blocks) (setting : Setting) (cursor : Cursor) :
    Reading (Branch × Cursor) := do
  let afterWord := cursor.skipWord
  let keyword := cursor.spanTo afterWord
  let (test, next) ← (expression setting afterWord).commit (.missingExpressionAfter "if")
  let (closing, next) ← requireClosing setting next
  let (body, next) ← blocks.body setting ["else", "end"] next
  let (alternate, next) ← alternate blocks setting keyword next
  .ok (.mk test closing body alternate (cursor.spanTo next), next)

/-- The index variable of a loop, after a comma. -/
def indexBinding (cursor : Cursor) : Reading (Option Identifier × Cursor) :=
  if cursor.isAt [','] then do
    let (index, next) ← binding .missingIndexVariable (cursor.skip 1).skipBlanks
    .ok (some index, next.skipBlanks)
  else .ok (none, cursor)

/-- The word between the variables of a loop and what it runs over. -/
def requireIn (cursor : Cursor) : Except Failure Cursor :=
  match cursor.expectWord ['i', 'n'] with
  | .ok next => .ok next
  | .error span => .error (.hard .missingIn span)

/-- A loop from its `for` on. -/
def loop (blocks : Blocks) (setting : Setting) (cursor : Cursor) :
    Reading (Statement × Cursor) := do
  let afterWord := cursor.skipWord
  let keyword := cursor.spanTo afterWord
  let (value, next) ← binding .missingLoopVariable afterWord.skipBlanks
  let (index, next) ← indexBinding next.skipBlanks
  let next ← requireIn next
  let (iterable, next) ← (expression setting next).commit .missingIterable
  let (closing, next) ← requireClosing setting next
  let (body, next) ← blocks.body { setting with inLoop := true } ["end"] next
  let ((endOpening, _), next) ← blockWord setting keyword next
  .ok (.loop value index iterable closing body endOpening (cursor.spanTo next), next)

/-! ## Statements -/

/-- A word that leaves a loop or goes to its next round, which a loop must
enclose. -/
def loopControl (setting : Setting) (cursor : Cursor) (word : String)
    (statement : Span → Statement) : Reading (Statement × Cursor) :=
  let next := cursor.skipWord
  let span := cursor.spanTo next
  if setting.inLoop then .ok (statement span, next)
  else .error (.hard (.outsideLoop word) span)

/-- The assignment of a value to a declared name. -/
def assignment (setting : Setting) (target : Identifier) (cursor : Cursor) :
    Reading (Statement × Cursor) :=
  if isReserved target.name then .error (.hard (.reservedWord target.name) target.span)
  else do
    let (value, next) ← (expression setting cursor).commit (.missingExpressionAfter ":=")
    .ok (.assign target value (target.span.union value.span), next)

/-- What a tag does.  A tag may hold nothing. -/
def statement (blocks : Blocks) (setting : Setting) (cursor : Cursor) :
    Reading (Statement × Cursor) :=
  if setting.atClosing cursor.rest then .ok (.empty, cursor)
  else
    match declaration? cursor with
    | some (target, next) => assignment setting target next
    | none =>
      match cursor.peekWord? with
      | some "if" => do
        let (branch, next) ← branch blocks setting cursor
        .ok (.branch branch, next)
      | some "for" => loop blocks setting cursor
      | some "break" => loopControl setting cursor "break" .breakLoop
      | some "continue" => loopControl setting cursor "continue" .continueLoop
      | some "else" => .error (.hard (.strayBlockWord "else") (cursor.spanTo cursor.skipWord))
      | some "end" => .error (.hard (.strayBlockWord "end") (cursor.spanTo cursor.skipWord))
      | _ => do
        let (expr, next) ← expression setting cursor
        .ok (.expression expr, next)

/-! ## Elements -/

/-- Raw text up to the next opening mark.  A closing mark in it is text. -/
def raw (setting : Setting) (cursor : Cursor) : Element × Cursor :=
  let opening := setting.tags.opening.toList
  let text :=
    if opening.isEmpty then cursor.rest
    else match cutBefore? opening cursor.rest with
      | some (front, _) => front
      | none => cursor.rest
  let next := cursor.skip text.length
  (.raw (String.ofList text) (cursor.spanTo next), next)

/-- A tag: its opening end, its statement and its closing end. -/
def tag (blocks : Blocks) (setting : Setting) (cursor : Cursor) :
    Reading (Element × Cursor) := do
  let (opening, next) ← openingTag setting cursor
  let (statement, next) ← statement blocks setting next
  let (closing, next) ← requireClosing setting next
  .ok (.tag opening statement closing (cursor.spanTo next), next)

/-- A tag where an opening mark stands, else raw text. -/
def element (blocks : Blocks) (setting : Setting) (cursor : Cursor) :
    Reading (Element × Cursor) :=
  if Cursor.startsWithMark cursor.rest setting.tags.opening.toList then
    tag blocks setting cursor
  else .ok (raw setting cursor)

/-- One more element, or the end of them: the end of the text, or a tag with one
of the words that stop. -/
def elementRound (blocks : Blocks) (setting : Setting) (stops : List String)
    (elements : List Element) (cursor : Cursor) :
    Reading (Reading.Round (List Element) (List Element) × Cursor) :=
  if cursor.rest.isEmpty || atBlockWord setting stops cursor then .ok (.done elements, cursor)
  else do
    let (element, next) ← element blocks setting cursor
    .ok (.again (elements ++ [element]), next)

/-- Elements up to a tag with one of the words that stop. -/
def elements (blocks : Blocks) (setting : Setting) (stops : List String) (cursor : Cursor) :
    Reading (List Element × Cursor) :=
  Reading.loop (elementRound blocks setting stops) [] cursor

/-- The elements of a body, one level of nesting deeper. -/
def body (blocks : Blocks) (setting : Setting) (stops : List String) (cursor : Cursor) :
    Reading (List Element × Cursor) :=
  setting.nested cursor fun setting => elements blocks setting stops cursor

/-- The readers of what is inside a block, for at most `fuel` levels. -/
def blocksOf : Nat → Blocks
  | 0 =>
    { body := fun _ _ _ => .error .exhausted
      branch := fun _ _ => .error .exhausted }
  | fuel + 1 =>
    { body := fun setting stops cursor => body (blocksOf fuel) setting stops cursor
      branch := fun setting cursor => branch (blocksOf fuel) setting cursor }

/-- The elements of a whole source. -/
def source (tags : Delimiters) (text : List Char) : Reading (List Element × Cursor) :=
  elements (blocksOf (text.length + 1)) (Setting.initial tags) [] (Cursor.ofSource text)

/-- An expression that is a whole text. -/
def wholeExpression (text : List Char) : Reading (Expr × Cursor) := do
  let setting := Setting.initial Delimiters.standard
  let (expr, next) ← expression setting (Cursor.ofSource text)
  let stop := next.skipBlanks
  if stop.rest.isEmpty then .ok (expr, stop)
  else .error (.hard (.unexpected stop.rest.head?) stop.nextSpan)

end Grammar

/-- The diagnostic of a failure.  Running out of rounds, which no reader does, has
none of its own. -/
def Failure.diagnostic : Failure → Diagnostic
  | .soft fault span | .hard fault span => fault.diagnostic span
  | .exhausted => (Fault.unexpected none).diagnostic (Span.point 0)

/-- Read a template, up to its first error. -/
def parse (tags : Delimiters) (text : List Char) : Except Diagnostic Template :=
  match Grammar.source tags text with
  | .ok (elements, _) => .ok ⟨elements⟩
  | .error failure => .error failure.diagnostic

/-- Read an expression as it is written inside a tag. -/
def parseExpression (text : List Char) : Except Diagnostic Expr :=
  match Grammar.wholeExpression text with
  | .ok (expr, _) => .ok expr
  | .error failure => .error failure.diagnostic

end TemplateLang
