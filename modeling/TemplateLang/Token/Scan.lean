import TemplateLang.Syntax.Literal
import TemplateLang.Token.Basic

/-!
# Splitting a template into tokens

The tokenizer walks through a source text, in turn outside and inside of tags.
It goes on after an error, past the offending character if nothing else was
read, and so reports every error in one pass.  A source without errors has a list
of tokens that ends in one for the end of the text.
-/

namespace TemplateLang

/-- What the tokenizer has so far, newest first, and the span of the opening mark
of the tag it is in. -/
structure TokenState where
  tokens : List Token
  diagnostics : List Diagnostic
  openTag : Option Span
deriving Repr

namespace TokenState

/-- Nothing read yet, outside of any tag. -/
def initial : TokenState :=
  ⟨[], [], none⟩

/-- Add a token. -/
def push (state : TokenState) (lexeme : Lexeme) (span : Span) : TokenState :=
  { state with tokens := ⟨lexeme, span⟩ :: state.tokens }

/-- Add a diagnostic. -/
def report (state : TokenState) (fault : Fault) (span : Span) : TokenState :=
  { state with diagnostics := fault.diagnostic span :: state.diagnostics }

/-- Report the tag that is open, if one is. -/
def reportOpen (state : TokenState) : TokenState :=
  match state.openTag with
  | some span => state.report .unclosedTag span
  | none => state

end TokenState

namespace Tokenizer

/-- Where a text outside of tags ends: before the first mark of either kind. -/
def textLength (tags : Delimiters) (text : List Char) : Nat :=
  let before (mark : String) : Nat :=
    if mark.isEmpty then text.length
    else match cutBefore? mark.toList text with
      | some (front, _) => front.length
      | none => text.length
  min (before tags.opening) (before tags.closing)

/-- Read an opening mark with its trim marker. -/
def openTag (tags : Delimiters) (state : TokenState) (cursor : Cursor) : TokenState × Cursor :=
  let afterMark := cursor.skip tags.opening.length
  let trims := afterMark.isAt ['-']
  let next := if trims then afterMark.skip 1 else afterMark
  let span := cursor.spanTo next
  ({ state.push (.opening trims) span with openTag := some span }, next)

/-- A step outside of tags: an opening mark, a stray closing mark, or text. -/
def outsideStep (tags : Delimiters) (state : TokenState) (cursor : Cursor) :
    TokenState × Cursor :=
  if Cursor.startsWithMark cursor.rest tags.opening.toList then openTag tags state cursor
  else if Cursor.startsWithMark cursor.rest tags.closing.toList then
    let next := cursor.skip tags.closing.length
    (state.report .unopenedTag (cursor.spanTo next), next)
  else
    let next := cursor.skip (textLength tags cursor.rest)
    let text := cursor.rest.take (textLength tags cursor.rest)
    (state.push (.text (String.ofList text)) (cursor.spanTo next), next)

/-- A word as a token. -/
def word (cursor : Cursor) : Scan Lexeme :=
  match cursor.peekWord? with
  | some name => .found (.ofWord name) cursor.skipWord
  | none => .absent

/-- A punctuator as a token. -/
def punctuator (cursor : Cursor) : Scan Lexeme :=
  match Punctuator.at? cursor.rest with
  | some p => .found (.punctuator p) (cursor.skip p.symbol.length)
  | none => .absent

/-- One token inside of a tag. -/
def lexeme (cursor : Cursor) : Scan Lexeme :=
  ((Literal.comment cursor).map fun comment => .comment comment.body)
    |>.orElse ((Literal.string cursor).map fun (value, quote) => .string value quote)
    |>.orElse ((Literal.number cursor).map .number)
    |>.orElse (word cursor)
    |>.orElse (punctuator cursor)

/-- A step inside of a tag, at a character that is no blank: an opening mark, which
leaves a tag unclosed, the closing mark, a minus before a trimmed closing mark,
or a token. -/
def insideStep (tags : Delimiters) (state : TokenState) (cursor : Cursor) :
    TokenState × Cursor :=
  let closing := tags.closing.toList
  let trims := Cursor.startsWithTrimmed cursor.rest closing
  if Cursor.startsWithMark cursor.rest tags.opening.toList then
    openTag tags state.reportOpen cursor
  else if trims || Cursor.startsWithMark cursor.rest closing then
    let next := cursor.skip (closing.length + if trims then 1 else 0)
    ({ state.push (.closing trims) (cursor.spanTo next) with openTag := none }, next)
  else if cursor.isAt ['-', '-'] && Cursor.startsWithTrimmed (cursor.rest.drop 1) closing then
    let next := cursor.skip 1
    (state.push (.punctuator .minus) (cursor.spanTo next), next)
  else
    match lexeme cursor with
    | .found lexeme next => (state.push lexeme (cursor.spanTo next), next)
    | .absent => (state.report (.unexpectedCharacter cursor.rest.head?) cursor.nextSpan,
        cursor.skip 1)
    | .broken fault span stop =>
      (state.report fault span, if stop.offset = cursor.offset then cursor.skip 1 else stop)

/-- One step of the tokenizer.  Blanks inside of a tag only separate tokens. -/
def step (tags : Delimiters) (state : TokenState) (cursor : Cursor) : TokenState × Cursor :=
  if state.openTag.isSome then
    let cursor := cursor.skipBlanks
    if cursor.rest.isEmpty then (state, cursor) else insideStep tags state cursor
  else outsideStep tags state cursor

/-- Take steps until the text ends.  Every step takes a character, so the length
of the text is enough `fuel`. -/
def run (tags : Delimiters) : Nat → TokenState → Cursor → TokenState × Cursor
  | 0, state, cursor => (state, cursor)
  | fuel + 1, state, cursor =>
    if cursor.rest.isEmpty then (state, cursor)
    else
      let (state, cursor) := step tags state cursor
      run tags fuel state cursor

end Tokenizer

/-- The tokens of a source text, or every error in it. -/
def tokenize (tags : Delimiters) (source : List Char) : Except (List Diagnostic) (List Token) :=
  let (state, cursor) :=
    Tokenizer.run tags source.length TokenState.initial (Cursor.ofSource source)
  let state := (state.reportOpen).push .done (Span.point cursor.offset)
  if state.diagnostics.isEmpty then .ok state.tokens.reverse
  else .error state.diagnostics.reverse

end TemplateLang
