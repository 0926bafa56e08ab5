import TemplateLang.Syntax.Literal

/-!
# Reading with failures

Readers of the grammar take a cursor and give a value with a later cursor, or
fail.  A soft failure lets another reading be tried from the same place; a hard
one ends everything.  A reader commits to a construct once it is recognised
beyond doubt: from then on a soft failure inside becomes a hard one.

Repetition is one loop for all readers.  It stops after as many rounds as there are
bytes left, and a reader that takes a character each round never gets there.
-/

namespace TemplateLang

/-- Why a reader gave nothing. -/
inductive Failure where
  | soft (fault : Fault) (span : Span)
  | hard (fault : Fault) (span : Span)
  | exhausted
deriving DecidableEq, Repr

/-- What a reader gives, or its failure. -/
abbrev Reading : Type → Type :=
  Except Failure

namespace Reading

variable {α β : Type}

/-- Fail so that no other reading is tried; a soft failure becomes `fault`, at the
place where the reader gave up. -/
def commit (fault : Fault) (result : Reading (α × Cursor)) : Reading (α × Cursor) :=
  match result with
  | .error (.soft _ span) => .error (.hard fault span)
  | result => result

/-- The result of a scanner, with the failure that stands for nothing found. -/
def ofScan (absent : Failure) : Scan α → Reading (α × Cursor)
  | .found value next => .ok (value, next)
  | .absent => .error absent
  | .broken fault span _ => .error (.hard fault span)

/-- What a round of a loop decides. -/
inductive Round (α β : Type) where
  | again (state : α)
  | done (result : β)

/-- Repeat rounds on a state, at most `fuel` times. -/
def rounds (round : α → Cursor → Reading (Round α β × Cursor)) :
    Nat → α → Cursor → Reading (β × Cursor)
  | 0, _, _ => .error .exhausted
  | fuel + 1, state, cursor =>
    match round state cursor with
    | .ok (.again state, next) => rounds round fuel state next
    | .ok (.done result, next) => .ok (result, next)
    | .error failure => .error failure

/-- Repeat rounds until one is the last. -/
def loop (round : α → Cursor → Reading (Round α β × Cursor)) (state : α) (cursor : Cursor) :
    Reading (β × Cursor) :=
  rounds round (cursor.room + 1) state cursor

end Reading

/-! ## Tags -/

/-- The deepest nesting of blocks, brackets and operators before an operand. -/
def maxNesting : Nat :=
  32

/-- Where a reader stands: the delimiters in use, how many more levels of nesting
are allowed, and whether a loop encloses it. -/
structure Setting where
  tags : Delimiters
  room : Nat
  inLoop : Bool
deriving DecidableEq, Repr

namespace Setting

/-- The setting of a whole source. -/
def initial (tags : Delimiters) : Setting :=
  ⟨tags, maxNesting, false⟩

/-- Read one level of nesting deeper. -/
def nested {α : Type} (setting : Setting) (cursor : Cursor)
    (read : Setting → Reading (α × Cursor)) : Reading (α × Cursor) :=
  match setting.room with
  | 0 => .error (.hard (.tooDeep maxNesting) cursor.nextSpan)
  | room + 1 => read { setting with room := room }

/-- Whether a text begins with a closing mark, trimmed or not. -/
def atClosing (setting : Setting) (text : List Char) : Bool :=
  let closing := setting.tags.closing.toList
  Cursor.startsWithMark text closing || Cursor.startsWithTrimmed text closing

/-- The fault of a tag that is not closed. -/
def missingClosing (setting : Setting) : Fault :=
  .missing setting.tags.closing

end Setting

/-- One comment after blanks, or the end of comments. -/
def triviaRound (comments : List Comment) (cursor : Cursor) :
    Reading (Reading.Round (List Comment) (List Comment) × Cursor) :=
  let cursor := cursor.skipBlanks
  match Literal.comment cursor with
  | .found comment next => .ok (.again (comments ++ [comment]), next)
  | .absent => .ok (.done comments, cursor)
  | .broken fault span _ => .error (.hard fault span)

/-- Blanks and comments. -/
def trivia (cursor : Cursor) : Reading (List Comment × Cursor) :=
  Reading.loop triviaRound [] cursor

/-- The opening end of a tag and the comments after it. -/
def openingTag (setting : Setting) (cursor : Cursor) : Reading (Tag × Cursor) :=
  let opening := setting.tags.opening
  if Cursor.startsWithMark cursor.rest opening.toList then do
    let afterMark := cursor.skip opening.length
    let trims := afterMark.isAt ['-']
    let next := if trims then afterMark.skip 1 else afterMark
    let (comments, cursor') ← trivia next
    .ok (⟨.opening, opening, trims, comments, cursor.spanTo next⟩, cursor')
  else .error (.soft (.unexpected cursor.rest.head?) cursor.nextSpan)

/-- The comments before the closing end of a tag, and that end. -/
def closingTag (setting : Setting) (cursor : Cursor) : Reading (Tag × Cursor) := do
  let closing := setting.tags.closing
  let (comments, start) ← trivia cursor
  let trims := Cursor.startsWithTrimmed start.rest closing.toList
  if trims || Cursor.startsWithMark start.rest closing.toList then
    let next := start.skip (closing.length + if trims then 1 else 0)
    .ok (⟨.closing, closing, trims, comments, start.spanTo next⟩, next)
  else .error (.soft (.closingExpected closing start.rest.head?) start.nextSpan)

/-- The closing end of a tag, which must be there. -/
def requireClosing (setting : Setting) (cursor : Cursor) : Reading (Tag × Cursor) :=
  (closingTag setting cursor).commit setting.missingClosing

/-- One character, which must be there. -/
def requireChar (c : Char) (fault : Fault) (cursor : Cursor) : Except Failure Cursor :=
  if cursor.isAt [c] then .ok (cursor.skip 1) else .error (.hard fault cursor.nextSpan)

end TemplateLang
