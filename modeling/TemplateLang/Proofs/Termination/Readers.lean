import TemplateLang.Grammar.Template
import TemplateLang.Proofs.Termination.Calls

/-!
# The grammar with its calls

Every reader of the grammar once more, now recording its calls.  The text of each is that
of the reader that it traces, and its result is the same; so the calls are those that are
made when a text is read.
-/

namespace TemplateLang

namespace Traced

open Grammar (wordExpr literal fieldKey updateOp? requireAssignable unaryOp? InfixOp infixOp?
  tiers atArgument atPipe declaration? binding indexBinding requireIn loopControl raw)

/-! ## Comments and the ends of tags -/

def triviaRound (comments : List Comment) (cursor : Cursor) :
    Traced (Reading.Round (List Comment) (List Comment) × Cursor) :=
  scan (TemplateLang.triviaRound comments cursor)

def trivia (cursor : Cursor) : Traced (List Comment × Cursor) :=
  repeated .trivia triviaRound [] cursor

theorem result_trivia (cursor : Cursor) :
    (trivia cursor).result = TemplateLang.trivia cursor :=
  result_repeated (fun _ _ => rfl) [] cursor

def openingTag (setting : Setting) (cursor : Cursor) : Traced (Tag × Cursor) :=
  called .openingTag cursor <|
    let opening := setting.tags.opening
    if Cursor.startsWithMark cursor.rest opening.toList then do
      let afterMark := cursor.skip opening.length
      let trims := afterMark.isAt ['-']
      let next := if trims then afterMark.skip 1 else afterMark
      let (comments, cursor') ← trivia next
      pure (⟨.opening, opening, trims, comments, cursor.spanTo next⟩, cursor')
    else fail (.soft (.unexpected cursor.rest.head?) cursor.nextSpan)

theorem result_openingTag (setting : Setting) (cursor : Cursor) :
    (openingTag setting cursor).result = TemplateLang.openingTag setting cursor := by
  unfold openingTag TemplateLang.openingTag
  rw [result_called]
  dsimp only
  split
  · rw [result_bind, result_trivia]
    rfl
  · rfl

def closingTag (setting : Setting) (cursor : Cursor) : Traced (Tag × Cursor) :=
  called .closingTag cursor do
    let closing := setting.tags.closing
    let (comments, start) ← trivia cursor
    let trims := Cursor.startsWithTrimmed start.rest closing.toList
    if trims || Cursor.startsWithMark start.rest closing.toList then
      let next := start.skip (closing.length + if trims then 1 else 0)
      pure (⟨.closing, closing, trims, comments, start.spanTo next⟩, next)
    else fail (.soft (.closingExpected closing start.rest.head?) start.nextSpan)

theorem result_closingTag (setting : Setting) (cursor : Cursor) :
    (closingTag setting cursor).result = TemplateLang.closingTag setting cursor := by
  unfold closingTag TemplateLang.closingTag
  rw [result_called, result_bind, result_trivia]
  congr 1
  funext ⟨comments, start⟩
  dsimp only
  split <;> rfl

def requireClosing (setting : Setting) (cursor : Cursor) : Traced (Tag × Cursor) :=
  (closingTag setting cursor).commit setting.missingClosing

theorem result_requireClosing (setting : Setting) (cursor : Cursor) :
    (requireClosing setting cursor).result = TemplateLang.requireClosing setting cursor := by
  rw [requireClosing, result_commit, result_closingTag]
  rfl

/-! ## Expressions -/

/-- The readers of the expressions inside other expressions. -/
structure Inner where
  pipeline : Setting → Cursor → Traced (Expr × Cursor)
  conditional : Setting → Cursor → Traced (Expr × Cursor)
  unary : Setting → Cursor → Traced (Expr × Cursor)

/-- The same readers without the trace. -/
def Inner.plain (inner : Inner) : Grammar.Inner where
  pipeline setting cursor := (inner.pipeline setting cursor).result
  conditional setting cursor := (inner.conditional setting cursor).result
  unary setting cursor := (inner.unary setting cursor).result

variable (inner : Inner)

def listRound (setting : Setting) (close : Char) (items : List Expr) (cursor : Cursor) :
    Traced (Reading.Round (List Expr) (List Expr) × Cursor) :=
  let cursor := cursor.skipBlanks
  let missing := Fault.missing close.toString
  if cursor.isAt [close] then pure (.done items, cursor.skip 1)
  else do
    let (item, cursor) ← (inner.conditional setting cursor).commit missing
    if cursor.isAt [','] then pure (.again (items ++ [item]), cursor.skip 1)
    else
      let cursor ← scan (requireChar close missing cursor)
      pure (.done (items ++ [item]), cursor)

theorem result_listRound (setting : Setting) (close : Char) (items : List Expr)
    (cursor : Cursor) : (listRound inner setting close items cursor).result =
      Grammar.listRound inner.plain setting close items cursor := by
  unfold listRound Grammar.listRound
  dsimp only
  split
  · rfl
  · rw [result_bind, result_commit]
    congr 1
    funext ⟨item, next⟩
    dsimp only
    split
    · rfl
    · rw [result_bind]
      rfl

def list (setting : Setting) (close : Char) (cursor : Cursor) : Traced (List Expr × Cursor) :=
  repeated .items (listRound inner setting close) [] cursor

theorem result_list (setting : Setting) (close : Char) (cursor : Cursor) :
    (list inner setting close cursor).result =
      Grammar.list inner.plain setting close cursor :=
  result_repeated (result_listRound inner setting close) [] cursor

def primary (setting : Setting) (cursor : Cursor) : Traced (Expr × Cursor) :=
  called .primary cursor <|
    if cursor.isAt ['('] then do
      let (expr, next) ←
        (inner.pipeline setting (cursor.skip 1)).commit (.missingExpressionAfter "(")
      let next ← scan (requireChar ')' (.missing ")") next)
      pure (.paren expr (Note.at (cursor.spanTo next)), next)
    else if cursor.isAt ['['] then do
      let (items, next) ← list inner setting ']' (cursor.skip 1)
      pure (.array items (Note.at (cursor.spanTo next)), next)
    else
      match cursor.peekWord? with
      | some word => scan (wordExpr cursor word)
      | none => scan (literal cursor)

theorem result_primary (setting : Setting) (cursor : Cursor) :
    (primary inner setting cursor).result = Grammar.primary inner.plain setting cursor := by
  unfold primary Grammar.primary
  rw [result_called]
  split
  · rw [result_bind, result_commit]
    congr 1
    funext ⟨expr, next⟩
    dsimp only
    rw [result_bind]
    rfl
  · split
    · rw [result_bind, result_list]
      rfl
    · cases cursor.peekWord? <;> rfl

def suffixRound (setting : Setting) (expr : Expr) (cursor : Cursor) :
    Traced (Reading.Round Expr Expr × Cursor) :=
  let note (next : Cursor) := Note.at (Span.between expr.span.start next.offset)
  if cursor.isAt ['.'] then do
    let start := cursor.skip 1
    let (key, next) ← scan (fieldKey start)
    pure (.again (.field expr key (start.spanTo next) (note next)), next)
  else if cursor.isAt ['['] then do
    let (key, next) ←
      (inner.pipeline setting (cursor.skip 1)).commit (.missingExpressionAfter "[")
    let next ← scan (requireChar ']' (.missing "]") next)
    pure (.again (.item expr key (note next)), next)
  else if cursor.isAt ['('] then do
    let (arguments, next) ← list inner setting ')' (cursor.skip 1)
    pure (.again (.call expr arguments false (note next)), next)
  else pure (.done expr, cursor)

theorem result_suffixRound (setting : Setting) (expr : Expr) (cursor : Cursor) :
    (suffixRound inner setting expr cursor).result =
      Grammar.suffixRound inner.plain setting expr cursor := by
  unfold suffixRound Grammar.suffixRound
  dsimp only
  split
  · rw [result_bind]
    rfl
  · split
    · rw [result_bind, result_commit]
      congr 1
      funext ⟨key, next⟩
      dsimp only
      rw [result_bind]
      rfl
    · split
      · rw [result_bind, result_list]
        rfl
      · rfl

def suffixed (setting : Setting) (cursor : Cursor) : Traced (Expr × Cursor) :=
  called .suffixed cursor do
    let (expr, next) ← primary inner setting cursor
    repeated .suffixes (suffixRound inner setting) expr next

theorem result_suffixed (setting : Setting) (cursor : Cursor) :
    (suffixed inner setting cursor).result =
      Grammar.suffixed inner.plain setting cursor := by
  unfold suffixed Grammar.suffixed
  rw [result_called, result_bind, result_primary]
  congr 1
  funext ⟨expr, next⟩
  exact result_repeated (result_suffixRound inner setting) expr next

def bareUpdate (setting : Setting) (cursor : Cursor) : Traced (Expr × Cursor) :=
  called .bareUpdate cursor <|
    match updateOp? setting cursor.rest with
    | some op => do
      let (target, next) ←
        (inner.unary setting (cursor.skip 2)).commit (.missingExpressionAfter op.symbol)
      scan (requireAssignable .before target)
      let note := Note.at (Span.between cursor.offset target.span.stop)
      pure (.update op .before target note, next)
    | none => do
      let (target, next) ← suffixed inner setting cursor
      match updateOp? setting next.rest with
      | some op =>
        scan (requireAssignable .after target)
        let next := next.skip 2
        pure (.update op .after target (Note.at (cursor.spanTo next)), next)
      | none => pure (target, next)

theorem result_bareUpdate (setting : Setting) (cursor : Cursor) :
    (bareUpdate inner setting cursor).result =
      Grammar.bareUpdate inner.plain setting cursor := by
  unfold bareUpdate Grammar.bareUpdate
  rw [result_called]
  cases updateOp? setting cursor.rest with
  | some op =>
    dsimp only
    rw [result_bind, result_commit]
    congr 1
    funext ⟨target, next⟩
    dsimp only
    rw [result_bind]
    rfl
  | none =>
    dsimp only
    rw [result_bind, result_suffixed]
    congr 1
    funext ⟨target, next⟩
    dsimp only
    cases updateOp? setting next.rest with
    | some op =>
      dsimp only
      rw [result_bind]
      rfl
    | none => rfl

def update (setting : Setting) (cursor : Cursor) : Traced (Expr × Cursor) :=
  called .update cursor do
    let (expr, next) ← bareUpdate inner setting cursor
    let (comments, next) ← trivia next
    pure (expr.addTrailing comments, next)

theorem result_update (setting : Setting) (cursor : Cursor) :
    (update inner setting cursor).result = Grammar.update inner.plain setting cursor := by
  unfold update Grammar.update
  rw [result_called, result_bind, result_bareUpdate]
  congr 1
  funext ⟨expr, next⟩
  dsimp only
  rw [result_bind, result_trivia]
  rfl

def prefixed (setting : Setting) (cursor : Cursor) : Traced (Expr × Cursor) :=
  called .prefixed cursor do
    let (comments, start) ← trivia cursor
    let (expr, next) ← match unaryOp? setting start.rest with
      | some op => do
        let (argument, next) ←
          (inner.unary setting (start.skip 1)).commit (.missingExpressionAfter op.symbol)
        let note := Note.at (Span.between start.offset argument.span.stop)
        pure (.unary op argument note, next)
      | none => update inner setting start
    pure (expr.addLeading comments, next)

theorem result_prefixed (setting : Setting) (cursor : Cursor) :
    (prefixed inner setting cursor).result =
      Grammar.prefixed inner.plain setting cursor := by
  unfold prefixed Grammar.prefixed
  rw [result_called, result_bind, result_trivia]
  congr 1
  funext ⟨comments, start⟩
  dsimp only
  cases unaryOp? setting start.rest with
  | some op =>
    dsimp only
    rw [result_bind, result_commit]
    rfl
  | none =>
    dsimp only
    rw [result_bind, result_update]
    rfl

def unary (setting : Setting) (cursor : Cursor) : Traced (Expr × Cursor) :=
  called .unary cursor <| nested setting cursor fun setting => prefixed inner setting cursor

theorem result_unary (setting : Setting) (cursor : Cursor) :
    (unary inner setting cursor).result = Grammar.unary inner.plain setting cursor := by
  rw [unary, result_called, result_nested]
  simp only [result_prefixed]
  rfl

def infixRound (setting : Setting) (tier : List InfixOp)
    (operand : Cursor → Traced (Expr × Cursor)) (left : Expr) (cursor : Cursor) :
    Traced (Reading.Round Expr Expr × Cursor) :=
  match infixOp? setting tier cursor.rest with
  | some op => do
    let (right, next) ← (operand (cursor.skip op.symbol.length)).commit
      (.missingExpressionAfter op.symbol)
    pure (.again (op.join left right), next)
  | none => pure (.done left, cursor)

def joined (setting : Setting) : List (List InfixOp) → Cursor → Traced (Expr × Cursor)
  | [], cursor => called (.joined 0) cursor <| unary inner setting cursor
  | tier :: tighter, cursor => called (.joined (tighter.length + 1)) cursor do
    let (left, next) ← joined setting tighter cursor
    repeated (.operators tighter.length)
      (infixRound setting tier (joined setting tighter)) left next

theorem result_infixRound {setting : Setting} {tier : List InfixOp}
    {traced : Cursor → Traced (Expr × Cursor)} {operand : Cursor → Reading (Expr × Cursor)}
    (same : ∀ cursor, (traced cursor).result = operand cursor) (left : Expr)
    (cursor : Cursor) : (infixRound setting tier traced left cursor).result =
      Grammar.infixRound setting tier operand left cursor := by
  unfold infixRound Grammar.infixRound
  cases infixOp? setting tier cursor.rest with
  | some op =>
    dsimp only
    rw [result_bind, result_commit, same]
    rfl
  | none => rfl

theorem result_joined (setting : Setting) (levels : List (List InfixOp)) (cursor : Cursor) :
    (joined inner setting levels cursor).result =
      Grammar.joined inner.plain setting levels cursor := by
  induction levels generalizing cursor with
  | nil =>
    rw [joined, Grammar.joined, result_called, result_unary]
  | cons tier tighter ih =>
    rw [joined, Grammar.joined, result_called, result_bind, ih]
    congr 1
    funext ⟨left, next⟩
    exact result_repeated (result_infixRound ih) left next

def conditional (setting : Setting) (cursor : Cursor) : Traced (Expr × Cursor) :=
  called .conditional cursor do
    let (test, next) ← joined inner setting tiers cursor
    if next.isAt ['?'] then
      let (consequent, next) ←
        (inner.conditional setting (next.skip 1)).commit (.missingExpressionAfter "?")
      let next ← scan (requireChar ':' .missingColon next)
      let (alternate, next) ←
        (inner.conditional setting next).commit (.missingExpressionAfter ":")
      let note := Note.at (test.span.union alternate.span)
      pure (.conditional test consequent alternate note, next)
    else pure (test, next)

theorem result_conditional (setting : Setting) (cursor : Cursor) :
    (conditional inner setting cursor).result =
      Grammar.conditional inner.plain setting cursor := by
  unfold conditional Grammar.conditional
  rw [result_called, result_bind, result_joined]
  congr 1
  funext ⟨test, next⟩
  dsimp only
  split
  · rw [result_bind, result_commit]
    congr 1
    funext ⟨consequent, next⟩
    dsimp only
    rw [result_bind]
    congr 1
    funext next
    rw [result_bind, result_commit]
    rfl
  · rfl

def argumentRound (setting : Setting) (arguments : List Expr) (cursor : Cursor) :
    Traced (Reading.Round (List Expr) (List Expr) × Cursor) :=
  if atArgument setting cursor.rest then do
    match ← (unary inner setting cursor).attempt with
    | .ok (argument, next) => pure (.again (arguments ++ [argument]), next)
    | .error (.soft _ _) => pure (.done arguments, cursor)
    | .error failure => fail failure
  else pure (.done arguments, cursor)

theorem result_argumentRound (setting : Setting) (arguments : List Expr) (cursor : Cursor) :
    (argumentRound inner setting arguments cursor).result =
      Grammar.argumentRound inner.plain setting arguments cursor := by
  unfold argumentRound Grammar.argumentRound
  split
  · rw [result_bind, result_attempt, result_unary]
    rcases Grammar.unary inner.plain setting cursor with (_ | _ | _) | ⟨argument, next⟩ <;> rfl
  · rfl

def arguments (setting : Setting) (cursor : Cursor) : Traced (List Expr × Cursor) :=
  repeated .arguments (argumentRound inner setting) [] cursor

theorem result_arguments (setting : Setting) (cursor : Cursor) :
    (arguments inner setting cursor).result =
      Grammar.arguments inner.plain setting cursor :=
  result_repeated (result_argumentRound inner setting) [] cursor

def command (setting : Setting) (cursor : Cursor) : Traced (Expr × Cursor) :=
  called .command cursor do
    let (head, next) ← conditional inner setting cursor
    if head.isCallable && atArgument setting next.rest then
      let (extra, next) ← arguments inner setting next
      pure (head.command extra, next)
    else pure (head, next)

theorem result_command (setting : Setting) (cursor : Cursor) :
    (command inner setting cursor).result = Grammar.command inner.plain setting cursor := by
  unfold command Grammar.command
  rw [result_called, result_bind, result_conditional]
  congr 1
  funext ⟨head, next⟩
  dsimp only
  split
  · rw [result_bind, result_arguments]
    rfl
  · rfl

def pipeRound (setting : Setting) (value : Expr) (cursor : Cursor) :
    Traced (Reading.Round Expr Expr × Cursor) :=
  if atPipe setting cursor.rest then do
    let (leading, next) ← trivia (cursor.skip 1)
    let (segment, next) ←
      (suffixed inner setting next).commit (.missingExpressionAfter "|")
    let (trailing, next) ← trivia next
    let segment := segment.withNote ⟨segment.span, leading, trailing⟩
    let (extra, next) ← arguments inner setting next
    pure (.again (value.pipeInto segment extra), next)
  else pure (.done value, cursor)

theorem result_pipeRound (setting : Setting) (value : Expr) (cursor : Cursor) :
    (pipeRound inner setting value cursor).result =
      Grammar.pipeRound inner.plain setting value cursor := by
  unfold pipeRound Grammar.pipeRound
  split
  · rw [result_bind, result_trivia]
    congr 1
    funext ⟨leading, next⟩
    dsimp only
    rw [result_bind, result_commit, result_suffixed]
    congr 1
    funext ⟨segment, next⟩
    dsimp only
    rw [result_bind, result_trivia]
    congr 1
    funext ⟨trailing, next⟩
    dsimp only
    rw [result_bind, result_arguments]
    rfl
  · rfl

def pipeline (setting : Setting) (cursor : Cursor) : Traced (Expr × Cursor) :=
  called .pipeline cursor do
    let (head, next) ← command inner setting cursor
    repeated .pipes (pipeRound inner setting) head next

theorem result_pipeline (setting : Setting) (cursor : Cursor) :
    (pipeline inner setting cursor).result =
      Grammar.pipeline inner.plain setting cursor := by
  unfold pipeline Grammar.pipeline
  rw [result_called, result_bind, result_command]
  congr 1
  funext ⟨head, next⟩
  exact result_repeated (result_pipeRound inner setting) head next

omit inner

/-- The readers of inner expressions that may go up `fuel` more times. -/
def innerOf : Nat → Inner
  | 0 =>
    { pipeline := fun _ _ => fail .exhausted
      conditional := fun _ _ => fail .exhausted
      unary := fun _ _ => fail .exhausted }
  | fuel + 1 =>
    { pipeline := fun setting cursor => pipeline (innerOf fuel) setting cursor
      conditional := fun setting cursor => conditional (innerOf fuel) setting cursor
      unary := fun setting cursor => unary (innerOf fuel) setting cursor }

theorem plain_innerOf (fuel : Nat) : (innerOf fuel).plain = Grammar.innerOf fuel := by
  induction fuel with
  | zero => rfl
  | succ fuel ih =>
    rw [Grammar.innerOf, ← ih]
    simp only [innerOf, Inner.plain, result_pipeline, result_conditional, result_unary]

def expression (setting : Setting) (cursor : Cursor) : Traced (Expr × Cursor) :=
  pipeline (innerOf (cursor.room + 1)) setting cursor

theorem result_expression (setting : Setting) (cursor : Cursor) :
    (expression setting cursor).result = Grammar.expression setting cursor := by
  rw [expression, result_pipeline, plain_innerOf]
  rfl

/-! ## Templates -/

/-- The readers of what is inside a block. -/
structure Blocks where
  body : Setting → List String → Cursor → Traced (List Element × Cursor)
  branch : Setting → Cursor → Traced (Branch × Cursor)

/-- The same readers without the trace. -/
def Blocks.plain (blocks : Blocks) : Grammar.Blocks where
  body setting stops cursor := (blocks.body setting stops cursor).result
  branch setting cursor := (blocks.branch setting cursor).result

variable (blocks : Blocks)

def atBlockWord (setting : Setting) (stops : List String) (cursor : Cursor) :
    Traced (Bool × Cursor) :=
  called .lookahead cursor do
    match ← (openingTag setting cursor).attempt with
    | .ok (_, next) =>
      match next.peekWord? with
      | some word => pure (stops.contains word, cursor)
      | none => pure (false, cursor)
    | .error _ => pure (false, cursor)

theorem result_atBlockWord (setting : Setting) (stops : List String) (cursor : Cursor) :
    (atBlockWord setting stops cursor).result =
      .ok (Grammar.atBlockWord setting stops cursor, cursor) := by
  unfold atBlockWord Grammar.atBlockWord
  rw [result_called, result_bind, result_attempt, result_openingTag]
  rcases TemplateLang.openingTag setting cursor with failure | ⟨opening, next⟩
  · rfl
  · dsimp only [Bind.bind, Except.bind]
    cases next.peekWord? <;> rfl

def blockWord (setting : Setting) (keyword : Span) (cursor : Cursor) :
    Traced ((Tag × String) × Cursor) :=
  called .blockWord cursor <|
    if cursor.rest.isEmpty then fail (.hard (.missingEnd setting.tags) keyword)
    else do
      let (opening, next) ← openingTag setting cursor
      pure ((opening, (next.peekWord?).getD ""), next.skipWord)

theorem result_blockWord (setting : Setting) (keyword : Span) (cursor : Cursor) :
    (blockWord setting keyword cursor).result =
      Grammar.blockWord setting keyword cursor := by
  unfold blockWord Grammar.blockWord
  rw [result_called]
  split
  · rfl
  · rw [result_bind, result_openingTag]
    rfl

def alternate (setting : Setting) (keyword : Span) (cursor : Cursor) :
    Traced (Alternate × Cursor) :=
  called .alternate cursor do
    let ((opening, word), next) ← blockWord setting keyword cursor
    if word = "end" then pure (.done opening, next)
    else
      let next := next.skipBlanks
      if next.peekWord? = some "if" then
        let (branch, next) ← blocks.branch setting next
        pure (.chain opening branch, next)
      else
        let (closing, next) ← requireClosing setting next
        let (body, next) ← blocks.body setting ["end"] next
        let ((endOpening, _), next) ← blockWord setting keyword next
        pure (.otherwise opening closing body endOpening, next)

theorem result_alternate (setting : Setting) (keyword : Span) (cursor : Cursor) :
    (alternate blocks setting keyword cursor).result =
      Grammar.alternate blocks.plain setting keyword cursor := by
  unfold alternate Grammar.alternate
  rw [result_called, result_bind, result_blockWord]
  congr 1
  funext ⟨⟨opening, word⟩, next⟩
  dsimp only
  split
  · rfl
  · split
    · rw [result_bind]
      rfl
    · rw [result_bind, result_requireClosing]
      congr 1
      funext ⟨closing, next⟩
      dsimp only
      rw [result_bind]
      congr 1
      funext ⟨body, next⟩
      dsimp only
      rw [result_bind, result_blockWord]
      rfl

def branch (setting : Setting) (cursor : Cursor) : Traced (Branch × Cursor) :=
  called .branch cursor do
    let afterWord := cursor.skipWord
    let keyword := cursor.spanTo afterWord
    let (test, next) ← (expression setting afterWord).commit (.missingExpressionAfter "if")
    let (closing, next) ← requireClosing setting next
    let (body, next) ← blocks.body setting ["else", "end"] next
    let (alternate, next) ← alternate blocks setting keyword next
    pure (.mk test closing body alternate (cursor.spanTo next), next)

theorem result_branch (setting : Setting) (cursor : Cursor) :
    (branch blocks setting cursor).result =
      Grammar.branch blocks.plain setting cursor := by
  unfold branch Grammar.branch
  dsimp only
  rw [result_called, result_bind, result_commit, result_expression]
  congr 1
  funext ⟨test, next⟩
  dsimp only
  rw [result_bind, result_requireClosing]
  congr 1
  funext ⟨closing, next⟩
  dsimp only
  rw [result_bind]
  congr 1
  funext ⟨body, next⟩
  dsimp only
  rw [result_bind, result_alternate]
  rfl

def loop (setting : Setting) (cursor : Cursor) : Traced (Statement × Cursor) :=
  called .loop cursor do
    let afterWord := cursor.skipWord
    let keyword := cursor.spanTo afterWord
    let (value, next) ← scan (binding .missingLoopVariable afterWord.skipBlanks)
    let (index, next) ← scan (indexBinding next.skipBlanks)
    let next ← scan (requireIn next)
    let (iterable, next) ← (expression setting next).commit .missingIterable
    let (closing, next) ← requireClosing setting next
    let (body, next) ← blocks.body { setting with inLoop := true } ["end"] next
    let ((endOpening, _), next) ← blockWord setting keyword next
    pure (.loop value index iterable closing body endOpening (cursor.spanTo next), next)

theorem result_loop (setting : Setting) (cursor : Cursor) :
    (loop blocks setting cursor).result = Grammar.loop blocks.plain setting cursor := by
  unfold loop Grammar.loop
  dsimp only
  rw [result_called, result_bind]
  congr 1
  funext ⟨value, next⟩
  dsimp only
  rw [result_bind]
  congr 1
  funext ⟨index, next⟩
  dsimp only
  rw [result_bind]
  congr 1
  funext next
  rw [result_bind, result_commit, result_expression]
  congr 1
  funext ⟨iterable, next⟩
  dsimp only
  rw [result_bind, result_requireClosing]
  congr 1
  funext ⟨closing, next⟩
  dsimp only
  rw [result_bind]
  congr 1
  funext ⟨body, next⟩
  dsimp only
  rw [result_bind, result_blockWord]
  rfl

def assignment (setting : Setting) (target : Identifier) (cursor : Cursor) :
    Traced (Statement × Cursor) :=
  called .assignment cursor <|
    if isReserved target.name then fail (.hard (.reservedWord target.name) target.span)
    else do
      let (value, next) ← (expression setting cursor).commit (.missingExpressionAfter ":=")
      pure (.assign target value (target.span.union value.span), next)

theorem result_assignment (setting : Setting) (target : Identifier) (cursor : Cursor) :
    (assignment setting target cursor).result =
      Grammar.assignment setting target cursor := by
  unfold assignment Grammar.assignment
  rw [result_called]
  split
  · rfl
  · rw [result_bind, result_commit, result_expression]
    rfl

def statement (setting : Setting) (cursor : Cursor) : Traced (Statement × Cursor) :=
  called .statement cursor <|
    if setting.atClosing cursor.rest then pure (.empty, cursor)
    else
      match declaration? cursor with
      | some (target, next) => assignment setting target next
      | none =>
        match cursor.peekWord? with
        | some "if" => do
          let (branch, next) ← branch blocks setting cursor
          pure (.branch branch, next)
        | some "for" => loop blocks setting cursor
        | some "break" => scan (loopControl setting cursor "break" .breakLoop)
        | some "continue" => scan (loopControl setting cursor "continue" .continueLoop)
        | some "else" => fail (.hard (.strayBlockWord "else") (cursor.spanTo cursor.skipWord))
        | some "end" => fail (.hard (.strayBlockWord "end") (cursor.spanTo cursor.skipWord))
        | _ => do
          let (expr, next) ← expression setting cursor
          pure (.expression expr, next)

theorem result_statement (setting : Setting) (cursor : Cursor) :
    (statement blocks setting cursor).result =
      Grammar.statement blocks.plain setting cursor := by
  unfold statement Grammar.statement
  rw [result_called]
  split
  · rfl
  · cases declaration? cursor with
    | some declared => exact result_assignment setting _ _
    | none =>
      dsimp only
      generalize cursor.peekWord? = word
      split
      · rw [result_bind, result_branch]
        rfl
      · exact result_loop blocks setting cursor
      · rfl
      · rfl
      · rfl
      · rfl
      · -- None of the words above, so the match without the trace falls through as well.
        rw [result_bind, result_expression]
        first
        | rfl
        | split <;> first | contradiction | rfl

def tag (setting : Setting) (cursor : Cursor) : Traced (Element × Cursor) :=
  called .tag cursor do
    let (opening, next) ← openingTag setting cursor
    let (statement, next) ← statement blocks setting next
    let (closing, next) ← requireClosing setting next
    pure (.tag opening statement closing (cursor.spanTo next), next)

theorem result_tag (setting : Setting) (cursor : Cursor) :
    (tag blocks setting cursor).result = Grammar.tag blocks.plain setting cursor := by
  unfold tag Grammar.tag
  rw [result_called, result_bind, result_openingTag]
  congr 1
  funext ⟨opening, next⟩
  dsimp only
  rw [result_bind, result_statement]
  congr 1
  funext ⟨statement, next⟩
  dsimp only
  rw [result_bind, result_requireClosing]
  rfl

def element (setting : Setting) (cursor : Cursor) : Traced (Element × Cursor) :=
  called .element cursor <|
    if Cursor.startsWithMark cursor.rest setting.tags.opening.toList then
      tag blocks setting cursor
    else pure (raw setting cursor)

theorem result_element (setting : Setting) (cursor : Cursor) :
    (element blocks setting cursor).result =
      Grammar.element blocks.plain setting cursor := by
  unfold element Grammar.element
  rw [result_called]
  split
  · exact result_tag blocks setting cursor
  · rfl

def elementRound (setting : Setting) (stops : List String) (elements : List Element)
    (cursor : Cursor) : Traced (Reading.Round (List Element) (List Element) × Cursor) :=
  if cursor.rest.isEmpty then pure (.done elements, cursor)
  else do
    let (stopped, _) ← atBlockWord setting stops cursor
    if stopped then pure (.done elements, cursor)
    else
      let (element, next) ← element blocks setting cursor
      pure (.again (elements ++ [element]), next)

theorem result_elementRound (setting : Setting) (stops : List String)
    (elements : List Element) (cursor : Cursor) :
    (elementRound blocks setting stops elements cursor).result =
      Grammar.elementRound blocks.plain setting stops elements cursor := by
  unfold elementRound Grammar.elementRound
  cases cursor.rest.isEmpty
  · rw [if_neg Bool.false_ne_true, result_bind, result_atBlockWord, Bool.false_or]
    dsimp only [Bind.bind, Except.bind]
    split
    · rfl
    · exact (result_bind _ _).trans (by rw [result_element]; rfl)
  · rfl

def elements (setting : Setting) (stops : List String) (cursor : Cursor) :
    Traced (List Element × Cursor) :=
  repeated .elements (elementRound blocks setting stops) [] cursor

theorem result_elements (setting : Setting) (stops : List String) (cursor : Cursor) :
    (elements blocks setting stops cursor).result =
      Grammar.elements blocks.plain setting stops cursor :=
  result_repeated (result_elementRound blocks setting stops) [] cursor

def body (setting : Setting) (stops : List String) (cursor : Cursor) :
    Traced (List Element × Cursor) :=
  called .body cursor <|
    nested setting cursor fun setting => elements blocks setting stops cursor

theorem result_body (setting : Setting) (stops : List String) (cursor : Cursor) :
    (body blocks setting stops cursor).result =
      Grammar.body blocks.plain setting stops cursor := by
  rw [body, result_called, result_nested]
  simp only [result_elements]
  rfl

omit blocks

/-- The readers of what is inside a block, for at most `fuel` levels. -/
def blocksOf : Nat → Blocks
  | 0 =>
    { body := fun _ _ _ => fail .exhausted
      branch := fun _ _ => fail .exhausted }
  | fuel + 1 =>
    { body := fun setting stops cursor => body (blocksOf fuel) setting stops cursor
      branch := fun setting cursor => branch (blocksOf fuel) setting cursor }

theorem plain_blocksOf (fuel : Nat) : (blocksOf fuel).plain = Grammar.blocksOf fuel := by
  induction fuel with
  | zero => rfl
  | succ fuel ih =>
    rw [Grammar.blocksOf, ← ih]
    simp only [blocksOf, Blocks.plain, result_body, result_branch]

/-! ## Whole texts

Both readers of whole texts, in any setting: with any delimiters, and with as many levels of
nesting as one likes. -/

def source (setting : Setting) (text : List Char) : Traced (List Element × Cursor) :=
  elements (blocksOf (text.length + 1)) setting [] (Cursor.ofSource text)

theorem result_source (tags : Delimiters) (text : List Char) :
    (source (.initial tags) text).result = Grammar.source tags text := by
  rw [source, result_elements, plain_blocksOf]
  rfl

def wholeExpression (setting : Setting) (text : List Char) : Traced (Expr × Cursor) := do
  let (expr, next) ← expression setting (Cursor.ofSource text)
  let stop := next.skipBlanks
  if stop.rest.isEmpty then pure (expr, stop)
  else fail (.hard (.unexpected stop.rest.head?) stop.nextSpan)

theorem result_wholeExpression (text : List Char) :
    (wholeExpression (.initial .standard) text).result = Grammar.wholeExpression text := by
  unfold wholeExpression Grammar.wholeExpression
  dsimp only
  rw [result_bind, result_expression]
  congr 1
  funext ⟨expr, next⟩
  dsimp only
  split <;> rfl

end Traced

end TemplateLang
