import TemplateLang.Proofs.Grammar.Forward
import TemplateLang.Proofs.Places.Boundary

/-!
# Refusals point into the source

Whatever reader fails, at whatever place of a source, its failure is told with a span on
that source.  A reader that succeeds ends at a place of the source again, and an expression
that it gives has its span on the source; so one reader can be followed by another, and the
spans of expressions that were read can be named in later failures.
-/

namespace TemplateLang

/-- The span that a failure is told with is on a source. -/
def Failure.On (source : List Char) : Failure → Prop
  | .soft _ span | .hard _ span => span.On source
  | .exhausted => True

namespace Reading

variable {α β : Type} {source : List Char} {post : α → Prop} {post' : β → Prop}

/-- A result that is as described, or a failure on the source. -/
def Meets (source : List Char) (post : α → Prop) : Except Failure α → Prop
  | .ok value => post value
  | .error failure => failure.On source

/-- A reader has ended at a place of the source. -/
def Arrives (source : List Char) (given : α × Cursor) : Prop :=
  given.2.In source

/-- A reader has given an expression of the source and ended at a place of it. -/
def Yields (source : List Char) (given : Expr × Cursor) : Prop :=
  given.1.span.On source ∧ given.2.In source

theorem Meets.bind {first : Except Failure α} {next : α → Except Failure β}
    (meets : Meets source post first) (goesOn : ∀ value, post value →
      Meets source post' (next value)) : Meets source post' (first >>= next) := by
  cases first with
  | ok value => exact goesOn value meets
  | error failure => exact meets

theorem Meets.commit {post : α × Cursor → Prop} {result : Reading (α × Cursor)}
    (meets : Meets source post result) (fault : Fault) :
    Meets source post (result.commit fault) := by
  rcases result with failure | given
  · cases failure with
    | soft _ _ => exact meets
    | hard _ _ => exact meets
    | exhausted => trivial
  · exact meets

theorem meets_ofScan {absent : Failure} {scan : Scan α} (on : absent.On source)
    (stays : scan.Stays source) : Meets source (Arrives source) (ofScan absent scan) := by
  cases scan with
  | found _ _ => exact stays
  | absent => exact on
  | broken _ _ _ => exact stays.1

/-- What a round leaves, if the loop goes on, and gives, if it ends. -/
def RoundMeets (motive : α × Cursor → Prop) (post : β × Cursor → Prop) :
    Round α β × Cursor → Prop
  | (.again state, next) => motive (state, next)
  | (.done result, next) => post (result, next)

/-- A loop whose rounds keep an invariant. -/
theorem meets_loop {round : α → Cursor → Reading (Round α β × Cursor)} {motive : α × Cursor → Prop}
    {post : β × Cursor → Prop}
    (step : ∀ state cursor, motive (state, cursor) →
      Meets source (RoundMeets motive post) (round state cursor))
    {state : α} {cursor : Cursor} (start : motive (state, cursor)) :
    Meets source post (loop round state cursor) := by
  have general (fuel : Nat) : ∀ state cursor, motive (state, cursor) →
      Meets source post (rounds round fuel state cursor) := by
    induction fuel with
    | zero => exact fun _ _ _ => trivial
    | succ fuel ih =>
      intro state cursor holds
      have stepped := step state cursor holds
      rw [rounds_succ]
      split
      · rename_i next again
        rw [again] at stepped
        exact ih _ _ stepped
      · rename_i result next done
        rw [done] at stepped
        exact stepped
      · rename_i failure failed
        rw [failed] at stepped
        exact stepped
  exact general _ state cursor start

end Reading

open Reading

variable {source : List Char} {cursor : Cursor} {setting : Setting}

theorem Setting.meets_nested {α : Type} {post : α × Cursor → Prop}
    {read : Setting → Reading (α × Cursor)} (inside : cursor.In source)
    (meets : ∀ setting, Meets source post (read setting)) :
    Meets source post (setting.nested cursor read) := by
  unfold Setting.nested
  split
  · exact inside.nextSpan
  · exact meets _

/-! ## Marks and comments -/

theorem meets_trivia (inside : cursor.In source) :
    Meets source (Arrives source) (trivia cursor) := by
  apply meets_loop (motive := Arrives source) _ inside
  intro comments cursor inside
  have start : cursor.skipBlanks.In source := Cursor.In.skipWhile inside _
  have stays := Literal.stays_comment start
  unfold triviaRound
  dsimp only
  split
  · rename_i comment next found
    rw [found] at stays
    exact stays
  · exact start
  · rename_i fault span stop broken
    rw [broken] at stays
    exact stays.1

theorem meets_openingTag (inside : cursor.In source) :
    Meets source (Arrives source) (openingTag setting cursor) := by
  have afterMark := inside.skip setting.tags.opening.length
  unfold openingTag
  dsimp only
  split
  · apply (meets_trivia _).bind
    · exact fun _ arrives => arrives
    · split
      · exact afterMark.skip 1
      · exact afterMark
  · exact inside.nextSpan

theorem meets_closingTag (inside : cursor.In source) :
    Meets source (Arrives source) (closingTag setting cursor) := by
  apply (meets_trivia inside).bind
  rintro ⟨comments, start⟩ arrives
  dsimp only
  split
  · exact Cursor.In.skip arrives _
  · exact Cursor.In.nextSpan arrives

theorem meets_requireClosing (inside : cursor.In source) :
    Meets source (Arrives source) (requireClosing setting cursor) :=
  (meets_closingTag inside).commit _

theorem meets_requireChar (c : Char) (fault : Fault) (inside : cursor.In source) :
    Meets source (Cursor.In source) (requireChar c fault cursor) := by
  unfold requireChar
  split
  · exact inside.skip 1
  · exact inside.nextSpan

/-! ## Expressions -/

namespace Grammar

/-- The readers of inner expressions meet what all readers of expressions do. -/
structure Inner.Meets (source : List Char) (inner : Inner) : Prop where
  pipeline : ∀ setting cursor, cursor.In source →
    Reading.Meets source (Yields source) (inner.pipeline setting cursor)
  conditional : ∀ setting cursor, cursor.In source →
    Reading.Meets source (Yields source) (inner.conditional setting cursor)
  unary : ∀ setting cursor, cursor.In source →
    Reading.Meets source (Yields source) (inner.unary setting cursor)

theorem meets_wordExpr (inside : cursor.In source) (word : String) :
    Meets source (Yields source) (wordExpr cursor word) := by
  have next := inside.reaches (Cursor.reaches_skipWord cursor)
  have spanOn := inside.spanTo next
  unfold wordExpr
  dsimp only
  repeat' split
  all_goals first | exact ⟨spanOn, next⟩ | exact spanOn

theorem meets_literal (inside : cursor.In source) :
    Meets source (Yields source) (literal cursor) := by
  unfold literal
  split
  · apply (meets_ofScan _ (Literal.stays_string inside)).bind
    · exact fun _ arrives => ⟨inside.spanTo arrives, arrives⟩
    · exact inside.nextSpan
  · apply (meets_ofScan _ (Literal.stays_number inside)).bind
    · exact fun _ arrives => ⟨inside.spanTo arrives, arrives⟩
    · exact inside.nextSpan

theorem meets_fieldKey (inside : cursor.In source) :
    Meets source (Arrives source) (fieldKey cursor) := by
  unfold fieldKey
  split
  · exact inside.reaches (Cursor.reaches_skipWord cursor)
  · dsimp only
    split
    · exact inside.nextSpan
    · exact inside.skip _

variable {inner : Inner} (innerMeets : inner.Meets source)

include innerMeets

theorem meets_list (inside : cursor.In source) (close : Char) :
    Meets source (Arrives source) (list inner setting close cursor) := by
  apply meets_loop (motive := Arrives source) _ inside
  intro items cursor inside
  have start := Cursor.In.skipWhile inside Unicode.isBlank
  unfold listRound
  dsimp only
  split
  · exact Cursor.In.skip start 1
  · apply ((innerMeets.conditional _ _ start).commit _).bind
    rintro ⟨item, next⟩ ⟨-, arrives⟩
    dsimp only
    split
    · exact Cursor.In.skip arrives 1
    · exact (meets_requireChar _ _ arrives).bind fun _ closed => closed

theorem meets_primary (inside : cursor.In source) :
    Meets source (Yields source) (primary inner setting cursor) := by
  unfold primary
  split
  · apply ((innerMeets.pipeline _ _ (inside.skip 1)).commit _).bind
    rintro ⟨expr, next⟩ ⟨-, arrives⟩
    apply (meets_requireChar _ _ arrives).bind
    exact fun stop closed => ⟨inside.spanTo closed, closed⟩
  split
  · apply (meets_list innerMeets (inside.skip 1) _).bind
    exact fun given arrives => ⟨inside.spanTo arrives, arrives⟩
  · split
    · exact meets_wordExpr inside _
    · exact meets_literal inside

theorem meets_suffixed (inside : cursor.In source) :
    Meets source (Yields source) (suffixed inner setting cursor) := by
  apply (meets_primary innerMeets inside).bind
  intro given yields
  apply meets_loop (motive := Yields source) _ yields
  rintro expr cursor ⟨on, inside⟩
  have noteOn {next : Cursor} (arrives : next.In source) :
      (Span.between expr.span.start next.offset).On source :=
    Span.on_between on.start arrives.boundary
  unfold suffixRound
  dsimp only
  split
  · apply (meets_fieldKey (Cursor.In.skip inside 1)).bind
    exact fun given arrives => ⟨noteOn arrives, arrives⟩
  split
  · apply ((innerMeets.pipeline _ _ (Cursor.In.skip inside 1)).commit _).bind
    rintro ⟨key, next⟩ ⟨-, arrives⟩
    apply (meets_requireChar _ _ arrives).bind
    exact fun stop closed => ⟨noteOn closed, closed⟩
  split
  · apply (meets_list innerMeets (Cursor.In.skip inside 1) _).bind
    exact fun given arrives => ⟨noteOn arrives, arrives⟩
  · exact ⟨on, inside⟩

omit innerMeets in
theorem meets_requireAssignable {place : UpdatePlace} {target : Expr} (on : target.span.On source) :
    Meets source (fun _ => True) (requireAssignable place target) := by
  unfold requireAssignable
  split
  · trivial
  · exact on

theorem meets_bareUpdate (inside : cursor.In source) :
    Meets source (Yields source) (bareUpdate inner setting cursor) := by
  unfold bareUpdate
  split
  · apply ((innerMeets.unary _ _ (inside.skip 2)).commit _).bind
    rintro ⟨target, next⟩ ⟨on, arrives⟩
    apply (meets_requireAssignable on).bind
    exact fun _ _ => ⟨Span.on_between inside.boundary on.stop, arrives⟩
  · apply (meets_suffixed innerMeets inside).bind
    rintro ⟨target, next⟩ ⟨on, arrives⟩
    dsimp only
    split
    · apply (meets_requireAssignable on).bind
      exact fun _ _ => ⟨inside.spanTo (Cursor.In.skip arrives 2), Cursor.In.skip arrives 2⟩
    · exact ⟨on, arrives⟩

omit innerMeets in
/-- Comments do not move an expression. -/
theorem span_withNote (expr : Expr) (note : Note) : (expr.withNote note).span = note.span := by
  rw [Expr.span, Expr.note_withNote]

theorem meets_update (inside : cursor.In source) :
    Meets source (Yields source) (update inner setting cursor) := by
  apply (meets_bareUpdate innerMeets inside).bind
  rintro ⟨expr, next⟩ ⟨on, arrives⟩
  apply (meets_trivia arrives).bind
  intro given arrives
  constructor
  · rw [Expr.addTrailing, span_withNote]
    exact on
  · exact arrives

theorem meets_prefixed (inside : cursor.In source) :
    Meets source (Yields source) (prefixed inner setting cursor) := by
  apply (meets_trivia inside).bind
  rintro ⟨comments, start⟩ atStart
  have finish {expr : Expr} {next : Cursor} (yields : Yields source (expr, next)) :
      Yields source (expr.addLeading comments, next) := by
    constructor
    · rw [Expr.addLeading, span_withNote]
      exact yields.1
    · exact yields.2
  dsimp only
  split
  · apply ((innerMeets.unary _ _ (Cursor.In.skip atStart 1)).commit _).bind
    rintro ⟨argument, next⟩ ⟨on, arrives⟩
    exact finish ⟨Span.on_between (Cursor.In.boundary atStart) on.stop, arrives⟩
  · exact (meets_update innerMeets atStart).bind fun _ yields => finish yields

theorem meets_unary (inside : cursor.In source) :
    Meets source (Yields source) (unary inner setting cursor) :=
  Setting.meets_nested inside fun _ => meets_prefixed innerMeets inside

theorem meets_joined (tiers : List (List InfixOp)) :
    ∀ cursor : Cursor, cursor.In source →
      Meets source (Yields source) (joined inner setting tiers cursor) := by
  induction tiers with
  | nil => exact fun cursor inside => meets_unary innerMeets inside
  | cons tier tighter ih =>
    intro cursor inside
    apply (ih cursor inside).bind
    intro given yields
    apply meets_loop (motive := Yields source) _ yields
    rintro left cursor ⟨on, inside⟩
    unfold infixRound
    split
    · rename_i op _
      apply ((ih _ (Cursor.In.skip inside _)).commit _).bind
      rintro ⟨right, next⟩ ⟨onRight, arrives⟩
      have spanOn := on.union onRight
      cases op <;> exact ⟨spanOn, arrives⟩
    · exact ⟨on, inside⟩

theorem meets_conditional (inside : cursor.In source) :
    Meets source (Yields source) (conditional inner setting cursor) := by
  apply (meets_joined innerMeets tiers cursor inside).bind
  rintro ⟨test, next⟩ ⟨on, arrives⟩
  dsimp only
  split
  · apply ((innerMeets.conditional _ _ (Cursor.In.skip arrives 1)).commit _).bind
    rintro ⟨consequent, middle⟩ ⟨-, afterFirst⟩
    apply (meets_requireChar _ _ afterFirst).bind
    intro colon afterColon
    apply ((innerMeets.conditional _ _ afterColon).commit _).bind
    rintro ⟨alternate, stop⟩ ⟨onAlternate, afterSecond⟩
    exact ⟨on.union onAlternate, afterSecond⟩
  · exact ⟨on, arrives⟩

/-! ## Commands and pipes -/

/-- Arguments on the source, and a place of it after them. -/
def YieldsAll (source : List Char) (given : List Expr × Cursor) : Prop :=
  (∀ expr ∈ given.1, expr.span.On source) ∧ given.2.In source

theorem meets_arguments (inside : cursor.In source) :
    Meets source (YieldsAll source) (arguments inner setting cursor) := by
  apply meets_loop (motive := YieldsAll source) _ ⟨by simp, inside⟩
  rintro before cursor ⟨all, inside⟩
  have operand : Meets source _ (unary inner setting cursor) := meets_unary innerMeets inside
  unfold argumentRound
  split
  · split
    · rename_i argument next read
      rw [read] at operand
      constructor
      · exact List.forall_mem_append.mpr ⟨all, by simpa using operand.1⟩
      · exact operand.2
    · exact ⟨all, inside⟩
    · rename_i failure _ failed
      rw [failed] at operand
      exact operand
  · exact ⟨all, inside⟩

omit innerMeets in
theorem span_applyTo (callee : Expr) (first extra : List Expr) (isPiped : Bool) (span : Span) :
    (callee.applyTo first extra isPiped span).span = span := by
  rcases Expr.applyTo_cases callee first extra isPiped span with ⟨_, _, _, -, -, same⟩ | same
  all_goals rw [same]; rfl

omit innerMeets in
/-- The span from an expression to the last argument after it. -/
theorem on_spanWith {start last : Expr} {extra : List Expr} (starts : start.span.On source)
    (stops : last.span.On source) (all : ∀ expr ∈ extra, expr.span.On source) :
    (Expr.spanWith start last extra).On source := by
  apply Span.on_between starts.start
  cases isLast : extra.getLast? with
  | none => exact stops.stop
  | some final => exact (all final (List.mem_of_getLast? isLast)).stop

theorem meets_command (inside : cursor.In source) :
    Meets source (Yields source) (command inner setting cursor) := by
  apply (meets_conditional innerMeets inside).bind
  rintro ⟨head, next⟩ ⟨on, arrives⟩
  dsimp only
  split
  · apply (meets_arguments innerMeets arrives).bind
    rintro ⟨extra, stop⟩ ⟨all, arrives⟩
    constructor
    · rw [Expr.command, span_applyTo]
      exact on_spanWith on on all
    · exact arrives
  · exact ⟨on, arrives⟩

theorem meets_pipeline (inside : cursor.In source) :
    Meets source (Yields source) (pipeline inner setting cursor) := by
  apply (meets_command innerMeets inside).bind
  intro given yields
  apply meets_loop (motive := Yields source) _ yields
  rintro value cursor ⟨on, inside⟩
  unfold pipeRound
  split
  · apply (meets_trivia (Cursor.In.skip inside 1)).bind
    rintro ⟨leading, start⟩ atStart
    apply ((meets_suffixed innerMeets atStart).commit _).bind
    rintro ⟨segment, next⟩ ⟨onSegment, arrives⟩
    apply (meets_trivia arrives).bind
    rintro ⟨trailing, afterTrivia⟩ arrives
    apply (meets_arguments innerMeets arrives).bind
    rintro ⟨extra, stop⟩ ⟨all, arrives⟩
    constructor
    · rw [Expr.pipeInto, span_applyTo]
      apply on_spanWith on _ all
      rw [span_withNote]
      exact onSegment
    · exact arrives
  · exact ⟨on, inside⟩

omit innerMeets

theorem meets_innerOf (fuel : Nat) : (innerOf fuel).Meets source := by
  induction fuel with
  | zero => exact ⟨fun _ _ _ => trivial, fun _ _ _ => trivial, fun _ _ _ => trivial⟩
  | succ fuel ih =>
    exact ⟨fun _ _ => meets_pipeline ih, fun _ _ => meets_conditional ih, fun _ _ => meets_unary ih⟩

theorem meets_expression (inside : cursor.In source) :
    Meets source (Yields source) (expression setting cursor) :=
  meets_pipeline (meets_innerOf _) inside

end Grammar

end TemplateLang
