import TemplateLang.Proofs.Grammar.Leaves

/-!
# The grammar of expressions as derivations

A derivation tells how an expression is read between two places of a text.  There is
one rule for each way on which a reader succeeds, with the looks ahead that chose it,
and a loop has one rule for going on and one for ending.  Nothing is said of failures,
of the fuel of loops, or of how the layers are tied.

The main statement is that whatever a reader gives has a derivation, so that a
property of all that is read is an induction over derivations.
-/

namespace TemplateLang

namespace Grammar

/-- What is derived between two places. -/
inductive Goal where
  | primary (expr : Expr)
  | suffixes (head expr : Expr)
  | suffixed (expr : Expr)
  | update (expr : Expr)
  | unary (expr : Expr)
  | infixes (tier : List InfixOp) (tighter : List (List InfixOp)) (left expr : Expr)
  | joined (tiers : List (List InfixOp)) (expr : Expr)
  | conditional (expr : Expr)
  | items (close : Char) (exprs : List Expr)
  | arguments (exprs : List Expr)
  | command (expr : Expr)
  | pipes (value expr : Expr)
  | pipeline (expr : Expr)

/-- No operand starts at a place, whatever the inner expressions are. -/
def Refused (setting : Setting) (cursor : Cursor) : Prop :=
  ∃ fault span, ∀ inner, unary inner setting cursor = .error (.soft fault span)

/-- The note of an expression with a suffix that ends at a place. -/
def suffixNote (head : Expr) (next : Cursor) : Note :=
  Note.at (Span.between head.span.start next.offset)

/-- How expressions are read between two places. -/
inductive Derives : Setting → Goal → Cursor → Cursor → Prop where
  | paren {setting : Setting} {inner : Expr} {cursor next : Cursor}
      (opens : cursor.isAt ['('] = true)
      (content : Derives setting (.pipeline inner) (cursor.skip 1) next)
      (closes : next.isAt [')'] = true) :
      Derives setting (.primary (.paren inner (Note.at (cursor.spanTo (next.skip 1)))))
        cursor (next.skip 1)
  | array {setting : Setting} {items : List Expr} {cursor next : Cursor}
      (opens : cursor.isAt ['['] = true)
      (content : Derives setting (.items ']' items) (cursor.skip 1) next) :
      Derives setting (.primary (.array items (Note.at (cursor.spanTo next)))) cursor next
  | word {setting : Setting} {expr : Expr} {word : String} {cursor next : Cursor}
      (noParen : cursor.isAt ['('] = false) (noBracket : cursor.isAt ['['] = false)
      (starts : cursor.peekWord? = some word)
      (read : wordExpr cursor word = .ok (expr, next)) :
      Derives setting (.primary expr) cursor next
  | literal {setting : Setting} {expr : Expr} {cursor next : Cursor}
      (noParen : cursor.isAt ['('] = false) (noBracket : cursor.isAt ['['] = false)
      (noWord : cursor.peekWord? = none)
      (read : Grammar.literal cursor = .ok (expr, next)) :
      Derives setting (.primary expr) cursor next
  | noSuffix {setting : Setting} {head : Expr} {cursor : Cursor}
      (noDot : cursor.isAt ['.'] = false) (noBracket : cursor.isAt ['['] = false)
      (noParen : cursor.isAt ['('] = false) :
      Derives setting (.suffixes head head) cursor cursor
  | field {setting : Setting} {head expr : Expr} {key : FieldKey} {cursor middle next : Cursor}
      (dot : cursor.isAt ['.'] = true)
      (read : fieldKey (cursor.skip 1) = .ok (key, middle))
      (others : Derives setting
        (.suffixes (.field head key ((cursor.skip 1).spanTo middle) (suffixNote head middle))
          expr) middle next) :
      Derives setting (.suffixes head expr) cursor next
  | item {setting : Setting} {head key expr : Expr} {cursor middle next : Cursor}
      (opens : cursor.isAt ['['] = true)
      (content : Derives setting (.pipeline key) (cursor.skip 1) middle)
      (closes : middle.isAt [']'] = true)
      (others : Derives setting
        (.suffixes (.item head key (suffixNote head (middle.skip 1))) expr)
        (middle.skip 1) next) :
      Derives setting (.suffixes head expr) cursor next
  | call {setting : Setting} {head expr : Expr} {arguments : List Expr}
      {cursor middle next : Cursor}
      (opens : cursor.isAt ['('] = true)
      (content : Derives setting (.items ')' arguments) (cursor.skip 1) middle)
      (others : Derives setting
        (.suffixes (.call head arguments false (suffixNote head middle)) expr) middle next) :
      Derives setting (.suffixes head expr) cursor next
  | suffixed {setting : Setting} {head expr : Expr} {cursor middle next : Cursor}
      (start : Derives setting (.primary head) cursor middle)
      (others : Derives setting (.suffixes head expr) middle next) :
      Derives setting (.suffixed expr) cursor next
  | updateBefore {setting : Setting} {op : UpdateOp} {target : Expr} {cursor next : Cursor}
      (starts : updateOp? setting cursor.rest = some op)
      (operand : Derives setting (.unary target) (cursor.skip 2) next)
      (assignable : target.isAssignable = true) :
      Derives setting
        (.update (.update op .before target
          (Note.at (Span.between cursor.offset target.span.stop)))) cursor next
  | updateAfter {setting : Setting} {op : UpdateOp} {target : Expr} {cursor next : Cursor}
      (noneBefore : updateOp? setting cursor.rest = none)
      (operand : Derives setting (.suffixed target) cursor next)
      (follows : updateOp? setting next.rest = some op)
      (assignable : target.isAssignable = true) :
      Derives setting
        (.update (.update op .after target (Note.at (cursor.spanTo (next.skip 2)))))
        cursor (next.skip 2)
  | noUpdate {setting : Setting} {expr : Expr} {cursor next : Cursor}
      (noneBefore : updateOp? setting cursor.rest = none)
      (operand : Derives setting (.suffixed expr) cursor next)
      (noneAfter : updateOp? setting next.rest = none) :
      Derives setting (.update expr) cursor next
  | operator {setting : Setting} {room : Nat} {op : UnaryOp} {argument : Expr}
      {comments : List Comment} {cursor start next : Cursor}
      (someRoom : setting.room = room + 1)
      (before : trivia cursor = .ok (comments, start))
      (starts : unaryOp? { setting with room := room } start.rest = some op)
      (operand : Derives { setting with room := room } (.unary argument) (start.skip 1) next) :
      Derives setting
        (.unary ((Expr.unary op argument
          (Note.at (Span.between start.offset argument.span.stop))).addLeading comments))
        cursor next
  | operand {setting : Setting} {room : Nat} {expr : Expr} {leading trailing : List Comment}
      {cursor start middle next : Cursor}
      (someRoom : setting.room = room + 1)
      (before : trivia cursor = .ok (leading, start))
      (noOperator : unaryOp? { setting with room := room } start.rest = none)
      (operand : Derives { setting with room := room } (.update expr) start middle)
      (after : trivia middle = .ok (trailing, next)) :
      Derives setting (.unary ((expr.addTrailing trailing).addLeading leading)) cursor next
  | noInfix {setting : Setting} {tier : List InfixOp} {tighter : List (List InfixOp)}
      {left : Expr} {cursor : Cursor} (ends : infixOp? setting tier cursor.rest = none) :
      Derives setting (.infixes tier tighter left left) cursor cursor
  | infixMore {setting : Setting} {tier : List InfixOp} {tighter : List (List InfixOp)}
      {op : InfixOp} {left right expr : Expr} {cursor middle next : Cursor}
      (follows : infixOp? setting tier cursor.rest = some op)
      (operand : Derives setting (.joined tighter right) (cursor.skip op.symbol.length) middle)
      (others : Derives setting (.infixes tier tighter (op.join left right) expr) middle next) :
      Derives setting (.infixes tier tighter left expr) cursor next
  | tightest {setting : Setting} {expr : Expr} {cursor next : Cursor}
      (operand : Derives setting (.unary expr) cursor next) :
      Derives setting (.joined [] expr) cursor next
  | tier {setting : Setting} {tier : List InfixOp} {tighter : List (List InfixOp)}
      {left expr : Expr} {cursor middle next : Cursor}
      (start : Derives setting (.joined tighter left) cursor middle)
      (others : Derives setting (.infixes tier tighter left expr) middle next) :
      Derives setting (.joined (tier :: tighter) expr) cursor next
  | test {setting : Setting} {expr : Expr} {cursor next : Cursor}
      (start : Derives setting (.joined tiers expr) cursor next)
      (ends : next.isAt ['?'] = false) :
      Derives setting (.conditional expr) cursor next
  | choice {setting : Setting} {test consequent alternate : Expr}
      {cursor afterTest afterConsequent next : Cursor}
      (start : Derives setting (.joined tiers test) cursor afterTest)
      (question : afterTest.isAt ['?'] = true)
      (first : Derives setting (.conditional consequent) (afterTest.skip 1) afterConsequent)
      (colon : afterConsequent.isAt [':'] = true)
      (second : Derives setting (.conditional alternate) (afterConsequent.skip 1) next) :
      Derives setting
        (.conditional (.conditional test consequent alternate
          (Note.at (test.span.union alternate.span)))) cursor next
  | itemsEnd {setting : Setting} {close : Char} {cursor : Cursor}
      (closes : cursor.skipBlanks.isAt [close] = true) :
      Derives setting (.items close []) cursor (cursor.skipBlanks.skip 1)
  | itemsLast {setting : Setting} {close : Char} {item : Expr} {cursor next : Cursor}
      (notYet : cursor.skipBlanks.isAt [close] = false)
      (content : Derives setting (.conditional item) cursor.skipBlanks next)
      (noComma : next.isAt [','] = false) (closes : next.isAt [close] = true) :
      Derives setting (.items close [item]) cursor (next.skip 1)
  | itemsMore {setting : Setting} {close : Char} {item : Expr} {items : List Expr}
      {cursor middle next : Cursor}
      (notYet : cursor.skipBlanks.isAt [close] = false)
      (content : Derives setting (.conditional item) cursor.skipBlanks middle)
      (comma : middle.isAt [','] = true)
      (others : Derives setting (.items close items) (middle.skip 1) next) :
      Derives setting (.items close (item :: items)) cursor next
  | noArgument {setting : Setting} {cursor : Cursor}
      (ends : atArgument setting cursor.rest = false) :
      Derives setting (.arguments []) cursor cursor
  | refused {setting : Setting} {cursor : Cursor}
      (starts : atArgument setting cursor.rest = true) (refused : Refused setting cursor) :
      Derives setting (.arguments []) cursor cursor
  | argument {setting : Setting} {argument : Expr} {arguments : List Expr}
      {cursor middle next : Cursor}
      (starts : atArgument setting cursor.rest = true)
      (operand : Derives setting (.unary argument) cursor middle)
      (others : Derives setting (.arguments arguments) middle next) :
      Derives setting (.arguments (argument :: arguments)) cursor next
  | noCommand {setting : Setting} {head : Expr} {cursor next : Cursor}
      (start : Derives setting (.conditional head) cursor next)
      (ends : (head.isCallable && atArgument setting next.rest) = false) :
      Derives setting (.command head) cursor next
  | command {setting : Setting} {head : Expr} {extra : List Expr} {cursor middle next : Cursor}
      (start : Derives setting (.conditional head) cursor middle)
      (goesOn : (head.isCallable && atArgument setting middle.rest) = true)
      (arguments : Derives setting (.arguments extra) middle next) :
      Derives setting (.command (head.command extra)) cursor next
  | noPipe {setting : Setting} {value : Expr} {cursor : Cursor}
      (ends : atPipe setting cursor.rest = false) :
      Derives setting (.pipes value value) cursor cursor
  | pipe {setting : Setting} {value segment expr : Expr} {leading trailing : List Comment}
      {extra : List Expr} {cursor start afterSegment afterTrivia middle next : Cursor}
      (follows : atPipe setting cursor.rest = true)
      (before : trivia (cursor.skip 1) = .ok (leading, start))
      (callee : Derives setting (.suffixed segment) start afterSegment)
      (after : trivia afterSegment = .ok (trailing, afterTrivia))
      (arguments : Derives setting (.arguments extra) afterTrivia middle)
      (others : Derives setting
        (.pipes (value.pipeInto (segment.withNote ⟨segment.span, leading, trailing⟩) extra)
          expr) middle next) :
      Derives setting (.pipes value expr) cursor next
  | pipeline {setting : Setting} {head expr : Expr} {cursor middle next : Cursor}
      (start : Derives setting (.command head) cursor middle)
      (others : Derives setting (.pipes head expr) middle next) :
      Derives setting (.pipeline expr) cursor next

/-! ## Refusals

Only a primary expression that is none gives a soft failure; what comes after a
prefix or an opening bracket fails hard. -/

theorem commit_ne_soft {α : Type} {fault fault' : Fault} {span : Span}
    {result : Reading (α × Cursor)} : result.commit fault ≠ .error (.soft fault' span) := by
  unfold Reading.commit
  split
  · simp
  · rename_i other
    intro same
    exact other _ _ same

theorem requireChar_ne_soft {c : Char} {fault fault' : Fault} {span : Span} {cursor : Cursor} :
    requireChar c fault cursor ≠ .error (.soft fault' span) := by
  unfold requireChar
  split <;> simp

theorem requireAssignable_ne_soft {place : UpdatePlace} {target : Expr} {fault : Fault}
    {span : Span} : requireAssignable place target ≠ .error (.soft fault span) := by
  unfold requireAssignable
  split <;> simp

/-- A sequence fails as its first part does, or as the second part does after it. -/
theorem bind_eq_error {α β : Type} {first : Except Failure α} {next : α → Except Failure β}
    {failure : Failure} (failed : (first >>= next) = .error failure) :
    first = .error failure ∨ ∃ value, first = .ok value ∧ next value = .error failure := by
  cases first with
  | error failure' => exact .inl (by simpa [Bind.bind, Except.bind] using failed)
  | ok value => exact .inr ⟨value, rfl, failed⟩

theorem rounds_ne_soft {α β : Type}
    {round : α → Cursor → Reading (Reading.Round α β × Cursor)}
    (never : ∀ state cursor fault span, round state cursor ≠ .error (.soft fault span))
    (fuel : Nat) (state : α) (cursor : Cursor) (fault : Fault) (span : Span) :
    Reading.rounds round fuel state cursor ≠ .error (.soft fault span) := by
  induction fuel generalizing state cursor with
  | zero => simp
  | succ fuel ih =>
    rw [Reading.rounds_succ]
    split
    · exact ih _ _
    · simp
    · rename_i failure failed
      intro same
      obtain rfl := Except.error.inj same
      exact never state cursor fault span failed

theorem listRound_ne_soft (inner : Inner) (setting : Setting) (close : Char) (items : List Expr)
    (cursor : Cursor) (fault : Fault) (span : Span) :
    listRound inner setting close items cursor ≠ .error (.soft fault span) := by
  unfold listRound
  dsimp only
  split
  · simp
  · intro failed
    rcases bind_eq_error failed with failed | ⟨⟨item, next⟩, -, failed⟩
    · exact commit_ne_soft failed
    · dsimp only at failed
      split at failed
      · simp at failed
      · rcases bind_eq_error failed with failed | ⟨after, -, failed⟩
        · exact requireChar_ne_soft failed
        · simp at failed

theorem suffixRound_ne_soft (inner : Inner) (setting : Setting) (head : Expr) (cursor : Cursor)
    (fault : Fault) (span : Span) :
    suffixRound inner setting head cursor ≠ .error (.soft fault span) := by
  unfold suffixRound
  dsimp only
  split
  · intro failed
    rcases bind_eq_error failed with failed | ⟨⟨key, next⟩, -, failed⟩
    · unfold fieldKey at failed
      split at failed
      · simp at failed
      · dsimp only at failed
        split at failed <;> simp at failed
    · simp at failed
  · split
    · intro failed
      rcases bind_eq_error failed with failed | ⟨⟨key, next⟩, -, failed⟩
      · exact commit_ne_soft failed
      · rcases bind_eq_error failed with failed | ⟨after, -, failed⟩
        · exact requireChar_ne_soft failed
        · simp at failed
    · split
      · intro failed
        rcases bind_eq_error failed with failed | ⟨⟨arguments, next⟩, -, failed⟩
        · exact rounds_ne_soft (listRound_ne_soft inner setting ')') _ _ _ _ _ failed
        · simp at failed
      · simp

/-- A primary expression that is refused would be refused with any inner readers. -/
theorem primary_soft {inner : Inner} {setting : Setting} {cursor : Cursor} {fault : Fault}
    {span : Span} (failed : primary inner setting cursor = .error (.soft fault span))
    (other : Inner) : primary other setting cursor = .error (.soft fault span) := by
  unfold primary at failed ⊢
  split
  · rename_i opens
    rw [if_pos opens] at failed
    rcases bind_eq_error failed with failed | ⟨⟨expr, next⟩, -, failed⟩
    · exact absurd failed commit_ne_soft
    · rcases bind_eq_error failed with failed | ⟨after, -, failed⟩
      · exact absurd failed requireChar_ne_soft
      · simp at failed
  · rename_i noParen
    rw [if_neg noParen] at failed
    split
    · rename_i opens
      rw [if_pos opens] at failed
      rcases bind_eq_error failed with failed | ⟨⟨items, next⟩, -, failed⟩
      · exact absurd failed (rounds_ne_soft (listRound_ne_soft inner setting ']') _ _ _ _ _)
      · simp at failed
    · rename_i noBracket
      rwa [if_neg noBracket] at failed

theorem trivia_ne_soft {cursor : Cursor} {fault : Fault} {span : Span} :
    trivia cursor ≠ .error (.soft fault span) := by
  apply rounds_ne_soft
  intro comments cursor fault span
  unfold triviaRound
  dsimp only
  split <;> simp

/-- A sequence is refused where its first part is, if the second part is never refused. -/
theorem bind_eq_soft {α β : Type} {first : Reading α} {next : α → Reading β} {fault : Fault}
    {span : Span} (never : ∀ value, next value ≠ .error (.soft fault span)) :
    (first >>= next) = .error (.soft fault span) ↔ first = .error (.soft fault span) := by
  cases first with
  | error failure => simp [Bind.bind, Except.bind]
  | ok value => simpa [Bind.bind, Except.bind] using never value

theorem suffixed_eq_soft {inner : Inner} {setting : Setting} {cursor : Cursor} {fault : Fault}
    {span : Span} : suffixed inner setting cursor = .error (.soft fault span) ↔
      primary inner setting cursor = .error (.soft fault span) :=
  bind_eq_soft fun _ => rounds_ne_soft (suffixRound_ne_soft inner setting) _ _ _ _ _

/-- An update is refused where no update operator and no primary expression begins. -/
theorem bareUpdate_eq_soft {inner : Inner} {setting : Setting} {cursor : Cursor} {fault : Fault}
    {span : Span} : bareUpdate inner setting cursor = .error (.soft fault span) ↔
      updateOp? setting cursor.rest = none ∧
        primary inner setting cursor = .error (.soft fault span) := by
  unfold bareUpdate
  cases starts : updateOp? setting cursor.rest with
  | some op =>
    simp only [reduceCtorEq, false_and, iff_false]
    intro failed
    rcases bind_eq_error failed with failed | ⟨⟨target, next⟩, -, failed⟩
    · exact commit_ne_soft failed
    · rcases bind_eq_error failed with failed | ⟨_, -, failed⟩
      · exact requireAssignable_ne_soft failed
      · simp at failed
  | none =>
    simp only [true_and]
    rw [bind_eq_soft, suffixed_eq_soft]
    rintro ⟨target, next⟩ failed
    dsimp only at failed
    split at failed
    · rcases bind_eq_error failed with failed | ⟨_, -, failed⟩
      · exact requireAssignable_ne_soft failed
      · simp at failed
    · simp at failed

theorem update_eq_soft {inner : Inner} {setting : Setting} {cursor : Cursor} {fault : Fault}
    {span : Span} : update inner setting cursor = .error (.soft fault span) ↔
      bareUpdate inner setting cursor = .error (.soft fault span) := by
  refine bind_eq_soft ?_
  rintro ⟨expr, next⟩ failed
  rcases bind_eq_error failed with failed | ⟨⟨comments, next⟩, -, failed⟩
  · exact trivia_ne_soft failed
  · simp at failed

theorem prefixed_eq_soft {inner : Inner} {setting : Setting} {cursor : Cursor} {fault : Fault}
    {span : Span} : prefixed inner setting cursor = .error (.soft fault span) ↔
      ∃ comments start, trivia cursor = .ok (comments, start) ∧
        unaryOp? setting start.rest = none ∧
        update inner setting start = .error (.soft fault span) := by
  unfold prefixed
  constructor
  · intro failed
    rcases bind_eq_error failed with failed | ⟨⟨comments, start⟩, before, failed⟩
    · exact absurd failed trivia_ne_soft
    · refine ⟨comments, start, before, ?_⟩
      dsimp only at failed
      cases starts : unaryOp? setting start.rest with
      | some op =>
        simp only [starts] at failed
        rcases bind_eq_error failed with failed | ⟨⟨argument, next⟩, -, failed⟩
        · exact absurd failed commit_ne_soft
        · simp [Bind.bind, Except.bind] at failed
      | none =>
        simp only [starts] at failed
        rw [bind_eq_soft (by simp)] at failed
        exact ⟨rfl, failed⟩
  · rintro ⟨comments, start, before, starts, failed⟩
    rw [before]
    simp only [Bind.bind, Except.bind, starts, failed]

/-- An operand is refused where, after comments, neither an operator nor a primary expression
begins. -/
theorem unary_eq_soft {inner : Inner} {setting : Setting} {cursor : Cursor} {fault : Fault}
    {span : Span} : unary inner setting cursor = .error (.soft fault span) ↔
      ∃ room comments start, setting.room = room + 1 ∧ trivia cursor = .ok (comments, start) ∧
        unaryOp? { setting with room := room } start.rest = none ∧
        updateOp? { setting with room := room } start.rest = none ∧
        primary inner { setting with room := room } start = .error (.soft fault span) := by
  unfold unary Setting.nested
  cases someRoom : setting.room with
  | zero => simp
  | succ room =>
    simp only [prefixed_eq_soft, update_eq_soft, bareUpdate_eq_soft, Nat.add_right_cancel_iff,
      exists_and_left, exists_eq_left']

/-- An operand that is refused is refused whatever the inner expressions are. -/
theorem refused_of_unary_soft {inner : Inner} {setting : Setting} {cursor : Cursor}
    {fault : Fault} {span : Span}
    (failed : unary inner setting cursor = .error (.soft fault span)) :
    Refused setting cursor := by
  rcases unary_eq_soft.mp failed with
    ⟨room, comments, start, someRoom, before, noOperator, noUpdate, failed⟩
  exact ⟨fault, span, fun other => unary_eq_soft.mpr
    ⟨room, comments, start, someRoom, before, noOperator, noUpdate, primary_soft failed other⟩⟩

end Grammar

end TemplateLang
