import TemplateLang.Proofs.Blanking.Operand
import TemplateLang.Proofs.RoundTrip.Tags
import TemplateLang.Proofs.Termination.Readers

/-!
# The calls that an expression takes

Each reader of an expression takes 64 calls for a byte at most, and a few more.  The few
more are its weight: a reader calls the tighter ones where it stands itself, so the weights
add up from the tightest layer to the loosest.  What is called past a character, such as a
whole pipe in parentheses, is paid for by that character, whatever its weight.
-/

namespace TemplateLang

namespace Traced

open Cursor Grammar

/-- A reader of an expression costs 64 calls for a byte and `weight` more, and takes a
character. -/
abbrev Takes (layer : Layer) (weight : Nat) (cursor : Cursor)
    (reading : Traced (Expr × Cursor)) : Prop :=
  reading.Costs layer cursor (64 * cursor.room + weight) fun next => 64 * (next.room + 1)

/-- A reader whose weight is less than what a character pays for leaves less of the text. -/
theorem Takes.room_lt {layer : Layer} {weight : Nat} {cursor next : Cursor} {expr : Expr}
    {reading : Traced (Expr × Cursor)} (takes : reading.Takes layer weight cursor)
    (light : weight < 64) (given : reading.result = .ok (expr, next)) :
    next.room < cursor.room := by
  have paid := Costs.back_le takes given
  omega

variable {setting : Setting}

/-! ## Comments -/

/-- A comment is a character at least, so one call for each character is enough. -/
theorem costs_trivia (cursor : Cursor) :
    (trivia cursor).Costs .trivia cursor (cursor.room + 1) fun next => next.room := by
  apply costs_repeated room
  intro comments cursor reaches
  refine .scan ?_ ?_
  · unfold TemplateLang.triviaRound
    dsimp only
    split <;> simp
  · rintro ⟨again | done, next⟩ read
    · obtain ⟨comment, found, -⟩ := triviaRound_eq_again.mp read
      have passes := cursor.reaches_skipBlanks.trans_passes (Literal.passes_of_comment found)
      exact goes_again passes.reaches passes.room_lt passes.room_lt
    · obtain ⟨-, -, rfl⟩ := triviaRound_eq_done.mp read
      exact goes_done cursor.reaches_skipBlanks cursor.reaches_skipBlanks.room_le

/-! ## Scans are answered -/

theorem requireChar_answered {c : Char} {fault : Fault} {cursor : Cursor} :
    requireChar c fault cursor ≠ .error .exhausted := by
  unfold requireChar
  split <;> simp

theorem requireAssignable_answered {place : UpdatePlace} {target : Expr} :
    requireAssignable place target ≠ .error .exhausted := by
  unfold requireAssignable
  split <;> simp

theorem fieldKey_answered {cursor : Cursor} : fieldKey cursor ≠ .error .exhausted := by
  unfold fieldKey
  split
  · simp
  · dsimp only
    split <;> simp

theorem wordExpr_answered {cursor : Cursor} {word : String} :
    wordExpr cursor word ≠ .error .exhausted := by
  unfold wordExpr
  dsimp only
  repeat' split
  all_goals simp

theorem ofScan_answered {α : Type} {absent : Failure} {found : Scan α}
    (answered : absent ≠ .exhausted) : Reading.ofScan absent found ≠ .error .exhausted := by
  cases found <;> simp [Reading.ofScan, answered]

theorem literal_answered {cursor : Cursor} : literal cursor ≠ .error .exhausted := by
  intro same
  unfold literal at same
  split at same
  all_goals
    rcases bind_eq_error same with failed | ⟨_, -, failed⟩
    · exact ofScan_answered (by simp) failed
    · simp at failed

theorem passes_of_isAt {cursor : Cursor} {c : Char} (isAt : cursor.isAt [c] = true) :
    cursor.Passes (cursor.skip 1) :=
  isAt_passes isAt (.refl _)

/-! ## From the tightest layer to the loosest -/

/-- The readers of inner expressions do what they promise where less of the text is left
than a bound. -/
structure Inner.Ready (inner : Inner) (bound : Nat) : Prop where
  pipeline : ∀ setting cursor, cursor.room < bound →
    (inner.pipeline setting cursor).Takes .pipeline 36 cursor
  conditional : ∀ setting cursor, cursor.room < bound →
    (inner.conditional setting cursor).Takes .conditional 23 cursor
  unary : ∀ setting cursor, cursor.room < bound →
    (inner.unary setting cursor).Takes .unary 9 cursor

variable {inner : Inner} {bound : Nat} (ready : inner.Ready bound)

include ready

theorem costs_list {start : Cursor} (inside : start.room < bound) (close : Char) :
    (list inner setting close start).Costs .items start (64 * start.room + 24)
      fun next => 64 * (next.room + 1) := by
  apply costs_repeated fun cursor => 64 * cursor.room + 23
  intro items cursor reaches
  have further := reaches.room_le
  have blanks := cursor.reaches_skipBlanks
  have afterBlanks := blanks.room_le
  unfold listRound
  dsimp only
  split
  · rename_i closes
    have shorter := (passes_of_isAt closes).room_lt
    exact .pure (goes_done (blanks.trans (reaches_skip _ 1)) (by omega))
  · refine ((ready.conditional setting _ (by omega)).commit _).andThen
      (Place.below_of_le afterBlanks (by decide)) (by omega) ?_
    intro item next left _ onward paid
    have toItem := blanks.trans onward
    have room := toItem.room_le
    dsimp only
    split
    · rename_i comma
      have shorter := (passes_of_isAt comma).room_lt
      exact .pure (goes_again (toItem.trans (reaches_skip _ 1)) (by omega) (by omega))
    · refine .scan_bind requireChar_answered ?_
      intro after closes
      obtain ⟨isAt, rfl⟩ := requireChar_eq_ok.mp closes
      have shorter := (passes_of_isAt isAt).room_lt
      exact .pure (goes_done (toItem.trans (reaches_skip _ 1)) (by omega))

theorem takes_primary {cursor : Cursor} (inside : cursor.room ≤ bound) :
    (primary inner setting cursor).Takes .primary 1 cursor := by
  refine .called ?_
  split
  · rename_i opens
    have pastOpening := passes_of_isAt opens
    have shorter := pastOpening.room_lt
    refine ((ready.pipeline setting _ (by omega)).commit _).andThen (Place.below_of_lt shorter)
      (by omega) ?_
    intro expr next left _ onward paid
    dsimp only
    refine .scan_bind requireChar_answered ?_
    intro after closes
    obtain ⟨isAt, rfl⟩ := requireChar_eq_ok.mp closes
    have room := (passes_of_isAt isAt).room_lt
    exact .pure (leaves ((pastOpening.reaches.trans onward).trans (reaches_skip _ 1)) (by omega))
  split
  · rename_i opens
    have pastOpening := passes_of_isAt opens
    have shorter := pastOpening.room_lt
    refine (costs_list ready (by omega) ']').andThen (Place.below_of_lt shorter) (by omega) ?_
    intro items next left _ onward paid
    exact .pure (leaves (pastOpening.reaches.trans onward) (by omega))
  · split
    · rename_i word atWord
      refine .scan wordExpr_answered ?_
      rintro ⟨expr, next⟩ read
      obtain rfl := reaches_of_wordExpr read
      have passes := passes_skipWord atWord
      have shorter := passes.room_lt
      exact leaves passes.reaches (by omega)
    · refine .scan literal_answered ?_
      rintro ⟨expr, next⟩ read
      have passes : cursor.Passes next := by
        rcases literal_eq_ok.mp read with ⟨_, _, found, -⟩ | ⟨-, _, found, -⟩
        · exact Literal.passes_of_string found
        · exact Literal.passes_of_number found
      have shorter := passes.room_lt
      exact leaves passes.reaches (by omega)

theorem costs_suffixes {start : Cursor} (inside : start.room ≤ bound) (expr : Expr) :
    (repeated .suffixes (suffixRound inner setting) expr start).Costs .suffixes start
      (64 * start.room + 1) fun next => 64 * next.room := by
  apply costs_repeated fun cursor => 64 * cursor.room
  intro expr cursor reaches
  have further := reaches.room_le
  unfold suffixRound
  dsimp only
  split
  · rename_i dot
    have pastDot := passes_of_isAt dot
    have shorter := pastDot.room_lt
    refine .scan_bind fieldKey_answered ?_
    rintro ⟨key, next⟩ read
    have onward := reaches_of_fieldKey read
    have room := onward.room_le
    dsimp only
    exact .pure (goes_again (pastDot.reaches.trans onward) (by omega) (by omega))
  split
  · rename_i opens
    have pastOpening := passes_of_isAt opens
    have shorter := pastOpening.room_lt
    refine ((ready.pipeline setting _ (by omega)).commit _).andThen (Place.below_of_lt shorter)
      (by omega) ?_
    intro key next left _ onward paid
    have room := onward.room_le
    dsimp only
    refine .scan_bind requireChar_answered ?_
    intro after closes
    obtain ⟨isAt, rfl⟩ := requireChar_eq_ok.mp closes
    have atEnd := (passes_of_isAt isAt).room_lt
    exact .pure (goes_again ((pastOpening.reaches.trans onward).trans (reaches_skip _ 1))
      (by omega) (by omega))
  split
  · rename_i opens
    have pastOpening := passes_of_isAt opens
    have shorter := pastOpening.room_lt
    refine (costs_list ready (by omega) ')').andThen (Place.below_of_lt shorter) (by omega) ?_
    intro arguments next left _ onward paid
    have room := onward.room_le
    dsimp only
    exact .pure (goes_again (pastOpening.reaches.trans onward) (by omega) (by omega))
  · exact .pure (goes_done (.refl _) (Nat.le_refl _))

theorem takes_suffixed {cursor : Cursor} (inside : cursor.room ≤ bound) :
    (suffixed inner setting cursor).Takes .suffixed 3 cursor := by
  refine .called ((takes_primary ready inside).andThen
    (Place.below_of_level (by decide)) (by omega) ?_)
  intro expr next left _ reaches paid
  have room := reaches.room_le
  refine (costs_suffixes ready (by omega) expr).last
    (Place.below_of_le room (by decide)) (by omega) ?_
  intro expr' next' left' _ onward paid'
  exact leaves (reaches.trans onward) (by omega)

theorem takes_bareUpdate {cursor : Cursor} (inside : cursor.room ≤ bound) :
    (bareUpdate inner setting cursor).Takes .bareUpdate 4 cursor := by
  refine .called ?_
  split
  · rename_i op starts
    have pastOperator := passes_of_updateOp starts
    have shorter := pastOperator.room_lt
    refine ((ready.unary setting _ (by omega)).commit _).andThen (Place.below_of_lt shorter)
      (by omega) ?_
    intro target next left _ onward paid
    refine .scan_bind requireAssignable_answered ?_
    intro _ _
    exact .pure (leaves (pastOperator.reaches.trans onward) (by omega))
  · refine (takes_suffixed ready inside).andThen
      (Place.below_of_level (by decide)) (by omega) ?_
    intro target next left _ reaches paid
    dsimp only
    split
    · refine .scan_bind requireAssignable_answered ?_
      intro _ _
      have room := (next.reaches_skip 2).room_le
      exact .pure (leaves (reaches.trans (reaches_skip _ 2)) (by omega))
    · exact .pure (leaves reaches (by omega))

theorem takes_update {cursor : Cursor} (inside : cursor.room ≤ bound) :
    (update inner setting cursor).Takes .update 6 cursor := by
  refine .called ((takes_bareUpdate ready inside).andThen
    (Place.below_of_level (by decide)) (by omega) ?_)
  intro expr next left _ reaches paid
  refine (costs_trivia next).andThen (Place.below_of_le reaches.room_le (by decide))
    (by omega) ?_
  intro comments next' left' _ onward paid'
  have room := onward.room_le
  exact .pure (leaves (reaches.trans onward) (by omega))

theorem takes_prefixed {cursor : Cursor} (inside : cursor.room ≤ bound) :
    (prefixed inner setting cursor).Takes .prefixed 8 cursor := by
  refine .called ((costs_trivia cursor).andThen
    (Place.below_of_level (by decide)) (by omega) ?_)
  intro comments start left _ reaches paid
  have room := reaches.room_le
  dsimp only
  split
  · rename_i op starts
    have pastOperator := passes_of_unaryOp starts
    have shorter := pastOperator.room_lt
    refine ((ready.unary setting _ (by omega)).commit _).andThen (Place.below_of_lt (by omega))
      (by omega) ?_
    intro argument next left' _ onward paid'
    refine .pure_bind ?_
    dsimp only
    exact .pure (leaves ((reaches.trans pastOperator.reaches).trans onward) (by omega))
  · refine (takes_update ready (by omega)).andThen (Place.below_of_le room (by decide))
      (by omega) ?_
    intro expr next left' _ onward paid'
    dsimp only
    exact .pure (leaves (reaches.trans onward) (by omega))

theorem takes_unary {cursor : Cursor} (inside : cursor.room ≤ bound) :
    (unary inner setting cursor).Takes .unary 9 cursor := by
  refine .called ?_
  unfold nested
  split
  · exact .fail (by simp)
  · refine (takes_prefixed ready inside).last
      (Place.below_of_level (by decide)) (by omega) ?_
    intro expr next left _ reaches paid
    exact leaves reaches (by omega)

omit ready in
theorem costs_operators {tier : List InfixOp} {tighter : Nat}
    {operand : Cursor → Traced (Expr × Cursor)} {start : Cursor}
    (takes : ∀ cursor : Cursor, cursor.room ≤ start.room →
      (operand cursor).Takes (.joined tighter) (10 + 2 * tighter) cursor)
    (few : tighter < 6) (left : Expr) :
    (repeated (.operators tighter) (infixRound setting tier operand) left start).Costs
      (.operators tighter) start (64 * start.room + 1) fun next => 64 * next.room := by
  apply costs_repeated fun cursor => 64 * cursor.room
  intro left cursor reaches
  have further := reaches.room_le
  unfold infixRound
  split
  · rename_i op follows
    have pastOperator := passes_of_infixOp follows
    have shorter := pastOperator.room_lt
    refine ((takes _ (by omega)).commit _).andThen (Place.below_of_lt shorter) (by omega) ?_
    intro right next credit _ onward paid
    have room := onward.room_le
    exact .pure (goes_again (pastOperator.reaches.trans onward) (by omega) (by omega))
  · exact .pure (goes_done (.refl _) (Nat.le_refl _))

theorem takes_joined (levels : List (List InfixOp)) (few : levels.length ≤ 6) {cursor : Cursor}
    (inside : cursor.room ≤ bound) : (joined inner setting levels cursor).Takes
      (.joined levels.length) (10 + 2 * levels.length) cursor := by
  induction levels generalizing cursor with
  | nil =>
    refine .called ((takes_unary ready inside).last (Place.below_of_level (by decide))
      (Nat.le_refl _) ?_)
    intro expr next left _ reaches paid
    exact leaves reaches (by omega)
  | cons tier tighter ih =>
    rw [List.length_cons] at few ⊢
    have costEq : 64 * cursor.room + (10 + 2 * (tighter.length + 1)) =
      64 * cursor.room + 2 * tighter.length + 11 + 1 := by omega
    rw [Takes, costEq, joined]
    refine .called ((ih (by omega) inside).andThen
      (Place.below_of_level (by simp only [Layer.level]; omega)) (by omega) ?_)
    intro first next left _ reaches paid
    have room := reaches.room_le
    have operands : ∀ cursor : Cursor, cursor.room ≤ next.room →
        (joined inner setting tighter cursor).Takes (.joined tighter.length)
          (10 + 2 * tighter.length) cursor :=
      fun cursor further => ih (by omega) (by omega)
    refine (costs_operators operands (by omega) first).last
      (Place.below_of_le room (by simp only [Layer.level]; omega)) (by omega) ?_
    intro expr next' left' _ onward paid'
    exact leaves (reaches.trans onward) (by omega)

theorem takes_conditional {cursor : Cursor} (inside : cursor.room ≤ bound) :
    (conditional inner setting cursor).Takes .conditional 23 cursor := by
  refine .called ((takes_joined ready tiers (by decide) inside).andThen
    (Place.below_of_level (by decide)) (Nat.le_refl _) ?_)
  intro test next left _ reaches paid
  have room := reaches.room_le
  have tiersEq : tiers.length = 6 := rfl
  dsimp only
  split
  · rename_i asks
    have pastMark := passes_of_isAt asks
    have shorter := pastMark.room_lt
    refine ((ready.conditional setting _ (by omega)).commit _).andThen
      (Place.below_of_lt (by omega)) (by omega) ?_
    intro consequent middle left' _ toColon paid'
    have room' := toColon.room_le
    dsimp only
    refine .scan_bind requireChar_answered ?_
    intro after colon
    obtain ⟨isAt, rfl⟩ := requireChar_eq_ok.mp colon
    have shorter' := (passes_of_isAt isAt).room_lt
    refine ((ready.conditional setting _ (by omega)).commit _).andThen
      (Place.below_of_lt (by omega)) (by omega) ?_
    intro alternate stop left'' _ toEnd paid''
    dsimp only
    exact .pure (leaves ((((reaches.trans pastMark.reaches).trans toColon).trans
      (reaches_skip _ 1)).trans toEnd) (by omega))
  · exact .pure (leaves reaches (by omega))

/-! ## Commands and pipes

An argument may be refused: then what was read of it is read again for something else.  No
comment stands where an argument begins, so all that has been read of it is its first word
or character. -/

omit ready in
theorem size_trivia {cursor : Cursor} (settled : cursor.Settled) : (trivia cursor).size = 1 := by
  have last : (triviaRound [] cursor).result = .ok (.done [], cursor) := by
    rw [triviaRound, result_scan, triviaRound_eq_done, settled.skipBlanks]
    exact ⟨settled.no_comment, rfl, rfl⟩
  rw [trivia, repeated, rounds, size_called, size_bind_of_ok last]
  rfl

omit ready in
theorem size_primary_of_soft {cursor : Cursor} {fault : Fault} {span : Span}
    (failed : Grammar.primary inner.plain setting cursor = .error (.soft fault span)) :
    (primary inner setting cursor).size = 1 := by
  have noPrimary := noPrimary_of_soft failed
  rw [primary, size_called, noPrimary.noParen, noPrimary.noBracket,
    if_neg Bool.false_ne_true, if_neg Bool.false_ne_true]
  split <;> rfl

omit ready in
/-- An argument that is refused has cost one call for each layer down to the primary. -/
theorem size_unary_of_soft {cursor : Cursor} {fault : Fault} {span : Span}
    (starts : atArgument setting cursor.rest = true)
    (failed : (unary inner setting cursor).result = .error (.soft fault span)) :
    (unary inner setting cursor).size = 7 := by
  rw [result_unary] at failed
  obtain ⟨room, comments, start, someRoom, before, noOperator, noUpdate, refused⟩ :=
    unary_eq_soft.mp failed
  have settled := settled_of_argument starts
  obtain rfl := trivia_of_settled settled before
  have atPrimary : (primary inner { setting with room := room } start).result =
      .error (.soft fault span) := by
    rw [result_primary, refused]
  have atSuffixed : (suffixed inner { setting with room := room } start).result =
      .error (.soft fault span) := by
    rw [result_suffixed, suffixed_eq_soft, refused]
  have atBareUpdate : (bareUpdate inner { setting with room := room } start).result =
      .error (.soft fault span) := by
    rw [result_bareUpdate, bareUpdate_eq_soft]
    exact ⟨noUpdate, refused⟩
  have atUpdate : (update inner { setting with room := room } start).result =
      .error (.soft fault span) := by
    rw [result_update, update_eq_soft, bareUpdate_eq_soft]
    exact ⟨noUpdate, refused⟩
  have suffixedSize : (suffixed inner { setting with room := room } start).size = 2 := by
    rw [suffixed, size_called, size_bind_of_error atPrimary, size_primary_of_soft refused]
  have bareUpdateSize : (bareUpdate inner { setting with room := room } start).size = 3 := by
    rw [bareUpdate, size_called, noUpdate]
    dsimp only
    rw [size_bind_of_error atSuffixed, suffixedSize]
  have updateSize : (update inner { setting with room := room } start).size = 4 := by
    rw [update, size_called, size_bind_of_error atBareUpdate, bareUpdateSize]
  have triviaEq : (trivia start).result = .ok (comments, start) := by
    rw [result_trivia, before]
  have prefixedSize : (prefixed inner { setting with room := room } start).size = 6 := by
    rw [prefixed, size_called, size_bind_of_ok triviaEq, size_trivia settled]
    dsimp only
    rw [noOperator]
    dsimp only
    rw [size_bind_of_error atUpdate, updateSize]
  rw [unary, size_called, nested, someRoom]
  dsimp only
  rw [prefixedSize]

theorem costs_arguments {start : Cursor} (inside : start.room ≤ bound) :
    (arguments inner setting start).Costs .arguments start (64 * start.room + 10)
      fun next => 64 * next.room := by
  apply costs_repeated fun cursor => 64 * cursor.room + 9
  intro arguments cursor reaches
  have further := reaches.room_le
  have unaryTakes : (unary inner setting cursor).Takes .unary 9 cursor :=
    takes_unary ready (by omega)
  unfold argumentRound
  split
  · rename_i starts
    refine Within.attempt_bind (unaryTakes _ (Place.below_of_level (by decide))) ?_ ?_
    · rintro ⟨argument, next⟩ left same ⟨onward, paid⟩
      have shorter := unaryTakes.room_lt (by decide) same
      dsimp only at onward paid ⊢
      exact .pure (goes_again onward (by omega) (by omega))
    · intro failure failed answered
      cases failure with
      | soft fault span =>
        have size := size_unary_of_soft starts failed
        exact .pure (goes_done (.refl _) (by omega))
      | hard fault span => exact .fail answered
      | exhausted => exact absurd rfl answered
  · exact .pure (goes_done (.refl _) (by omega))

theorem takes_command {cursor : Cursor} (inside : cursor.room ≤ bound) :
    (command inner setting cursor).Takes .command 34 cursor := by
  refine .called ((takes_conditional ready inside).andThen
    (Place.below_of_level (by decide)) (by omega) ?_)
  intro head next left _ reaches paid
  have room := reaches.room_le
  dsimp only
  split
  · refine (costs_arguments ready (by omega)).andThen (Place.below_of_le room (by decide))
      (by omega) ?_
    intro extra next' left' _ onward paid'
    dsimp only
    exact .pure (leaves (reaches.trans onward) (by omega))
  · exact .pure (leaves reaches (by omega))

theorem costs_pipes {start : Cursor} (inside : start.room ≤ bound) (value : Expr) :
    (repeated .pipes (pipeRound inner setting) value start).Costs .pipes start
      (64 * start.room + 1) fun next => 64 * next.room := by
  apply costs_repeated fun cursor => 64 * cursor.room
  intro value cursor reaches
  have further := reaches.room_le
  unfold pipeRound
  split
  · rename_i follows
    have pastPipe := passes_of_pipe follows
    have shorter := pastPipe.room_lt
    refine (costs_trivia _).andThen (Place.below_of_lt shorter) (by omega) ?_
    intro leading callee left _ toCallee paid
    have atCallee := toCallee.room_le
    refine ((takes_suffixed ready (by omega)).commit _).andThen
      (Place.below_of_lt (by omega)) (by omega) ?_
    intro segment next forComments _ toNext paidCallee
    have atNext := toNext.room_le
    refine (costs_trivia next).andThen (Place.below_of_lt (by omega)) (by omega) ?_
    intro trailing start forArguments _ toArguments paidComments
    have atArguments := toArguments.room_le
    refine (costs_arguments ready (by omega)).andThen (Place.below_of_lt (by omega))
      (by omega) ?_
    intro extra stop atLast _ toStop paidArguments
    have atStop := toStop.room_le
    dsimp only
    exact .pure (goes_again ((((pastPipe.reaches.trans toCallee).trans toNext).trans
      toArguments).trans toStop) (by omega) (by omega))
  · exact .pure (goes_done (.refl _) (Nat.le_refl _))

theorem takes_pipeline {cursor : Cursor} (inside : cursor.room ≤ bound) :
    (pipeline inner setting cursor).Takes .pipeline 36 cursor := by
  refine .called ((takes_command ready inside).andThen
    (Place.below_of_level (by decide)) (by omega) ?_)
  intro head next left _ reaches paid
  have room := reaches.room_le
  refine (costs_pipes ready (by omega) head).last (Place.below_of_le room (by decide))
    (by omega) ?_
  intro expr next' left' _ onward paid'
  exact leaves (reaches.trans onward) (by omega)

omit ready

/-- The grammar of expressions goes up again only past a character, so it never goes up more
often than there are bytes. -/
theorem ready_innerOf (fuel : Nat) : (innerOf fuel).Ready fuel := by
  induction fuel with
  | zero => exact ⟨by simp, by simp, by simp⟩
  | succ fuel ih =>
    refine ⟨?_, ?_, ?_⟩
    · exact fun setting cursor inside => takes_pipeline ih (Nat.le_of_lt_succ inside)
    · exact fun setting cursor inside => takes_conditional ih (Nat.le_of_lt_succ inside)
    · exact fun setting cursor inside => takes_unary ih (Nat.le_of_lt_succ inside)

theorem takes_expression (cursor : Cursor) :
    (expression setting cursor).Takes .pipeline 36 cursor :=
  takes_pipeline (ready_innerOf _) (Nat.le_succ _)

end Traced

end TemplateLang
