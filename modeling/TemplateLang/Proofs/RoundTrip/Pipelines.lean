import TemplateLang.Proofs.RoundTrip.Operators

/-!
# Commands and pipes are read back

Arguments after blanks are read as operands one by one.  The comments between two of them go
to the first when they are read, so the chain of arguments is compared as a whole, together
with the comments before and after it.
-/

namespace TemplateLang

namespace Grammar

open Cursor Print

variable {room : Nat} {note : Note} {setting : Setting} {cursor next : Cursor}
  {front : List Char} {after : List Comment}

/-! ## Arguments after blanks -/

/-- What is read of the arguments of a command after `front`, with the comments that are read
before the first of them. -/
structure ReadsArguments (setting : Setting) (arguments : List Expr) (front : List Char)
    (after : List Comment) (cursor next : Cursor) (arguments' : List Expr)
    (after' : List Comment) (middle : Cursor) : Prop where
  stretch : cursor.Stretch front after' middle
  derived : Derives setting (.arguments arguments') middle next
  text : trailing after' ++ spread arguments' = spread arguments ++ trailing after
  bare : bareAll arguments' = bareAll arguments
  comments : after'.length + (exprComments arguments').length =
    (exprComments arguments).length + after.length
  starts : ∀ first rest, arguments = first :: rest →
    Opens middle.rest ∧ (isSigned first = false → Unsigned middle.rest)

theorem Unsigned.append {text : List Char} (unsigned : Unsigned text) (someText : text ≠ [])
    (more : List Char) : Unsigned (text ++ more) := by
  unfold Unsigned
  rwa [List.head?_append_of_ne_nil text someText]

/-- The arguments of a command are read up to where none begins. -/
theorem reads_arguments {arguments : List Expr}
    (content : ∀ argument ∈ arguments, Reads room .unary argument)
    (standard : Standard setting room) (ends : atArgument setting next.rest = false)
    (stretch : cursor.Stretch (front ++ spread arguments) after next) :
    ∃ arguments' after' middle,
      ReadsArguments setting arguments front after cursor next arguments' after' middle := by
  induction arguments generalizing cursor front with
  | nil =>
    refine ⟨[], after, next, ?_, .noArgument ends, ?_, rfl, ?_, ?_⟩
    · rwa [spread, List.flatMap_nil, List.append_nil] at stretch
    · simp [spread]
    · simp [exprComments]
    · intro first rest same
      simp at same
  | cons argument rest ih =>
    obtain ⟨before, body, ⟨spelled, read⟩, unsigned⟩ := content argument List.mem_cons_self
    have spreadEq : spread (argument :: rest) =
        ' ' :: (leading before ++ (body ++ spread rest)) := by
      rw [spread, List.flatMap_cons, spelled.text]
      simp [spread]
    rw [spreadEq] at stretch
    obtain ⟨before', middle, alike, stretchFront, settled, stretch⟩ :=
      stretch.cut spelled.closed (spelled.opens.append _).settles
    have opens : Opens middle.rest ∧ (isSigned argument = false → Unsigned middle.rest) := by
      obtain ⟨stop, crosses, -⟩ := stretch
      rw [crosses.1, List.append_assoc]
      exact ⟨spelled.opens.append _,
        fun noSign => (unsigned noSign).append spelled.opens.ne_nil _⟩
    obtain ⟨rest', after', last, others⟩ :=
      ih (fun other isIn => content other (List.mem_cons_of_mem argument isIn)) stretch
    obtain ⟨argument', derived, reread⟩ := read standard (others.stretch.lies settled) trivial
    refine ⟨argument' :: rest', before', middle, stretchFront,
      .argument (opens.1.atArgument standard.1) derived others.derived, ?_, ?_, ?_, ?_⟩
    · have spreadEq' : spread (argument' :: rest') =
          ' ' :: (body ++ (trailing after' ++ spread rest')) := by
        rw [spread, List.flatMap_cons, reread.text]
        simp [spread]
      rw [spreadEq, spreadEq', others.text, alike.trailing_eq, trailing_blank]
      simp
    · rw [bareAll, bareAll, reread.bare, others.bare]
    · have lengths := reread.comments
      have lengthsRest := others.comments
      simp only [List.length_nil, exprComments, List.length_append, alike.length_eq]
        at lengths ⊢
      omega
    · intro first others' same
      obtain ⟨rfl, -⟩ := List.cons.inj same
      exact opens

/-! ## Commands -/

/-- A conditional where neither a command nor a pipe is printed. -/
theorem reads_plain {expr : Expr} (content : Reads room .conditional expr)
    (notSpread : expr.isSpread = false) : Reads room .pipeline expr := by
  obtain ⟨before, body, spelled, read⟩ := content
  refine ⟨before, body, ⟨?_, spelled.closed, spelled.opens⟩, ?_⟩
  · rw [chars_top notSpread, spelled.text]
  intro setting cursor before' after next standard lies ends
  obtain ⟨expr', derived, reread⟩ := read standard lies ends.2.toEndsConditional
  have notSpread' : expr'.isSpread = false := by
    rw [← Expr.isSpread_bare, reread.bare, Expr.isSpread_bare, notSpread]
  refine ⟨expr', fun _ _ pipes => .pipeline (.noCommand derived ?_) pipes, reread.bare, ?_,
    reread.comments⟩
  · rw [ends.2.noArgument, Bool.and_false]
  · rw [chars_top notSpread', reread.text]

/-- An operand is a conditional where nothing goes on. -/
theorem Derives.unary_conditional {expr : Expr}
    (derived : Derives setting (.unary expr) cursor next)
    (ends : EndsConditional setting next) : Derives setting (.conditional expr) cursor next := by
  have joined : ∀ levels, Derives setting (.joined levels expr) cursor next := by
    intro levels
    induction levels with
    | nil => exact .tightest derived
    | cons tier tighter ih => exact .tier ih (.noInfix (ends.noInfix tier))
  exact .test (joined tiers) ends.noQuestion

/-- A conditional is over where an argument without a sign begins. -/
theorem endsConditional_of_opens (opens : Opens next.rest) (unsigned : Unsigned next.rest) :
    EndsConditional setting next := by
  refine ⟨fun tier => opens.infixOp?_eq_none unsigned tier, ?_⟩
  rw [Bool.eq_false_iff]
  intro question
  obtain ⟨rest, starts⟩ := isAt_singleton_iff.mp question
  refine opens.head_ne (by decide : startsPrimary '?' = false) (by decide) ?_
  rw [starts]
  rfl

theorem isCallable_of_simple {expr : Expr} (simple : isSimpleCallee expr = true) :
    expr.isCallable = true := by
  cases expr <;> first | rfl | exact absurd simple (by simp [isSimpleCallee])

/-- A variable or a member is called as it is. -/
theorem applyTo_of_simple {callee : Expr} (simple : isSimpleCallee callee = true)
    (first extra : List Expr) (isPiped : Bool) (span : Span) :
    callee.applyTo first extra isPiped span =
      .call callee (first ++ extra) isPiped (Note.at span) := by
  cases callee <;> first | rfl | exact absurd simple (by simp [isSimpleCallee])

/-- A call with its arguments after blanks. -/
theorem reads_command {callee : Expr} {arguments : List Expr} (closed : ClosedNote note)
    (start : Reads room .unary callee)
    (content : ∀ argument ∈ arguments, Reads room .unary argument)
    (isCommand : Print.isCommand callee arguments = true) :
    Reads room .pipeline (.call callee arguments false note) := by
  obtain ⟨before, body, ⟨spelled, read⟩, -⟩ := start
  have printed : chars true (.call callee arguments false note) =
      leading note.leading ++ applied callee arguments ++ trailing note.trailing := by
    rw [chars_eq, core_call_applied isCommand]
    rfl
  refine ⟨note.leading ++ before, body ++ (spread arguments ++ trailing note.trailing),
    ⟨?_, ?_, spelled.opens.append _⟩, ?_⟩
  · rw [printed, applied, spelled.text, leading_append]
    simp
  · intro c isIn
    rcases List.mem_append.mp isIn with isIn | isIn
    · exact closed.1 c isIn
    · exact spelled.closed c isIn
  intro setting cursor before' after next standard lies ends
  obtain ⟨rfl, ends⟩ := ends
  obtain ⟨start, triviaEq, stretch⟩ := lies
  rw [← List.append_assoc] at stretch
  obtain ⟨own, alike, stretch⟩ := stretch.absorb closed.2
  rw [List.append_nil] at stretch
  obtain ⟨arguments', after', middle, others⟩ :=
    reads_arguments content standard ends.noArgument stretch
  obtain ⟨callee', derived, reread⟩ := read standard ⟨start, triviaEq, others.stretch⟩ trivial
  have isCommand' : Print.isCommand callee' arguments' = true := by
    rw [← Expr.isCommand_bare, reread.bare, others.bare, Expr.isCommand_bare, isCommand]
  cases arguments with
  | nil => simp [Print.isCommand] at isCommand
  | cons first rest =>
    simp only [Print.isCommand, Bool.and_eq_true, Bool.not_eq_true'] at isCommand
    obtain ⟨⟨⟨simple, -⟩, -⟩, notSigned⟩ := isCommand
    have simple' : isSimpleCallee callee' = true := by
      rw [← Expr.isSimpleCallee_bare, reread.bare, Expr.isSimpleCallee_bare, simple]
    obtain ⟨opens, unsigned⟩ := others.starts first rest rfl
    have goesOn : (callee'.isCallable && atArgument setting middle.rest) = true := by
      rw [isCallable_of_simple simple', opens.atArgument standard.1]
      rfl
    have derivedHead := derived.unary_conditional
      (endsConditional_of_opens opens (unsigned notSigned))
    refine ⟨callee'.command arguments',
      fun _ _ pipes => .pipeline (.command derivedHead goesOn others.derived) pipes, ?_⟩
    rw [Expr.command, applyTo_of_simple simple', List.nil_append]
    refine ⟨?_, ?_, ?_⟩
    · rw [Expr.bare, Expr.bare, reread.bare, others.bare]
    · rw [chars_of_bare (.call callee' arguments' false _) rfl, core_call_applied isCommand',
        applied, reread.text, List.append_assoc, others.text, alike.trailing_eq]
      simp
    · rw [Expr.comments_call, Expr.comments_call, Note.around_bare rfl]
      have lengths := reread.comments
      have lengthsRest := others.comments
      simp only [Note.around, List.length_append, List.length_nil, alike.length_eq]
        at lengths lengthsRest ⊢
      omega

/-! ## Pipes -/

/-- A pipe begins at a printed one. -/
theorem atPipe_printed (standard : setting.tags = Delimiters.standard) {rest : List Char}
    (starts : cursor.rest = '|' :: ' ' :: rest) : atPipe setting cursor.rest = true := by
  have noClosing : setting.atClosing ('|' :: ' ' :: rest) = false :=
    atClosing_eq_false standard (by decide) fun isMinus => absurd isMinus (by decide)
  rw [starts, atPipe, noClosing]
  rfl

theorem settles_pipe (rest : List Char) : Settles ('|' :: rest) :=
  fun _ => settled_of_char (by decide) (by decide)

/-- The value of a pipe is read up to the mark, and a segment is read after it. -/
theorem reads_piped {value : Expr} {segment : List Char} {before before' : List Comment}
    {body : List Char} (content : ReadsBody room true value before body
      (fun setting after next => after = [] ∧ EndsCommand setting next) Pipeable)
    (standard : Standard setting room)
    (lies : cursor.Lies before' (body ++ ' ' :: '|' :: ' ' :: segment) [] next) :
    ∃ value' middle, Pipeable setting value' cursor middle ∧
      Reread true value before body before' [] value' ∧ atPipe setting middle.rest = true ∧
      (middle.skip 1).Stretch (' ' :: segment) [] next := by
  obtain ⟨start, triviaEq, stretch⟩ := lies
  obtain ⟨middle, stretchValue, stretch⟩ := stretch_blank (settles_pipe _) stretch
  obtain ⟨afterMark, mark, stretch⟩ := stretch.head
  have starts : ∃ rest, middle.rest = '|' :: ' ' :: rest := by
    obtain ⟨stop, crosses, -⟩ := stretch
    exact ⟨_, by rw [mark.1, crosses.1]; rfl⟩
  obtain ⟨rest, starts⟩ := starts
  obtain ⟨value', pipeable, reread⟩ := content.2 standard ⟨start, triviaEq, stretchValue⟩
    ⟨rfl, endsCommand_of_pipe (atPipe_printed standard.1 starts)⟩
  have afterMarkEq : afterMark = middle.skip 1 := mark.2
  rw [afterMarkEq] at stretch
  exact ⟨value', middle, pipeable, reread, atPipe_printed standard.1 starts, stretch⟩

/-- A value piped into a variable or member with arguments after blanks. -/
theorem reads_pipe {callee value : Expr} {extra : List Expr} {calleeNote : Note}
    (bare : note.isBare = true) (closed : ClosedNote calleeNote)
    (start : Reads room .pipeline value) (segment : ReadsSuffixed room callee)
    (content : ∀ argument ∈ extra, Reads room .unary argument)
    (simple : (isSimpleCallee callee && extra.all isTight) = true) :
    Reads room .pipeline (.call (callee.withNote calleeNote) (value :: extra) true note) := by
  have printed {callee value : Expr} {extra : List Expr} {calleeNote note : Note}
      (bare : note.isBare = true) (simple : (isSimpleCallee callee && extra.all isTight) = true) :
      chars true (.call (callee.withNote calleeNote) (value :: extra) true note) =
        chars true value ++ ' ' :: '|' :: ' ' :: (leading calleeNote.leading ++
          (core false callee ++ (trailing calleeNote.trailing ++ spread extra))) := by
    have simple' : (isSimpleCallee (callee.withNote calleeNote) && extra.all isTight) = true := by
      rw [← Expr.isSimpleCallee_bare, Expr.bare_withNote, Expr.isSimpleCallee_bare, simple]
    rw [chars_of_bare (.call _ (value :: extra) true note) bare, core_call_piped, if_pos simple',
      applied, chars_withNote]
    simp
  obtain ⟨before, body, readsValue⟩ := start
  have spelled := readsValue.1
  refine ⟨before, body ++ ' ' :: '|' :: ' ' :: (leading calleeNote.leading ++
    (core false callee ++ (trailing calleeNote.trailing ++ spread extra))),
    ⟨?_, spelled.closed, spelled.opens.append _⟩, ?_⟩
  · rw [printed bare simple, spelled.text, List.append_assoc]
  intro setting cursor before' after next standard lies ends
  obtain ⟨rfl, ends⟩ := ends
  obtain ⟨value', middle, pipeable, reread, follows, stretch⟩ :=
    reads_piped readsValue standard lies
  have coreEq : core false callee = chars false callee := (chars_of_bare callee segment.bare).symm
  rw [coreEq] at stretch
  obtain ⟨leading', alikeLeading, startSegment, triviaLeading, stretch⟩ :=
    stretch.lies_blank closed.1 (opens_primary segment.opens _).1.settles
  rw [← List.append_assoc] at stretch
  obtain ⟨extra', after', afterTrivia, others⟩ :=
    reads_arguments content standard ends.noArgument stretch
  obtain ⟨trailing', alikeTrailing, stop, crosses, endsSegment, between, settled⟩ :=
    others.stretch.absorb closed.2
  obtain ⟨noDot, noBracket, noParen, -, apart⟩ := @no_suffix_of_ends setting _ endsSegment
  obtain ⟨callee', bare', echoes, suffixable⟩ :=
    segment.reads standard crosses apart fun _ => noDot
  have derivedSegment := suffixable _ _ (.noSuffix noDot noBracket noParen)
  have simple' : (isSimpleCallee callee' && extra'.all isTight) = true := by
    rw [← Expr.isSimpleCallee_bare, echoes.bare, Expr.isSimpleCallee_bare,
      ← Expr.isTight_all_bare, others.bare, Expr.isTight_all_bare, simple]
  have simpleNoted (note : Note) : isSimpleCallee (callee'.withNote note) = true := by
    rw [← Expr.isSimpleCallee_bare, Expr.bare_withNote, Expr.isSimpleCallee_bare]
    exact (Bool.and_eq_true _ _ ▸ simple').1
  refine ⟨_, fun _ _ pipes => pipeable _ _ (.pipe follows triviaLeading derivedSegment
    (between.trivia settled) others.derived pipes), ?_⟩
  rw [Expr.pipeInto, applyTo_of_simple (simpleNoted _), List.singleton_append]
  refine ⟨?_, ?_, ?_⟩
  · rw [Expr.bare, Expr.bare, Expr.bare_withNote, Expr.bare_withNote, echoes.bare, bareAll,
      bareAll, reread.bare, others.bare]
  · rw [printed rfl simple', reread.text, ← chars_of_bare callee' bare', echoes.text, coreEq,
      trailing_append, List.append_assoc (trailing trailing'), others.text,
      alikeLeading.leading_eq, alikeTrailing.trailing_eq]
    simp
  · rw [Expr.comments, Expr.comments, Note.around_bare rfl, Note.around_bare bare]
    have lengths := reread.comments
    have lengthsExtra := others.comments
    simp only [List.length_append, List.length_nil, Expr.comments_withNote_length _ bare',
      Expr.comments_withNote_length _ segment.bare, echoes.comments, alikeLeading.length_eq,
      alikeTrailing.length_eq] at lengths lengthsExtra ⊢
    omega

/-- A value piped into a call with its other arguments in parentheses. -/
theorem reads_pipeEnclosed {callee value : Expr} {extra : List Expr} (bare : note.isBare = true)
    (start : Reads room .pipeline value) (segment : ReadsSuffixed room callee)
    (content : ∀ argument ∈ extra, Reads room .conditional argument)
    (notSimple : (isSimpleCallee callee && extra.all isTight) = false) :
    Reads room .pipeline (.call callee (value :: extra) true note) := by
  have printed {callee value : Expr} {extra : List Expr} {note : Note} (bare : note.isBare = true)
      (notSimple : (isSimpleCallee callee && extra.all isTight) = false) :
      chars true (.call callee (value :: extra) true note) =
        chars true value ++ ' ' :: '|' :: ' ' ::
          chars false (.call callee extra false .blank) := by
    rw [chars_of_bare (.call callee (value :: extra) true note) bare, core_call_piped, notSimple,
      chars_call callee extra rfl]
    rfl
  have segment : ReadsSuffixed room (.call callee extra false .blank) :=
    readsSuffixed_call rfl segment content
  obtain ⟨before, body, readsValue⟩ := start
  have spelled := readsValue.1
  refine ⟨before, body ++ ' ' :: '|' :: ' ' :: chars false (.call callee extra false .blank),
    ⟨?_, spelled.closed, spelled.opens.append _⟩, ?_⟩
  · rw [printed bare notSimple, spelled.text, List.append_assoc]
  intro setting cursor before' after next standard lies ends
  obtain ⟨rfl, ends⟩ := ends
  obtain ⟨value', middle, pipeable, reread, follows, stretch⟩ :=
    reads_piped readsValue standard lies
  have settles : Settles (chars false (.call callee extra false .blank)) := by
    have opens := (opens_primary segment.opens []).1
    rw [List.append_nil] at opens
    exact opens.settles
  obtain ⟨blankEnd, blank, stretch⟩ := stretch.head
  have triviaLeading := (between_blank blank).trivia (settles.settled stretch)
  obtain ⟨stop, crosses, endsSegment, between, settled⟩ := stretch
  obtain ⟨noDot, noBracket, noParen, -, apart⟩ := @no_suffix_of_ends setting _ endsSegment
  obtain ⟨segment', bare', echoes, suffixable⟩ :=
    segment.reads standard crosses apart fun _ => noDot
  have derivedSegment := suffixable _ _ (.noSuffix noDot noBracket noParen)
  obtain ⟨callee', extra', note', rfl⟩ := Expr.bare_eq_call echoes.bare
  have sameBare := echoes.bare
  rw [Expr.bare, Expr.bare] at sameBare
  obtain ⟨bareCallee, bareExtra, -, -⟩ := Expr.call.inj sameBare
  have notSimple' : (isSimpleCallee callee' && extra'.all isTight) = false := by
    rw [← Expr.isSimpleCallee_bare, bareCallee, Expr.isSimpleCallee_bare,
      ← Expr.isTight_all_bare, bareExtra, Expr.isTight_all_bare, notSimple]
  have bareInner : note'.isBare = true := bare'
  have sameText : chars false (.call callee' extra' false .blank) =
      chars false (.call callee extra false .blank) := by
    rw [← echoes.text, chars_call callee' extra' rfl, chars_call callee' extra' bareInner]
  have sameComments := echoes.comments
  rw [Expr.comments_call, Expr.comments_call, Note.around_bare bareInner, Note.around_bare rfl]
    at sameComments
  have applied (span span' : Span) :
      ((Expr.call callee' extra' false note').withNote ⟨span, [], []⟩).applyTo [value'] [] true
        span' = .call callee' (value' :: extra') true (Note.at span') := by
    simp [Expr.withNote, Expr.applyTo, Note.isBare]
  refine ⟨_, fun _ _ pipes => pipeable _ _ (.pipe follows triviaLeading derivedSegment
    (between.trivia settled) (.noArgument ends.noArgument) pipes), ?_⟩
  rw [Expr.pipeInto, applied]
  refine ⟨?_, ?_, ?_⟩
  · rw [Expr.bare, Expr.bare, bareAll, bareAll, reread.bare, bareCallee, bareExtra]
  · rw [printed rfl notSimple', sameText, reread.text]
    simp
  · rw [Expr.comments, Expr.comments, Note.around_bare rfl, Note.around_bare bare]
    have lengths := reread.comments
    simp only [List.length_append, List.length_nil] at lengths sameComments ⊢
    omega

/-! ## Calls with comments before the callee -/

/-- An expression is read as another one with the same text is. -/
theorem reads_pipeline_congr {expr expr' : Expr} (echoes : Echoes true expr expr')
    (content : Reads room .pipeline expr') : Reads room .pipeline expr := by
  obtain ⟨before, body, spelled, read⟩ := content
  refine ⟨before, body, ⟨echoes.text.symm.trans spelled.text, spelled.closed, spelled.opens⟩, ?_⟩
  intro setting cursor before' after next standard lies ends
  obtain ⟨read', pipeable, reread⟩ := read standard lies ends
  refine ⟨read', pipeable, reread.bare.trans echoes.bare, reread.text, ?_⟩
  rw [← echoes.comments]
  exact reread.comments

/-- A call in parentheses whose callee has comments before it is a call with those
comments. -/
theorem reads_floated {callee : Expr} {arguments : List Expr} {calleeNote : Note}
    (bare : note.isBare = true) (closed : ClosedNote calleeNote)
    (noTrailing : calleeNote.trailing = []) (start : ReadsSuffixed room callee)
    (content : ∀ argument ∈ arguments, Reads room .conditional argument)
    (notCommand : Print.isCommand callee arguments = false) :
    Reads (room + 1) .pipeline (.call (callee.withNote calleeNote) arguments false note) := by
  have called : ReadsSuffixed room (.call callee arguments false .blank) :=
    readsSuffixed_call rfl start content
  have operand := reads_operand closed called
  have joined : ∀ levels, Reads (room + 1) (.joined levels)
      (.call callee arguments false calleeNote) := by
    intro levels
    induction levels with
    | nil => exact reads_tightest operand
    | cons tier tighter ih => exact reads_looser ih
  have notSpread : (Expr.call callee arguments false calleeNote).isSpread = false := by
    rw [Expr.isSpread, notCommand]
    rfl
  refine reads_pipeline_congr ⟨?_, ?_, ?_⟩ (reads_plain (reads_test (joined tiers)) notSpread)
  · rw [Expr.bare, Expr.bare, Expr.bare_withNote]
  · have notCommand' : Print.isCommand (callee.withNote calleeNote) arguments = false := by
      rw [← Expr.isCommand_bare, Expr.bare_withNote, Expr.isCommand_bare, notCommand]
    rw [chars_eq, chars_of_bare (.call _ arguments false note) bare,
      core_call_enclosed (by rw [notCommand]; rfl), core_call_enclosed (by rw [notCommand']; rfl),
      enclosed, enclosed, chars_withNote, chars_of_bare callee start.bare, noTrailing]
    simp [Expr.note, noTrailing]
  · rw [Expr.comments_call, Expr.comments_call, Note.around_bare bare]
    simp only [Note.around, List.length_append, noTrailing, List.length_nil,
      Expr.comments_withNote_length _ start.bare]
    omega

/-! ## All forms -/

/-- Every layer reads what is written for it. -/
theorem reads_of_written {layer : Layer} {expr : Expr} (written : Written room layer expr) :
    Reads room layer expr := by
  induction written with
  | null bare => exact readsSuffixed_null bare
  | undefined bare => exact readsSuffixed_undefined bare
  | boolean bare => exact readsSuffixed_boolean bare
  | number bare rereads => exact readsSuffixed_number bare rereads
  | text bare => exact readsSuffixed_text bare
  | identifier bare shaped free => exact readsSuffixed_identifier bare shaped free
  | array bare _ ih => exact readsSuffixed_array bare ih
  | paren bare _ ih => exact readsSuffixed_paren bare ih
  | field bare _ apart dotKey ih => exact readsSuffixed_field bare ih apart dotKey
  | position bare _ notDot _ ih ihKey => exact readsSuffixed_position bare ih notDot ihKey
  | fixed bare _ apart isFixed dotKey ih => exact readsSuffixed_fixed bare ih apart isFixed dotKey
  | item bare _ notFixed _ ih ihKey => exact readsSuffixed_item bare ih notFixed ihKey
  | call bare _ _ ih ihArguments => exact readsSuffixed_call bare ih ihArguments
  | operand closed _ ih => exact reads_operand closed ih
  | updateAfter closed _ assignable ih => exact reads_updateAfter closed ih assignable
  | updateBefore closed noTrailing _ assignable ih =>
    exact reads_updateBefore closed noTrailing ih assignable
  | operator closed noTrailing _ ih => exact reads_operator closed noTrailing ih
  | tightest _ ih => exact reads_tightest ih
  | looser _ ih => exact reads_looser ih
  | join bare inTiers isIn _ _ ih ihRight => exact reads_join bare inTiers isIn ih ihRight
  | test _ ih => exact reads_test ih
  | choice bare _ _ _ ih ihFirst ihSecond => exact reads_choice bare ih ihFirst ihSecond
  | plain _ notSpread ih => exact reads_plain ih notSpread
  | floated bare closed noTrailing _ _ notCommand ih ihArguments =>
    exact reads_floated bare closed noTrailing ih ihArguments notCommand
  | command closed _ _ isCommand ih ihArguments =>
    exact reads_command closed ih ihArguments isCommand
  | pipe bare closed _ _ _ simple ih ihSegment ihArguments =>
    exact reads_pipe bare closed ih ihSegment ihArguments simple
  | pipeEnclosed bare _ _ _ notSimple ih ihSegment ihArguments =>
    exact reads_pipeEnclosed bare ih ihSegment ihArguments notSimple

end Grammar

end TemplateLang
