import TemplateLang.Proofs.Grammar.Heads
import TemplateLang.Proofs.Places.Boundary

/-!
# Spans of expressions nest

Every expression that is read has its span on the source, and the spans of all that stands
in it lie within its own.  An expression sits between two offsets if it does so with its
span between them; what a reader gives sits between the places where it began and ended.
-/

namespace TemplateLang

namespace Span

theorem Within.trans {inner middle outer : Span} (first : inner.Within middle)
    (second : middle.Within outer) : inner.Within outer :=
  ⟨Nat.le_trans second.1 first.1, Nat.le_trans first.2 second.2⟩

theorem stop_between {start stop : Nat} (le : start ≤ stop) : (between start stop).stop = stop :=
  Nat.max_eq_left le

/-- The union of two spans in order goes from the first to the second. -/
theorem union_eq_between {first second : Span} (ordered : first.stop ≤ second.start) :
    first.union second = between first.start second.stop := by
  have left := first.start_le_stop
  have right := second.start_le_stop
  simp only [union, between, Span.mk.injEq]
  constructor
  · omega
  · omega

end Span

namespace Expr

/-- Where the key after a dot stands. -/
def keySpan? : Expr → Option Span
  | field _ _ keySpan _ => some keySpan
  | _ => none

/-- The span of an expression is on a source, and the spans of its parts lie in it. -/
structure Placed (source : List Char) (expr : Expr) : Prop where
  on : expr.span.On source
  children : ∀ child ∈ expr.children, child.span.Within expr.span
  key : ∀ span ∈ expr.keySpan?, span.On source ∧ span.Within expr.span

/-- An expression is placed with all that stands in it, between two offsets. -/
structure Sits (source : List Char) (low high : Nat) (expr : Expr) : Prop where
  start : low ≤ expr.span.start
  stop : expr.span.stop ≤ high
  placed : expr.Everywhere (Placed source)

/-- The spans of all that stands in a placed expression lie in its span. -/
theorem within_of_part {source : List Char} {expr part : Expr}
    (placed : expr.Everywhere (Placed source)) (isPart : expr.Part part) :
    part.span.Within expr.span := by
  induction isPart with
  | whole expr => exact ⟨Nat.le_refl _, Nat.le_refl _⟩
  | inside isChild _ ih => exact (ih (placed.child isChild)).trans (placed.here.children _ isChild)

variable {source : List Char} {low high : Nat} {expr : Expr}

theorem Sits.widen {low' high' : Nat} (sits : expr.Sits source low high) (before : low' ≤ low)
    (after : high ≤ high') : expr.Sits source low' high' :=
  ⟨Nat.le_trans before sits.start, Nat.le_trans sits.stop after, sits.placed⟩

theorem Sits.own (sits : expr.Sits source low high) :
    expr.Sits source expr.span.start expr.span.stop :=
  ⟨Nat.le_refl _, Nat.le_refl _, sits.placed⟩

theorem Sits.child (sits : expr.Sits source low high) {child : Expr}
    (isChild : child ∈ expr.children) : child.Sits source low high :=
  have within := sits.placed.here.children child isChild
  ⟨Nat.le_trans sits.start within.1, Nat.le_trans within.2 sits.stop, sits.placed.child isChild⟩

theorem Sits.on (sits : expr.Sits source low high) : expr.span.On source :=
  sits.placed.here.on

/-- An expression whose span goes from one boundary to another, with all its children
between them. -/
theorem sits_between (spanEq : expr.span = Span.between low high) (starts : Boundary source low)
    (stops : Boundary source high) (ordered : low ≤ high)
    (children : ∀ child ∈ expr.children, child.Sits source low high)
    (key : ∀ span ∈ expr.keySpan?, span.On source ∧ span.Within (Span.between low high)) :
    expr.Sits source low high := by
  have stopEq : expr.span.stop = high := by
    rw [spanEq, Span.stop_between ordered]
  have startEq : expr.span.start = low := by
    rw [spanEq]
    rfl
  refine ⟨Nat.le_of_eq startEq.symm, Nat.le_of_eq stopEq, everywhere_iff.mpr ⟨⟨?_, ?_, ?_⟩, ?_⟩⟩
  · rw [spanEq]
    exact Span.on_between starts stops
  · intro child isChild
    have sits := children child isChild
    exact ⟨startEq.symm ▸ sits.start, stopEq.symm ▸ sits.stop⟩
  · rw [spanEq]
    exact key
  · exact fun child isChild => (children child isChild).placed

/-! ## Notes and operators -/

@[simp]
theorem keySpan?_withNote (note : Note) (expr : Expr) :
    (expr.withNote note).keySpan? = expr.keySpan? := by
  cases expr <;> rfl

/-- Comments do not move an expression. -/
theorem Sits.withNote (sits : expr.Sits source low high) {note : Note}
    (same : note.span = expr.span) : (expr.withNote note).Sits source low high := by
  have spanEq : (expr.withNote note).span = expr.span := by
    rw [Expr.span, note_withNote, same]
  constructor
  · rw [spanEq]
    exact sits.start
  · rw [spanEq]
    exact sits.stop
  · rw [everywhere_iff, children_withNote]
    constructor
    · have here := sits.placed.here
      constructor
      · rw [spanEq]
        exact here.on
      · rw [spanEq, children_withNote]
        exact here.children
      · rw [spanEq, keySpan?_withNote]
        exact here.key
    · exact fun _ isChild => sits.placed.child isChild

theorem Sits.addLeading (sits : expr.Sits source low high) (comments : List Comment) :
    (expr.addLeading comments).Sits source low high :=
  sits.withNote rfl

theorem Sits.addTrailing (sits : expr.Sits source low high) (comments : List Comment) :
    (expr.addTrailing comments).Sits source low high :=
  sits.withNote rfl

/-- Two operands, one after the other, and the operator between them. -/
theorem sits_join {op : Grammar.InfixOp} {left right : Expr} {middle middle' : Nat}
    (sitsLeft : left.Sits source low middle) (sitsRight : right.Sits source middle' high)
    (ordered : middle ≤ middle') : (op.join left right).Sits source low high := by
  have leftEnds := left.span.start_le_stop
  have rightEnds := right.span.start_le_stop
  have leftStops := sitsLeft.stop
  have rightStarts := sitsRight.start
  have joined : (op.join left right).Sits source left.span.start right.span.stop := by
    apply sits_between _ sitsLeft.on.start sitsRight.on.stop (by omega)
    · have childrenEq : (op.join left right).children = [left, right] := by
        cases op <;> rfl
      rw [childrenEq]
      simp only [List.forall_mem_cons, List.not_mem_nil, false_implies, implies_true, and_true]
      constructor
      · exact sitsLeft.own.widen (Nat.le_refl _) (by omega)
      · exact sitsRight.own.widen (by omega) (Nat.le_refl _)
    · cases op <;> simp [Grammar.InfixOp.join, keySpan?]
    · rw [← Span.union_eq_between (by omega)]
      cases op <;> rfl
  exact joined.widen sitsLeft.start sitsRight.stop

/-- Three operands in order. -/
theorem sits_conditional {test consequent alternate : Expr} {first first' second second' : Nat}
    (sitsTest : test.Sits source low first) (sitsFirst : consequent.Sits source first' second)
    (sitsSecond : alternate.Sits source second' high) (ordered : first ≤ first')
    (ordered' : second ≤ second') :
    (conditional test consequent alternate (Note.at (test.span.union alternate.span))).Sits
      source low high := by
  have testEnds := test.span.start_le_stop
  have firstEnds := consequent.span.start_le_stop
  have secondEnds := alternate.span.start_le_stop
  have testStops := sitsTest.stop
  have firstStarts := sitsFirst.start
  have firstStops := sitsFirst.stop
  have secondStarts := sitsSecond.start
  have whole : (conditional test consequent alternate
      (Note.at (test.span.union alternate.span))).Sits source test.span.start
        alternate.span.stop := by
    apply sits_between _ sitsTest.on.start sitsSecond.on.stop (by omega)
    · simp only [children, List.forall_mem_cons, List.not_mem_nil, false_implies, implies_true,
        and_true]
      refine ⟨?_, ?_, ?_⟩
      · exact sitsTest.own.widen (Nat.le_refl _) (by omega)
      · exact sitsFirst.own.widen (by omega) (by omega)
      · exact sitsSecond.own.widen (by omega) (Nat.le_refl _)
    · simp [keySpan?]
    · exact Span.union_eq_between (by omega)
  exact whole.widen sitsTest.start sitsSecond.stop

/-! ## Commands and pipes -/

/-- A call put together from parts that sit between the ends of its span. -/
theorem sits_applyTo {callee : Expr} {first extra : List Expr} (isPiped : Bool)
    (starts : Boundary source low) (stops : Boundary source high) (ordered : low ≤ high)
    (sits : callee.Sits source low high) (sitsFirst : ∀ value ∈ first, value.Sits source low high)
    (sitsExtra : ∀ argument ∈ extra, argument.Sits source low high) :
    (callee.applyTo first extra isPiped (Span.between low high)).Sits source low high := by
  have general {head : Expr} {arguments : List Expr} (sitsHead : head.Sits source low high)
      (sitsArguments : ∀ argument ∈ arguments, argument.Sits source low high) :
      (call head arguments isPiped (Note.at (Span.between low high))).Sits source low high := by
    apply sits_between rfl starts stops ordered
    · exact List.forall_mem_cons.mpr ⟨sitsHead, sitsArguments⟩
    · simp [keySpan?]
  rcases applyTo_cases callee first extra isPiped (Span.between low high) with
    ⟨inner, arguments, note, -, rfl, same⟩ | same
  all_goals rw [same]
  · apply general (sits.child (List.mem_cons_self ..))
    intro argument isArgument
    rw [List.append_assoc, List.mem_append, List.mem_append] at isArgument
    rcases isArgument with isFirst | isOwn | isExtra
    · exact sitsFirst argument isFirst
    · exact sits.child (List.mem_cons_of_mem _ isOwn)
    · exact sitsExtra argument isExtra
  · exact general sits (List.forall_mem_append.mpr ⟨sitsFirst, sitsExtra⟩)

/-- Arguments between two offsets, none of which ends after the last. -/
structure Lines (source : List Char) (low high : Nat) (arguments : List Expr) : Prop where
  sits : ∀ argument ∈ arguments, argument.Sits source low high
  last : ∀ argument ∈ arguments, ∀ fallback : Expr,
    argument.span.stop ≤ (arguments.getLast?.getD fallback).span.stop

theorem lines_cons {argument : Expr} {arguments : List Expr} {middle : Nat}
    (sits : argument.Sits source low middle) (before : low ≤ middle) (after : middle ≤ high)
    (lines : Lines source middle high arguments) :
    Lines source low high (argument :: arguments) where
  sits := List.forall_mem_cons.mpr ⟨sits.widen (Nat.le_refl _) after,
    fun other isOther => (lines.sits other isOther).widen before (Nat.le_refl _)⟩
  last := by
    intro given isGiven fallback
    cases isLast : arguments.getLast? with
    | none =>
      rw [List.getLast?_eq_none_iff] at isLast
      subst isLast
      rcases List.mem_singleton.mp isGiven with rfl
      exact Nat.le_refl _
    | some final =>
      rw [List.getLast?_cons, isLast]
      dsimp only [Option.getD_some]
      rcases List.mem_cons.mp isGiven with rfl | isOther
      · have stops := sits.stop
        have finalStarts := (lines.sits final (List.mem_of_getLast? isLast)).start
        have finalEnds := final.span.start_le_stop
        omega
      · simpa [isLast] using lines.last given isOther fallback

/-- What comes before arguments, with them after it. -/
theorem sits_spanWith {start last callee : Expr} {first extra : List Expr} {middle middle' : Nat}
    (isPiped : Bool) (sitsStart : start.Sits source low middle)
    (sitsLast : last.Sits source start.span.start middle)
    (sits : callee.Sits source start.span.start last.span.stop)
    (sitsFirst : ∀ value ∈ first, value.Sits source start.span.start last.span.stop)
    (ordered : middle ≤ middle') (after : middle' ≤ high)
    (lines : Lines source middle' high extra) :
    (callee.applyTo first extra isPiped (spanWith start last extra)).Sits source low high := by
  have lastStarts := sitsLast.start
  have lastEnds := last.span.start_le_stop
  have lastStops := sitsLast.stop
  have ends : (extra.getLast?.getD last).Sits source start.span.start high ∧
      last.span.stop ≤ (extra.getLast?.getD last).span.stop := by
    cases isLast : extra.getLast? with
    | none => exact ⟨sitsLast.widen (Nat.le_refl _) (Nat.le_trans ordered after), Nat.le_refl _⟩
    | some final =>
      have sitsFinal := lines.sits final (List.mem_of_getLast? isLast)
      have finalStarts := sitsFinal.start
      have finalEnds := final.span.start_le_stop
      dsimp only [Option.getD_some]
      exact ⟨sitsFinal.widen (by omega) (Nat.le_refl _), by omega⟩
  have whole : (callee.applyTo first extra isPiped (spanWith start last extra)).Sits source
      start.span.start (extra.getLast?.getD last).span.stop := by
    apply sits_applyTo isPiped sitsStart.on.start ends.1.on.stop
    · exact Nat.le_trans (Nat.le_trans lastStarts lastEnds) ends.2
    · exact sits.widen (Nat.le_refl _) ends.2
    · exact fun value isFirst => (sitsFirst value isFirst).widen (Nat.le_refl _) ends.2
    · intro argument isExtra
      have sitsArgument := lines.sits argument isExtra
      have argumentStarts := sitsArgument.start
      exact ⟨by omega, lines.last argument isExtra last, sitsArgument.placed⟩
  exact whole.widen sitsStart.start ends.1.stop

theorem sits_command {head : Expr} {extra : List Expr} {middle : Nat}
    (sits : head.Sits source low middle) (after : middle ≤ high)
    (lines : Lines source middle high extra) : (head.command extra).Sits source low high :=
  sits_spanWith false sits (sits.own.widen (Nat.le_refl _) sits.stop) sits.own (by simp)
    (Nat.le_refl _) after lines

theorem sits_pipeInto {value segment : Expr} {extra : List Expr} {middle middle' : Nat}
    (sits : value.Sits source low middle) (sitsSegment : segment.Sits source middle middle')
    (after : middle' ≤ high) (lines : Lines source middle' high extra) :
    (value.pipeInto segment extra).Sits source low high := by
  have valueEnds := value.span.start_le_stop
  have valueStops := sits.stop
  have segmentStarts := sitsSegment.start
  have segmentEnds := segment.span.start_le_stop
  have segmentStops := sitsSegment.stop
  apply sits_spanWith true (sits.widen (Nat.le_refl _) (by omega : middle ≤ middle')) _ _ _
    (Nat.le_refl _) after lines
  · exact sitsSegment.own.widen (by omega) segmentStops
  · exact sitsSegment.own.widen (by omega) (Nat.le_refl _)
  · intro given isValue
    rcases List.mem_singleton.mp isValue with rfl
    exact sits.own.widen (Nat.le_refl _) (by omega)

end Expr

/-! ## Readers -/

namespace Grammar

open Cursor TemplateLang.Expr

/-- Where the expressions of a goal sit, for places at which it begins and ends. -/
def Goal.Sits (source : List Char) (start stop : Nat) : Goal → Prop
  | .primary expr | .suffixed expr | .update expr | .unary expr | .joined _ expr
  | .conditional expr | .command expr | .pipeline expr => expr.Sits source start stop
  | .suffixes head expr | .infixes _ _ head expr | .pipes head expr =>
    ∀ low, head.Sits source low start → expr.Sits source low stop
  | .items _ exprs => ∀ expr ∈ exprs, expr.Sits source start stop
  | .arguments exprs => Lines source start stop exprs

variable {source : List Char} {cursor next : Cursor}

theorem offset_le_skip {count : Nat} : cursor.offset ≤ (cursor.skip count).offset :=
  (reaches_skip cursor count).offset_le

/-- An expression that takes all the text between two places. -/
theorem sits_spanTo {expr : Expr} (spanEq : expr.span = cursor.spanTo next)
    (inside : cursor.In source) (reaches : cursor.Reaches next)
    (children : ∀ child ∈ expr.children, child.Sits source cursor.offset next.offset)
    (noKey : expr.keySpan? = none) : expr.Sits source cursor.offset next.offset := by
  apply sits_between spanEq inside.boundary (inside.reaches reaches).boundary reaches.offset_le
    children
  simp [noKey]

theorem sits_of_wordExpr {word : String} {expr : Expr} (inside : cursor.In source)
    (read : wordExpr cursor word = .ok (expr, next)) :
    expr.Sits source cursor.offset next.offset := by
  obtain ⟨rfl, stands⟩ := wordExpr_eq_ok.mp read
  cases stands with
  | null | undefined | yes | no | identifier =>
    exact sits_spanTo rfl inside (reaches_skipWord cursor) (by simp [children]) rfl

theorem sits_of_literal {expr : Expr} (inside : cursor.In source)
    (read : literal cursor = .ok (expr, next)) : expr.Sits source cursor.offset next.offset := by
  have reaches := reaches_of_literal read
  rcases literal_eq_ok.mp read with ⟨value, quote, -, rfl⟩ | ⟨-, value, -, rfl⟩
  · exact sits_spanTo rfl inside reaches (by simp [children]) rfl
  · exact sits_spanTo rfl inside reaches (by simp [children]) rfl

/-- A suffix after its head, with what stands in the suffix. -/
theorem sits_suffix {head expr : Expr} {low : Nat} (sits : head.Sits source low cursor.offset)
    (inside : next.In source) (ordered : cursor.offset ≤ next.offset)
    (noteEq : expr.note = suffixNote head next)
    (children : ∀ child ∈ expr.children, child = head ∨
      child.Sits source cursor.offset next.offset)
    (key : ∀ span ∈ expr.keySpan?, span.On source ∧ cursor.offset ≤ span.start ∧
      span.stop ≤ next.offset) : expr.Sits source low next.offset := by
  have headEnds := head.span.start_le_stop
  have headStops := sits.stop
  have spanEq : expr.span = Span.between head.span.start next.offset := by
    rw [Expr.span, noteEq]
    rfl
  have whole : expr.Sits source head.span.start next.offset := by
    apply sits_between spanEq sits.on.start inside.boundary (by omega)
    · intro child isChild
      rcases children child isChild with rfl | sitsChild
      · exact sits.own.widen (Nat.le_refl _) (by omega)
      · exact sitsChild.widen (by omega) (Nat.le_refl _)
    · intro span isKey
      rcases key span isKey with ⟨on, starts, stops⟩
      apply And.intro on
      constructor
      · exact Nat.le_trans (Nat.le_trans headEnds headStops) starts
      · rwa [Span.stop_between (by omega)]
  exact whole.widen sits.start (Nat.le_refl _)

/-- An operator before an operand. -/
theorem sits_prefix {argument expr : Expr} {middle : Nat} (inside : cursor.In source)
    (sits : argument.Sits source middle next.offset) (ordered : cursor.offset ≤ middle)
    (spanEq : expr.span = Span.between cursor.offset argument.span.stop)
    (only : expr.children = [argument]) (noKey : expr.keySpan? = none) :
    expr.Sits source cursor.offset next.offset := by
  have starts := sits.start
  have ends := argument.span.start_le_stop
  have whole : expr.Sits source cursor.offset argument.span.stop := by
    apply sits_between spanEq inside.boundary sits.on.stop (by omega)
    · rw [only]
      simpa using sits.own.widen (by omega) (Nat.le_refl _)
    · simp [noKey]
  exact whole.widen (Nat.le_refl _) sits.stop

/-- Whatever is derived sits between its ends. -/
theorem Derives.sits {setting : Setting} {goal : Goal} (derived : Derives setting goal cursor next)
    (inside : cursor.In source) : goal.Sits source cursor.offset next.offset := by
  induction derived with
  | paren _ content _ sits =>
    apply sits_spanTo rfl inside (((reaches_skip _ 1).trans content.reaches).trans
      (reaches_skip _ 1)) _ rfl
    simpa [children] using (sits (inside.skip 1)).widen offset_le_skip offset_le_skip
  | array _ content sits =>
    apply sits_spanTo rfl inside ((reaches_skip _ 1).trans content.reaches) _ rfl
    exact fun item isItem =>
      (sits (inside.skip 1) item isItem).widen offset_le_skip (Nat.le_refl _)
  | word _ _ _ read => exact sits_of_wordExpr inside read
  | literal _ _ _ read => exact sits_of_literal inside read
  | noSuffix | noInfix | noPipe => exact fun _ sits => sits
  | field _ read _ others =>
    intro low sits
    have key := reaches_of_fieldKey read
    have insideKey := (inside.skip 1).reaches key
    apply others insideKey low
    apply sits_suffix sits insideKey ((reaches_skip _ 1).trans key).offset_le rfl
    · simp [children]
    · simp only [keySpan?, Option.mem_def, Option.some.injEq, forall_eq']
      exact ⟨(inside.skip 1).spanTo insideKey, offset_le_skip, Nat.le_of_eq (stop_spanTo key)⟩
  | item _ content _ _ sitsKey others =>
    intro low sits
    have insideKey := (inside.skip 1).reaches content.reaches
    apply others (insideKey.skip 1) low
    apply sits_suffix sits (insideKey.skip 1)
      (((reaches_skip _ 1).trans content.reaches).trans (reaches_skip _ 1)).offset_le rfl
    · simp only [children, List.forall_mem_cons, List.not_mem_nil, false_implies, implies_true,
        and_true, true_or, true_and]
      exact .inr ((sitsKey (inside.skip 1)).widen offset_le_skip offset_le_skip)
    · simp [keySpan?]
  | call _ content _ sitsItems others =>
    intro low sits
    have insideItems := (inside.skip 1).reaches content.reaches
    apply others insideItems low
    apply sits_suffix sits insideItems ((reaches_skip _ 1).trans content.reaches).offset_le rfl
    · intro child isChild
      rcases List.mem_cons.mp isChild with rfl | isArgument
      · exact .inl rfl
      · exact .inr ((sitsItems (inside.skip 1) child isArgument).widen offset_le_skip
          (Nat.le_refl _))
    · simp [keySpan?]
  | suffixed start _ sits others =>
    exact others (inside.reaches start.reaches) _ (sits inside)
  | updateBefore _ _ _ sits =>
    exact sits_prefix inside (sits (inside.skip 2)) offset_le_skip rfl rfl rfl
  | updateAfter _ operand _ _ sits =>
    apply sits_spanTo rfl inside (operand.reaches.trans (reaches_skip _ 2)) _ rfl
    simpa [children] using (sits inside).widen (Nat.le_refl _) offset_le_skip
  | noUpdate _ _ _ sits => exact sits inside
  | operator _ before _ _ sits =>
    have insideStart := inside.reaches (reaches_of_trivia before)
    apply Sits.addLeading
    apply Sits.widen _ (reaches_of_trivia before).offset_le (Nat.le_refl _)
    exact sits_prefix insideStart (sits (insideStart.skip 1)) offset_le_skip rfl rfl rfl
  | operand _ before _ _ after sits =>
    have insideStart := inside.reaches (reaches_of_trivia before)
    exact (((sits insideStart).addTrailing _).addLeading _).widen
      (reaches_of_trivia before).offset_le (reaches_of_trivia after).offset_le
  | infixMore _ operand _ sits others =>
    intro low sitsLeft
    apply others ((inside.skip _).reaches operand.reaches) low
    exact sits_join sitsLeft (sits (inside.skip _)) offset_le_skip
  | tightest _ sits => exact sits inside
  | tier start _ sits others => exact others (inside.reaches start.reaches) _ (sits inside)
  | test _ _ sits => exact sits inside
  | choice start _ first _ _ sitsTest sitsFirst sitsSecond =>
    have insideFirst := (inside.reaches start.reaches).skip 1
    have insideSecond := (insideFirst.reaches first.reaches).skip 1
    exact sits_conditional (sitsTest inside) (sitsFirst insideFirst) (sitsSecond insideSecond)
      offset_le_skip offset_le_skip
  | itemsEnd => simp [Goal.Sits]
  | itemsLast _ _ _ _ sits =>
    intro item isItem
    rcases List.mem_singleton.mp isItem with rfl
    exact (sits (inside.skipWhile _)).widen offset_le_skip offset_le_skip
  | itemsMore _ content _ others sits sitsOthers =>
    have insideOthers := ((inside.skipWhile _).reaches content.reaches).skip 1
    have toOthers := content.reaches.trans (reaches_skip _ 1)
    intro item isItem
    rcases List.mem_cons.mp isItem with rfl | isOther
    · exact (sits (inside.skipWhile _)).widen offset_le_skip
        ((reaches_skip _ 1).trans others.reaches).offset_le
    · exact (sitsOthers insideOthers item isOther).widen
        ((reaches_skipBlanks _).trans toOthers).offset_le (Nat.le_refl _)
  | noArgument | refused => exact ⟨by simp, by simp⟩
  | argument _ operand others sits lines =>
    exact lines_cons (sits inside) operand.reaches.offset_le others.reaches.offset_le
      (lines (inside.reaches operand.reaches))
  | noCommand _ _ sits => exact sits inside
  | command start _ arguments sits lines =>
    exact sits_command (sits inside) arguments.reaches.offset_le
      (lines (inside.reaches start.reaches))
  | pipe _ before callee after arguments _ sitsCallee lines others =>
    intro low sits
    have insideCallee := (inside.skip 1).reaches (reaches_of_trivia before)
    have insideArguments :=
      (insideCallee.reaches callee.reaches).reaches (reaches_of_trivia after)
    apply others (insideArguments.reaches arguments.reaches) low
    apply sits_pipeInto sits _ arguments.reaches.offset_le (lines insideArguments)
    have sitsSegment := (sitsCallee insideCallee).widen
      ((reaches_skip _ 1).trans (reaches_of_trivia before)).offset_le
      (reaches_of_trivia after).offset_le
    exact sitsSegment.withNote rfl
  | pipeline start _ sits others => exact others (inside.reaches start.reaches) _ (sits inside)

end Grammar

/-- In a template that is read, every tag spans a text of the source, and every expression of
a tag sits between the ends of the tag. -/
theorem sits_of_parse {tags : Delimiters} {source : List Char} {template : Template}
    (read : parse tags source = .ok template) {statement : Statement} {span : Span}
    (has : template.HasTag statement span) :
    span.On source ∧ ∀ expr ∈ statement.heads, expr.Sits source span.start span.stop := by
  rcases tagsBetween_of_parse read with ⟨next, between⟩
  rcases between statement span has with ⟨opens, closes, first, within, -, rfl, inner⟩
  have insideOpens := (Cursor.ofSource_in source).reaches first
  have insideCloses := insideOpens.reaches within
  constructor
  · exact insideOpens.spanTo insideCloses
  · intro expr isHead
    rcases inner.heads expr isHead with ⟨setting, cursor, next, before, after, derived⟩
    rw [Cursor.stop_spanTo within]
    exact (derived.sits (insideOpens.reaches before)).widen before.offset_le after.offset_le

end TemplateLang
