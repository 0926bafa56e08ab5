import TemplateLang.Proofs.Locality.Veil

/-!
# Expressions in a longer text

Whatever is derived between two places of a text is derived between the same places in a
longer text, with the spans moved, if what comes after the text is veiled where it ends.  A
derivation may also end with the text; then what comes after must be nothing that the goal
goes on with, and the blanks there are skipped where the goal skips blanks.

There is one lemma for each rule that moves over characters of its own, and the induction over
derivations puts them together.
-/

namespace TemplateLang

namespace Grammar

open Cursor

variable {around : Around} {hidden : List Char → Prop} {setting : Setting}
  {cursor start middle next : Cursor}

/-! ## Characters -/

/-- A character that is ahead is passed in the longer text. -/
theorem isAt_passed {c : Char} (isAt : cursor.isAt [c] = true) :
    (cursor.inside around).isAt [c] = true ∧
      (cursor.inside around).skip 1 = (cursor.skip 1).inside around := by
  refine ⟨?_, skip_one_inside (rest_ne_nil_of_isAt isAt)⟩
  rw [isAt_iff] at isAt ⊢
  exact isAt.trans (List.prefix_append _ _)

/-- A character that is not ahead is not ahead in the longer text. -/
theorem isAt_missing {c : Char} (isAt : cursor.isAt [c] = false)
    (overlooks : around.Overlooks cursor.rest) : (cursor.inside around).isAt [c] = false :=
  (isAt_inside overlooks).trans isAt

theorem unseen_of_skip {count : Nat} (unseen : around.Unseen (cursor.skip count).rest) :
    around.Unseen cursor.rest :=
  (reaches_skip cursor count).unseen unseen

theorem skip_updateOp {op : UpdateOp} (starts : updateOp? setting cursor.rest = some op) :
    (cursor.inside around).skip 2 = (cursor.skip 2).inside around := by
  apply skip_inside
  cases updateOp?_eq_some_iff.mp starts with
  | increment restEq | decrement restEq => simp [restEq]

theorem skip_infixOp {tier : List InfixOp} {op : InfixOp}
    (follows : infixOp? setting tier cursor.rest = some op) :
    (cursor.inside around).skip op.symbol.length =
      (cursor.skip op.symbol.length).inside around := by
  apply skip_inside
  rw [← String.length_toList]
  exact (symbol_of_infixOp? follows).length_le

/-! ## Leaves -/

theorem wordExpr_inside {word : String} {expr : Expr}
    (read : wordExpr cursor word = .ok (expr, next)) (overlooks : around.Overlooks cursor.rest) :
    wordExpr (cursor.inside around) word =
      .ok (expr.shift around.distance, next.inside around) := by
  obtain ⟨rfl, stands⟩ := wordExpr_eq_ok.mp read
  refine wordExpr_eq_ok.mpr ⟨(skipWord_inside overlooks).symm, ?_⟩
  rw [skipWord_inside overlooks, spanTo_inside]
  cases stands with
  | null => exact .null
  | undefined => exact .undefined
  | yes => exact .yes
  | no => exact .no
  | identifier free => exact .identifier free

theorem literal_inside {expr : Expr} (veils : around.Veils hidden)
    (read : literal cursor = .ok (expr, next)) (veiled : hidden cursor.rest)
    (overlooks : around.Overlooks cursor.rest) :
    literal (cursor.inside around) = .ok (expr.shift around.distance, next.inside around) := by
  rw [literal_eq_ok, spanTo_inside]
  rcases literal_eq_ok.mp read with ⟨value, quote, found, rfl⟩ | ⟨noQuote, value, found, rfl⟩
  · exact .inl ⟨value, quote, Literal.string_inside found, rfl⟩
  · have noQuote' := (quote?_inside overlooks).trans noQuote
    exact .inr ⟨noQuote', value, veils.number found veiled, rfl⟩

theorem fieldKey_inside {key : FieldKey} (read : fieldKey cursor = .ok (key, next))
    (overlooks : around.Overlooks cursor.rest) :
    fieldKey (cursor.inside around) = .ok (key, next.inside around) := by
  rw [fieldKey_eq_ok, peekWord?_inside overlooks, skipWord_inside overlooks,
    skip_digits_inside overlooks, decimalDigits_inside overlooks]
  rcases fieldKey_eq_ok.mp read with ⟨word, atWord, rfl, rfl⟩ | ⟨noWord, someDigits, rfl, rfl⟩
  · exact .inl ⟨word, atWord, rfl, rfl⟩
  · exact .inr ⟨noWord, someDigits, rfl, rfl⟩

/-- A key is not read from a last bar, nor from the end of a text. -/
theorem clears_of_fieldKey {key : FieldKey} (read : fieldKey cursor = .ok (key, next)) :
    cursor.Clears next ∧ cursor.rest ≠ [] := by
  have fails (text : List Char) (restEq : cursor.rest = text) (noKey : text = ['|'] ∨ text = []) :
      False := by
    rcases noKey with rfl | rfl <;>
      simp [fieldKey, peekWord?, Cursor.word, Literal.decimalDigits, restEq, isWordStart] at read
  exact ⟨clears_of_ne (fun bar => fails _ bar (.inl rfl)) (reaches_of_fieldKey read),
    fun atEnd => fails _ atEnd (.inr rfl)⟩

theorem suffixNote_inside (head : Expr) :
    suffixNote (head.shift around.distance) (next.inside around) =
      (suffixNote head next).shift around.distance := by
  rw [suffixNote, suffixNote, Note.shift_at, Expr.span_shift, Span.start_shift, offset_inside,
    Span.between_shift]

theorem shift_join (distance : Nat) (op : InfixOp) (left right : Expr) :
    (op.join left right).shift distance =
      op.join (left.shift distance) (right.shift distance) := by
  cases op <;>
    simp only [InfixOp.join, Expr.shift, Note.shift_at, Expr.span_shift, Span.union_shift]

/-! ## Refusals -/

theorem NoPrimary.inside (noPrimary : NoPrimary cursor)
    (overlooks : around.Overlooks cursor.rest) : NoPrimary (cursor.inside around) where
  noParen := isAt_missing noPrimary.noParen overlooks
  noBracket := isAt_missing noPrimary.noBracket overlooks
  noWord := by rw [peekWord?_inside overlooks]; exact noPrimary.noWord
  noLiteral := by
    rw [peekWord?_inside overlooks, quote?_inside overlooks, Literal.number_eq_absent,
      rest_inside, overlooks.announced_eq, overlooks.startsDecimal_eq,
      ← Literal.number_eq_absent]
    exact noPrimary.noLiteral

/-- Where the arguments of a command end, they end in the longer text. -/
theorem Refused.inside (refused : Refused setting cursor)
    (standard : setting.tags = Delimiters.standard)
    (starts : atArgument setting cursor.rest = true)
    (overlooks : around.Overlooks cursor.rest) : Refused setting (cursor.inside around) := by
  rcases refused with ⟨fault, span, failed⟩
  rcases unary_eq_soft.mp (failed (innerOf 0)) with
    ⟨room, comments, start, someRoom, before, noOperator, noUpdate, noPrimary⟩
  have settled := settled_of_argument starts
  rcases trivia_of_settled settled before with rfl
  rcases ((noPrimary_of_soft noPrimary).inside overlooks).refused with ⟨fault', span', failed'⟩
  refine ⟨fault', span', fun inner => unary_eq_soft.mpr
    ⟨room, [], _, someRoom, (settled.inside overlooks).trivia, ?_, ?_, failed' inner⟩⟩
  · exact (overlooks.unaryOp?_eq standard).trans noOperator
  · exact (overlooks.updateOp?_eq standard).trans noUpdate

/-! ## Ends of the text -/

/-- An operand that ends with the text ends there in the longer text. -/
structure EndsOperand (around : Around) (cursor : Cursor) : Prop where
  noSuffix : ∀ c ∈ ['.', '[', '('], (cursor.inside around).isAt [c] = false
  noUpdate : ∀ c ∈ ['+', '-'], (cursor.inside around).isAt [c] = false
  settled : (cursor.beyond around).Settled

/-- What has to hold where a text ends, for a goal that is derived up to there to be derived in
the longer text. -/
def Goal.Ends (around : Around) (setting : Setting) (cursor : Cursor) : Goal → Prop
  | .primary _ | .suffixes _ _ | .items _ _ => True
  | .suffixed _ | .update _ | .unary _ => EndsOperand around cursor
  | .infixes _ _ _ _ | .joined _ _ | .conditional _ =>
    EndsOperand around cursor ∧ EndsConditional setting (cursor.beyond around)
  | .arguments _ | .command _ =>
    EndsOperand around cursor ∧ EndsCommand setting (cursor.beyond around)
  | .pipes _ _ | .pipeline _ =>
    EndsOperand around cursor ∧ EndsCommand setting (cursor.beyond around) ∧
      atPipe setting (cursor.beyond around).rest = false

theorem EndsOperand.updateOp?_eq_none (ends : EndsOperand around cursor) :
    updateOp? setting (cursor.inside around).rest = none := by
  cases restEq : (cursor.inside around).rest with
  | nil => rfl
  | cons c rest =>
    have differs (d : Char) (isIn : d ∈ ['+', '-']) : c ≠ d := by
      rintro rfl
      have noUpdate := ends.noUpdate c isIn
      rw [Bool.eq_false_iff] at noUpdate
      exact noUpdate (isAt_singleton_iff.mpr ⟨rest, restEq⟩)
    exact Grammar.updateOp?_eq_none (differs '+' (by decide)) (differs '-' (by decide))

/-- No suffix follows where suffixes end. -/
theorem Derives.no_suffix {head expr : Expr}
    (derived : Derives setting (.suffixes head expr) cursor next) :
    ∀ c ∈ ['.', '[', '('], next.isAt [c] = false := by
  generalize goalEq : Goal.suffixes head expr = goal at derived
  induction derived generalizing head with
  | noSuffix noDot noBracket noParen => simp [noDot, noBracket, noParen]
  | field _ _ _ ih | item _ _ _ _ _ ih | call _ _ _ _ ih =>
    rcases Goal.suffixes.inj goalEq with ⟨-, rfl⟩
    exact ih rfl
  | _ => simp at goalEq

/-! ## Rules -/

/-- The goal with its expressions moved. -/
def Goal.shift (distance : Nat) : Goal → Goal
  | .primary expr => .primary (expr.shift distance)
  | .suffixes head expr => .suffixes (head.shift distance) (expr.shift distance)
  | .suffixed expr => .suffixed (expr.shift distance)
  | .update expr => .update (expr.shift distance)
  | .unary expr => .unary (expr.shift distance)
  | .infixes tier tighter left expr =>
    .infixes tier tighter (left.shift distance) (expr.shift distance)
  | .joined tiers expr => .joined tiers (expr.shift distance)
  | .conditional expr => .conditional (expr.shift distance)
  | .items close exprs => .items close (exprs.map (·.shift distance))
  | .arguments exprs => .arguments (exprs.map (·.shift distance))
  | .command expr => .command (expr.shift distance)
  | .pipes value expr => .pipes (value.shift distance) (expr.shift distance)
  | .pipeline expr => .pipeline (expr.shift distance)

/-- What a derivation gives in the longer text.  Loops are entered past the blanks that come
before them.  Suffixes may be followed by others that come after the text, and an update has
skipped the blanks after it or has not. -/
def Goal.Carried (around : Around) (setting : Setting) (cursor next : Cursor) : Goal → Prop
  | .suffixes head expr => ∀ final stop,
    Derives setting (.suffixes (expr.shift around.distance) final) (next.inside around) stop →
      Derives setting (.suffixes (head.shift around.distance) final) (cursor.inside around) stop
  | .update expr => ∃ stop, (stop = next.inside around ∨ stop = next.beyond around) ∧
    Derives setting (.update (expr.shift around.distance)) (cursor.inside around) stop
  | .primary expr => Derives setting (.primary (expr.shift around.distance))
    (cursor.inside around) (next.inside around)
  | .suffixed expr => Derives setting (.suffixed (expr.shift around.distance))
    (cursor.inside around) (next.inside around)
  | .items close exprs => close ≠ '|' →
    Derives setting (.items close (exprs.map (·.shift around.distance)))
      (cursor.inside around) (next.inside around)
  | .unary expr => Derives setting (.unary (expr.shift around.distance))
    (cursor.inside around) (next.beyond around)
  | .conditional expr => Derives setting (.conditional (expr.shift around.distance))
    (cursor.inside around) (next.beyond around)
  | .command expr => Derives setting (.command (expr.shift around.distance))
    (cursor.inside around) (next.beyond around)
  | .pipeline expr => Derives setting (.pipeline (expr.shift around.distance))
    (cursor.inside around) (next.beyond around)
  | .joined tiers expr => Derives setting (.joined tiers (expr.shift around.distance))
    (cursor.inside around) (next.beyond around)
  | .infixes tier tighter left expr => Derives setting
    (.infixes tier tighter (left.shift around.distance) (expr.shift around.distance))
    (cursor.beyond around) (next.beyond around)
  | .arguments exprs => Derives setting (.arguments (exprs.map (·.shift around.distance)))
    (cursor.beyond around) (next.beyond around)
  | .pipes value expr => Derives setting
    (.pipes (value.shift around.distance) (expr.shift around.distance))
    (cursor.beyond around) (next.beyond around)

/-- What is derived for a goal is derived in the longer text. -/
def Goal.Kept (around : Around) (hidden : List Char → Prop) (setting : Setting)
    (cursor next : Cursor) (goal : Goal) : Prop :=
  hidden next.rest → (next.rest = [] → goal.Ends around setting next) →
    goal.Carried around setting cursor next

/-- Where the text ends before a goal is done, the goal ends there. -/
theorem ends_back {setting' : Setting} {goal goal' : Goal} (reaches : middle.Reaches next)
    (ends : next.rest = [] → goal.Ends around setting next)
    (weaker : goal.Ends around setting next → goal'.Ends around setting' next) :
    middle.rest = [] → goal'.Ends around setting' middle := by
  intro atEnd
  rcases reaches.eq_of_nil atEnd with rfl
  exact weaker (ends atEnd)

section

variable {expr head : Expr} (veils : around.Veils hidden)

include veils

/-- A look ahead from where the longer text goes on sees what it sees in the text, or the end
of the goal. -/
theorem look_beyond {α : Type} (look : List Char → α) {value : α} (veiled : hidden cursor.rest)
    (same : around.Overlooks cursor.rest → look (cursor.rest ++ around.after) = look cursor.rest)
    (ends : cursor.rest = [] → look (cursor.beyond around).rest = value)
    (here : look cursor.rest = value) : look (cursor.beyond around).rest = value := by
  by_cases atEnd : cursor.rest = []
  · exact ends atEnd
  · rw [beyond_eq_inside atEnd, rest_inside, same (veils.overlooks veiled atEnd)]
    exact here

/-- Blanks and comments up to a place that is not the end. -/
theorem trivia_within {comments : List Comment} (read : trivia cursor = .ok (comments, next))
    (veiled : hidden next.rest) (notDone : next.rest ≠ []) :
    trivia (cursor.inside around) =
      .ok (comments.map (·.shift around.distance), next.inside around) := by
  rw [← beyond_eq_inside notDone]
  exact trivia_beyond (veils.overlooks veiled) (fun atEnd => absurd atEnd notDone) read

/-- Blanks and comments after an operand, whether the blanks at the end were skipped or not. -/
theorem trivia_after {comments : List Comment} {stop : Cursor}
    (place : stop = cursor.inside around ∨ stop = cursor.beyond around)
    (read : trivia cursor = .ok (comments, next)) (veiled : hidden next.rest)
    (ends : next.rest = [] → (next.beyond around).Settled) :
    trivia stop = .ok (comments.map (·.shift around.distance), next.beyond around) := by
  have whole := trivia_beyond (veils.overlooks veiled) ends read
  rcases place with rfl | rfl
  · exact whole
  · by_cases atEnd : cursor.rest = []
    · rcases (reaches_of_trivia read).eq_of_nil atEnd with rfl
      rw [(trivia_eq_ok.mp read).2.trivia] at read
      rcases Prod.mk.inj (Except.ok.inj read) with ⟨rfl, -⟩
      exact (ends atEnd).trivia
    · rwa [beyond_eq_inside atEnd]

/-! ### Operands -/

theorem kept_word {word : String} (noParen : cursor.isAt ['('] = false)
    (noBracket : cursor.isAt ['['] = false) (starts : cursor.peekWord? = some word)
    (read : wordExpr cursor word = .ok (expr, next)) :
    Goal.Kept around hidden setting cursor next (.primary expr) := by
  intro veiled _
  have derived : Derives setting (.primary expr) cursor next :=
    .word noParen noBracket starts read
  have overlooks := veils.overlooks (veils.back (derived.clears (by simp)) veiled)
    (derived.passes rfl).1
  exact .word (isAt_missing noParen overlooks) (isAt_missing noBracket overlooks)
    ((peekWord?_inside overlooks).trans starts) (wordExpr_inside read overlooks)

theorem kept_literal (noParen : cursor.isAt ['('] = false)
    (noBracket : cursor.isAt ['['] = false) (noWord : cursor.peekWord? = none)
    (read : Grammar.literal cursor = .ok (expr, next)) :
    Goal.Kept around hidden setting cursor next (.primary expr) := by
  intro veiled _
  have derived : Derives setting (.primary expr) cursor next :=
    .literal noParen noBracket noWord read
  have veiledHere := veils.back (derived.clears (by simp)) veiled
  have overlooks := veils.overlooks veiledHere (derived.passes rfl).1
  exact .literal (isAt_missing noParen overlooks) (isAt_missing noBracket overlooks)
    ((peekWord?_inside overlooks).trans noWord) (literal_inside veils read veiledHere overlooks)

theorem kept_paren (opens : cursor.isAt ['('] = true)
    (content : Goal.Kept around hidden setting (cursor.skip 1) next (.pipeline expr))
    (closes : next.isAt [')'] = true) :
    Goal.Kept around hidden setting cursor (next.skip 1)
      (.primary (.paren expr (Note.at (cursor.spanTo (next.skip 1))))) := by
  intro veiled _
  rcases isAt_passed opens with ⟨opens', skipOpening⟩
  rcases isAt_passed closes with ⟨closes', skipClosing⟩
  have notDone := rest_ne_nil_of_isAt closes
  have inner := content
    (veils.back (clears_of_isAt closes (by decide) (reaches_skip _ 1)) veiled)
    (fun atEnd => absurd atEnd notDone)
  rw [Goal.Carried, beyond_eq_inside notDone, ← skipOpening] at inner
  have whole := Derives.paren opens' inner closes'
  rw [skipClosing, spanTo_inside] at whole
  exact whole

omit veils in
theorem kept_array {items : List Expr} (opens : cursor.isAt ['['] = true)
    (content : Goal.Kept around hidden setting (cursor.skip 1) next (.items ']' items)) :
    Goal.Kept around hidden setting cursor next
      (.primary (.array items (Note.at (cursor.spanTo next)))) := by
  intro veiled _
  rcases isAt_passed opens with ⟨opens', skipOpening⟩
  have inner := content veiled (fun _ => trivial) (by decide)
  rw [← skipOpening] at inner
  have whole := Derives.array opens' inner
  rw [spanTo_inside] at whole
  simpa only [Goal.Carried, Expr.shift, shiftAll_eq_map, Note.shift_at] using whole

theorem kept_field {key : FieldKey} (dot : cursor.isAt ['.'] = true)
    (read : fieldKey (cursor.skip 1) = .ok (key, middle)) (clears : middle.Clears next)
    (others : Goal.Kept around hidden setting middle next
      (.suffixes (.field head key ((cursor.skip 1).spanTo middle) (suffixNote head middle))
        expr)) :
    Goal.Kept around hidden setting cursor next (.suffixes head expr) := by
  intro veiled _ final stop later
  rcases isAt_passed dot with ⟨dot', skipDot⟩
  rcases clears_of_fieldKey read with ⟨keyClears, notDone⟩
  have veiledKey := veils.back keyClears (veils.back clears veiled)
  have read' := fieldKey_inside read (veils.overlooks veiledKey notDone)
  have others' := others veiled (fun _ => trivial) final stop later
  rw [← skipDot] at read'
  simp only [Expr.shift, ← suffixNote_inside, ← spanTo_inside, ← skipDot] at others'
  exact .field dot' read' others'

theorem kept_item {key : Expr} (opens : cursor.isAt ['['] = true)
    (content : Goal.Kept around hidden setting (cursor.skip 1) middle (.pipeline key))
    (closes : middle.isAt [']'] = true) (reaches : (middle.skip 1).Reaches next)
    (others : Goal.Kept around hidden setting (middle.skip 1) next
      (.suffixes (.item head key (suffixNote head (middle.skip 1))) expr)) :
    Goal.Kept around hidden setting cursor next (.suffixes head expr) := by
  intro veiled _ final stop later
  rcases isAt_passed opens with ⟨opens', skipOpening⟩
  rcases isAt_passed closes with ⟨closes', skipClosing⟩
  have notDone := rest_ne_nil_of_isAt closes
  have clears := clears_of_isAt closes (by decide) ((reaches_skip _ 1).trans reaches)
  have inner := content (veils.back clears veiled) fun atEnd => absurd atEnd notDone
  have others' := others veiled (fun _ => trivial) final stop later
  rw [Goal.Carried, beyond_eq_inside notDone, ← skipOpening] at inner
  simp only [Expr.shift, ← suffixNote_inside] at others'
  rw [← skipClosing] at others'
  exact .item opens' inner closes' others'

theorem kept_call {arguments : List Expr} (opens : cursor.isAt ['('] = true)
    (content : Goal.Kept around hidden setting (cursor.skip 1) middle (.items ')' arguments))
    (clears : middle.Clears next)
    (others : Goal.Kept around hidden setting middle next
      (.suffixes (.call head arguments false (suffixNote head middle)) expr)) :
    Goal.Kept around hidden setting cursor next (.suffixes head expr) := by
  intro veiled _ final stop later
  rcases isAt_passed opens with ⟨opens', skipOpening⟩
  have inner := content (veils.back clears veiled) (fun _ => trivial) (by decide)
  have others' := others veiled (fun _ => trivial) final stop later
  rw [← skipOpening] at inner
  simp only [Expr.shift, shiftAll_eq_map, ← suffixNote_inside] at others'
  exact .call opens' inner others'

theorem kept_suffixed (start : Goal.Kept around hidden setting cursor middle (.primary head))
    (clears : middle.Clears next)
    (others : Goal.Kept around hidden setting middle next (.suffixes head expr))
    (noSuffix : ∀ c ∈ ['.', '[', '('], next.isAt [c] = false) :
    Goal.Kept around hidden setting cursor next (.suffixed expr) := by
  intro veiled ends
  have goesNoFurther : ∀ c ∈ ['.', '[', '('], (next.inside around).isAt [c] = false := by
    intro c isIn
    by_cases atEnd : next.rest = []
    · exact (ends atEnd).noSuffix c isIn
    · exact isAt_missing (noSuffix c isIn) (veils.overlooks veiled atEnd)
  have first := start (veils.back clears veiled) fun _ => trivial
  exact .suffixed first (others veiled (fun _ => trivial) _ _
    (.noSuffix (goesNoFurther '.' (by simp)) (goesNoFurther '[' (by simp))
      (goesNoFurther '(' (by simp))))

/-! ### Operators of one operand -/

variable (standard : setting.tags = Delimiters.standard)

include standard

theorem kept_updateBefore {op : UpdateOp} {target : Expr}
    (starts : updateOp? setting cursor.rest = some op) (here : cursor.Clears next)
    (operand : Goal.Kept around hidden setting (cursor.skip 2) next (.unary target))
    (assignable : target.isAssignable = true) :
    Goal.Kept around hidden setting cursor next
      (.update (.update op .before target
        (Note.at (Span.between cursor.offset target.span.stop)))) := by
  intro veiled ends
  have overlooks := veils.overlooks (veils.back here veiled) (passes_of_updateOp starts).1
  have starts' := (overlooks.updateOp?_eq standard).trans starts
  have inner := operand veiled ends
  rw [Goal.Carried, ← skip_updateOp starts] at inner
  have whole := Derives.updateBefore starts' inner (by simpa using assignable)
  rw [offset_inside, Expr.span_shift, Span.stop_shift, Span.between_shift] at whole
  exact ⟨_, .inr rfl, whole⟩

theorem kept_updateAfter {op : UpdateOp} (noneBefore : updateOp? setting cursor.rest = none)
    (clears : cursor.Clears next) (notDone : cursor.rest ≠ [])
    (operand : Goal.Kept around hidden setting cursor next (.suffixed expr))
    (follows : updateOp? setting next.rest = some op) (assignable : expr.isAssignable = true) :
    Goal.Kept around hidden setting cursor (next.skip 2)
      (.update (.update op .after expr (Note.at (cursor.spanTo (next.skip 2))))) := by
  intro veiled _
  have passes := passes_of_updateOp follows
  have noBar : next.rest ≠ ['|'] := by
    intro bar
    simp [bar, updateOp?] at follows
  have veiledNext := veils.back (clears_of_ne noBar passes.reaches) veiled
  have overlooksNext := veils.overlooks veiledNext passes.1
  have overlooks := veils.overlooks (veils.back clears veiledNext) notDone
  have whole := Derives.updateAfter ((overlooks.updateOp?_eq standard).trans noneBefore)
    (operand veiledNext fun atEnd => absurd atEnd passes.1)
    ((overlooksNext.updateOp?_eq standard).trans follows) (by simpa using assignable)
  rw [skip_updateOp follows, spanTo_inside] at whole
  exact ⟨_, .inl rfl, whole⟩

theorem kept_noUpdate (noneBefore : updateOp? setting cursor.rest = none)
    (clears : cursor.Clears next) (notDone : cursor.rest ≠ [])
    (operand : Goal.Kept around hidden setting cursor next (.suffixed expr))
    (noneAfter : updateOp? setting next.rest = none) :
    Goal.Kept around hidden setting cursor next (.update expr) := by
  intro veiled ends
  have overlooks := veils.overlooks (veils.back clears veiled) notDone
  refine ⟨_, .inl rfl, .noUpdate ((overlooks.updateOp?_eq standard).trans noneBefore)
    (operand veiled ends) ?_⟩
  by_cases atEnd : next.rest = []
  · exact (ends atEnd).updateOp?_eq_none
  · exact ((veils.overlooks veiled atEnd).updateOp?_eq standard).trans noneAfter

theorem kept_operator {room : Nat} {op : UnaryOp} {argument : Expr} {comments : List Comment}
    (someRoom : setting.room = room + 1) (before : trivia cursor = .ok (comments, start))
    (starts : unaryOp? { setting with room := room } start.rest = some op)
    (reaches : (start.skip 1).Reaches next)
    (operand : Goal.Kept around hidden { setting with room := room } (start.skip 1) next
      (.unary argument)) :
    Goal.Kept around hidden setting cursor next
      (.unary ((Expr.unary op argument
        (Note.at (Span.between start.offset argument.span.stop))).addLeading comments)) := by
  intro veiled ends
  have notDone := (passes_of_unaryOp starts).1
  have noBar : start.rest ≠ ['|'] := by
    intro bar
    simp [bar, unaryOp?] at starts
  have veiledStart := veils.back (clears_of_ne noBar ((reaches_skip _ 1).trans reaches)) veiled
  have before' := trivia_within veils before veiledStart notDone
  have starts' := ((veils.overlooks veiledStart notDone).unaryOp?_eq standard).trans starts
  have inner := operand veiled ends
  rw [Goal.Carried, ← skip_one_inside notDone] at inner
  have whole := Derives.operator someRoom before' starts' inner
  rw [offset_inside, Expr.span_shift, Span.stop_shift, Span.between_shift] at whole
  rw [Goal.Carried, Expr.shift_addLeading]
  exact whole

theorem kept_operand {room : Nat} {leading trailing : List Comment}
    (someRoom : setting.room = room + 1) (before : trivia cursor = .ok (leading, start))
    (noOperator : unaryOp? { setting with room := room } start.rest = none)
    (clears : start.Clears middle) (notDone : start.rest ≠ [])
    (operand : Goal.Kept around hidden { setting with room := room } start middle
      (.update expr))
    (after : trivia middle = .ok (trailing, next)) :
    Goal.Kept around hidden setting cursor next
      (.unary ((expr.addTrailing trailing).addLeading leading)) := by
  intro veiled ends
  have veiledMiddle := veils.back (clears_of_trivia after) veiled
  have veiledStart := veils.back clears veiledMiddle
  have before' := trivia_within veils before veiledStart notDone
  have noOperator' :=
    ((veils.overlooks veiledStart notDone).unaryOp?_eq standard).trans noOperator
  rcases operand veiledMiddle (ends_back (reaches_of_trivia after) ends id) with
    ⟨stop, place, inner⟩
  have after' := trivia_after veils place after veiled fun atEnd => (ends atEnd).settled
  rw [Goal.Carried, Expr.shift_addLeading, Expr.shift_addTrailing]
  exact .operand someRoom before' noOperator' inner after'

/-! ### Operators between operands -/

variable {tier : List InfixOp} {tighter levels : List (List InfixOp)} {left : Expr}

theorem kept_noInfix (none : infixOp? setting tier cursor.rest = none) :
    Goal.Kept around hidden setting cursor cursor (.infixes tier tighter left left) := by
  intro veiled ends
  exact .noInfix (look_beyond veils (infixOp? setting tier) veiled
    (fun overlooks => overlooks.infixOp?_eq standard tier)
    (fun atEnd => (ends atEnd).2.noInfix tier) none)

theorem kept_infixMore {op : InfixOp} {right : Expr}
    (follows : infixOp? setting tier cursor.rest = some op) (here : cursor.Clears next)
    (operand : Goal.Kept around hidden setting (cursor.skip op.symbol.length) middle
      (.joined tighter right))
    (clears : middle.Clears next)
    (others : Goal.Kept around hidden setting middle next
      (.infixes tier tighter (op.join left right) expr)) :
    Goal.Kept around hidden setting cursor next (.infixes tier tighter left expr) := by
  intro veiled ends
  have notDone := (passes_of_infixOp follows).1
  have overlooks := veils.overlooks (veils.back here veiled) notDone
  have follows' := (overlooks.infixOp?_eq standard tier).trans follows
  have inner := operand (veils.back clears veiled) (ends_back clears.1 ends id)
  have later := others veiled ends
  rw [Goal.Carried, ← skip_infixOp follows] at inner
  rw [Goal.Carried, shift_join] at later
  rw [Goal.Carried, beyond_eq_inside notDone]
  exact .infixMore follows' inner later

omit standard

theorem kept_tier (start : Goal.Kept around hidden setting cursor middle (.joined tighter left))
    (clears : middle.Clears next)
    (others : Goal.Kept around hidden setting middle next (.infixes tier tighter left expr)) :
    Goal.Kept around hidden setting cursor next (.joined (tier :: tighter) expr) := by
  intro veiled ends
  exact .tier (start (veils.back clears veiled) (ends_back clears.1 ends id))
    (others veiled ends)

theorem kept_test (start : Goal.Kept around hidden setting cursor next (.joined tiers expr))
    (noQuestion : next.isAt ['?'] = false) :
    Goal.Kept around hidden setting cursor next (.conditional expr) := by
  intro veiled ends
  refine .test (start veiled ends) ?_
  exact look_beyond veils ['?'].isPrefixOf veiled
    (fun overlooks => isAt_inside overlooks) (fun atEnd => (ends atEnd).2.noQuestion) noQuestion

theorem kept_choice {test consequent alternate : Expr} {afterTest afterConsequent : Cursor}
    (first : Goal.Kept around hidden setting cursor afterTest (.joined tiers test))
    (question : afterTest.isAt ['?'] = true)
    (reaches : (afterTest.skip 1).Reaches afterConsequent)
    (second : Goal.Kept around hidden setting (afterTest.skip 1) afterConsequent
      (.conditional consequent))
    (colon : afterConsequent.isAt [':'] = true)
    (reaches' : (afterConsequent.skip 1).Reaches next)
    (third : Goal.Kept around hidden setting (afterConsequent.skip 1) next
      (.conditional alternate)) :
    Goal.Kept around hidden setting cursor next
      (.conditional (.conditional test consequent alternate
        (Note.at (test.span.union alternate.span)))) := by
  intro veiled ends
  rcases isAt_passed question with ⟨question', skipQuestion⟩
  rcases isAt_passed colon with ⟨colon', skipColon⟩
  have notDone := rest_ne_nil_of_isAt question
  have notDone' := rest_ne_nil_of_isAt colon
  have veiledColon := veils.back
    (clears_of_isAt colon (by decide) ((reaches_skip _ 1).trans reaches')) veiled
  have veiledQuestion := veils.back
    (clears_of_isAt question (by decide) ((reaches_skip _ 1).trans reaches)) veiledColon
  have condition := first veiledQuestion fun atEnd => absurd atEnd notDone
  have chosen := second veiledColon fun atEnd => absurd atEnd notDone'
  have other := third veiled ends
  rw [Goal.Carried, beyond_eq_inside notDone] at condition
  rw [Goal.Carried, beyond_eq_inside notDone', ← skipQuestion] at chosen
  rw [Goal.Carried, ← skipColon] at other
  have whole := Derives.choice condition question' chosen colon' other
  rw [Expr.span_shift, Expr.span_shift, Span.union_shift] at whole
  exact whole

/-! ### Lists and arguments -/

variable {close : Char} {item : Expr} {items : List Expr}

omit veils in
theorem kept_itemsEnd (closes : cursor.skipBlanks.isAt [close] = true) :
    Goal.Kept around hidden setting cursor (cursor.skipBlanks.skip 1) (.items close []) := by
  intro _ _ _
  rcases isAt_passed closes with ⟨closes', skipClosing⟩
  have blanks : (cursor.inside around).skipBlanks = cursor.skipBlanks.inside around :=
    skipBlanks_inside (rest_ne_nil_of_isAt closes)
  rw [← blanks] at closes'
  rw [← skipClosing, ← blanks]
  exact .itemsEnd closes'

theorem kept_itemsLast (notYet : cursor.skipBlanks.isAt [close] = false)
    (clears : cursor.skipBlanks.Clears next) (notDone : cursor.skipBlanks.rest ≠ [])
    (content : Goal.Kept around hidden setting cursor.skipBlanks next (.conditional item))
    (noComma : next.isAt [','] = false) (closes : next.isAt [close] = true) :
    Goal.Kept around hidden setting cursor (next.skip 1) (.items close [item]) := by
  intro veiled _ notBar
  rcases isAt_passed closes with ⟨closes', skipClosing⟩
  have notDone' := rest_ne_nil_of_isAt closes
  have veiledNext := veils.back (clears_of_isAt closes notBar (reaches_skip _ 1)) veiled
  have veiledStart := veils.back clears veiledNext
  have blanks : (cursor.inside around).skipBlanks = cursor.skipBlanks.inside around :=
    skipBlanks_inside notDone
  have notYet' := isAt_missing notYet (veils.overlooks veiledStart notDone)
  have noComma' := isAt_missing noComma (veils.overlooks veiledNext notDone')
  have inner := content veiledNext fun atEnd => absurd atEnd notDone'
  rw [Goal.Carried, beyond_eq_inside notDone', ← blanks] at inner
  rw [← blanks] at notYet'
  rw [← skipClosing]
  exact .itemsLast notYet' inner noComma' closes'

theorem kept_itemsMore (notYet : cursor.skipBlanks.isAt [close] = false)
    (clears : cursor.skipBlanks.Clears middle) (notDone : cursor.skipBlanks.rest ≠ [])
    (content : Goal.Kept around hidden setting cursor.skipBlanks middle (.conditional item))
    (comma : middle.isAt [','] = true) (reaches : (middle.skip 1).Reaches next)
    (others : Goal.Kept around hidden setting (middle.skip 1) next (.items close items)) :
    Goal.Kept around hidden setting cursor next (.items close (item :: items)) := by
  intro veiled _ notBar
  rcases isAt_passed comma with ⟨comma', skipComma⟩
  have notDone' := rest_ne_nil_of_isAt comma
  have veiledMiddle := veils.back
    (clears_of_isAt comma (by decide) ((reaches_skip _ 1).trans reaches)) veiled
  have veiledStart := veils.back clears veiledMiddle
  have blanks : (cursor.inside around).skipBlanks = cursor.skipBlanks.inside around :=
    skipBlanks_inside notDone
  have notYet' := isAt_missing notYet (veils.overlooks veiledStart notDone)
  have inner := content veiledMiddle fun atEnd => absurd atEnd notDone'
  have later := others veiled (fun _ => trivial) notBar
  rw [Goal.Carried, beyond_eq_inside notDone', ← blanks] at inner
  rw [← blanks] at notYet'
  rw [← skipComma] at later
  exact .itemsMore notYet' inner comma' later

variable {arguments : List Expr}

theorem kept_noArgument (standard : setting.tags = Delimiters.standard)
    (none : atArgument setting cursor.rest = false) :
    Goal.Kept around hidden setting cursor cursor (.arguments []) := by
  intro veiled ends
  exact .noArgument (look_beyond veils (atArgument setting) veiled
    (fun overlooks => overlooks.atArgument_eq standard)
    (fun atEnd => (ends atEnd).2.noArgument) none)

theorem kept_refused (standard : setting.tags = Delimiters.standard)
    (starts : atArgument setting cursor.rest = true) (refused : Refused setting cursor) :
    Goal.Kept around hidden setting cursor cursor (.arguments []) := by
  intro veiled _
  have notDone : cursor.rest ≠ [] := by
    intro atEnd
    simp [atEnd, atArgument] at starts
  have overlooks := veils.overlooks veiled notDone
  rw [Goal.Carried, beyond_eq_inside notDone]
  exact .refused ((overlooks.atArgument_eq standard).trans starts)
    (refused.inside standard starts overlooks)

theorem kept_argument {argument : Expr} (standard : setting.tags = Delimiters.standard)
    (starts : atArgument setting cursor.rest = true) (clears : cursor.Clears middle)
    (notDone : cursor.rest ≠ [])
    (operand : Goal.Kept around hidden setting cursor middle (.unary argument))
    (clears' : middle.Clears next)
    (others : Goal.Kept around hidden setting middle next (.arguments arguments)) :
    Goal.Kept around hidden setting cursor next (.arguments (argument :: arguments)) := by
  intro veiled ends
  have veiledMiddle := veils.back clears' veiled
  have overlooks := veils.overlooks (veils.back clears veiledMiddle) notDone
  have starts' := (overlooks.atArgument_eq standard).trans starts
  rw [Goal.Carried, beyond_eq_inside notDone]
  exact .argument starts' (operand veiledMiddle (ends_back clears'.1 ends And.left))
    (others veiled ends)

/-! ### Commands and pipes -/

include standard

theorem kept_noCommand (start : Goal.Kept around hidden setting cursor next (.conditional head))
    (none : (head.isCallable && atArgument setting next.rest) = false) :
    Goal.Kept around hidden setting cursor next (.command head) := by
  intro veiled ends
  have condition := start veiled fun atEnd => ⟨(ends atEnd).1, (ends atEnd).2.toEndsConditional⟩
  refine .noCommand condition ?_
  rw [Expr.isCallable_shift]
  exact look_beyond veils (fun text => head.isCallable && atArgument setting text) veiled
    (fun overlooks => congrArg _ (overlooks.atArgument_eq standard))
    (fun atEnd => by rw [(ends atEnd).2.noArgument, Bool.and_false]) none

theorem kept_command {extra : List Expr} (clears : middle.Clears next)
    (content : Goal.Kept around hidden setting cursor middle (.conditional head))
    (goesOn : (head.isCallable && atArgument setting middle.rest) = true)
    (arguments : Goal.Kept around hidden setting middle next (.arguments extra)) :
    Goal.Kept around hidden setting cursor next (.command (head.command extra)) := by
  intro veiled ends
  have veiledMiddle := veils.back clears veiled
  have notDone : middle.rest ≠ [] := by
    intro atEnd
    simp [atEnd, atArgument] at goesOn
  have condition := content veiledMiddle fun atEnd => absurd atEnd notDone
  have extra' := arguments veiled ends
  rw [Goal.Carried, Expr.shift_command]
  refine .command condition ?_ extra'
  rw [Expr.isCallable_shift, beyond_eq_inside notDone, rest_inside,
    (veils.overlooks veiledMiddle notDone).atArgument_eq standard]
  exact goesOn

theorem kept_noPipe {value : Expr} (none : atPipe setting cursor.rest = false) :
    Goal.Kept around hidden setting cursor cursor (.pipes value value) := by
  intro veiled ends
  exact .noPipe (look_beyond veils (atPipe setting) veiled
    (fun overlooks => overlooks.atPipe_eq standard) (fun atEnd => (ends atEnd).2.2) none)

theorem kept_pipe {value segment : Expr} {leading trailing : List Comment} {extra : List Expr}
    {afterSegment afterTrivia : Cursor} (follows : atPipe setting cursor.rest = true)
    (here : cursor.Clears next) (before : trivia (cursor.skip 1) = .ok (leading, start))
    (notDone : start.rest ≠ []) (clears : start.Clears afterSegment)
    (callee : Goal.Kept around hidden setting start afterSegment (.suffixed segment))
    (after : trivia afterSegment = .ok (trailing, afterTrivia))
    (clears' : afterTrivia.Clears middle)
    (arguments : Goal.Kept around hidden setting afterTrivia middle (.arguments extra))
    (clears'' : middle.Clears next)
    (others : Goal.Kept around hidden setting middle next
      (.pipes (value.pipeInto (segment.withNote ⟨segment.span, leading, trailing⟩) extra)
        expr)) :
    Goal.Kept around hidden setting cursor next (.pipes value expr) := by
  intro veiled ends
  have atBar := (passes_of_pipe follows).1
  have overlooks := veils.overlooks (veils.back here veiled) atBar
  have veiledMiddle := veils.back clears'' veiled
  have veiledArguments := veils.back clears' veiledMiddle
  have veiledSegment := veils.back (clears_of_trivia after) veiledArguments
  -- The text may end after the segment, after the blanks that follow it, or after arguments.
  have endsArguments : middle.rest = [] → Goal.Ends around setting middle (.arguments extra) :=
    ends_back clears''.1 ends fun ends => ⟨ends.1, ends.2.1⟩
  have endsTrivia : afterTrivia.rest = [] →
      Goal.Ends around setting afterTrivia (.suffixed segment) :=
    ends_back clears'.1 endsArguments And.left
  have endsSegment : afterSegment.rest = [] →
      Goal.Ends around setting afterSegment (.suffixed segment) :=
    ends_back (reaches_of_trivia after) endsTrivia id
  have before' := trivia_within veils before (veils.back clears veiledSegment) notDone
  have after' := trivia_after veils (.inl rfl) after veiledArguments
    fun atEnd => (endsTrivia atEnd).settled
  have callee' := callee veiledSegment endsSegment
  have later := others veiled ends
  rw [← skip_one_inside atBar] at before'
  rw [Goal.Carried, Expr.shift_pipeInto, Expr.shift_withNote] at later
  rw [Goal.Carried, beyond_eq_inside atBar]
  refine .pipe ((overlooks.atPipe_eq standard).trans follows) before' callee' after'
    (arguments veiledMiddle endsArguments) ?_
  rw [Expr.span_shift]
  exact later

omit standard

theorem kept_pipeline (start : Goal.Kept around hidden setting cursor middle (.command head))
    (clears : middle.Clears next)
    (others : Goal.Kept around hidden setting middle next (.pipes head expr)) :
    Goal.Kept around hidden setting cursor next (.pipeline expr) := by
  intro veiled ends
  exact .pipeline (start (veils.back clears veiled)
    (ends_back clears.1 ends fun ends => ⟨ends.1, ends.2.1⟩)) (others veiled ends)

end

/-! ## All rules -/

/-- Whatever is derived is carried over to the longer text. -/
theorem Derives.kept {goal : Goal} (derived : Derives setting goal cursor next)
    (veils : around.Veils hidden) (standard : setting.tags = Delimiters.standard) :
    goal.Kept around hidden setting cursor next := by
  induction derived with
  | paren opens _ closes content => exact kept_paren veils opens (content standard) closes
  | array opens _ content => exact kept_array opens (content standard)
  | word noParen noBracket starts read => exact kept_word veils noParen noBracket starts read
  | literal noParen noBracket noWord read =>
    exact kept_literal veils noParen noBracket noWord read
  | noSuffix => exact fun _ _ _ _ later => later
  | field dot read derived others =>
    exact kept_field veils dot read (derived.clears (by simp)) (others standard)
  | item opens _ closes derived content others =>
    exact kept_item veils opens (content standard) closes derived.reaches (others standard)
  | call opens _ derived content others =>
    exact kept_call veils opens (content standard) (derived.clears (by simp)) (others standard)
  | suffixed _ derived start others =>
    exact kept_suffixed veils (start standard) (derived.clears (by simp)) (others standard)
      derived.no_suffix
  | updateBefore starts derived assignable operand =>
    have here := (Derives.updateBefore starts derived assignable).clears (by simp)
    exact kept_updateBefore veils standard starts here (operand standard) assignable
  | updateAfter noneBefore derived follows assignable operand =>
    exact kept_updateAfter veils standard noneBefore (derived.clears (by simp))
      (derived.passes rfl).1 (operand standard) follows assignable
  | noUpdate noneBefore derived noneAfter operand =>
    exact kept_noUpdate veils standard noneBefore (derived.clears (by simp))
      (derived.passes rfl).1 (operand standard) noneAfter
  | operator someRoom before starts derived operand =>
    exact kept_operator veils standard someRoom before starts derived.reaches (operand standard)
  | operand someRoom before noOperator derived after operand =>
    exact kept_operand veils standard someRoom before noOperator (derived.clears (by simp))
      (derived.passes rfl).1 (operand standard) after
  | noInfix none => exact kept_noInfix veils standard none
  | infixMore follows derived derived' operand others =>
    have here := (Derives.infixMore follows derived derived').clears (by simp)
    exact kept_infixMore veils standard follows here (operand standard)
      (derived'.clears (by simp)) (others standard)
  | tightest _ operand =>
    exact fun veiled ends => .tightest (operand standard veiled fun atEnd => (ends atEnd).1)
  | tier _ derived start others =>
    exact kept_tier veils (start standard) (derived.clears (by simp)) (others standard)
  | test _ noQuestion start => exact kept_test veils (start standard) noQuestion
  | choice _ question derived colon derived' start first second =>
    exact kept_choice veils (start standard) question derived.reaches (first standard) colon
      derived'.reaches (second standard)
  | itemsEnd closes => exact kept_itemsEnd closes
  | itemsLast notYet derived noComma closes content =>
    exact kept_itemsLast veils notYet (derived.clears (by simp)) (derived.passes rfl).1
      (content standard) noComma closes
  | itemsMore notYet derived comma derived' content others =>
    exact kept_itemsMore veils notYet (derived.clears (by simp)) (derived.passes rfl).1
      (content standard) comma derived'.reaches (others standard)
  | noArgument none => exact kept_noArgument veils standard none
  | refused starts refused => exact kept_refused veils standard starts refused
  | argument starts derived derived' operand others =>
    exact kept_argument veils standard starts (derived.clears (by simp)) (derived.passes rfl).1
      (operand standard) (derived'.clears (by simp)) (others standard)
  | noCommand _ none start => exact kept_noCommand veils standard (start standard) none
  | command _ goesOn derived start arguments =>
    exact kept_command veils standard (derived.clears (by simp)) (start standard) goesOn
      (arguments standard)
  | noPipe none => exact kept_noPipe veils standard none
  | pipe follows before derived after derived' derived'' callee arguments others =>
    have here := (Derives.pipe follows before derived after derived' derived'').clears (by simp)
    exact kept_pipe veils standard follows here before (derived.passes rfl).1
      (derived.clears (by simp)) (callee standard) after (derived'.clears (by simp))
      (arguments standard) (derived''.clears (by simp)) (others standard)
  | pipeline _ derived start others =>
    exact kept_pipeline veils (start standard) (derived.clears (by simp)) (others standard)

/-! ## Ends of both texts -/

/-- Expressions are over at the end of a text. -/
theorem endsCommand_of_nil (atEnd : cursor.rest = []) : EndsCommand setting cursor := by
  refine ⟨⟨fun tier => ?_, ?_⟩, ?_⟩
  · cases found : infixOp? setting tier cursor.rest with
    | none => rfl
    | some op => exact absurd atEnd (passes_of_infixOp found).1
  · simp [isAt, atEnd]
  · simp [atEnd, atArgument]

theorem beyond_of_nothing (nothing : around.after = []) :
    cursor.beyond around = cursor.inside around := by
  by_cases atEnd : cursor.rest = []
  · rw [beyond, if_pos atEnd]
    apply Settled.skipBlanks
    simp [Settled, SettledText, atEnd, nothing, Literal.commentOpening]
  · exact beyond_eq_inside atEnd

/-- Where nothing comes after the text, every goal ends with it. -/
theorem ends_of_nothing {goal : Goal} (nothing : around.after = []) (atEnd : next.rest = []) :
    goal.Ends around setting next := by
  have insideEq : (next.inside around).rest = [] := by
    rw [rest_inside, atEnd, nothing, List.append_nil]
  have beyondEq : (next.beyond around).rest = [] := by
    rw [beyond_of_nothing nothing, insideEq]
  have notAt (c : Char) : (next.inside around).isAt [c] = false := by
    rw [isAt, insideEq]
    rfl
  have operand : EndsOperand around next := by
    refine ⟨fun c _ => notAt c, fun c _ => notAt c, ?_⟩
    simp [Settled, SettledText, beyondEq, Literal.commentOpening]
  have command : EndsCommand setting (next.beyond around) := endsCommand_of_nil beyondEq
  cases goal with
  | primary | suffixes | items => trivial
  | suffixed | update | unary => exact operand
  | infixes | joined | conditional => exact ⟨operand, command.toEndsConditional⟩
  | arguments | command => exact ⟨operand, command⟩
  | pipes | pipeline => exact ⟨operand, command, by simp [beyondEq, atPipe]⟩

/-- An expression is derived in the longer text if the rest of it is not seen from its end. -/
theorem Derives.inside {expr : Expr} (derived : Derives setting (.pipeline expr) cursor next)
    (standard : setting.tags = Delimiters.standard) (around : Around)
    (unseen : around.Unseen next.rest) :
    Derives setting (.pipeline (expr.shift around.distance)) (cursor.inside around)
      (next.inside around) := by
  have carried := derived.kept around.veils_unseen standard unseen fun atEnd =>
    ends_of_nothing (atEnd ▸ unseen).eq_nil atEnd
  by_cases atEnd : next.rest = []
  · rwa [Goal.Carried, beyond_of_nothing (atEnd ▸ unseen).eq_nil] at carried
  · rwa [Goal.Carried, beyond_eq_inside atEnd] at carried

end Grammar

end TemplateLang
