import TemplateLang.Proofs.Grammar.BlockCompleteness
import TemplateLang.Proofs.Termination.Expression

/-!
# Reading ends

The readers of templates take 64 calls for a byte as well.  Before each element of a body
the reader looks whether a tag stands there that ends the body, and then reads the opening
end of the tag again.  That look is paid for by the tag: an element and the word that ends a
block cost that much less, so whoever looks ahead of them has the credit for it.
-/

namespace TemplateLang

/-- A place further on with less room has fewer characters before it. -/
theorem Cursor.Reaches.length_rest_lt {start stop : Cursor} (reaches : start.Reaches stop)
    (less : stop.room < start.room) : stop.rest.length < start.rest.length := by
  obtain ⟨passed, restEq, -⟩ := reaches.exists_passed
  have some : passed ≠ [] := by
    rintro rfl
    rw [Cursor.room_eq, Cursor.room_eq, restEq] at less
    exact Nat.lt_irrefl _ less
  have positive := List.length_pos_iff.mpr some
  rw [restEq, List.length_append]
  omega

namespace Traced

open Cursor Grammar

variable {setting : Setting}

/-! ## The ends of tags -/

theorem costs_openingTag (setting : Setting) (cursor : Cursor) :
    (openingTag setting cursor).Costs .openingTag cursor (cursor.room + 2)
      fun next => next.room + 1 := by
  refine .called ?_
  dsimp only
  split
  · rename_i starts
    have pastMark := passes_afterOpening starts
    have shorter := pastMark.room_lt
    refine (costs_trivia (afterOpening setting.tags cursor)).andThen
      (Place.below_of_lt shorter) (by omega) ?_
    intro comments next left _ onward paid
    dsimp only
    exact .pure (leaves (pastMark.reaches.trans onward) (by omega))
  · exact .fail (by simp)

/-- A closing mark is not empty. -/
theorem passes_of_atClosing {cursor : Cursor} {count : Nat}
    (atMark : setting.atClosing cursor.rest = true)
    (enough : setting.tags.closing.length ≤ count) : cursor.Passes (cursor.skip count) := by
  have some : setting.tags.closing.toList ≠ [] ∧ cursor.rest ≠ [] := by
    rcases Bool.or_eq_true_iff.mp atMark with starts | starts
    · obtain ⟨someMark, after, restEq⟩ := startsWithMark_iff.mp starts
      exact ⟨someMark, by simp [← restEq, someMark]⟩
    · obtain ⟨rest, restEq, someMark, -⟩ := startsWithTrimmed_iff.mp starts
      exact ⟨someMark, by simp [restEq]⟩
  have positive := List.length_pos_iff.mpr some.1
  rw [String.length_toList] at positive
  exact passes_skip some.2 (by omega)

theorem costs_requireClosing (setting : Setting) (cursor : Cursor) :
    (requireClosing setting cursor).Costs .closingTag cursor (cursor.room + 2)
      fun next => next.room + 1 := by
  refine Costs.commit (.called ((costs_trivia cursor).andThen
    (Place.below_of_level (by decide)) (Nat.le_refl _) ?_)) _
  intro comments start left _ reaches paid
  dsimp only
  split
  · rename_i atMark
    rw [Bool.or_comm] at atMark
    have passes := passes_of_atClosing atMark (Nat.le_add_right setting.tags.closing.length
      (if startsWithTrimmed start.rest setting.tags.closing.toList then 1 else 0))
    have shorter := passes.room_lt
    exact .pure (leaves (reaches.trans passes.reaches) (by omega))
  · exact .fail (by simp)

theorem passes_of_requireClosing {cursor next : Cursor} {tag : Tag}
    (closes : (requireClosing setting cursor).result = .ok (tag, next)) :
    cursor.Passes next := by
  rw [result_requireClosing, requireClosing_eq_ok, closingTag_eq_ok] at closes
  obtain ⟨comments, start, before, atMark, rfl, -⟩ := closes
  exact (reaches_of_trivia before).trans_passes
    (passes_of_atClosing atMark (Nat.le_add_right _ _))

/-! ## Looking ahead -/

/-- What it costs to look at the opening end of a tag. -/
def look (tags : Delimiters) (cursor : Cursor) : Nat :=
  (openingTag (.initial tags) cursor).size

theorem size_openingTag (setting : Setting) (cursor : Cursor) :
    (openingTag setting cursor).size = look setting.tags cursor :=
  rfl

/-- Any place above the one where an opening end is read. -/
theorem openingTag_within (setting : Setting) (cursor : Cursor) {layer : Layer}
    (above : 1 < layer.level) : (openingTag setting cursor).Within ⟨layer, cursor.room⟩
      (cursor.room + 2) (Leaves cursor fun next => next.room + 1) :=
  costs_openingTag setting cursor _ (Place.below_of_level above)

theorem look_le (tags : Delimiters) (cursor : Cursor) : look tags cursor ≤ cursor.room + 2 :=
  (openingTag_within (.initial tags) cursor (by decide : 1 < Layer.body.level)).size_le

/-- What a look at an opening end costs lies between the ends of it. -/
theorem look_of_openingTag {cursor next : Cursor} {tag : Tag}
    (opens : (openingTag setting cursor).result = .ok (tag, next)) :
    look setting.tags cursor + next.room ≤ cursor.room + 1 := by
  have within := openingTag_within setting cursor (by decide : 1 < Layer.body.level)
  have spent := within.size_le
  have returned := (within.given _ opens).2
  rw [size_openingTag] at spent returned
  dsimp only at returned
  omega

theorem look_of_noMark {cursor : Cursor}
    (noMark : startsWithMark cursor.rest setting.tags.opening.toList = false) :
    look setting.tags cursor = 1 := by
  rw [← size_openingTag, openingTag, size_called]
  dsimp only
  rw [noMark]
  rfl

theorem costs_atBlockWord (setting : Setting) (stops : List String) (cursor : Cursor) :
    (atBlockWord setting stops cursor).Costs .lookahead cursor
      (look setting.tags cursor + 1) fun _ => 0 := by
  have within := (openingTag_within setting cursor
    (by decide : 1 < Layer.lookahead.level)).exact
  rw [size_openingTag] at within
  refine .called (Within.attempt_bind within ?_ ?_)
  · rintro ⟨opening, next⟩ left - -
    dsimp only
    split
    · exact .pure (leaves (.refl _) (Nat.zero_le _))
    · exact .pure (leaves (.refl _) (Nat.zero_le _))
  · intro failure _ _
    exact .pure (leaves (.refl _) (Nat.zero_le _))

/-- The word that ends a block pays for having been looked at. -/
theorem costs_blockWord (setting : Setting) (keyword : Span) (cursor : Cursor) :
    (blockWord setting keyword cursor).Costs .blockWord cursor
      (64 * cursor.room + 5 - look setting.tags cursor) fun next => 64 * (next.room + 1) := by
  have looked := look_le setting.tags cursor
  refine .called_of_pos (by omega) ?_
  split
  · exact .fail (by simp)
  · refine (costs_openingTag setting cursor).andThen (Place.below_of_level (by decide))
      (by omega) ?_
    intro opening next left opens reaches paid
    have looked' := look_of_openingTag opens
    rw [result_openingTag] at opens
    have shorter := (passes_of_openingTag opens).room_lt
    have atEnd := next.reaches_skipWord.room_le
    dsimp only
    exact .pure (leaves (reaches.trans next.reaches_skipWord) (by omega))

/-! ## Scans are answered -/

theorem binding_answered {missing : Fault} {cursor : Cursor} :
    binding missing cursor ≠ .error .exhausted := by
  unfold binding
  split
  · dsimp only
    split <;> simp
  · simp

theorem indexBinding_answered {cursor : Cursor} :
    indexBinding cursor ≠ .error .exhausted := by
  unfold indexBinding
  split
  · intro same
    rcases bind_eq_error same with failed | ⟨_, -, failed⟩
    · exact binding_answered failed
    · simp at failed
  · simp

theorem requireIn_answered {cursor : Cursor} : requireIn cursor ≠ .error .exhausted := by
  unfold requireIn
  split <;> simp

theorem loopControl_within {cursor : Cursor} {word : String} {statement : Span → Statement}
    {top : Place} {credit : Nat} {back : Cursor → Nat} (enough : back cursor.skipWord ≤ credit) :
    (scan (loopControl setting cursor word statement)).Within top credit
      (Leaves cursor back) := by
  unfold loopControl
  dsimp only
  split
  · exact .pure (leaves cursor.reaches_skipWord enough)
  · exact .fail (by simp)

/-! ## Blocks -/

/-- The readers of what is inside a block do what they promise where fewer characters are
left than a bound. -/
structure Blocks.Ready (blocks : Blocks) (bound : Nat) : Prop where
  body : ∀ setting stops cursor, cursor.rest.length < bound →
    (blocks.body setting stops cursor).Costs .body cursor (64 * cursor.room + 9)
      fun next => 64 * next.room - look setting.tags next
  branch : ∀ setting cursor, cursor.rest.length < bound →
    (blocks.branch setting cursor).Costs .branch cursor (64 * cursor.room + 37)
      fun next => 64 * next.room

variable {blocks : Blocks} {bound : Nat} (ready : blocks.Ready bound)

include ready

/-- A closing end and the body after it.  The look that has ended the body is still owed. -/
theorem closedBody_andThen {β : Type} {inside : Setting} (sameTags : inside.tags = setting.tags)
    {stops : List String} {cursor next : Cursor} {layer : Layer} {credit : Nat}
    {post : β → Nat → Prop} {continue' : Tag × Cursor → List Element × Cursor → Traced β}
    (few : next.rest.length ≤ bound) (ahead : next.room ≤ cursor.room)
    (loose : 1 < layer.level) (paid : 64 * (next.room + 1) ≤ credit)
    (goesOn : ∀ closed body stop left, next.Reaches stop → stop.room < next.room →
      64 * stop.room + 6 ≤ left + look setting.tags stop →
        (continue' closed (body, stop)).Within ⟨layer, cursor.room⟩ left post) :
    (requireClosing setting next >>= fun closed =>
      blocks.body inside stops closed.2 >>= continue' closed).Within
        ⟨layer, cursor.room⟩ credit post := by
  refine (costs_requireClosing setting next).andThen (Place.below_of_le ahead loose)
    (by omega) ?_
  intro closing start left closes toBody paid'
  have pastClosing := passes_of_requireClosing closes
  have shorter := pastClosing.room_lt
  have fewer := pastClosing.length_rest_lt
  refine (ready.body inside stops start (by omega)).andThen (Place.below_of_lt (by omega))
    (by omega) ?_
  intro body stop left' _ toStop paid''
  have atStop := toStop.room_le
  rw [sameTags] at paid''
  exact goesOn _ body stop left' (toBody.trans toStop) (by omega) (by omega)

theorem costs_alternate {cursor : Cursor} (inside : cursor.rest.length ≤ bound)
    (keyword : Span) : (alternate blocks setting keyword cursor).Costs .alternate cursor
      (64 * cursor.room + 6 - look setting.tags cursor) fun next => 64 * next.room := by
  have looked := look_le setting.tags cursor
  have wordCosts := costs_blockWord setting keyword cursor
  refine .called_of_pos (by omega) (wordCosts.andThen (Place.below_of_level (by decide))
    (by omega) ?_)
  rintro ⟨opening, word⟩ next left given reaches paid
  have returned := wordCosts.back_le given
  dsimp only
  split
  · exact .pure (leaves reaches (by omega))
  have further := reaches.trans next.reaches_skipBlanks
  have blanks := next.reaches_skipBlanks.room_le
  have shorter := further.length_rest_lt (by omega)
  split
  · refine (ready.branch setting next.skipBlanks (by omega)).andThen
      (Place.below_of_lt (by omega)) (by omega) ?_
    intro branch stop left' _ onward paid'
    dsimp only
    exact .pure (leaves (further.trans onward) (by omega))
  · refine closedBody_andThen ready rfl (by omega) (by omega) (by decide) (by omega) ?_
    intro closed body atEnd left' toEnd less paid'
    have looked' := look_le setting.tags atEnd
    refine (costs_blockWord setting keyword atEnd).andThen (Place.below_of_lt (by omega))
      (by omega) ?_
    rintro ⟨endOpening, endWord⟩ stop left'' _ toStop paid''
    dsimp only
    exact .pure (leaves ((further.trans toEnd).trans toStop) (by omega))

theorem costs_branch {cursor : Cursor} (inside : cursor.rest.length ≤ bound) :
    (branch blocks setting cursor).Costs .branch cursor (64 * cursor.room + 37)
      fun next => 64 * next.room := by
  have afterWord := cursor.reaches_skipWord
  have room := afterWord.room_le
  refine .called (((takes_expression _).commit _).andThen
    (Place.below_of_le room (by decide)) (by omega) ?_)
  intro test next left _ onward paid
  have toClosing := afterWord.trans onward
  have length := toClosing.length_rest_le
  refine closedBody_andThen ready rfl (by omega) toClosing.room_le (by decide) (by omega) ?_
  intro closed body atEnd left' toEnd less paid'
  have length' := toEnd.length_rest_le
  have looked := look_le setting.tags atEnd
  have ahead := toClosing.room_le
  refine (costs_alternate ready (by omega) _).andThen (Place.below_of_lt (by omega))
    (by omega) ?_
  intro alternate stop left'' _ toStop paid''
  dsimp only
  exact .pure (leaves ((toClosing.trans toEnd).trans toStop) (by omega))

theorem costs_loop {cursor : Cursor} (inside : cursor.rest.length ≤ bound) :
    (loop blocks setting cursor).Costs .loop cursor (64 * cursor.room + 37)
      fun next => 64 * next.room := by
  refine .called (.scan_bind binding_answered ?_)
  rintro ⟨value, afterValue⟩ valueRead
  refine .scan_bind indexBinding_answered ?_
  rintro ⟨index, afterIndex⟩ indexRead
  refine .scan_bind requireIn_answered ?_
  intro start inRead
  obtain ⟨-, rfl, -⟩ := requireIn_eq_ok.mp inRead
  have toStart : cursor.Reaches (afterIndex.skip 2) :=
    ((((cursor.reaches_skipWord.trans (reaches_skipBlanks _)).trans
      (reaches_of_binding valueRead)).trans (reaches_skipBlanks _)).trans
        (reaches_of_indexBinding indexRead)).trans (reaches_skip _ 2)
  have room := toStart.room_le
  refine ((takes_expression _).commit _).andThen
    (Place.below_of_le room (by decide)) (by omega) ?_
  intro iterable next left _ onward paid
  have toClosing := toStart.trans onward
  have length := toClosing.length_rest_le
  have ahead := toClosing.room_le
  refine closedBody_andThen ready (by rfl) (by omega) ahead (by decide) (by omega) ?_
  intro closed body atEnd left' toEnd less paid'
  have looked := look_le setting.tags atEnd
  refine (costs_blockWord setting _ atEnd).andThen (Place.below_of_lt (by omega))
    (by omega) ?_
  rintro ⟨endOpening, endWord⟩ stop left'' _ toStop paid''
  dsimp only
  exact .pure (leaves ((toClosing.trans toEnd).trans toStop) (by omega))

omit ready in
theorem costs_assignment (target : Identifier) (cursor : Cursor) :
    (assignment setting target cursor).Costs .assignment cursor (64 * cursor.room + 37)
      fun next => 64 * next.room := by
  refine .called ?_
  split
  · exact .fail (by simp)
  · refine ((takes_expression _).commit _).andThen (Place.below_of_level (by decide))
      (Nat.le_refl _) ?_
    intro value next left _ reaches paid
    exact .pure (leaves reaches (by omega))

theorem costs_statement {cursor : Cursor} (inside : cursor.rest.length ≤ bound) :
    (statement blocks setting cursor).Costs .statement cursor (64 * cursor.room + 38)
      fun next => 64 * next.room := by
  have afterWord := cursor.reaches_skipWord.room_le
  refine .called ?_
  split
  · exact .pure (leaves (.refl _) (by omega))
  split
  · rename_i target start declares
    have toValue := reaches_of_declaration? declares
    have room := toValue.room_le
    refine (costs_assignment target start).last (Place.below_of_le room (by decide))
      (by omega) ?_
    intro statement next left _ onward paid
    exact leaves (toValue.trans onward) (by omega)
  split
  · refine (costs_branch ready inside).andThen (Place.below_of_level (by decide))
      (Nat.le_refl _) ?_
    intro branch next left _ reaches paid
    exact .pure (leaves reaches (by omega))
  · refine (costs_loop ready inside).last (Place.below_of_level (by decide))
      (Nat.le_refl _) ?_
    intro statement next left _ reaches paid
    exact leaves reaches (by omega)
  · exact loopControl_within (by omega)
  · exact loopControl_within (by omega)
  · exact .fail (by simp)
  · exact .fail (by simp)
  · refine (takes_expression cursor).andThen (Place.below_of_level (by decide)) (by omega) ?_
    intro expr next left _ reaches paid
    exact .pure (leaves reaches (by omega))

/-- An element pays for having been looked at. -/
theorem costs_tag {cursor : Cursor} (inside : cursor.rest.length ≤ bound) :
    (tag blocks setting cursor).Costs .tag cursor
      (64 * cursor.room + 5 - look setting.tags cursor) fun next => 64 * (next.room + 1) := by
  have looked := look_le setting.tags cursor
  refine .called_of_pos (by omega) ((costs_openingTag setting cursor).andThen
    (Place.below_of_level (by decide)) (by omega) ?_)
  intro opening start left opens toStatement paid
  have looked' := look_of_openingTag opens
  rw [result_openingTag] at opens
  have shorter := (passes_of_openingTag opens).room_lt
  have length := toStatement.length_rest_le
  refine (costs_statement ready (by omega)).andThen (Place.below_of_lt shorter) (by omega) ?_
  intro statement next left' _ toClosing paid'
  have atClosing := toClosing.room_le
  refine (costs_requireClosing setting next).andThen (Place.below_of_lt (by omega))
    (by omega) ?_
  intro closing stop left'' closes toStop paid''
  have shorter' := (passes_of_requireClosing closes).room_lt
  dsimp only
  exact .pure (leaves ((toStatement.trans toClosing).trans toStop) (by omega))

theorem costs_element (setting : Setting) {cursor : Cursor} (inside : cursor.rest.length ≤ bound)
    (notDone : cursor.rest ≠ []) : (element blocks setting cursor).Costs .element cursor
      (64 * cursor.room + 6 - look setting.tags cursor) fun next => 64 * (next.room + 1) := by
  have looked := look_le setting.tags cursor
  refine .called_of_pos (by omega) ?_
  split
  · refine (costs_tag ready inside).last (Place.below_of_level (by decide)) (by omega) ?_
    intro element next left _ reaches paid
    exact leaves reaches (by omega)
  · rename_i noMark
    rw [Bool.not_eq_true] at noMark
    have looked' := look_of_noMark noMark
    have passes := passes_raw notDone noMark
    have shorter := passes.room_lt
    refine .pure ⟨passes.reaches, ?_⟩
    dsimp only
    omega

theorem costs_elements (setting : Setting) {start : Cursor} (inside : start.rest.length ≤ bound)
    (stops : List String) :
    (elements blocks setting stops start).Costs .elements start (64 * start.room + 8)
      fun next => 64 * next.room - look setting.tags next := by
  apply costs_repeated fun cursor => 64 * cursor.room + 7
  intro elements cursor reaches
  have length := reaches.length_rest_le
  have looked := look_le setting.tags cursor
  unfold elementRound
  split
  · exact .pure (goes_done (.refl _) (by omega))
  · rename_i notEmpty
    have notDone : cursor.rest ≠ [] := by simpa using notEmpty
    have costs := costs_element ready setting (by omega) notDone
    refine (costs_atBlockWord setting stops cursor).andThen
      (Place.below_of_level (by decide)) (by omega) ?_
    intro stopped _ left _ _ paid
    dsimp only
    split
    · exact .pure (goes_done (.refl _) (by omega))
    · refine costs.andThen (Place.below_of_level (by decide)) (by omega) ?_
      intro element next left' given onward paid'
      have returned := costs.back_le given
      dsimp only
      exact .pure (goes_again onward (by omega) (by omega))

theorem costs_body {cursor : Cursor} (inside : cursor.rest.length ≤ bound)
    (stops : List String) :
    (body blocks setting stops cursor).Costs .body cursor (64 * cursor.room + 9)
      fun next => 64 * next.room - look setting.tags next := by
  refine .called ?_
  unfold nested
  split
  · exact .fail (by simp)
  · refine (costs_elements ready _ inside stops).last (Place.below_of_level (by decide))
      (Nat.le_refl _) ?_
    intro elements next left _ reaches paid
    dsimp only at paid
    exact leaves reaches (by omega)

omit ready

/-- Blocks are entered only past the opening end of a tag, so there are never more of them
inside each other than there are characters. -/
theorem ready_blocksOf (fuel : Nat) : (blocksOf fuel).Ready fuel := by
  induction fuel with
  | zero => exact ⟨by simp, by simp⟩
  | succ fuel ih =>
    constructor
    · exact fun setting stops cursor inside => costs_body ih (Nat.le_of_lt_succ inside) stops
    · exact fun setting cursor inside => costs_branch ih (Nat.le_of_lt_succ inside)

/-! ## Whole texts -/

/-- A reading ends with a value or a fault after at most so many calls.  None of its calls
goes without an answer, and each is made where less of the text is left than where it is made
from, or as much for a tighter reader. -/
structure Ends {α : Type} (reading : Traced α) (steps : Nat) : Prop where
  answered : reading.result ≠ .error .exhausted
  settles : ∀ call ∈ reading.calls, call.Settles
  size_le : reading.size ≤ steps

theorem Within.ends {α : Type} {top : Place} {credit steps : Nat} {post : α → Nat → Prop}
    {reading : Traced α} (within : reading.Within top credit post) (enough : credit ≤ steps) :
    reading.Ends steps :=
  ⟨within.answered, within.settles, Nat.le_trans within.size_le enough⟩

theorem source_ends (setting : Setting) (text : List Char) :
    (source setting text).Ends (64 * (byteLength text + 1)) := by
  have inside : (Cursor.ofSource text).rest.length ≤ text.length + 1 := Nat.le_succ _
  have costs := costs_elements (ready_blocksOf _) setting inside []
  have below : Place.Below ⟨.elements, (Cursor.ofSource text).room⟩
      ⟨.body, (Cursor.ofSource text).room⟩ := Place.below_of_level (by decide)
  have roomEq : (Cursor.ofSource text).room = byteLength text := room_eq _
  exact (costs _ below).ends (by omega)

theorem wholeExpression_ends (setting : Setting) (text : List Char) :
    (wholeExpression setting text).Ends (64 * (byteLength text + 1)) := by
  have below : Place.Below ⟨.pipeline, (Cursor.ofSource text).room⟩
      ⟨.statement, (Cursor.ofSource text).room⟩ := Place.below_of_level (by decide)
  have within : (wholeExpression setting text).Within
      ⟨.statement, (Cursor.ofSource text).room⟩ (64 * (Cursor.ofSource text).room + 36)
      fun _ _ => True := by
    refine (takes_expression _).andThen below (Nat.le_refl _) ?_
    intro expr next left _ _ _
    dsimp only
    split
    · exact .pure trivial
    · exact .fail (by simp)
  have roomEq : (Cursor.ofSource text).room = byteLength text := room_eq _
  exact within.ends (by omega)

end Traced

/-- Reading ends, whatever the text, the delimiters and the limit of nesting are.  The calls of
a reading settle: each round of a loop passes a character, and each reader is called with less
of the text left or for a tighter layer.  There are at most 64 of them for each byte and 64
more.  The readings that are counted are those of the grammar, and `parse` and
`parseExpression` give what they give. -/
theorem parse_terminates (text : List Char) :
    (∀ setting : Setting,
      (Traced.source setting text).Ends (64 * (byteLength text + 1)) ∧
        (Traced.wholeExpression setting text).Ends (64 * (byteLength text + 1)) ∧
        (Traced.source setting text).result =
          Grammar.elements (Grammar.blocksOf (text.length + 1)) setting []
            (Cursor.ofSource text)) ∧
      (∀ tags : Delimiters, parse tags text =
        match (Traced.source (.initial tags) text).result with
        | .ok (elements, _) => .ok ⟨elements⟩
        | .error failure => .error failure.diagnostic) ∧
      parseExpression text =
        match (Traced.wholeExpression (.initial .standard) text).result with
        | .ok (expr, _) => .ok expr
        | .error failure => .error failure.diagnostic := by
  refine ⟨fun setting => ⟨?_, ?_, ?_⟩, fun tags => ?_, ?_⟩
  · exact Traced.source_ends setting text
  · exact Traced.wholeExpression_ends setting text
  · rw [Traced.source, Traced.result_elements, Traced.plain_blocksOf]
  · rw [Traced.result_source]
    unfold parse
    rcases Grammar.source tags text with _ | ⟨_, _⟩ <;> rfl
  · rw [Traced.result_wholeExpression]
    unfold parseExpression
    rcases Grammar.wholeExpression text with _ | ⟨_, _⟩ <;> rfl

/-- Even a tag with a lone variable takes a call for each layer of the grammar. -/
example : (Traced.source (.initial .standard) "\x7b\x7b a \x7d\x7d".toList).size = 38 := by
  decide +kernel

end TemplateLang
