import TemplateLang.Proofs.Grammar.Forward
import TemplateLang.Proofs.Outline.Listing

/-!
# Skimming a source

The outline of a source needs little of what stands inside tags: where a tag ends, where
a comment stands, and where a string, since marks in it do not count.  `skimStep` looks
for just these, character by character, and knows only whether it is inside of a tag.
A skim over the whole source is unique, so that two readings of a source which both
follow a skim see the same outline.

Characters that begin neither a closing mark, a comment nor a string are calm.  Blanks,
words, numbers and operators are skimmed over without a token.
-/

namespace TemplateLang

/-! ## Steps -/

/-- Whether a closing mark, trimmed or not, begins a text. -/
def closes (text : List Char) : Bool :=
  (Setting.initial Delimiters.standard).atClosing text

/-- The token of the closing mark at a cursor, and the place after it. -/
def closingAt (cursor : Cursor) : Token × Cursor :=
  let closing := Delimiters.standard.closing
  let trims := Cursor.startsWithTrimmed cursor.rest closing.toList
  let next := cursor.skip (closing.length + if trims then 1 else 0)
  (⟨.closing trims, cursor.spanTo next⟩, next)

/-- The token of the opening mark at a cursor, and the place after it. -/
def openingAt (cursor : Cursor) : Token × Cursor :=
  let trims := (cursor.skip Delimiters.standard.opening.length).isAt ['-']
  let next := afterOpening Delimiters.standard cursor
  (⟨.opening trims, cursor.spanTo next⟩, next)

/-- The token of the raw text at a cursor, and the place after it. -/
def textAt (cursor : Cursor) : Token × Cursor :=
  let text := Grammar.rawText (Setting.initial Delimiters.standard) cursor.rest
  let next := cursor.skip text.length
  (⟨.text (String.ofList text), cursor.spanTo next⟩, next)

/-- A step inside of a tag: its end, a comment, a whole string, or one character. -/
def skimInside (cursor : Cursor) : Option (List Token × Bool × Cursor) :=
  if closes cursor.rest then some ([(closingAt cursor).1], false, (closingAt cursor).2)
  else match Literal.comment cursor with
    | .found comment next => some ([comment.token], true, next)
    | .broken _ _ _ => none
    | .absent =>
      match Literal.string cursor with
      | .found _ next => some ([], true, next)
      | .broken _ _ _ => none
      | .absent => if cursor.rest.isEmpty then none else some ([], true, cursor.skip 1)

/-- A step outside of tags: an opening mark, or text up to the next. -/
def skimOutside (cursor : Cursor) : Option (List Token × Bool × Cursor) :=
  if cursor.rest.isEmpty then none
  else if Cursor.startsWithMark cursor.rest Delimiters.standard.opening.toList then
    some ([(openingAt cursor).1], true, (openingAt cursor).2)
  else some ([(textAt cursor).1], false, (textAt cursor).2)

/-- One step of a skim. -/
def skimStep (inside : Bool) (cursor : Cursor) : Option (List Token × Bool × Cursor) :=
  if inside then skimInside cursor else skimOutside cursor

/-- Some tokens are found by steps from one place to another. -/
inductive Skims : Bool → Cursor → List Token → Bool → Cursor → Prop where
  | done {inside : Bool} {cursor : Cursor} : Skims inside cursor [] inside cursor
  | step {inside inside' inside'' : Bool} {cursor middle next : Cursor}
      {found tokens : List Token}
      (taken : skimStep inside cursor = some (found, inside', middle))
      (others : Skims inside' middle tokens inside'' next) :
      Skims inside cursor (found ++ tokens) inside'' next

namespace Skims

theorem single {inside inside' : Bool} {cursor next : Cursor} {found : List Token}
    (taken : skimStep inside cursor = some (found, inside', next)) :
    Skims inside cursor found inside' next := by
  simpa using step taken done

theorem trans {inside inside' inside'' : Bool} {cursor middle next : Cursor}
    {first second : List Token} (one : Skims inside cursor first inside' middle)
    (other : Skims inside' middle second inside'' next) :
    Skims inside cursor (first ++ second) inside'' next := by
  induction one with
  | done => exact other
  | step taken _ ih =>
    rw [List.append_assoc]
    exact .step taken (ih other)

/-- Skims from one place up to where no step is left find the same. -/
theorem unique {inside inside' inside'' : Bool} {cursor next next' : Cursor}
    {first second : List Token} (one : Skims inside cursor first inside' next)
    (other : Skims inside cursor second inside'' next') (stuck : skimStep inside' next = none)
    (stuck' : skimStep inside'' next' = none) : first = second := by
  induction one generalizing second with
  | done =>
    cases other with
    | done => rfl
    | step taken => simp [stuck] at taken
  | step taken _ ih =>
    cases other with
    | done => simp [stuck'] at taken
    | step taken' others' =>
      rw [taken] at taken'
      simp only [Option.some.injEq, Prod.mk.injEq] at taken'
      obtain ⟨rfl, rfl, rfl⟩ := taken'
      rw [ih others' stuck]

end Skims

/-- No step is left at the end of a source. -/
theorem skimStep_at_end {inside : Bool} {cursor : Cursor} (atEnd : cursor.rest = []) :
    skimStep inside cursor = none := by
  cases inside with
  | false => simp [skimStep, skimOutside, atEnd]
  | true =>
    have noClosing : closes [] = false := by decide
    have noComment : Literal.comment cursor = .absent := by
      simp [Literal.comment, Cursor.isAt, Literal.commentOpening, atEnd]
    have noString : Literal.string cursor = .absent := by
      simp [Literal.string, Literal.quote?, atEnd]
    simp [skimStep, skimInside, atEnd, noClosing, noComment, noString]

/-! ## The order of tokens -/

/-- A step goes forward, and a token that it finds lasts from its start to its end. -/
theorem skimStep_forward {inside inside' : Bool} {cursor next : Cursor} {found : List Token}
    (taken : skimStep inside cursor = some (found, inside', next)) :
    cursor.Reaches next ∧ ∀ token ∈ found, token.span = cursor.spanTo next := by
  unfold skimStep skimInside skimOutside at taken
  split at taken
  · split at taken
    · simp only [Option.some.injEq, Prod.mk.injEq] at taken
      obtain ⟨rfl, -, rfl⟩ := taken
      exact ⟨cursor.reaches_skip _, by simp [closingAt]⟩
    · split at taken
      · rename_i comment middle read
        simp only [Option.some.injEq, Prod.mk.injEq] at taken
        obtain ⟨rfl, -, rfl⟩ := taken
        refine ⟨(Literal.passes_of_comment read).reaches, ?_⟩
        obtain ⟨body, after, -, -, -, rfl⟩ := Literal.comment_eq_found.mp read
        simp [Comment.token]
      · simp at taken
      · split at taken
        · rename_i value middle read
          simp only [Option.some.injEq, Prod.mk.injEq] at taken
          obtain ⟨rfl, -, rfl⟩ := taken
          exact ⟨(Literal.passes_of_string read).reaches, by simp⟩
        · simp at taken
        · split at taken
          · simp at taken
          · simp only [Option.some.injEq, Prod.mk.injEq] at taken
            obtain ⟨rfl, -, rfl⟩ := taken
            exact ⟨cursor.reaches_skip 1, by simp⟩
  · split at taken
    · simp at taken
    · split at taken
      · simp only [Option.some.injEq, Prod.mk.injEq] at taken
        obtain ⟨rfl, -, rfl⟩ := taken
        exact ⟨reaches_afterOpening _ cursor, by simp [openingAt]⟩
      · simp only [Option.some.injEq, Prod.mk.injEq] at taken
        obtain ⟨rfl, -, rfl⟩ := taken
        exact ⟨cursor.reaches_skip _, by simp [textAt]⟩

/-- A step finds at most one token. -/
theorem length_found_le {inside inside' : Bool} {cursor next : Cursor} {found : List Token}
    (taken : skimStep inside cursor = some (found, inside', next)) : found.length ≤ 1 := by
  unfold skimStep skimInside skimOutside at taken
  repeat' split at taken
  all_goals
    simp only [Option.some.injEq, Prod.mk.injEq, reduceCtorEq] at taken
  all_goals
    obtain ⟨rfl, -⟩ := taken
    simp

/-- Tokens that a skim finds follow one another between its start and its end. -/
theorem Skims.ordered {inside inside' : Bool} {cursor next : Cursor} {tokens : List Token}
    (skimmed : Skims inside cursor tokens inside' next) :
    cursor.Reaches next ∧ (∀ token ∈ tokens, cursor.offset ≤ token.span.start) ∧
      tokens.Pairwise fun first second => first.span.stop ≤ second.span.start := by
  induction skimmed with
  | done => exact ⟨.refl _, by simp, .nil⟩
  | @step inside inside' inside'' cursor middle next found tokens taken _ ih =>
    obtain ⟨reaches, foundSpans⟩ := skimStep_forward taken
    obtain ⟨reachesEnd, after, sorted⟩ := ih
    refine ⟨reaches.trans reachesEnd, ?_, ?_⟩
    · intro token isToken
      rcases List.mem_append.mp isToken with isFound | isLater
      · simp [foundSpans token isFound]
      · exact Nat.le_trans reaches.offset_le (after token isLater)
    · rw [List.pairwise_append]
      refine ⟨?_, sorted, ?_⟩
      · have short := length_found_le taken
        cases found with
        | nil => exact .nil
        | cons token others =>
          obtain rfl : others = [] := by
            simp only [List.length_cons] at short
            exact List.length_eq_zero_iff.mp (by omega)
          exact List.pairwise_singleton _ token
      · intro token isFound other isLater
        rw [foundSpans token isFound, Cursor.stop_spanTo reaches]
        exact after other isLater

end TemplateLang
