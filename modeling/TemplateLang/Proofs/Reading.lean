import TemplateLang.Grammar.Basic
import TemplateLang.Proofs.Cursor

/-!
# What readers give

A reader that gives a value has gone through all its parts: a sequence of readers
gives what the last one gives after the others, a commitment gives what its reader
gives, and a loop gives the result of its last round.  The readers of blanks,
comments and the ends of tags go forward in their text.
-/

namespace TemplateLang

namespace Reading

variable {ε α β : Type}

/-- A sequence gives what its second part gives after the first. -/
theorem bind_eq_ok {first : Except ε α} {next : α → Except ε β} {result : β} :
    (first >>= next) = .ok result ↔ ∃ value, first = .ok value ∧ next value = .ok result := by
  cases first with
  | error failure => simp [Bind.bind, Except.bind]
  | ok value => simp [Bind.bind, Except.bind]

/-- Commitment changes failures alone. -/
@[simp]
theorem commit_eq_ok {fault : Fault} {result : Reading (α × Cursor)} {given : α × Cursor} :
    result.commit fault = .ok given ↔ result = .ok given := by
  unfold commit
  split <;> simp_all

/-- What is found is given. -/
theorem ofScan_eq_ok {absent : Failure} {scan : Scan α} {value : α} {next : Cursor} :
    ofScan absent scan = .ok (value, next) ↔ scan = .found value next := by
  cases scan <;> simp [ofScan]

/-! ## Loops -/

@[simp]
theorem rounds_zero (round : α → Cursor → Reading (Round α β × Cursor)) (state : α)
    (cursor : Cursor) : rounds round 0 state cursor = .error .exhausted :=
  rfl

/-- A loop is its first round, and then the loop again or the end. -/
theorem rounds_succ (round : α → Cursor → Reading (Round α β × Cursor)) (fuel : Nat) (state : α)
    (cursor : Cursor) :
    rounds round (fuel + 1) state cursor =
      match round state cursor with
      | .ok (.again state, next) => rounds round fuel state next
      | .ok (.done result, next) => .ok (result, next)
      | .error failure => .error failure :=
  rfl

/-- A property of what a loop gives, from the last round back to the first. -/
theorem rounds_induction {round : α → Cursor → Reading (Round α β × Cursor)}
    {motive : α → Cursor → β → Cursor → Prop}
    (done : ∀ {state cursor result next},
      round state cursor = .ok (.done result, next) → motive state cursor result next)
    (again : ∀ {state cursor state' cursor' result next},
      round state cursor = .ok (.again state', cursor') → motive state' cursor' result next →
        motive state cursor result next) :
    ∀ {fuel state cursor result next},
      rounds round fuel state cursor = .ok (result, next) → motive state cursor result next := by
  intro fuel
  induction fuel with
  | zero =>
    intro state cursor result next given
    simp at given
  | succ fuel ih =>
    intro state cursor result next given
    rw [rounds_succ] at given
    split at given
    · rename_i state' cursor' step
      exact again step (ih given)
    · rename_i result' next' step
      obtain ⟨rfl, rfl⟩ := Prod.mk.inj (Except.ok.inj given)
      exact done step
    · simp at given

/-- A property of what a loop with its own fuel gives. -/
theorem loop_induction {round : α → Cursor → Reading (Round α β × Cursor)}
    {motive : α → Cursor → β → Cursor → Prop}
    (done : ∀ {state cursor result next},
      round state cursor = .ok (.done result, next) → motive state cursor result next)
    (again : ∀ {state cursor state' cursor' result next},
      round state cursor = .ok (.again state', cursor') → motive state' cursor' result next →
        motive state cursor result next)
    {state : α} {cursor : Cursor} {result : β} {next : Cursor}
    (given : loop round state cursor = .ok (result, next)) : motive state cursor result next :=
  rounds_induction done again given

theorem rounds_again {round : α → Cursor → Reading (Round α β × Cursor)} {state state' : α}
    {cursor cursor' : Cursor} (step : round state cursor = .ok (.again state', cursor'))
    (fuel : Nat) : rounds round (fuel + 1) state cursor = rounds round fuel state' cursor' := by
  rw [rounds_succ, step]

theorem rounds_done {round : α → Cursor → Reading (Round α β × Cursor)} {state : α} {result : β}
    {cursor next : Cursor} (step : round state cursor = .ok (.done result, next)) (fuel : Nat) :
    rounds round (fuel + 1) state cursor = .ok (result, next) := by
  rw [rounds_succ, step]

/-! ## Enough rounds

Rounds that each take a character need no more of them than there are bytes left. -/

section

variable {round : α → Cursor → Reading (Round α β × Cursor)}

theorem rounds_of_done {state : α} {result : β} {cursor next : Cursor}
    (step : round state cursor = .ok (.done result, next)) :
    ∀ fuel, cursor.room < fuel →
      rounds round fuel state cursor = .ok (result, next) := by
  intro fuel enough
  cases fuel with
  | zero => omega
  | succ fuel => exact rounds_done step fuel

theorem rounds_of_again {state state' : α} {cursor cursor' : Cursor}
    {given : Reading (β × Cursor)}
    (step : round state cursor = .ok (.again state', cursor'))
    (passes : cursor.Passes cursor')
    (others : ∀ fuel, cursor'.room < fuel → rounds round fuel state' cursor' = given) :
    ∀ fuel, cursor.room < fuel → rounds round fuel state cursor = given := by
  intro fuel enough
  cases fuel with
  | zero => omega
  | succ fuel =>
    have shorter := passes.room_lt
    rw [rounds_again step]
    exact others fuel (by omega)

theorem loop_of_rounds {state : α} {cursor : Cursor} {given : Reading (β × Cursor)}
    (read : ∀ fuel, cursor.room < fuel → rounds round fuel state cursor = given) :
    loop round state cursor = given :=
  read _ (Nat.lt_succ_self _)

end

end Reading

/-! ## Nesting and required characters -/

/-- What is read one level deeper needs a level. -/
theorem Setting.nested_eq_ok {α : Type} {setting : Setting} {cursor : Cursor}
    {read : Setting → Reading (α × Cursor)} {given : α × Cursor} :
    setting.nested cursor read = .ok given ↔
      ∃ room, setting.room = room + 1 ∧ read { setting with room := room } = .ok given := by
  unfold nested
  split
  · rename_i noRoom
    simp [noRoom]
  · rename_i room someRoom
    simp [someRoom]

theorem requireChar_eq_ok {c : Char} {fault : Fault} {cursor next : Cursor} :
    requireChar c fault cursor = .ok next ↔ cursor.isAt [c] = true ∧ next = cursor.skip 1 := by
  unfold requireChar
  by_cases isAt : cursor.isAt [c]
  · simp [isAt, eq_comm]
  · simp [isAt]

/-! ## Comments -/

/-- A comment is passed with its marks. -/
theorem Literal.comment_eq_found {cursor next : Cursor} {comment : Comment} :
    Literal.comment cursor = .found comment next ↔
      ∃ body after, cursor.rest = commentOpening ++ body ++ after ∧
        cutBefore? commentClosing (body ++ after) = some (body, after) ∧
        next = cursor.skip (2 + (body.length + 2)) ∧
        comment = ⟨String.ofList body, cursor.spanTo next⟩ := by
  unfold Literal.comment
  by_cases opens : cursor.isAt commentOpening
  · obtain ⟨inside, restEq⟩ := Cursor.isAt_iff.mp opens
    have skipped : cursor.rest.drop 2 = inside := by simp [← restEq, commentOpening]
    rw [if_pos opens]
    simp only [Cursor.rest_skip, skipped, Cursor.skip_skip]
    constructor
    · intro found
      split at found
      · rename_i body after cut
        simp only [Scan.found.injEq] at found
        obtain ⟨commentEq, nextEq⟩ := found
        have parts := (cutBefore?_eq_some cut).1
        refine ⟨body, after, ?_, ?_, nextEq.symm, ?_⟩
        · rw [← restEq, ← parts, List.append_assoc]
        · rw [parts]
          exact cut
        · rw [← commentEq, ← nextEq]
      · simp at found
    · rintro ⟨body, after, splitEq, cut, rfl, rfl⟩
      have insideEq : inside = body ++ after := by
        have same := restEq.trans splitEq
        rw [List.append_assoc] at same
        exact List.append_cancel_left same
      rw [insideEq, cut]
  · rw [if_neg opens]
    simp only [reduceCtorEq, false_iff]
    rintro ⟨body, after, restEq, -⟩
    apply opens
    rw [Cursor.isAt_iff]
    exact ⟨body ++ after, by simp [restEq]⟩

theorem Literal.comment_eq_absent {cursor : Cursor} :
    Literal.comment cursor = .absent ↔ cursor.isAt commentOpening = false := by
  unfold Literal.comment
  split
  · rename_i opens
    rw [opens]
    dsimp only
    split <;> simp
  · rename_i opens
    simp [opens]

theorem Literal.passes_of_comment {cursor next : Cursor} {comment : Comment}
    (found : Literal.comment cursor = .found comment next) : cursor.Passes next := by
  rw [comment_eq_found] at found
  obtain ⟨body, after, restEq, -, rfl, -⟩ := found
  exact Cursor.passes_skip (by simp [restEq, commentOpening]) (by omega)

/-- A round of blanks and a comment, or the end of them. -/
theorem triviaRound_eq_again {comments comments' : List Comment} {cursor next : Cursor} :
    triviaRound comments cursor = .ok (.again comments', next) ↔
      ∃ comment, Literal.comment cursor.skipBlanks = .found comment next ∧
        comments' = comments ++ [comment] := by
  unfold triviaRound
  dsimp only
  split
  · rename_i comment after found
    simp only [found, Except.ok.injEq, Prod.mk.injEq, Reading.Round.again.injEq,
      Scan.found.injEq]
    constructor
    · rintro ⟨rfl, rfl⟩
      exact ⟨comment, ⟨rfl, rfl⟩, rfl⟩
    · rintro ⟨_, ⟨rfl, rfl⟩, rfl⟩
      exact ⟨rfl, rfl⟩
  · simp_all
  · simp_all

theorem triviaRound_eq_done {comments comments' : List Comment} {cursor next : Cursor} :
    triviaRound comments cursor = .ok (.done comments', next) ↔
      Literal.comment cursor.skipBlanks = .absent ∧ comments' = comments ∧
        next = cursor.skipBlanks := by
  unfold triviaRound
  dsimp only
  split <;> simp_all [eq_comm]

theorem reaches_of_trivia {cursor next : Cursor} {comments : List Comment}
    (given : trivia cursor = .ok (comments, next)) : cursor.Reaches next := by
  refine Reading.loop_induction (motive := fun _ cursor _ next => cursor.Reaches next)
    ?_ ?_ given
  · intro _ cursor _ next step
    rw [triviaRound_eq_done] at step
    obtain ⟨-, -, rfl⟩ := step
    exact cursor.reaches_skipBlanks
  · intro _ cursor _ _ _ _ step later
    rw [triviaRound_eq_again] at step
    obtain ⟨comment, found, -⟩ := step
    exact (cursor.reaches_skipBlanks.trans (Literal.passes_of_comment found).reaches).trans later

/-! ## The ends of tags -/

/-- The place after an opening mark and its trim marker. -/
def afterOpening (tags : Delimiters) (cursor : Cursor) : Cursor :=
  let afterMark := cursor.skip tags.opening.length
  if afterMark.isAt ['-'] then afterMark.skip 1 else afterMark

theorem reaches_afterOpening (tags : Delimiters) (cursor : Cursor) :
    cursor.Reaches (afterOpening tags cursor) := by
  unfold afterOpening
  dsimp only
  split
  · exact (cursor.reaches_skip _).trans (Cursor.reaches_skip _ 1)
  · exact cursor.reaches_skip _

/-- An opening end is a mark, perhaps a trim marker, and comments. -/
theorem openingTag_eq_ok {setting : Setting} {cursor next : Cursor} {tag : Tag} :
    openingTag setting cursor = .ok (tag, next) ↔
      Cursor.startsWithMark cursor.rest setting.tags.opening.toList = true ∧
        ∃ comments, trivia (afterOpening setting.tags cursor) = .ok (comments, next) ∧
          tag = ⟨.opening, setting.tags.opening,
            (cursor.skip setting.tags.opening.length).isAt ['-'], comments,
            cursor.spanTo (afterOpening setting.tags cursor)⟩ := by
  unfold openingTag
  dsimp only
  split
  · rename_i starts
    simp only [starts, true_and]
    rw [Reading.bind_eq_ok]
    constructor
    · rintro ⟨⟨comments, cursor'⟩, triviaEq, same⟩
      simp only [Except.ok.injEq, Prod.mk.injEq] at same
      obtain ⟨rfl, rfl⟩ := same
      exact ⟨comments, triviaEq, rfl⟩
    · rintro ⟨comments, triviaEq, rfl⟩
      exact ⟨(comments, next), triviaEq, rfl⟩
  · rename_i starts
    simp [starts]

theorem reaches_of_openingTag {setting : Setting} {cursor next : Cursor} {tag : Tag}
    (given : openingTag setting cursor = .ok (tag, next)) : cursor.Reaches next := by
  rw [openingTag_eq_ok] at given
  obtain ⟨-, comments, triviaEq, -⟩ := given
  exact (reaches_afterOpening _ cursor).trans (reaches_of_trivia triviaEq)

/-- A closing end is comments, perhaps a trim marker, and a mark. -/
theorem closingTag_eq_ok {setting : Setting} {cursor next : Cursor} {tag : Tag} :
    closingTag setting cursor = .ok (tag, next) ↔
      ∃ comments start, trivia cursor = .ok (comments, start) ∧
        setting.atClosing start.rest = true ∧
        next = start.skip (setting.tags.closing.length +
          if Cursor.startsWithTrimmed start.rest setting.tags.closing.toList then 1 else 0) ∧
        tag = ⟨.closing, setting.tags.closing,
          Cursor.startsWithTrimmed start.rest setting.tags.closing.toList, comments,
          start.spanTo next⟩ := by
  unfold closingTag
  rw [Reading.bind_eq_ok]
  constructor
  · rintro ⟨⟨comments, start⟩, triviaEq, same⟩
    simp only at same
    split at same
    · rename_i atMark
      simp only [Except.ok.injEq, Prod.mk.injEq] at same
      obtain ⟨rfl, rfl⟩ := same
      refine ⟨comments, start, triviaEq, ?_, rfl, rfl⟩
      rw [Setting.atClosing, Bool.or_comm]
      exact atMark
    · simp at same
  · rintro ⟨comments, start, triviaEq, atMark, rfl, rfl⟩
    refine ⟨(comments, start), triviaEq, ?_⟩
    rw [Setting.atClosing, Bool.or_comm] at atMark
    simp only [atMark, if_true]

theorem reaches_of_closingTag {setting : Setting} {cursor next : Cursor} {tag : Tag}
    (given : closingTag setting cursor = .ok (tag, next)) : cursor.Reaches next := by
  rw [closingTag_eq_ok] at given
  obtain ⟨comments, start, triviaEq, -, rfl, -⟩ := given
  exact (reaches_of_trivia triviaEq).trans (start.reaches_skip _)

@[simp]
theorem requireClosing_eq_ok {setting : Setting} {cursor : Cursor} {given : Tag × Cursor} :
    requireClosing setting cursor = .ok given ↔ closingTag setting cursor = .ok given :=
  Reading.commit_eq_ok

end TemplateLang
