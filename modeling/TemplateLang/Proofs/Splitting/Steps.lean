import TemplateLang.Proofs.Coverage.Alone

/-!
# Where the tokenizer goes through

The tokenizer goes through from a place if no error is met from there to the end of the text and
every tag is closed.  Whether it does is decided at the place, not by what was read before, and
a step that reports nothing takes it back from the next place to this one.

Two equal signs are one token, even where they belong to two operators.  So it matters whether
the tokenizer goes through behind a sign too: a place is clear if it does both from there and
from behind the sign that stands there.
-/

namespace TemplateLang

open Cursor

namespace Tokenizer

variable {state : TokenState} {cursor next : Cursor} {inside inside' : Bool} {c d : Char}
  {rest : List Char}

/-! ## Steps without a report -/

/-- From a place outside or inside of a tag, the tokenizer comes to the end of the text with no
report and with no tag open, whatever it has read before. -/
def GoesThrough (inside : Bool) (cursor : Cursor) : Prop :=
  ∀ (state : TokenState) (fuel : Nat), state.openTag.isSome = inside →
    cursor.rest.length ≤ fuel →
      (run Delimiters.standard fuel state cursor).1.diagnostics = state.diagnostics ∧
        (run Delimiters.standard fuel state cursor).1.openTag = none

/-- A step without a report, from a place outside or inside of a tag to another. -/
def StepsTo (inside : Bool) (cursor : Cursor) (inside' : Bool) (next : Cursor) : Prop :=
  ∀ state : TokenState, state.openTag.isSome = inside →
    (step Delimiters.standard state cursor).2 = next ∧
      (step Delimiters.standard state cursor).1.diagnostics = state.diagnostics ∧
      (step Delimiters.standard state cursor).1.openTag.isSome = inside'

theorem goesThrough_at_end (atEnd : cursor.rest = []) : GoesThrough false cursor := by
  intro state fuel closed _
  rw [run_at_end atEnd]
  exact ⟨rfl, Option.isSome_eq_false_iff.mp closed |> Option.isNone_iff_eq_none.mp⟩

theorem GoesThrough.of_step (others : GoesThrough inside' next) (notDone : cursor.rest ≠ [])
    (steps : StepsTo inside cursor inside' next) : GoesThrough inside cursor := by
  intro state fuel side enough
  rcases steps state side with ⟨rfl, kept, side'⟩
  have shorter := (passes_step Delimiters.standard state notDone).length_rest_lt
  cases fuel with
  | zero => exact absurd (List.length_eq_zero_iff.mp (Nat.le_zero.mp enough)) notDone
  | succ fuel =>
    have ran : run Delimiters.standard (fuel + 1) state cursor =
        run Delimiters.standard fuel (step Delimiters.standard state cursor).1
          (step Delimiters.standard state cursor).2 := by
      simp [run, notDone]
    rw [ran, ← kept]
    exact others _ fuel side' (Nat.le_of_lt_succ (Nat.lt_of_lt_of_le shorter enough))

/-! ## Outside of tags -/

theorem GoesThrough.of_opening (others : GoesThrough true (afterOpening Delimiters.standard cursor))
    (starts : startsWithMark cursor.rest Delimiters.standard.opening.toList = true) :
    GoesThrough false cursor := by
  refine others.of_step (passes_afterOpening starts).1 fun state outside => ?_
  rw [step, outside, if_neg Bool.false_ne_true, outsideStep_of_opening starts]
  exact ⟨rfl, rfl, rfl⟩

theorem GoesThrough.of_text
    (others : GoesThrough false (cursor.skip (textLength Delimiters.standard cursor.rest)))
    (notDone : cursor.rest ≠ []) (noMark : startsMark Delimiters.standard cursor.rest = false) :
    GoesThrough false cursor := by
  refine others.of_step notDone fun state outside => ?_
  rw [step, outside, if_neg Bool.false_ne_true, outsideStep_of_text noMark]
  exact ⟨rfl, rfl, outside⟩

/-! ## Inside of tags -/

theorem step_inside (tags : Delimiters) (isOpen : state.openTag.isSome = true)
    (notDone : cursor.rest ≠ []) (settled : cursor.skipBlanks = cursor) :
    step tags state cursor = insideStep tags state cursor := by
  simp [step, isOpen, settled, notDone]

/-- A blank only separates tokens. -/
theorem GoesThrough.of_blank (others : GoesThrough true (cursor.skip 1))
    (starts : cursor.rest = c :: rest) (isBlank : Unicode.isBlank c = true) :
    GoesThrough true cursor := by
  have blanks := skipBlanks_of_blank starts isBlank
  have restEq : (cursor.skip 1).rest = rest := by rw [rest_skip, starts]; rfl
  intro state fuel isOpen enough
  rw [starts, List.length_cons] at enough
  cases fuel with
  | zero => simp at enough
  | succ fuel =>
    have same : run Delimiters.standard (fuel + 1) state cursor =
        run Delimiters.standard fuel (step Delimiters.standard state (cursor.skip 1)).1
          (step Delimiters.standard state (cursor.skip 1)).2 := by
      simp [run, starts, step, isOpen, blanks]
    rw [same]
    cases rest with
    | nil =>
      have ended : (cursor.skip 1).skipBlanks.rest = [] := by
        rw [skipBlanks, skipWhile, rest_skip, restEq]
        rfl
      have stays : step Delimiters.standard state (cursor.skip 1) =
          (state, (cursor.skip 1).skipBlanks) := by
        simp [step, isOpen, ended]
      rw [stays, run_at_end ended]
      exact others state 0 isOpen (by rw [restEq]; exact Nat.le_refl 0)
    | cons d rest =>
      have ran := others state (fuel + 1) isOpen (by rw [restEq]; omega)
      rwa [run, if_neg (by rw [restEq]; exact Bool.false_ne_true)] at ran

/-- The marks inside of a tag are those of the grammar. -/
theorem noClosing_of_closes {text : List Char} (noClosing : closes text = false) :
    (startsWithTrimmed text Delimiters.standard.closing.toList ||
      startsWithMark text Delimiters.standard.closing.toList) = false := by
  rw [Bool.or_comm]
  exact noClosing

/-- Characters that are no blank and do not begin an opening mark. -/
def startsInside (c : Char) : Bool :=
  !Unicode.isBlank c && c != '\x7b'

theorem startsInside_iff : startsInside c = true ↔ Unicode.isBlank c = false ∧ c ≠ '\x7b' := by
  simp [startsInside]

theorem skipBlanks_of_startsInside (starts : cursor.rest = c :: rest)
    (isStart : startsInside c = true) : cursor.skipBlanks = cursor := by
  rw [skipBlanks, skipWhile, starts,
    List.takeWhile_cons_of_neg (by simp [(startsInside_iff.mp isStart).1])]
  exact skip_zero cursor

theorem startsWithMark_opening (starts : cursor.rest = c :: rest) (noBrace : c ≠ '\x7b') :
    startsWithMark cursor.rest Delimiters.standard.opening.toList = false := by
  rw [Bool.eq_false_iff, Ne, startsWithMark_iff, starts]
  rintro ⟨-, after, same⟩
  exact noBrace (List.cons.inj same).1.symm

theorem GoesThrough.of_closing (others : GoesThrough false (closingAt cursor).2)
    (atMark : closes cursor.rest = true) : GoesThrough true cursor := by
  have starts : ∃ c rest, cursor.rest = c :: rest ∧ startsInside c = true := by
    rcases closes_iff.mp atMark with ⟨after, same⟩ | ⟨after, same⟩
    · exact ⟨_, _, same.symm, by decide⟩
    · exact ⟨_, _, same.symm, by decide⟩
  rcases starts with ⟨c, rest, starts, isStart⟩
  have notDone : cursor.rest ≠ [] := by simp [starts]
  refine others.of_step notDone fun state isOpen => ?_
  rw [step_inside _ isOpen notDone (skipBlanks_of_startsInside starts isStart),
    insideStep_of_closing (startsWithMark_opening starts (startsInside_iff.mp isStart).2) state
      (by rw [Bool.or_comm]; exact atMark)]
  exact ⟨rfl, rfl, rfl⟩

/-- A token is passed that neither opens nor closes a tag.  A minus before a trimmed closing
mark is a token of its own. -/
theorem GoesThrough.of_lexeme {found : Lexeme} (others : GoesThrough true next)
    (starts : cursor.rest = c :: rest) (isStart : startsInside c = true)
    (noClosing : closes cursor.rest = false)
    (noMinus : (cursor.isAt ['-', '-'] && startsWithTrimmed (cursor.rest.drop 1)
      Delimiters.standard.closing.toList) = false)
    (read : lexeme cursor = .found found next) : GoesThrough true cursor := by
  rcases startsInside_iff.mp isStart with ⟨notBlank, noBrace⟩
  have notDone : cursor.rest ≠ [] := by simp [starts]
  refine others.of_step notDone fun state isOpen => ?_
  rw [step_inside _ isOpen notDone (skipBlanks_of_startsInside starts isStart),
    insideStep_of_lexeme (startsWithMark_opening starts noBrace) (noClosing_of_closes noClosing)
      state noMinus read]
  exact ⟨rfl, rfl, isOpen⟩

theorem GoesThrough.of_minus (others : GoesThrough true (cursor.skip 1))
    (noClosing : closes cursor.rest = false)
    (minus : (cursor.isAt ['-', '-'] && startsWithTrimmed (cursor.rest.drop 1)
      Delimiters.standard.closing.toList) = true) : GoesThrough true cursor := by
  rcases isAt_iff.mp (Bool.and_eq_true_iff.mp minus).1 with ⟨rest, restEq⟩
  have starts : cursor.rest = '-' :: ('-' :: rest) := restEq.symm
  have notDone : cursor.rest ≠ [] := by simp [starts]
  refine others.of_step notDone fun state isOpen => ?_
  rw [step_inside _ isOpen notDone (skipBlanks_of_startsInside starts (by decide)),
    insideStep_of_minus (startsWithMark_opening starts (by decide)) (noClosing_of_closes noClosing)
      state minus]
  exact ⟨rfl, rfl, isOpen⟩

/-- Characters that begin a token, whatever follows them. -/
def startsToken (c : Char) : Bool :=
  startsInside c && c != '\x7d' && c != '-'

theorem GoesThrough.of_token {found : Lexeme} (others : GoesThrough true next)
    (starts : cursor.rest = c :: rest) (token : startsToken c = true)
    (read : lexeme cursor = .found found next) : GoesThrough true cursor := by
  simp only [startsToken, Bool.and_eq_true, bne_iff_ne] at token
  rcases token with ⟨⟨isStart, noClosing⟩, noMinus⟩
  refine others.of_lexeme starts isStart ?_ ?_ read
  · rw [starts]
    exact Grammar.atClosing_eq_false rfl noClosing fun same => absurd same noMinus
  · have notAt : cursor.isAt ['-', '-'] = false := by
      rw [Bool.eq_false_iff, Ne, isAt_iff, starts]
      rintro ⟨after, same⟩
      exact noMinus (List.cons.inj same).1.symm
    rw [notAt, Bool.false_and]

end Tokenizer

end TemplateLang
