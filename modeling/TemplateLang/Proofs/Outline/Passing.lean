import TemplateLang.Proofs.Literal
import TemplateLang.Proofs.Outline.Skim

/-!
# What a skim passes

Blanks, words, numbers and operators are passed without a token, since none of their
characters begins a closing mark, a comment or a string.  A minus is passed where it does
not trim a closing mark.  Strings are passed as a whole, and comments and the ends of tags
give their tokens.
-/

namespace TemplateLang

open Cursor

/-- A place is skimmed up to another without a token. -/
def Silent (cursor next : Cursor) : Prop :=
  Skims true cursor [] true next

theorem Silent.refl (cursor : Cursor) : Silent cursor cursor :=
  .done

theorem Silent.trans {cursor middle next : Cursor} (first : Silent cursor middle)
    (second : Silent middle next) : Silent cursor next :=
  Skims.trans first second

/-- A place is skimmed up to another with some comments. -/
def Finds (cursor : Cursor) (comments : List Comment) (next : Cursor) : Prop :=
  Skims true cursor (comments.map Comment.token) true next

theorem Silent.finds {cursor middle next : Cursor} {comments : List Comment}
    (first : Silent cursor middle) (second : Finds middle comments next) :
    Finds cursor comments next :=
  Skims.trans first second

theorem Finds.append {cursor middle next : Cursor} {before after : List Comment}
    (first : Finds cursor before middle) (second : Finds middle after next) :
    Finds cursor (before ++ after) next := by
  have both := Skims.trans first second
  rwa [← List.map_append] at both

theorem Finds.silent {cursor middle next : Cursor} {comments : List Comment}
    (first : Finds cursor comments middle) (second : Silent middle next) :
    Finds cursor comments next := by
  have both : Finds cursor (comments ++ []) next := first.append second
  rwa [List.append_nil] at both

/-! ## Single characters -/

theorem closes_iff {text : List Char} :
    closes text = true ↔ ['\x7d', '\x7d'] <+: text ∨ ['-', '\x7d', '\x7d'] <+: text := by
  have marks : (Setting.initial Delimiters.standard).tags.closing.toList = ['\x7d', '\x7d'] := by
    decide
  unfold closes Setting.atClosing
  dsimp only
  rw [marks, Bool.or_eq_true, startsWithMark_iff, startsWithTrimmed_iff]
  constructor
  · rintro (⟨-, closed⟩ | ⟨rest, rfl, -, closed⟩)
    · exact .inl closed
    · exact .inr (List.cons_prefix_cons.mpr ⟨rfl, closed⟩)
  · rintro (closed | ⟨rest, rfl⟩)
    · exact .inl ⟨by simp, closed⟩
    · exact .inr ⟨'\x7d' :: '\x7d' :: rest, rfl, by simp, ⟨rest, rfl⟩⟩

theorem closes_of_tags {setting : Setting} (standard : setting.tags = Delimiters.standard)
    (text : List Char) : setting.atClosing text = closes text := by
  simp [closes, Setting.atClosing, Setting.initial, standard]

/-- A character that begins no closing mark, comment or string is passed. -/
theorem skimStep_plain {cursor : Cursor} {c : Char} {rest : List Char}
    (starts : cursor.rest = c :: rest) (noClosing : closes cursor.rest = false)
    (noComment : cursor.isAt Literal.commentOpening = false)
    (noString : Literal.quote? cursor = none) :
    skimStep true cursor = some ([], true, cursor.skip 1) := by
  rw [starts] at noClosing
  simp [skimStep, skimInside, noClosing, Literal.comment, noComment, Literal.string, noString,
    starts]

/-- A character that begins neither a closing mark, a comment nor a string, whatever
follows it. -/
def isCalm (c : Char) : Bool :=
  !(['\x7d', '-', '/', '"', '\''].contains c)

theorem silent_calm {cursor : Cursor} {c : Char} {rest : List Char}
    (starts : cursor.rest = c :: rest) (calm : isCalm c = true) :
    Silent cursor (cursor.skip 1) := by
  simp only [isCalm, List.contains_cons, List.contains_nil, Bool.or_false, Bool.not_or,
    Bool.and_eq_true, Bool.not_eq_true', beq_eq_false_iff_ne] at calm
  obtain ⟨notBrace, notMinus, notSlash, notDouble, notSingle⟩ := calm
  refine .single (skimStep_plain starts ?_ ?_ ?_)
  · rw [Bool.eq_false_iff, Ne, closes_iff, starts]
    rintro (⟨after, same⟩ | ⟨after, same⟩)
    · exact notBrace (List.cons.inj same).1.symm
    · exact notMinus (List.cons.inj same).1.symm
  · rw [Bool.eq_false_iff, Ne, isAt_iff, starts]
    rintro ⟨after, same⟩
    exact notSlash (List.cons.inj same).1.symm
  · unfold Literal.quote?
    rw [starts]
    split
    · rename_i same
      exact absurd (List.cons.inj same).1 notDouble
    · rename_i same
      exact absurd (List.cons.inj same).1 notSingle
    · rfl

/-- A minus that does not trim a closing mark is passed. -/
theorem silent_minus {cursor : Cursor} {rest : List Char} (starts : cursor.rest = '-' :: rest)
    (noClosing : closes cursor.rest = false) : Silent cursor (cursor.skip 1) := by
  refine .single (skimStep_plain starts noClosing ?_ ?_)
  · simp [isAt, Literal.commentOpening, starts, List.isPrefixOf]
  · simp [Literal.quote?, starts]

/-! ## Runs of calm characters -/

theorem silent_skip {cursor : Cursor} {count : Nat}
    (calm : ∀ c ∈ cursor.rest.take count, isCalm c = true) :
    Silent cursor (cursor.skip count) := by
  induction count generalizing cursor with
  | zero => exact skip_zero cursor ▸ .refl cursor
  | succ count ih =>
    cases starts : cursor.rest with
    | nil =>
      have stays : cursor.skip (count + 1) = cursor := by
        ext1 <;> simp [starts]
      rw [stays]
      exact .refl cursor
    | cons c rest =>
      rw [starts] at calm
      simp only [List.take_succ_cons, List.mem_cons, forall_eq_or_imp] at calm
      have others : Silent (cursor.skip 1) ((cursor.skip 1).skip count) := by
        apply ih
        rw [rest_skip, starts]
        exact calm.2
      rw [skip_skip, Nat.add_comm] at others
      exact (silent_calm starts calm.1).trans others

theorem silent_takeWhile {cursor : Cursor} {p : Char → Bool}
    (calm : ∀ c, p c = true → isCalm c = true) :
    Silent cursor (cursor.skip (cursor.rest.takeWhile p).length) := by
  apply silent_skip
  rw [← List.prefix_iff_eq_take.mp (List.takeWhile_prefix p)]
  intro c inside
  exact calm c (List.all_eq_true.mp List.all_takeWhile c inside)

theorem silent_symbol {cursor : Cursor} (symbol : List Char) (isAt : cursor.isAt symbol = true)
    (calm : symbol.all isCalm = true) : Silent cursor (cursor.skip symbol.length) := by
  obtain ⟨rest, restEq⟩ := isAt_iff.mp isAt
  apply silent_skip
  rw [← restEq, List.take_left]
  exact List.all_eq_true.mp calm

theorem isCalm_of_isBlank (c : Char) (blank : Unicode.isBlank c = true) : isCalm c = true := by
  rw [isCalm, Bool.not_eq_true', Bool.eq_false_iff]
  intro restless
  simp only [List.contains_cons, List.contains_nil, Bool.or_false, Bool.or_eq_true,
    beq_iff_eq] at restless
  rcases restless with rfl | rfl | rfl | rfl | rfl <;> revert blank <;> decide

theorem isCalm_of_isWordChar (c : Char) (inWord : isWordChar c = true) : isCalm c = true := by
  rw [isCalm, Bool.not_eq_true', Bool.eq_false_iff]
  intro restless
  simp only [List.contains_cons, List.contains_nil, Bool.or_false, Bool.or_eq_true,
    beq_iff_eq] at restless
  rcases restless with rfl | rfl | rfl | rfl | rfl <;> revert inWord <;> decide

theorem isWordChar_of_isDigit (c : Char) (digit : c.isDigit = true) : isWordChar c = true := by
  simp [isWordChar, Char.isAlphanum, digit]

theorem silent_skipBlanks (cursor : Cursor) : Silent cursor cursor.skipBlanks :=
  silent_takeWhile isCalm_of_isBlank

theorem silent_skipWord (cursor : Cursor) : Silent cursor cursor.skipWord := by
  unfold skipWord word
  split
  · split
    · exact silent_takeWhile isCalm_of_isWordChar
    · exact skip_zero cursor ▸ .refl cursor
  · exact skip_zero cursor ▸ .refl cursor

theorem silent_digits (cursor : Cursor) :
    Silent cursor (cursor.skip (Literal.decimalDigits cursor).length) :=
  silent_takeWhile fun c digit => isCalm_of_isWordChar c (isWordChar_of_isDigit c digit)

/-! ## Literals -/

theorem silent_string {cursor next : Cursor} {value : String × Quote}
    (found : Literal.string cursor = .found value next) : Silent cursor next := by
  obtain ⟨quote, rest, starts⟩ : ∃ quote rest, cursor.rest = Quote.char quote :: rest := by
    unfold Literal.string at found
    split at found
    · rename_i quote isQuote
      exact ⟨quote, Literal.quote?_eq_some.mp isQuote⟩
    · simp at found
  have noClosing : closes cursor.rest = false := by
    rw [Bool.eq_false_iff, Ne, closes_iff, starts]
    cases quote <;> simp [Quote.char]
  have noComment : Literal.comment cursor = .absent := by
    have notAt : cursor.isAt Literal.commentOpening = false := by
      cases quote <;> simp [isAt, Literal.commentOpening, starts, Quote.char, List.isPrefixOf]
    simp [Literal.comment, notAt]
  exact .single (by simp [skimStep, skimInside, noClosing, noComment, found])

theorem silent_radixDigits {start cursor next : Cursor} {base : Nat} {name : String}
    {value : Number} (found : Literal.radixDigits start cursor base name = .found value next) :
    Silent cursor next := by
  unfold Literal.radixDigits at found
  dsimp only at found
  split at found
  · simp at found
  · simp only [Scan.found.injEq] at found
    obtain ⟨-, rfl⟩ := found
    exact silent_takeWhile isCalm_of_isWordChar

theorem silent_exponent {start cursor next : Cursor} {power : Int}
    (found : Literal.exponent start cursor = .found power next) : Silent cursor next := by
  obtain ⟨someDigits, rfl, -⟩ := Literal.exponent_eq_found.mp found
  refine Silent.trans ?_ (silent_digits _)
  unfold Literal.afterSign at someDigits ⊢
  split
  · rename_i signed
    rw [if_pos signed] at someDigits
    simp only [Bool.or_eq_true, decide_eq_true_eq] at signed
    rcases signed with minus | plus
    · obtain ⟨rest, starts⟩ := List.head?_eq_some_iff.mp minus
      refine silent_minus starts ?_
      -- The digit after the sign keeps it from trimming a closing mark.
      rw [Bool.eq_false_iff, Ne, closes_iff, starts]
      rintro (⟨after, same⟩ | ⟨after, same⟩)
      · simp at same
      · obtain rfl : '\x7d' :: '\x7d' :: after = rest := by simpa using same
        exact someDigits (by simp [Literal.decimalDigits, starts])
    · obtain ⟨rest, starts⟩ := List.head?_eq_some_iff.mp plus
      exact silent_calm starts (by decide)
  · exact .refl cursor

theorem silent_exponentPart {start cursor next : Cursor} {power : Int}
    (found : Literal.exponentPart start cursor = .found power next) : Silent cursor next := by
  unfold Literal.exponentPart at found
  split at found
  · rename_i letter
    obtain ⟨rest, starts⟩ := List.head?_eq_some_iff.mp letter
    exact (silent_calm starts (by decide)).trans (silent_exponent found)
  · rename_i letter
    obtain ⟨rest, starts⟩ := List.head?_eq_some_iff.mp letter
    exact (silent_calm starts (by decide)).trans (silent_exponent found)
  · obtain ⟨-, rfl⟩ := Scan.found.inj found
    exact .refl _

theorem silent_fractionPart (cursor : Cursor) :
    Silent cursor (Literal.fractionPart cursor).2 := by
  unfold Literal.fractionPart
  split
  · rename_i rest starts
    exact (silent_calm starts (by decide)).trans (silent_digits _)
  · exact .refl cursor

theorem silent_announced {cursor : Cursor} {base : Nat × String}
    (announced : Literal.announced cursor.rest = some base) : Silent cursor (cursor.skip 2) := by
  rcases Literal.announced_eq_some.mp announced with ⟨letter, rest, starts, isRadix⟩
  have calm : ∀ entry ∈ Literal.radixLetters, ['0', entry.1].all isCalm = true := by decide
  apply silent_symbol ['0', letter] _ (calm _ (Literal.radix?_eq_some.mp isRadix))
  rw [isAt_iff, starts]
  exact ⟨rest, rfl⟩

theorem silent_number {cursor next : Cursor} {value : Number}
    (found : Literal.number cursor = .found value next) : Silent cursor next := by
  rw [Literal.number_eq] at found
  split at found
  · rename_i base name announced
    exact (silent_announced announced).trans (silent_radixDigits found)
  · split at found
    · rw [Literal.decimal_eq] at found
      obtain ⟨power, found, -⟩ := Scan.map_eq_found.mp found
      exact ((silent_digits cursor).trans (silent_fractionPart _)).trans
        (silent_exponentPart found)
    · simp at found

/-! ## Comments and the ends of tags -/

theorem finds_comment {cursor next : Cursor} {comment : Comment}
    (found : Literal.comment cursor = .found comment next) : Finds cursor [comment] next := by
  obtain ⟨body, after, restEq, -⟩ := Literal.comment_eq_found.mp found
  have noClosing : closes cursor.rest = false := by
    rw [Bool.eq_false_iff, Ne, closes_iff, restEq]
    simp [Literal.commentOpening]
  exact .single (by simp [skimStep, skimInside, noClosing, found])

theorem finds_trivia {cursor next : Cursor} {comments : List Comment}
    (given : trivia cursor = .ok (comments, next)) : Finds cursor comments next := by
  have general := Reading.loop_induction
    (motive := fun before cursor all next =>
      ∃ comments, all = before ++ comments ∧ Finds cursor comments next) ?_ ?_ given
  · obtain ⟨same, rfl, skimmed⟩ := general
    exact skimmed
  · intro before cursor all next step
    obtain ⟨-, rfl, rfl⟩ := triviaRound_eq_done.mp step
    exact ⟨[], by simp, silent_skipBlanks cursor⟩
  · intro before cursor before' cursor' all next step later
    obtain ⟨comment, found, rfl⟩ := triviaRound_eq_again.mp step
    obtain ⟨comments, rfl, skimmed⟩ := later
    refine ⟨comment :: comments, by simp, ?_⟩
    exact ((silent_skipBlanks cursor).finds (finds_comment found)).append skimmed

/-- An opening mark is one step. -/
theorem skimStep_opening {cursor : Cursor}
    (starts : startsWithMark cursor.rest Delimiters.standard.opening.toList = true) :
    skimStep false cursor = some ([(openingAt cursor).1], true, (openingAt cursor).2) := by
  have notDone : cursor.rest ≠ [] := by
    intro atEnd
    rw [atEnd] at starts
    exact absurd starts (by decide)
  simp [skimStep, skimOutside, notDone, starts]

theorem skims_openingTag {setting : Setting} (standard : setting.tags = Delimiters.standard)
    {cursor next : Cursor} {tag : Tag} (opens : openingTag setting cursor = .ok (tag, next)) :
    Skims false cursor tag.outline true next := by
  obtain ⟨starts, comments, inside, rfl⟩ := openingTag_eq_ok.mp opens
  rw [standard] at starts inside
  have skimmed := (Skims.single (skimStep_opening starts)).trans (finds_trivia inside)
  simpa [Tag.outline, standard, openingAt] using skimmed

/-- A closing mark is one step. -/
theorem skimStep_closing {cursor : Cursor} (atMark : closes cursor.rest = true) :
    skimStep true cursor = some ([(closingAt cursor).1], false, (closingAt cursor).2) := by
  simp [skimStep, skimInside, atMark]

theorem skims_closingTag {setting : Setting} (standard : setting.tags = Delimiters.standard)
    {cursor next : Cursor} {tag : Tag} (closed : closingTag setting cursor = .ok (tag, next)) :
    Skims true cursor tag.outline false next := by
  obtain ⟨comments, start, before, atMark, rfl, rfl⟩ := closingTag_eq_ok.mp closed
  rw [closes_of_tags standard] at atMark
  have skimmed := (finds_trivia before).trans (Skims.single (skimStep_closing atMark))
  simpa [Tag.outline, standard, closingAt] using skimmed

end TemplateLang
