import TemplateLang.Proofs.Outline.Grammar
import TemplateLang.Token.Scan

/-!
# The tokenizer and the grammar agree on the outline

A run of the tokenizer that reports nothing follows a skim as well: what it adds are
tokens of the skim, and others that are passed without one.  Both readings of a source
thus follow the one skim over it.

A run is without reports only if each of its steps is, since reports are never taken
back.  Text outside of tags that ends before a closing mark is reported in the next step.
-/

namespace TemplateLang

namespace Tokenizer

open Cursor

/-! ## Tokens inside of tags -/

/-- The first that stands inside of a tag of a comment, a string, a number, a word and a
punctuator, up to its end. -/
inductive LexemeStands (cursor next : Cursor) : Lexeme → Prop
  | comment {comment : Comment} (read : Literal.comment cursor = .found comment next) :
      LexemeStands cursor next (.comment comment.body)
  | string {value : String} {quote : Quote} (noComment : Literal.comment cursor = .absent)
      (read : Literal.string cursor = .found (value, quote) next) :
      LexemeStands cursor next (.string value quote)
  | number {value : Number} (noComment : Literal.comment cursor = .absent)
      (noString : Literal.string cursor = .absent)
      (read : Literal.number cursor = .found value next) : LexemeStands cursor next (.number value)
  | word {name : String} (noComment : Literal.comment cursor = .absent)
      (noString : Literal.string cursor = .absent) (noNumber : Literal.number cursor = .absent)
      (atWord : cursor.peekWord? = some name) (nextEq : next = cursor.skipWord) :
      LexemeStands cursor next (.ofWord name)
  | punctuator {p : Punctuator} (noComment : Literal.comment cursor = .absent)
      (noString : Literal.string cursor = .absent) (noNumber : Literal.number cursor = .absent)
      (noWord : word cursor = .absent) (atPunctuator : Punctuator.at? cursor.rest = some p)
      (nextEq : next = cursor.skip p.symbol.length) : LexemeStands cursor next (.punctuator p)

theorem lexeme_eq_found {cursor next : Cursor} {found : Lexeme} :
    lexeme cursor = .found found next ↔ LexemeStands cursor next found := by
  unfold lexeme
  simp only [Scan.orElse_eq_found, Scan.orElse_eq_absent, Scan.map_eq_found,
    Scan.map_eq_absent]
  constructor
  · rintro ((((⟨comment, read, rfl⟩ | ⟨noComment, string, read, rfl⟩) |
      ⟨⟨noComment, noString⟩, number, read, rfl⟩) | ⟨⟨⟨noComment, noString⟩, noNumber⟩, read⟩) |
      ⟨⟨⟨⟨noComment, noString⟩, noNumber⟩, noWord⟩, read⟩)
    · exact .comment read
    · exact .string noComment read
    · exact .number noComment noString read
    · unfold word at read
      split at read
      · rename_i name atWord
        obtain ⟨rfl, rfl⟩ := Scan.found.inj read
        exact .word noComment noString noNumber atWord rfl
      · simp at read
    · unfold punctuator at read
      split at read
      · rename_i p atPunctuator
        obtain ⟨rfl, rfl⟩ := Scan.found.inj read
        exact .punctuator noComment noString noNumber noWord atPunctuator rfl
      · simp at read
  · intro stands
    cases stands with
    | comment read => exact .inl (.inl (.inl (.inl ⟨_, read, rfl⟩)))
    | string noComment read => exact .inl (.inl (.inl (.inr ⟨noComment, _, read, rfl⟩)))
    | number noComment noString read =>
      exact .inl (.inl (.inr ⟨⟨noComment, noString⟩, _, read, rfl⟩))
    | word noComment noString noNumber atWord nextEq =>
      refine .inl (.inr ⟨⟨⟨noComment, noString⟩, noNumber⟩, ?_⟩)
      rw [word, atWord, nextEq]
    | punctuator noComment noString noNumber noWord atPunctuator nextEq =>
      refine .inr ⟨⟨⟨⟨noComment, noString⟩, noNumber⟩, noWord⟩, ?_⟩
      rw [punctuator, atPunctuator, nextEq]

/-- The text begins with the punctuator that is found. -/
theorem symbol_of_at? {text : List Char} {p : Punctuator} (found : Punctuator.at? text = some p) :
    p.symbol.toList <+: text := by
  have starts := List.find?_some found
  exact List.isPrefixOf_iff_prefix.mp starts

/-- A word is no comment and no mark of a tag. -/
theorem isStructural_ofWord (name : String) (span : Span) :
    Token.isStructural ⟨.ofWord name, span⟩ = false := by
  unfold Lexeme.ofWord
  repeat' split
  all_goals rfl

theorem silent_punctuator {cursor : Cursor} {p : Punctuator}
    (noClosing : closes cursor.rest = false)
    (noTrim : (cursor.isAt ['-', '-'] && closes (cursor.rest.drop 1)) = false)
    (noComment : cursor.isAt Literal.commentOpening = false)
    (found : Punctuator.at? cursor.rest = some p) :
    Silent cursor (cursor.skip p.symbol.length) := by
  have isAt : cursor.isAt p.symbol.toList = true := isAt_iff.mpr (symbol_of_at? found)
  obtain ⟨rest, restEq⟩ := symbol_of_at? found
  rw [← String.length_toList]
  by_cases calm : p.symbol.toList.all isCalm = true
  · exact silent_symbol _ isAt calm
  · -- Only minus signs and a slash are not calm.
    have restless : p.symbol.toList = ['-'] ∨ p.symbol.toList = ['-', '-'] ∨
        p.symbol.toList = ['/'] := by
      revert calm
      cases p <;> decide
    rcases restless with same | same | same
    · rw [same] at restEq ⊢
      exact silent_minus restEq.symm noClosing
    · rw [same] at restEq isAt ⊢
      rw [isAt, Bool.true_and] at noTrim
      have restEq' : (cursor.skip 1).rest = '-' :: rest := by simp [← restEq]
      have second := silent_minus restEq' noTrim
      rw [skip_skip] at second
      exact (silent_minus restEq.symm noClosing).trans second
    · rw [same] at restEq ⊢
      refine .single (skimStep_plain restEq.symm noClosing noComment ?_)
      simp [Literal.quote?, ← restEq]

theorem passes_punctuator {cursor : Cursor} {p : Punctuator}
    (found : Punctuator.at? cursor.rest = some p) :
    cursor.Passes (cursor.skip p.symbol.length) := by
  have someSymbol : 0 < p.symbol.length := by cases p <;> decide
  have starts := symbol_of_at? found
  refine passes_skip ?_ someSymbol
  intro atEnd
  rw [atEnd] at starts
  rw [← String.length_toList, List.length_pos_iff] at someSymbol
  exact someSymbol (List.prefix_nil.mp starts)

/-- A token inside of a tag is a comment, or it is passed by a skim. -/
theorem skims_lexeme {cursor next : Cursor} {found : Lexeme}
    (noClosing : closes cursor.rest = false)
    (noTrim : (cursor.isAt ['-', '-'] && closes (cursor.rest.drop 1)) = false)
    (read : lexeme cursor = .found found next) :
    Skims true cursor ([⟨found, cursor.spanTo next⟩].filter Token.isStructural) true next ∧
      cursor.Passes next := by
  cases lexeme_eq_found.mp read with
  | @comment comment scanned =>
    refine ⟨?_, Literal.passes_of_comment scanned⟩
    have spanEq : comment.span = cursor.spanTo next := by
      obtain ⟨body, after, -, -, -, rfl⟩ := Literal.comment_eq_found.mp scanned
      rfl
    have found := finds_comment scanned
    rwa [Finds, List.map_singleton, Comment.token, spanEq] at found
  | string _ scanned => exact ⟨silent_string scanned, Literal.passes_of_string scanned⟩
  | number _ _ scanned => exact ⟨silent_number scanned, Literal.passes_of_number scanned⟩
  | word _ _ _ atWord nextEq =>
    subst nextEq
    rw [List.filter_cons_of_neg (by simp [isStructural_ofWord]), List.filter_nil]
    exact ⟨silent_skipWord cursor, passes_skipWord atWord⟩
  | punctuator noComment _ _ _ atPunctuator nextEq =>
    subst nextEq
    rw [Literal.comment_eq_absent] at noComment
    exact ⟨silent_punctuator noClosing noTrim noComment atPunctuator,
      passes_punctuator atPunctuator⟩

/-! ## Steps -/

/-- A state and a place follow others by tokens that a skim finds or passes. -/
def Follows (state : TokenState) (cursor : Cursor) (state' : TokenState) (cursor' : Cursor) :
    Prop :=
  ∃ found : List Token, state'.tokens = found.reverse ++ state.tokens ∧
    Skims state.openTag.isSome cursor (found.filter Token.isStructural) state'.openTag.isSome
      cursor'

theorem Follows.trans {state state' state'' : TokenState} {cursor cursor' cursor'' : Cursor}
    (first : Follows state cursor state' cursor')
    (second : Follows state' cursor' state'' cursor'') :
    Follows state cursor state'' cursor'' := by
  obtain ⟨found, tokensEq, skimmed⟩ := first
  obtain ⟨found', tokensEq', skimmed'⟩ := second
  refine ⟨found ++ found', ?_, ?_⟩
  · rw [tokensEq', tokensEq, List.reverse_append, List.append_assoc]
  · rw [List.filter_append]
    exact skimmed.trans skimmed'

theorem rawText_standard (text : List Char) :
    Grammar.rawText (Setting.initial Delimiters.standard) text =
      match cutBefore? Delimiters.standard.opening.toList text with
      | some (front, _) => front
      | none => text := by
  have someMark : Delimiters.standard.opening.toList.isEmpty = false := by decide
  unfold Grammar.rawText
  cases cut : cutBefore? Delimiters.standard.opening.toList text <;>
    simp [Setting.initial, someMark, cut]

theorem textLength_standard (text : List Char) :
    textLength Delimiters.standard text =
      min (Grammar.rawText (Setting.initial Delimiters.standard) text).length
        (match cutBefore? Delimiters.standard.closing.toList text with
          | some (front, _) => front.length
          | none => text.length) := by
  have someOpening : Delimiters.standard.opening.isEmpty = false := by decide
  have someClosing : Delimiters.standard.closing.isEmpty = false := by decide
  rw [rawText_standard]
  unfold textLength
  simp only [someOpening, someClosing, Bool.false_eq_true, if_false]
  cases cutBefore? Delimiters.standard.opening.toList text <;> rfl

/-- Raw text outside of tags is what a skim takes, or a closing mark cuts it. -/
theorem textLength_spec (text : List Char) :
    textLength Delimiters.standard text =
        (Grammar.rawText (Setting.initial Delimiters.standard) text).length ∨
      startsWithMark (text.drop (textLength Delimiters.standard text))
        Delimiters.standard.closing.toList = true := by
  obtain ⟨after, split, -⟩ := Grammar.rawText_spec (Setting.initial Delimiters.standard) text
  have within : (Grammar.rawText (Setting.initial Delimiters.standard) text).length ≤
      text.length := by
    conv => rhs; rw [split]
    simp
  rw [textLength_standard]
  cases cut : cutBefore? Delimiters.standard.closing.toList text with
  | none => exact .inl (Nat.min_eq_left within)
  | some parts =>
    obtain ⟨front, back⟩ := parts
    obtain ⟨rfl, starts⟩ := cutBefore?_eq_some cut
    dsimp only
    rcases Nat.le_total (Grammar.rawText (Setting.initial Delimiters.standard)
        (front ++ back)).length front.length with le | le
    · exact .inl (Nat.min_eq_left le)
    · right
      rw [Nat.min_eq_right le, List.drop_left]
      exact startsWithMark_iff.mpr ⟨by decide, List.isPrefixOf_iff_prefix.mp starts⟩

theorem passes_mark {cursor : Cursor} {mark : String}
    (starts : startsWithMark cursor.rest mark.toList = true) :
    cursor.Passes (cursor.skip mark.length) := by
  obtain ⟨someMark, isPrefix⟩ := startsWithMark_iff.mp starts
  rw [← String.length_toList]
  refine passes_skip ?_ (List.length_pos_iff.mpr someMark)
  intro atEnd
  rw [atEnd] at isPrefix
  exact someMark (List.prefix_nil.mp isPrefix)

theorem passes_afterOpening {tags : Delimiters} {cursor : Cursor}
    (starts : startsWithMark cursor.rest tags.opening.toList = true) :
    cursor.Passes (afterOpening tags cursor) := by
  unfold afterOpening
  dsimp only
  split
  · exact (passes_mark starts).trans_reaches (reaches_skip _ 1)
  · exact passes_mark starts

theorem follows_openTag {state : TokenState} {cursor : Cursor} (outside : state.openTag = none)
    (starts : startsWithMark cursor.rest Delimiters.standard.opening.toList = true) :
    Follows state cursor (openTag Delimiters.standard state cursor).1
      (openTag Delimiters.standard state cursor).2 := by
  refine ⟨[(openingAt cursor).1], rfl, ?_⟩
  have notDone := (passes_afterOpening starts).1
  have taken : skimStep false cursor =
      some ([(openingAt cursor).1], true, (openingAt cursor).2) := by
    simp [skimStep, skimOutside, notDone, starts]
  rw [outside]
  exact .single taken

theorem follows_text {state : TokenState} {cursor : Cursor} (notDone : cursor.rest ≠ [])
    (outside : state.openTag = none)
    (noTag : startsWithMark cursor.rest Delimiters.standard.opening.toList = false)
    {count : Nat}
    (whole : count =
      (Grammar.rawText (Setting.initial Delimiters.standard) cursor.rest).length) :
    Follows state cursor
      (state.push (.text (String.ofList (cursor.rest.take count)))
        (cursor.spanTo (cursor.skip count)))
      (cursor.skip count) := by
  subst whole
  obtain ⟨after, split, -⟩ :=
    Grammar.rawText_spec (Setting.initial Delimiters.standard) cursor.rest
  have taken : cursor.rest.take
      (Grammar.rawText (Setting.initial Delimiters.standard) cursor.rest).length =
        Grammar.rawText (Setting.initial Delimiters.standard) cursor.rest := by
    conv => lhs; arg 2; rw [split]
    exact List.take_left
  refine ⟨[(textAt cursor).1], ?_, ?_⟩
  · simp [TokenState.push, taken, textAt]
  · have step : skimStep false cursor =
        some ([(textAt cursor).1], false, (textAt cursor).2) := by
      simp [skimStep, skimOutside, notDone, noTag]
    simp only [TokenState.push, outside]
    exact .single step

/-- Outside of tags a step follows a skim unless it or the next one reports. -/
theorem follows_outsideStep {state state' : TokenState} {cursor cursor' : Cursor}
    (stepped : outsideStep Delimiters.standard state cursor = (state', cursor'))
    (notDone : cursor.rest ≠ []) (outside : state.openTag = none)
    (clean : state'.diagnostics = [])
    (noStray : state'.openTag = none →
      startsWithMark cursor'.rest Delimiters.standard.closing.toList = false) :
    Follows state cursor state' cursor' ∧ cursor.Passes cursor' := by
  unfold outsideStep at stepped
  split at stepped
  · rename_i starts
    obtain ⟨rfl, rfl⟩ := Prod.mk.inj stepped.symm
    exact ⟨follows_openTag outside starts, passes_afterOpening starts⟩
  · rename_i noTag
    rw [Bool.not_eq_true] at noTag
    split at stepped
    · obtain ⟨rfl, rfl⟩ := Prod.mk.inj stepped.symm
      simp [TokenState.report] at clean
    · obtain ⟨rfl, rfl⟩ := Prod.mk.inj stepped.symm
      rcases textLength_spec cursor.rest with whole | stray
      · refine ⟨follows_text notDone outside noTag whole, passes_skip notDone ?_⟩
        rw [whole, List.length_pos_iff]
        exact Grammar.rawText_ne_nil notDone noTag
      · have noMark := noStray outside
        rw [rest_skip, stray] at noMark
        exact Bool.noConfusion noMark

/-- Inside of a tag a step follows a skim unless it reports. -/
theorem follows_insideStep {state state' : TokenState} {cursor cursor' : Cursor}
    (stepped : insideStep Delimiters.standard state cursor = (state', cursor'))
    (notDone : cursor.rest ≠ []) (inside : state.openTag.isSome = true)
    (clean : state'.diagnostics = []) :
    Follows state cursor state' cursor' ∧ cursor.Passes cursor' := by
  unfold insideStep at stepped
  dsimp only at stepped
  split at stepped
  · -- The tag that is open is reported.
    obtain ⟨span, isOpen⟩ := Option.isSome_iff_exists.mp inside
    obtain ⟨rfl, rfl⟩ := Prod.mk.inj stepped.symm
    simp [TokenState.reportOpen, isOpen, TokenState.report, TokenState.push] at clean
  · split at stepped
    · rename_i atMark
      have closed : closes cursor.rest = true := by
        rw [Bool.or_comm] at atMark
        exact atMark
      obtain ⟨rfl, rfl⟩ := Prod.mk.inj stepped.symm
      refine ⟨⟨[(closingAt cursor).1], rfl, ?_⟩, ?_⟩
      · have taken : skimStep true cursor =
            some ([(closingAt cursor).1], false, (closingAt cursor).2) := by
          simp [skimStep, skimInside, closed]
        rw [inside]
        exact .single taken
      · exact passes_skip notDone (Nat.lt_of_lt_of_le (by decide) (Nat.le_add_right _ _))
    · rename_i notAtMark
      have noClosing : closes cursor.rest = false := by
        rw [Bool.not_eq_true, Bool.or_comm] at notAtMark
        exact notAtMark
      have stays : ∀ {found : List Token} {next : Cursor},
          Skims true cursor (found.filter Token.isStructural) true next →
            Skims state.openTag.isSome cursor (found.filter Token.isStructural)
              state.openTag.isSome next := by
        intro found next skimmed
        rwa [inside]
      split at stepped
      · rename_i trims
        obtain ⟨rfl, rfl⟩ := Prod.mk.inj stepped.symm
        obtain ⟨isAt, -⟩ := Bool.and_eq_true_iff.mp trims
        obtain ⟨rest, restEq⟩ := isAt_iff.mp isAt
        exact ⟨⟨[⟨.punctuator .minus, cursor.spanTo (cursor.skip 1)⟩], rfl,
          stays (silent_minus restEq.symm noClosing)⟩, passes_skip notDone Nat.one_pos⟩
      · rename_i noTrim
        have noTrim' : (cursor.isAt ['-', '-'] && closes (cursor.rest.drop 1)) = false := by
          rw [Bool.eq_false_iff, Ne, Bool.and_eq_true]
          rintro ⟨isAt, closed⟩
          obtain ⟨rest, restEq⟩ := isAt_iff.mp isAt
          have noMark : startsWithMark (cursor.rest.drop 1)
              Delimiters.standard.closing.toList = false := by
            have marks : Delimiters.standard.closing.toList = ['\x7d', '\x7d'] := by decide
            simp [← restEq, startsWithMark, marks, List.isPrefixOf]
          have split : closes (cursor.rest.drop 1) =
              (startsWithMark (cursor.rest.drop 1) Delimiters.standard.closing.toList ||
                startsWithTrimmed (cursor.rest.drop 1) Delimiters.standard.closing.toList) :=
            rfl
          rw [split, noMark, Bool.false_or] at closed
          exact noTrim (Bool.and_eq_true_iff.mpr ⟨isAt, closed⟩)
        split at stepped
        · rename_i lexeme _ read
          obtain ⟨rfl, rfl⟩ := Prod.mk.inj stepped.symm
          obtain ⟨skimmed, passes⟩ := skims_lexeme noClosing noTrim' read
          exact ⟨⟨[⟨lexeme, cursor.spanTo cursor'⟩], rfl, stays skimmed⟩, passes⟩
        · obtain ⟨rfl, rfl⟩ := Prod.mk.inj stepped.symm
          simp [TokenState.report] at clean
        · obtain ⟨rfl, rfl⟩ := Prod.mk.inj stepped.symm
          simp [TokenState.report] at clean

/-- A step without reports follows a skim, if no closing mark is left for the next. -/
theorem follows_step {state state' : TokenState} {cursor cursor' : Cursor}
    (stepped : step Delimiters.standard state cursor = (state', cursor'))
    (notDone : cursor.rest ≠ []) (clean : state'.diagnostics = [])
    (noStray : state.openTag = none → state'.openTag = none →
      startsWithMark cursor'.rest Delimiters.standard.closing.toList = false) :
    Follows state cursor state' cursor' ∧ cursor'.rest.length < cursor.rest.length := by
  unfold step at stepped
  split at stepped
  · rename_i inside
    have blanks : Follows state cursor state cursor.skipBlanks := by
      refine ⟨[], rfl, ?_⟩
      rw [inside]
      exact silent_skipBlanks cursor
    dsimp only at stepped
    split at stepped
    · rename_i atEnd
      obtain ⟨rfl, rfl⟩ := Prod.mk.inj stepped.symm
      rw [List.isEmpty_iff] at atEnd
      refine ⟨blanks, ?_⟩
      rw [atEnd, List.length_nil, List.length_pos_iff]
      exact notDone
    · rename_i notAtEnd
      rw [List.isEmpty_iff] at notAtEnd
      obtain ⟨follows, passes⟩ := follows_insideStep stepped notAtEnd inside clean
      exact ⟨blanks.trans follows,
        ((reaches_skipBlanks cursor).trans_passes passes).length_rest_lt⟩
  · rename_i outside
    rw [Option.not_isSome_iff_eq_none] at outside
    obtain ⟨follows, passes⟩ := follows_outsideStep stepped notDone outside clean (noStray outside)
    exact ⟨follows, passes.length_rest_lt⟩

theorem reaches_outsideStep (tags : Delimiters) (state : TokenState) (cursor : Cursor) :
    cursor.Reaches (outsideStep tags state cursor).2 := by
  unfold outsideStep openTag
  dsimp only
  split
  · exact reaches_afterOpening tags cursor
  · split <;> exact reaches_skip cursor _

/-! ## Runs -/

section

variable {tags : Delimiters}

theorem clean_of_outsideStep {state : TokenState} {cursor : Cursor}
    (clean : (outsideStep tags state cursor).1.diagnostics = []) :
    state.diagnostics = [] := by
  unfold outsideStep at clean
  split at clean
  · exact clean
  · split at clean
    · simp [TokenState.report] at clean
    · exact clean

theorem clean_of_insideStep {state : TokenState} {cursor : Cursor}
    (clean : (insideStep tags state cursor).1.diagnostics = []) :
    state.diagnostics = [] := by
  unfold insideStep at clean
  dsimp only at clean
  split at clean
  · simp only [openTag, TokenState.push, TokenState.reportOpen] at clean
    split at clean
    · simp [TokenState.report] at clean
    · exact clean
  · split at clean
    · exact clean
    · split at clean
      · exact clean
      · split at clean
        · exact clean
        · simp [TokenState.report] at clean
        · simp [TokenState.report] at clean

/-- A report is never taken back. -/
theorem clean_of_step {state : TokenState} {cursor : Cursor}
    (clean : (step tags state cursor).1.diagnostics = []) :
    state.diagnostics = [] := by
  unfold step at clean
  split at clean
  · dsimp only at clean
    split at clean
    · exact clean
    · exact clean_of_insideStep clean
  · exact clean_of_outsideStep clean

theorem clean_of_run {fuel : Nat} {state : TokenState} {cursor : Cursor}
    (clean : (run tags fuel state cursor).1.diagnostics = []) :
    state.diagnostics = [] := by
  induction fuel generalizing state cursor with
  | zero => exact clean
  | succ fuel ih =>
    unfold run at clean
    split at clean
    · exact clean
    · exact clean_of_step (ih clean)

end

/-- A run without reports goes on from no closing mark outside of tags. -/
theorem noStray_of_run {fuel : Nat} {state : TokenState} {cursor : Cursor}
    (enough : cursor.rest.length ≤ fuel + 1)
    (clean : (run Delimiters.standard fuel state cursor).1.diagnostics = [])
    (outside : state.openTag = none) :
    startsWithMark cursor.rest Delimiters.standard.closing.toList = false := by
  rw [Bool.eq_false_iff]
  intro stray
  obtain ⟨-, after, restEq⟩ := startsWithMark_iff.mp stray
  have marks : Delimiters.standard.closing.toList = ['\x7d', '\x7d'] := by decide
  rw [marks] at restEq
  have noTag : startsWithMark cursor.rest Delimiters.standard.opening.toList = false := by
    have opening : Delimiters.standard.opening.toList = ['\x7b', '\x7b'] := by decide
    simp [← restEq, startsWithMark, opening, List.isPrefixOf]
  cases fuel with
  | zero => simp [← restEq] at enough
  | succ fuel =>
    have notAtEnd : cursor.rest.isEmpty = false := by simp [← restEq]
    simp only [run, notAtEnd, Bool.false_eq_true, if_false] at clean
    have cleanStep := clean_of_run clean
    simp [step, outside, outsideStep, noTag, stray, TokenState.report] at cleanStep

/-- A run without reports follows a skim to the end of the text. -/
theorem follows_run {fuel : Nat} {state state' : TokenState} {cursor cursor' : Cursor}
    (enough : cursor.rest.length ≤ fuel)
    (ran : run Delimiters.standard fuel state cursor = (state', cursor'))
    (clean : state'.diagnostics = []) :
    Follows state cursor state' cursor' ∧ cursor'.rest = [] := by
  induction fuel generalizing state cursor with
  | zero =>
    obtain ⟨rfl, rfl⟩ := Prod.mk.inj ran
    exact ⟨⟨[], rfl, .done⟩, List.length_eq_zero_iff.mp (by omega)⟩
  | succ fuel ih =>
    unfold run at ran
    split at ran
    · rename_i atEnd
      obtain ⟨rfl, rfl⟩ := Prod.mk.inj ran
      exact ⟨⟨[], rfl, .done⟩, List.isEmpty_iff.mp atEnd⟩
    · rename_i notAtEnd
      rw [List.isEmpty_iff] at notAtEnd
      cases stepped : step Delimiters.standard state cursor with
      | mk middle place =>
        rw [stepped] at ran
        dsimp only at ran
        have cleanRun : (run Delimiters.standard fuel middle place).1.diagnostics = [] := by
          rw [ran]
          exact clean
        have noStray : state.openTag = none → middle.openTag = none →
            startsWithMark place.rest Delimiters.standard.closing.toList = false := by
          intro outside outside'
          refine noStray_of_run ?_ cleanRun outside'
          have reaches : cursor.Reaches place := by
            have there : place = (outsideStep Delimiters.standard state cursor).2 := by
              simpa [step, outside] using (congrArg Prod.snd stepped).symm
            exact there ▸ reaches_outsideStep Delimiters.standard state cursor
          exact Nat.le_trans reaches.length_rest_le enough
        obtain ⟨follows, shorter⟩ :=
          follows_step stepped notAtEnd (clean_of_run cleanRun) noStray
        obtain ⟨others, ends⟩ := ih (by omega) ran
        exact ⟨follows.trans others, ends⟩

end Tokenizer

/-- The raw text, the ends of tags and the comments among the tokens of a source are the
outline of its template, one after another as they stand in the source. -/
theorem filter_tokenize_eq_outline {source : List Char} {template : Template}
    {tokens : List Token} (read : parse Delimiters.standard source = .ok template)
    (split : tokenize Delimiters.standard source = .ok tokens) :
    tokens.filter Token.isStructural = template.outline ∧
      template.outline.Pairwise fun first second => first.span.stop ≤ second.span.start := by
  obtain ⟨next, derived⟩ := derivesBlock_of_parse read
  have skimmed : Skims false (Cursor.ofSource source) template.outline false next :=
    derived.skimmed rfl
  refine ⟨?_, skimmed.ordered.2.2⟩
  unfold tokenize at split
  cases ran : Tokenizer.run Delimiters.standard source.length TokenState.initial
      (Cursor.ofSource source) with
  | mk state cursor =>
    rw [ran] at split
    dsimp only at split
    split at split
    · rename_i clean
      obtain rfl := Except.ok.inj split
      rw [List.isEmpty_iff] at clean
      have noneOpen : state.openTag = none := by
        cases isOpen : state.openTag with
        | none => rfl
        | some span =>
          simp [TokenState.reportOpen, isOpen, TokenState.report, TokenState.push] at clean
      have unchanged : state.reportOpen = state := by
        simp [TokenState.reportOpen, noneOpen]
      rw [unchanged] at clean ⊢
      have enough : (Cursor.ofSource source).rest.length ≤ source.length := Nat.le_refl _
      obtain ⟨⟨found, tokensEq, follows⟩, atEnd⟩ := Tokenizer.follows_run enough ran clean
      have same := follows.unique skimmed (skimStep_at_end atEnd)
        (skimStep_at_end derived.atEnd)
      have allTokens : (state.push .done (Span.point cursor.offset)).tokens.reverse =
          found ++ [⟨.done, Span.point cursor.offset⟩] := by
        simp [TokenState.push, tokensEq, TokenState.initial]
      rw [allTokens, List.filter_append, same]
      simp [Token.isStructural]
    · simp at split

/-- A loop with trim markers and a comment. -/
theorem filter_tokenize_eq_outline_loop :
    ∃ template tokens,
      parse Delimiters.standard "a{{- for v in l /* b */ -}} c {{ v }}{{ end }}".toList =
          .ok template ∧
        tokenize Delimiters.standard "a{{- for v in l /* b */ -}} c {{ v }}{{ end }}".toList =
          .ok tokens ∧
        tokens.filter Token.isStructural = template.outline ∧
        template.outline.Pairwise fun first second =>
          first.span.stop ≤ second.span.start := by
  have parses : (parse Delimiters.standard
      "a{{- for v in l /* b */ -}} c {{ v }}{{ end }}".toList).isOk = true := by
    decide
  have splits : (tokenize Delimiters.standard
      "a{{- for v in l /* b */ -}} c {{ v }}{{ end }}".toList).isOk = true := by
    decide
  cases read : parse Delimiters.standard
      "a{{- for v in l /* b */ -}} c {{ v }}{{ end }}".toList with
  | error diagnostic =>
    rw [read] at parses
    cases parses
  | ok template =>
    cases split : tokenize Delimiters.standard
        "a{{- for v in l /* b */ -}} c {{ v }}{{ end }}".toList with
    | error diagnostics =>
      rw [split] at splits
      cases splits
    | ok tokens => exact ⟨template, tokens, rfl, rfl, filter_tokenize_eq_outline read split⟩

end TemplateLang
