import TemplateLang.Proofs.Blanking.Scanning
import TemplateLang.Proofs.Coverage.Progress
import TemplateLang.Proofs.RoundTrip.Derived

/-!
# Tokens read alone

The text of a token, cut out of its source, is one token again, and the same one.  What a look
ahead finds in the text alone it finds in the source too, and no scanner takes part of a text
that ends.
-/

namespace TemplateLang

open Cursor

namespace Literal

variable {text more : List Char}

theorem announced_eq_none (notAnnounced : announced (text ++ more) = none) :
    announced text = none := by
  rw [Option.eq_none_iff_forall_ne_some] at notAnnounced ⊢
  intro base isAnnounced
  rcases announced_eq_some.mp isAnnounced with ⟨letter, rest, rfl, isRadix⟩
  exact notAnnounced base isRadix

theorem startsDecimal_eq_false (notDecimal : startsDecimal (text ++ more) = false) :
    startsDecimal text = false := by
  rw [Bool.eq_false_iff]
  intro starts
  rw [startsDecimal_append starts] at notDecimal
  exact Bool.noConfusion notDecimal

end Literal

namespace Lexeme

/-- Tokens outside of tags: text, the marks that open tags, and the end. -/
def isOutside : Lexeme → Bool
  | text _ | opening _ | done => true
  | _ => false

/-- Whether a tag is open after a token. -/
def opens (inside : Bool) : Lexeme → Bool
  | opening _ => true
  | closing _ => false
  | _ => inside

end Lexeme

namespace Tokenizer

/-- What the tokenizer makes of a text alone, which begins inside of a tag or outside. -/
def alone (tags : Delimiters) (inside : Bool) (text : List Char) : TokenState :=
  (run tags text.length ⟨[], [], if inside then some (Span.point 0) else none⟩
    (Cursor.ofSource text)).1

end Tokenizer

/-- A text is split into this one token.  The end of a source is the token of the empty text. -/
def Lexeme.ReadsBack (tags : Delimiters) (lexeme : Lexeme) (text : List Char) : Prop :=
  match lexeme with
  | .done => tokenize tags text = .ok [⟨.done, Span.point 0⟩]
  | lexeme =>
    (Tokenizer.alone tags (!lexeme.isOutside) text).tokens =
        [⟨lexeme, Span.between 0 (byteLength text)⟩] ∧
      (Tokenizer.alone tags (!lexeme.isOutside) text).diagnostics = []

namespace Tokenizer

variable {tags : Delimiters} {state : TokenState} {cursor cursor' next next' : Cursor}
  {text more : List Char}

/-! ## Looks ahead -/

theorem startsWithMark_eq_false {mark : List Char}
    (noMark : startsWithMark (text ++ more) mark = false) : startsWithMark text mark = false := by
  rw [Bool.eq_false_iff, Ne, startsWithMark_iff] at noMark ⊢
  rintro ⟨someMark, starts⟩
  exact noMark ⟨someMark, starts.trans (List.prefix_append _ _)⟩

theorem startsWithTrimmed_eq_false {mark : List Char}
    (noMark : startsWithTrimmed (text ++ more) mark = false) :
    startsWithTrimmed text mark = false := by
  rw [Bool.eq_false_iff, Ne, startsWithTrimmed_iff] at noMark ⊢
  rintro ⟨rest, rfl, someMark, starts⟩
  exact noMark ⟨rest ++ more, rfl, someMark, starts.trans (List.prefix_append _ _)⟩

theorem startsMark_eq_false (noMark : startsMark tags (text ++ more) = false) :
    startsMark tags text = false := by
  rw [startsMark, Bool.or_eq_false_iff] at noMark ⊢
  exact ⟨startsWithMark_eq_false noMark.1, startsWithMark_eq_false noMark.2⟩

/-! ## Tokens inside of tags -/

/-- No word is found exactly where no character begins one. -/
theorem word_eq_absent :
    word cursor = .absent ↔ ∀ c rest, cursor.rest = c :: rest → isWordStart c = false := by
  unfold word
  split
  · rename_i name atWord
    simp only [reduceCtorEq, false_iff]
    intro notStart
    cases restEq : cursor.rest with
    | nil => simp [peekWord?, Cursor.word, restEq] at atWord
    | cons c rest =>
      rw [Grammar.peekWord?_eq_none restEq (notStart c rest restEq)] at atWord
      cases atWord
  · rename_i noWord
    simp only [true_iff]
    intro c rest starts
    rw [Bool.eq_false_iff]
    intro begins
    simp [peekWord?, Cursor.word, starts, begins, isWordChar_iff.mpr (.inl begins)] at noWord

section

variable (restEq : cursor.rest = cursor'.rest ++ more)

include restEq

theorem comment_absent_alone (absent : Literal.comment cursor = .absent) :
    Literal.comment cursor' = .absent := by
  rw [Literal.comment_eq_absent, Bool.eq_false_iff, Ne, isAt_iff] at absent ⊢
  intro opens
  rw [restEq] at absent
  exact absent (opens.trans (List.prefix_append _ _))

theorem string_absent_alone (absent : Literal.string cursor = .absent) :
    Literal.string cursor' = .absent := by
  rw [Literal.string_eq_absent, Option.eq_none_iff_forall_ne_some] at absent ⊢
  intro quote isQuote
  rcases Literal.quote?_eq_some.mp isQuote with ⟨rest, starts⟩
  refine absent quote (Literal.quote?_eq_some.mpr ⟨rest ++ more, ?_⟩)
  rw [restEq, starts, List.cons_append]

theorem number_absent_alone (absent : Literal.number cursor = .absent) :
    Literal.number cursor' = .absent := by
  rw [Literal.number_eq_absent, restEq] at absent
  rw [Literal.number_eq_absent]
  exact ⟨Literal.announced_eq_none absent.1, Literal.startsDecimal_eq_false absent.2⟩

theorem word_absent_alone (absent : word cursor = .absent) : word cursor' = .absent := by
  rw [word_eq_absent] at absent ⊢
  intro c rest starts
  apply absent c (rest ++ more)
  rw [restEq, starts, List.cons_append]

end

theorem crosses_nil (cursor : Cursor) : cursor.Crosses [] cursor :=
  ⟨rfl, (skip_zero cursor).symm⟩

/-- All of a text is crossed from its start. -/
theorem crosses_source (text : List Char) :
    (Cursor.ofSource text).Crosses text ((Cursor.ofSource text).skip text.length) :=
  crosses_of_rest (List.append_nil text).symm

theorem crosses_word (cursor : Cursor) : cursor.Crosses cursor.word cursor.skipWord := by
  unfold skipWord Cursor.word
  split
  · split
    · exact crosses_takeWhile cursor isWordChar
    · exact ⟨rfl, rfl⟩
  · exact ⟨rfl, rfl⟩

theorem word_alone {name : String} (atWord : cursor.peekWord? = some name) :
    ∃ text, cursor.Crosses text cursor.skipWord ∧
      ∀ {cursor' next' : Cursor}, cursor'.Crosses text next' → next'.rest = [] →
        cursor'.peekWord? = some name ∧ next' = cursor'.skipWord := by
  refine ⟨_, crosses_word cursor, fun {cursor' next'} crosses' atEnd => ?_⟩
  have shaped := isWordShaped_of_peekWord? atWord
  have nameEq : String.ofList cursor.word = name := by
    unfold peekWord? at atWord
    split at atWord
    · exact absurd atWord (by simp)
    · exact Option.some.inj atWord
  rw [← nameEq, String.toList_ofList] at shaped
  have apart : next'.Apart := fun c rest starts => by simp [atEnd] at starts
  rcases word_reads shaped crosses' apart with ⟨atWord', skips⟩
  exact ⟨nameEq ▸ atWord', skips.symm⟩

/-- A punctuator is the longest that begins its own symbol. -/
theorem at?_symbol (p : Punctuator) : Punctuator.at? p.symbol.toList = some p := by
  cases p <;> decide

theorem punctuator_alone {p : Punctuator} (atPunctuator : Punctuator.at? cursor.rest = some p) :
    cursor.Crosses p.symbol.toList (cursor.skip p.symbol.length) ∧
      ∀ {cursor' next' : Cursor}, cursor'.Crosses p.symbol.toList next' → next'.rest = [] →
        Punctuator.at? cursor'.rest = some p ∧ next' = cursor'.skip p.symbol.length := by
  rcases symbol_of_at? atPunctuator with ⟨rest, restEq⟩
  rw [← String.length_toList]
  refine ⟨crosses_of_rest restEq.symm, fun {cursor' next'} crosses' atEnd => ?_⟩
  rcases crosses' with ⟨restEq', rfl⟩
  rw [atEnd, List.append_nil] at restEq'
  rw [restEq']
  exact ⟨at?_symbol p, rfl⟩

/-- A token that is found is found in its text alone. -/
theorem lexeme_alone {found : Lexeme} (read : lexeme cursor = .found found next) :
    ∃ text, cursor.Crosses text next ∧
      ∀ {cursor' next'}, cursor'.Crosses text next' → next'.rest = [] →
        lexeme cursor' = .found found next' := by
  have ended {next' : Cursor} (atEnd : next'.rest = []) : Literal.EndsNumber next'.rest :=
    fun c rest starts => by simp [atEnd] at starts
  have shortened {text : List Char} (crosses : cursor.Crosses text next) {cursor' next' : Cursor}
      (crosses' : cursor'.Crosses text next') (atEnd : next'.rest = []) :
      cursor.rest = cursor'.rest ++ next.rest := by
    rw [crosses.1, crosses'.1, atEnd, List.append_nil]
  simp only [lexeme_eq_found]
  cases lexeme_eq_found.mp read with
  | comment scanned =>
    rcases Literal.comment_found_again scanned with ⟨text, crosses, again⟩
    refine ⟨text, crosses, fun crosses' _ => ?_⟩
    have stands := LexemeStands.comment (again crosses')
    exact stands
  | string noComment scanned =>
    rcases Literal.string_found_again scanned with ⟨text, crosses, again⟩
    refine ⟨text, crosses, fun crosses' atEnd => .string ?_ (again crosses')⟩
    exact comment_absent_alone (shortened crosses crosses' atEnd) noComment
  | number noComment noString scanned =>
    rcases Literal.number_found_again scanned with ⟨text, crosses, again⟩
    refine ⟨text, crosses, fun crosses' atEnd => ?_⟩
    have shorter := shortened crosses crosses' atEnd
    exact .number (comment_absent_alone shorter noComment) (string_absent_alone shorter noString)
      (again crosses' (ended atEnd))
  | word noComment noString noNumber atWord nextEq =>
    subst nextEq
    rcases word_alone atWord with ⟨text, crosses, again⟩
    refine ⟨text, crosses, fun crosses' atEnd => ?_⟩
    have shorter := shortened crosses crosses' atEnd
    rcases again crosses' atEnd with ⟨atWord', nextEq'⟩
    exact .word (comment_absent_alone shorter noComment) (string_absent_alone shorter noString)
      (number_absent_alone shorter noNumber) atWord' nextEq'
  | punctuator noComment noString noNumber noWord atPunctuator nextEq =>
    subst nextEq
    rcases punctuator_alone atPunctuator with ⟨crosses, again⟩
    refine ⟨_, crosses, fun crosses' atEnd => ?_⟩
    have shorter := shortened crosses crosses' atEnd
    rcases again crosses' atEnd with ⟨atPunctuator', nextEq'⟩
    exact .punctuator (comment_absent_alone shorter noComment)
      (string_absent_alone shorter noString) (number_absent_alone shorter noNumber)
      (word_absent_alone shorter noWord) atPunctuator' nextEq'

/-- What is found inside of a tag belongs there and leaves the tag open. -/
theorem side_of_lexeme {found : Lexeme} (read : lexeme cursor = .found found next) :
    found.isOutside = false ∧ ∀ inside, found.opens inside = inside := by
  cases lexeme_eq_found.mp read with
  | comment | string | number | punctuator => exact ⟨rfl, fun _ => rfl⟩
  | word =>
    unfold Lexeme.ofWord
    repeat' split
    all_goals exact ⟨rfl, fun _ => rfl⟩

/-! ## Steps -/

theorem run_at_end {fuel : Nat} (atEnd : cursor.rest = []) :
    run tags fuel state cursor = (state, cursor) := by
  cases fuel with
  | zero => rfl
  | succ fuel => simp [run, atEnd]

/-- A text that one step takes as a token reads back as it. -/
theorem readsBack_of_step {found : Lexeme} {state' : TokenState} (notDone : found ≠ .done)
    (someText : text ≠ [])
    (stepped : step tags ⟨[], [], if !found.isOutside then some (Span.point 0) else none⟩
      (Cursor.ofSource text) = (state', next))
    (crosses : (Cursor.ofSource text).Crosses text next)
    (tokensEq : state'.tokens = [⟨found, (Cursor.ofSource text).spanTo next⟩])
    (clean : state'.diagnostics = []) : found.ReadsBack tags text := by
  have atEnd : next.rest = [] :=
    List.append_cancel_left (crosses.1.symm.trans (List.append_nil _).symm)
  have spanEq : (Cursor.ofSource text).spanTo next = Span.between 0 (byteLength text) := by
    rw [crosses.2, spanTo, offset_skip]
    simp [Cursor.ofSource]
  have ran : alone tags (!found.isOutside) text = state' := by
    rcases List.exists_cons_of_ne_nil someText with ⟨c, rest, rfl⟩
    have notEmpty : (Cursor.ofSource (c :: rest)).rest.isEmpty = false := rfl
    rw [alone, List.length_cons, run, notEmpty, stepped]
    simp only [Bool.false_eq_true, if_false, run_at_end atEnd]
  cases found with
  | done => exact absurd rfl notDone
  | _ => exact ⟨by rw [ran, tokensEq, spanEq], by rw [ran, clean]⟩

/-- Where a token begins: inside of a tag after blanks. -/
def lexemeStart (inside : Bool) (cursor : Cursor) : Cursor :=
  if inside then cursor.skipBlanks else cursor

/-- A step adds a token for a text and stops after it. -/
structure Adds (tags : Delimiters) (inside : Bool) (cursor : Cursor) (token : Token)
    (text : List Char) (next : Cursor) : Prop where
  crosses : (lexemeStart inside cursor).Crosses text next
  span_eq : token.span = (lexemeStart inside cursor).spanTo next
  notEmpty : text ≠ []
  side : token.lexeme.isOutside = !inside
  notDone : token.lexeme ≠ .done
  readsBack : token.lexeme.ReadsBack tags text
  /-- Text outside of tags is kept as it is and goes from no mark to the next one. -/
  plain : ∀ content, token.lexeme = .text content → content = String.ofList text ∧
    startsMark tags (lexemeStart inside cursor).rest = false ∧
    (next.rest = [] ∨ startsMark tags next.rest = true)

theorem not_isAt_of_crosses_nil {c : Char} (crosses : cursor.Crosses [] next)
    (atEnd : next.rest = []) : cursor.isAt [c] ≠ true := by
  rw [Ne, isAt_singleton_iff, crosses.1, atEnd]
  simp

theorem afterOpening_of_trim (trims : (cursor.skip tags.opening.length).isAt ['-'] = true) :
    afterOpening tags cursor = (cursor.skip tags.opening.length).skip 1 := by
  unfold afterOpening
  dsimp only
  rw [if_pos trims]

theorem afterOpening_of_no_trim (noTrim : (cursor.skip tags.opening.length).isAt ['-'] ≠ true) :
    afterOpening tags cursor = cursor.skip tags.opening.length := by
  unfold afterOpening
  dsimp only
  rw [if_neg noTrim]

theorem outsideStep_of_opening (starts : startsWithMark cursor.rest tags.opening.toList = true) :
    outsideStep tags state cursor = openTag tags state cursor :=
  if_pos starts

/-- An opening mark and its trim marker alone. -/
theorem opening_alone (starts : startsWithMark cursor.rest tags.opening.toList = true) :
    ∃ text, cursor.Crosses text (afterOpening tags cursor) ∧
      ∀ {cursor' next'}, cursor'.Crosses text next' → next'.rest = [] →
        startsWithMark cursor'.rest tags.opening.toList = true ∧
          (cursor'.skip tags.opening.length).isAt ['-'] =
            (cursor.skip tags.opening.length).isAt ['-'] ∧
          afterOpening tags cursor' = next' := by
  rcases startsWithMark_iff.mp starts with ⟨someMark, rest, restEq⟩
  have mark : cursor.Crosses tags.opening.toList (cursor.skip tags.opening.length) := by
    rw [← String.length_toList]
    exact crosses_of_rest restEq.symm
  have marked {text : List Char} {cursor' next' : Cursor}
      (crosses' : cursor'.Crosses (tags.opening.toList ++ text) next') :
      startsWithMark cursor'.rest tags.opening.toList = true ∧
        (cursor'.skip tags.opening.length).Crosses text next' := by
    rcases crosses'.split with ⟨middle, ⟨first, rfl⟩, second⟩
    rw [String.length_toList] at second
    exact ⟨startsWithMark_iff.mpr ⟨someMark, _, first.symm⟩, second⟩
  by_cases trims : (cursor.skip tags.opening.length).isAt ['-'] = true
  · rcases isAt_singleton_iff.mp trims with ⟨more, moreEq⟩
    rw [afterOpening_of_trim trims]
    have minus : (cursor.skip tags.opening.length).Crosses ['-'] _ := crosses_of_rest moreEq
    refine ⟨_, mark.trans minus, fun crosses' _ => ?_⟩
    rcases marked crosses' with ⟨starts', trim'⟩
    have trims' := trim'.cons.1
    exact ⟨starts', trims'.trans trims.symm, (afterOpening_of_trim trims').trans trim'.2.symm⟩
  · rw [afterOpening_of_no_trim trims]
    refine ⟨_, mark.trans (crosses_nil _), fun crosses' atEnd => ?_⟩
    rcases marked crosses' with ⟨starts', ends⟩
    have noTrim' := not_isAt_of_crosses_nil (c := '-') ends atEnd
    refine ⟨starts', ?_, ?_⟩
    · rw [Bool.not_eq_true] at trims
      rw [trims]
      exact Bool.eq_false_iff.mpr noTrim'
    · rw [afterOpening_of_no_trim noTrim', ends.2, List.length_nil, skip_zero]

theorem adds_opening (state : TokenState)
    (starts : startsWithMark cursor.rest tags.opening.toList = true) :
    ∃ token text, Adds tags false cursor token text (openTag tags state cursor).2 ∧
      (openTag tags state cursor).1.tokens = token :: state.tokens ∧
      (∃ trims, token.lexeme = .opening trims) := by
  rcases opening_alone starts with ⟨text, crosses, again⟩
  refine ⟨_, text, ?_, rfl, _, rfl⟩
  have notEmpty : text ≠ [] := by
    rintro rfl
    have moved := passes_afterOpening starts
    rw [crosses.2, List.length_nil, skip_zero] at moved
    exact absurd moved.length_rest_lt (Nat.lt_irrefl _)
  have whole := crosses_source text
  rcases again whole (List.drop_length ..) with ⟨starts', trims', nextEq'⟩
  refine ⟨crosses, rfl, notEmpty, rfl, by simp, ?_, by simp⟩
  refine readsBack_of_step (by simp) notEmpty (outsideStep_of_opening starts') ?_ ?_ rfl
  · change (Cursor.ofSource text).Crosses text (afterOpening tags (Cursor.ofSource text))
    rw [nextEq']
    exact whole
  · simp only [TokenState.push]
    rw [trims']

theorem outsideStep_of_text (noMark : startsMark tags cursor.rest = false) :
    outsideStep tags state cursor =
      (state.push (.text (String.ofList (cursor.rest.take (textLength tags cursor.rest))))
        (cursor.spanTo (cursor.skip (textLength tags cursor.rest))),
      cursor.skip (textLength tags cursor.rest)) := by
  rw [startsMark, Bool.or_eq_false_iff] at noMark
  simp [outsideStep, noMark.1, noMark.2]

/-- A text that was cut before a mark goes to its end. -/
theorem textLength_take (tags : Delimiters) (text : List Char) :
    textLength tags (text.take (textLength tags text)) = textLength tags text := by
  have cut := isTextLength_textLength tags text
  have whole : (text.take (textLength tags text)).length = textLength tags text := by
    rw [List.length_take, Nat.min_eq_left cut.within]
  refine (isTextLength_textLength tags _).unique ⟨Nat.le_of_eq whole.symm, ?_, .inl whole.symm⟩
  intro earlier isBefore
  have free := cut.free earlier isBefore
  have split : text.drop earlier = (text.take (textLength tags text)).drop earlier ++
      text.drop (textLength tags text) := by
    rw [← List.drop_append_of_le_length (by omega), List.take_append_drop]
  rw [split] at free
  exact startsMark_eq_false free

theorem adds_text (state : TokenState) (notDone : cursor.rest ≠ [])
    (noMark : startsMark tags cursor.rest = false) :
    ∃ token text, Adds tags false cursor token text (outsideStep tags state cursor).2 ∧
      (outsideStep tags state cursor).1.tokens = token :: state.tokens ∧
      (outsideStep tags state cursor).1.openTag = state.openTag ∧
      (∃ content, token.lexeme = .text content) := by
  have cut := isTextLength_textLength tags cursor.rest
  have positive := textLength_pos notDone noMark
  have takenLength : (cursor.rest.take (textLength tags cursor.rest)).length =
      textLength tags cursor.rest := by
    rw [List.length_take, Nat.min_eq_left cut.within]
  have crosses : cursor.Crosses (cursor.rest.take (textLength tags cursor.rest))
      (cursor.skip (textLength tags cursor.rest)) := by
    have all : cursor.Crosses _ _ :=
      crosses_of_rest (List.take_append_drop (textLength tags cursor.rest) cursor.rest).symm
    rwa [takenLength] at all
  rw [outsideStep_of_text noMark]
  refine ⟨_, cursor.rest.take (textLength tags cursor.rest), ?_, rfl, rfl, _, rfl⟩
  have notEmpty : cursor.rest.take (textLength tags cursor.rest) ≠ [] := by
    rw [← List.length_pos_iff, takenLength]
    exact positive
  refine ⟨crosses, rfl, notEmpty, rfl, by simp, ?_, ?_⟩
  · have noMark' : startsMark tags (Cursor.ofSource
        (cursor.rest.take (textLength tags cursor.rest))).rest = false := by
      rw [← List.take_append_drop (textLength tags cursor.rest) cursor.rest] at noMark
      exact startsMark_eq_false noMark
    have same : textLength tags (Cursor.ofSource
        (cursor.rest.take (textLength tags cursor.rest))).rest =
        (cursor.rest.take (textLength tags cursor.rest)).length := by
      rw [takenLength]
      exact textLength_take tags cursor.rest
    refine readsBack_of_step (by simp) notEmpty (outsideStep_of_text noMark') ?_ ?_ rfl
    · rw [same]
      exact crosses_source _
    · simp only [TokenState.push]
      rw [same]
      simp only [Cursor.ofSource, List.take_length]
  · intro content isText
    rcases Lexeme.text.inj isText with rfl
    refine ⟨rfl, noMark, ?_⟩
    rw [rest_skip]
    refine cut.ends.imp (fun whole => ?_) id
    rw [whole, List.drop_length]

/-! ### Inside of tags -/

theorem skipBlanks_of_crosses (crosses : cursor.skipBlanks.Crosses text next)
    (notEmpty : text ≠ []) : (Cursor.ofSource text).skipBlanks = Cursor.ofSource text := by
  rcases List.exists_cons_of_ne_nil notEmpty with ⟨c, rest, rfl⟩
  have startsAlone : (Cursor.ofSource (c :: rest)).rest = c :: rest := rfl
  apply Grammar.skipBlanks_eq_self startsAlone
  have starts : cursor.rest.dropWhile Unicode.isBlank = c :: (rest ++ next.rest) := by
    rw [← rest_skipWhile]
    exact crosses.1
  have first := List.head?_dropWhile_not Unicode.isBlank cursor.rest
  simpa [starts] using first

/-- The step inside of a tag that a text alone takes. -/
theorem step_alone (crosses : cursor.skipBlanks.Crosses text next) (notEmpty : text ≠ []) :
    step tags ⟨[], [], some (Span.point 0)⟩ (Cursor.ofSource text) =
      insideStep tags ⟨[], [], some (Span.point 0)⟩ (Cursor.ofSource text) := by
  have notAtEnd : (Cursor.ofSource text).rest.isEmpty = false := by
    simpa [Cursor.ofSource] using notEmpty
  simp [step, skipBlanks_of_crosses crosses notEmpty, notAtEnd]

/-- A token inside of a tag, from the step that its text alone takes. -/
theorem adds_inside {state' : TokenState} {found : Lexeme}
    (crosses : cursor.skipBlanks.Crosses text next) (notEmpty : text ≠ [])
    (side : found.isOutside = false)
    (stepped : insideStep tags ⟨[], [], some (Span.point 0)⟩ (Cursor.ofSource text) =
      (state', (Cursor.ofSource text).skip text.length))
    (tokensEq : state'.tokens = [⟨found, (Cursor.ofSource text).spanTo
      ((Cursor.ofSource text).skip text.length)⟩])
    (clean : state'.diagnostics = []) :
    Adds tags true cursor ⟨found, cursor.skipBlanks.spanTo next⟩ text next := by
  have notDone : found ≠ .done := by
    rintro rfl
    cases side
  refine ⟨crosses, rfl, notEmpty, side, notDone, ?_, ?_⟩
  · apply readsBack_of_step notDone notEmpty _ (crosses_source text) tokensEq clean
    rw [side]
    exact (step_alone crosses notEmpty).trans stepped
  · intro content isText
    dsimp only at isText
    rw [isText] at side
    cases side

section

variable (noOpening : startsWithMark cursor.rest tags.opening.toList = false)

include noOpening

theorem insideStep_of_closing (state : TokenState)
    (closes : (startsWithTrimmed cursor.rest tags.closing.toList ||
      startsWithMark cursor.rest tags.closing.toList) = true) :
    insideStep tags state cursor =
      let trims := startsWithTrimmed cursor.rest tags.closing.toList
      let next := cursor.skip (tags.closing.toList.length + if trims then 1 else 0)
      ({ state.push (.closing trims) (cursor.spanTo next) with openTag := none }, next) := by
  simp only [insideStep, noOpening, closes, Bool.false_eq_true, if_false, if_true]

variable (noClosing : (startsWithTrimmed cursor.rest tags.closing.toList ||
  startsWithMark cursor.rest tags.closing.toList) = false)

include noClosing

theorem insideStep_of_minus (state : TokenState) (minus : (cursor.isAt ['-', '-'] &&
    startsWithTrimmed (cursor.rest.drop 1) tags.closing.toList) = true) :
    insideStep tags state cursor =
      (state.push (.punctuator .minus) (cursor.spanTo (cursor.skip 1)), cursor.skip 1) := by
  simp only [insideStep, noOpening, noClosing, minus, Bool.false_eq_true, if_false, if_true]

theorem insideStep_of_lexeme (state : TokenState) {found : Lexeme}
    (noMinus : (cursor.isAt ['-', '-'] &&
      startsWithTrimmed (cursor.rest.drop 1) tags.closing.toList) = false)
    (read : lexeme cursor = .found found next) :
    insideStep tags state cursor = (state.push found (cursor.spanTo next), next) := by
  simp only [insideStep, noOpening, noClosing, noMinus, read, Bool.false_eq_true, if_false]

end

/-- A closing mark and its trim marker alone. -/
theorem closing_alone (state : TokenState)
    (noOpening : startsWithMark cursor.rest tags.opening.toList = false)
    (closes : (startsWithTrimmed cursor.rest tags.closing.toList ||
      startsWithMark cursor.rest tags.closing.toList) = true) :
    ∃ text, text ≠ [] ∧ cursor.Crosses text (insideStep tags state cursor).2 ∧
      startsWithTrimmed (Cursor.ofSource text).rest tags.closing.toList =
        startsWithTrimmed cursor.rest tags.closing.toList ∧
      startsWithMark (Cursor.ofSource text).rest tags.opening.toList = false ∧
      (startsWithTrimmed (Cursor.ofSource text).rest tags.closing.toList ||
        startsWithMark (Cursor.ofSource text).rest tags.closing.toList) = true ∧
      text.length = tags.closing.toList.length +
        if startsWithTrimmed cursor.rest tags.closing.toList then 1 else 0 := by
  rw [insideStep_of_closing noOpening state closes]
  dsimp only
  by_cases trims : startsWithTrimmed cursor.rest tags.closing.toList = true
  · rcases startsWithTrimmed_iff.mp trims with ⟨rest, restEq, someMark, more, rfl⟩
    have crosses : cursor.Crosses ('-' :: tags.closing.toList) _ :=
      crosses_of_rest restEq
    have trims' : startsWithTrimmed ('-' :: tags.closing.toList) tags.closing.toList = true :=
      startsWithTrimmed_iff.mpr ⟨_, rfl, someMark, List.prefix_refl _⟩
    rw [trims, if_pos rfl]
    refine ⟨_, by simp, crosses, trims', ?_, Bool.or_eq_true_iff.mpr (.inl trims'), rfl⟩
    rw [restEq, ← List.cons_append] at noOpening
    exact startsWithMark_eq_false noOpening
  · rw [Bool.not_eq_true] at trims
    rw [trims, Bool.false_or] at closes
    rcases startsWithMark_iff.mp closes with ⟨someMark, more, restEq⟩
    have crosses : cursor.Crosses tags.closing.toList _ := crosses_of_rest restEq.symm
    have starts' : startsWithMark tags.closing.toList tags.closing.toList = true :=
      startsWithMark_iff.mpr ⟨someMark, List.prefix_refl _⟩
    have noTrim' : startsWithTrimmed tags.closing.toList tags.closing.toList = false := by
      rw [← restEq] at trims
      exact startsWithTrimmed_eq_false trims
    have noOpening' : startsWithMark tags.closing.toList tags.opening.toList = false := by
      rw [← restEq] at noOpening
      exact startsWithMark_eq_false noOpening
    rw [trims]
    simp only [Bool.false_eq_true, if_false, Nat.add_zero]
    exact ⟨_, someMark, crosses, noTrim', noOpening', Bool.or_eq_true_iff.mpr (.inr starts'), rfl⟩

/-- Where no mark is, none is in the text alone. -/
theorem noMarks_alone (crosses : cursor.Crosses text next)
    (noOpening : startsWithMark cursor.rest tags.opening.toList = false)
    (noClosing : (startsWithTrimmed cursor.rest tags.closing.toList ||
      startsWithMark cursor.rest tags.closing.toList) = false) :
    startsWithMark (Cursor.ofSource text).rest tags.opening.toList = false ∧
      (startsWithTrimmed (Cursor.ofSource text).rest tags.closing.toList ||
        startsWithMark (Cursor.ofSource text).rest tags.closing.toList) = false := by
  rw [crosses.1] at noOpening noClosing
  rw [Bool.or_eq_false_iff] at noClosing ⊢
  exact ⟨startsWithMark_eq_false noOpening, startsWithTrimmed_eq_false noClosing.1,
    startsWithMark_eq_false noClosing.2⟩

theorem noMinus_alone (crosses : cursor.Crosses text next) (notEmpty : text ≠ [])
    (noMinus : (cursor.isAt ['-', '-'] &&
      startsWithTrimmed (cursor.rest.drop 1) tags.closing.toList) = false) :
    ((Cursor.ofSource text).isAt ['-', '-'] &&
      startsWithTrimmed ((Cursor.ofSource text).rest.drop 1) tags.closing.toList) = false := by
  rw [Bool.and_eq_false_iff] at noMinus ⊢
  rcases noMinus with noMinus | noTrim
  · left
    rw [Bool.eq_false_iff, Ne, isAt_iff] at noMinus ⊢
    rw [crosses.1] at noMinus
    exact fun starts => noMinus (List.IsPrefix.trans starts (List.prefix_append _ _))
  · right
    rw [crosses.1, List.drop_append_of_le_length (List.length_pos_iff.mpr notEmpty)] at noTrim
    exact startsWithTrimmed_eq_false noTrim

theorem lexeme_minus : lexeme (Cursor.ofSource ['-']) =
    .found (.punctuator .minus) ((Cursor.ofSource ['-']).skip 1) := by
  decide

/-- A step inside of a tag that reports nothing adds a token. -/
theorem adds_insideStep {state' : TokenState}
    (stepped : insideStep tags state cursor.skipBlanks = (state', next))
    (inside : state.openTag.isSome = true)
    (clean : state'.diagnostics = []) :
    ∃ token text, Adds tags true cursor token text next ∧
      state'.tokens = token :: state.tokens ∧
      state'.openTag.isSome = token.lexeme.opens true := by
  by_cases opening : startsWithMark cursor.skipBlanks.rest tags.opening.toList = true
  · -- The tag that is open is reported.
    rcases Option.isSome_iff_exists.mp inside with ⟨span, isOpen⟩
    simp only [insideStep, opening, if_true] at stepped
    rcases Prod.mk.inj stepped with ⟨rfl, rfl⟩
    simp [TokenState.reportOpen, isOpen, TokenState.report, TokenState.push] at clean
  rw [Bool.not_eq_true] at opening
  by_cases closes : (startsWithTrimmed cursor.skipBlanks.rest tags.closing.toList ||
      startsWithMark cursor.skipBlanks.rest tags.closing.toList) = true
  · rcases closing_alone state opening closes with
      ⟨text, notEmpty, crosses, trims', noOpening', closes', lengthEq⟩
    rw [stepped] at crosses
    have alone := insideStep_of_closing noOpening' ⟨[], [], some (Span.point 0)⟩ closes'
    rw [insideStep_of_closing opening state closes] at stepped
    rcases Prod.mk.inj stepped with ⟨rfl, rfl⟩
    dsimp only at alone
    rw [trims', ← lengthEq] at alone
    exact ⟨_, text, adds_inside crosses notEmpty rfl alone rfl rfl, rfl, rfl⟩
  rw [Bool.not_eq_true] at closes
  by_cases minus : (cursor.skipBlanks.isAt ['-', '-'] &&
      startsWithTrimmed (cursor.skipBlanks.rest.drop 1) tags.closing.toList) = true
  · rw [insideStep_of_minus opening closes state minus] at stepped
    rcases Prod.mk.inj stepped with ⟨rfl, rfl⟩
    rcases isAt_iff.mp (Bool.and_eq_true_iff.mp minus).1 with ⟨rest, restEq⟩
    have crosses : cursor.skipBlanks.Crosses ['-'] (cursor.skipBlanks.skip 1) :=
      crosses_of_rest restEq.symm
    rcases noMarks_alone crosses opening closes with ⟨noOpening', noClosing'⟩
    have alone := insideStep_of_lexeme noOpening' noClosing' ⟨[], [], some (Span.point 0)⟩ rfl
      lexeme_minus
    exact ⟨_, ['-'], adds_inside crosses (by simp) rfl alone rfl rfl, rfl, inside⟩
  rw [Bool.not_eq_true] at minus
  simp only [insideStep, opening, closes, minus, Bool.false_eq_true, if_false] at stepped
  split at stepped
  · rename_i found next' read
    rcases Prod.mk.inj stepped with ⟨rfl, rfl⟩
    rcases lexeme_alone read with ⟨text, crosses, again⟩
    rcases side_of_lexeme read with ⟨side, keeps⟩
    have notEmpty : text ≠ [] := by
      rintro rfl
      have moved := passes_of_lexeme read
      rw [crosses.2, List.length_nil, skip_zero] at moved
      exact absurd moved.length_rest_lt (Nat.lt_irrefl _)
    rcases noMarks_alone crosses opening closes with ⟨noOpening', noClosing'⟩
    have alone := insideStep_of_lexeme noOpening' noClosing' ⟨[], [], some (Span.point 0)⟩
      (noMinus_alone crosses notEmpty minus)
      (again (crosses_source text) (List.drop_length ..))
    refine ⟨_, text, adds_inside crosses notEmpty side alone rfl rfl, rfl, ?_⟩
    rw [keeps]
    exact inside
  · rcases Prod.mk.inj stepped with ⟨rfl, rfl⟩
    simp [TokenState.report] at clean
  · rcases Prod.mk.inj stepped with ⟨rfl, rfl⟩
    simp [TokenState.report] at clean

end Tokenizer

end TemplateLang
