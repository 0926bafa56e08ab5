import TemplateLang.Proofs.Coverage.Alone
import TemplateLang.Proofs.Coverage.Positions

/-!
# The token stream covers the source

The tokens of a source stand in it one after the other.  Only blanks inside of tags are between
them, and the text of each token alone is that token again.  The runs of the tokenizer that
report nothing are streams: sequences of tokens, each added by a step from where the one before
ended.  All else is read off a stream by induction.
-/

namespace TemplateLang

open Cursor

/-- Whether a tag is open after tokens. -/
def isOpenAfter (inside : Bool) (tokens : List Token) : Bool :=
  tokens.foldl (fun inside token => token.lexeme.opens inside) inside

/-- The marks of tags, in the order of a source: each that opens a tag is followed by one that
closes it. -/
inductive Alternates : List Lexeme → Prop where
  | none : Alternates []
  | tag (trims trims' : Bool) {others : List Lexeme} (rest : Alternates others) :
      Alternates (.opening trims :: .closing trims' :: others)

namespace Lexeme

/-- The marks of tags. -/
def isMark : Lexeme → Bool
  | opening _ | closing _ => true
  | _ => false

/-- Text outside of tags. -/
def isText : Lexeme → Bool
  | text _ => true
  | _ => false

end Lexeme

/-- Where a token stands: its text is at its span and is split into this token again, and the
line of a listing gives the positions that are counted along the source. -/
def Token.StandsIn (tags : Delimiters) (source : List Char) (token : Token) : Prop :=
  ∃ before text after, source = before ++ text ++ after ∧ token.span.start = byteLength before ∧
    token.span.stop = byteLength (before ++ text) ∧ token.lexeme.ReadsBack tags text ∧
    token.describe (LineIndex.ofSource source) =
      (Position.after before).describe ++ "-" ++ (Position.after (before ++ text)).describe ++
        " " ++ token.lexeme.className ++ token.lexeme.details

/-- Tokens cover a source. -/
structure Covers (tags : Delimiters) (source : List Char) (tokens : List Token) : Prop where
  ordered : tokens.Pairwise fun first second => first.span.stop ≤ second.span.start
  /-- A character that is in no token is a blank in a tag. -/
  between : ∀ before c after, source = before ++ c :: after →
    (∃ token ∈ tokens, token.span.start ≤ byteLength before ∧
      byteLength before < token.span.stop) ∨
    Unicode.isBlank c = true ∧
      isOpenAfter false (tokens.filter fun token => token.span.stop ≤ byteLength before) = true
  alternate : Alternates ((tokens.map Token.lexeme).filter Lexeme.isMark)
  /-- Text, opening marks and the end stand outside of tags, all other tokens inside. -/
  sides : ∀ front token back, tokens = front ++ token :: back →
    token.lexeme.isOutside = !isOpenAfter false front
  someText : ∀ token ∈ tokens, token.lexeme ≠ .text ""
  apart : ∀ front first second back, tokens = front ++ first :: second :: back →
    first.lexeme.isText = true → second.lexeme.isText = false
  ends : ∃ front, tokens = front ++ [⟨.done, Span.point (byteLength source)⟩] ∧
    ∀ token ∈ front, token.lexeme ≠ .done
  stand : ∀ token ∈ tokens, token.StandsIn tags source

namespace Tokenizer

variable {tags : Delimiters} {source : List Char} {state state' : TokenState}
  {cursor next : Cursor} {token : Token} {tokens : List Token} {text : List Char} {inside : Bool}

/-! ## Steps -/

/-- A step that reports nothing adds a token, or passes the blanks at the end of the text. -/
theorem adds_step (notDone : cursor.rest ≠ []) (stepped : step tags state cursor = (state', next))
    (clean : state'.diagnostics = []) :
    (state.openTag.isSome = true ∧ state' = state ∧ next.rest = []) ∨
      ∃ token text, Adds tags state.openTag.isSome cursor token text next ∧
        state'.tokens = token :: state.tokens ∧
        state'.openTag.isSome = token.lexeme.opens state.openTag.isSome := by
  unfold step at stepped
  split at stepped
  · rename_i inside
    dsimp only at stepped
    split at stepped
    · rename_i atEnd
      rcases Prod.mk.inj stepped with ⟨rfl, rfl⟩
      exact .inl ⟨inside, rfl, List.isEmpty_iff.mp atEnd⟩
    · right
      rw [inside]
      exact adds_insideStep stepped inside clean
  · rename_i outside
    right
    rw [Bool.not_eq_true] at outside
    rw [outside]
    by_cases opening : startsWithMark cursor.rest tags.opening.toList = true
    · rw [outsideStep_of_opening opening] at stepped
      rcases adds_opening state opening with ⟨token, text, adds, tokensEq, trims, isMark⟩
      rw [stepped] at adds tokensEq
      refine ⟨token, text, adds, tokensEq, ?_⟩
      rw [isMark, ← (Prod.mk.inj stepped).1]
      rfl
    · rw [Bool.not_eq_true] at opening
      by_cases closing : startsWithMark cursor.rest tags.closing.toList = true
      · -- A closing mark outside of a tag is reported.
        simp only [outsideStep, opening, closing, if_true, Bool.false_eq_true, if_false] at stepped
        rw [← (Prod.mk.inj stepped).1] at clean
        simp [TokenState.report] at clean
      · rw [Bool.not_eq_true] at closing
        have noMark : startsMark tags cursor.rest = false := by
          rw [startsMark, opening, closing]
          rfl
        rcases adds_text state notDone noMark with
          ⟨token, text, adds, tokensEq, tagEq, content, isText⟩
        rw [stepped] at adds tokensEq tagEq
        refine ⟨token, text, adds, tokensEq, ?_⟩
        rw [tagEq, outside, isText]
        rfl

/-! ## Runs -/

/-- Tokens that steps add one after another, from inside of a tag or outside, up to the end of
the text. -/
inductive Stream (tags : Delimiters) : Bool → Cursor → List Token → Prop where
  | done {cursor : Cursor} (atEnd : cursor.rest = []) :
      Stream tags false cursor [⟨.done, Span.point cursor.offset⟩]
  | token {inside : Bool} {cursor next : Cursor} {token : Token} {text : List Char}
      {tokens : List Token} (adds : Adds tags inside cursor token text next)
      (others : Stream tags (token.lexeme.opens inside) next tokens) :
      Stream tags inside cursor (token :: tokens)

theorem stream_at_end (atEnd : cursor.rest = []) (outside : state.openTag = none) :
    ∃ tokens, Stream tags state.openTag.isSome cursor
        (tokens ++ [⟨.done, Span.point cursor.offset⟩]) ∧
      state.tokens = tokens.reverse ++ state.tokens := by
  refine ⟨[], ?_, rfl⟩
  rw [outside]
  exact .done atEnd

/-- A run that reports nothing and ends outside of tags is a stream. -/
theorem stream_of_run {fuel : Nat} (enough : cursor.rest.length ≤ fuel)
    (ran : run tags fuel state cursor = (state', next)) (clean : state'.diagnostics = [])
    (outside : state'.openTag = none) :
    ∃ tokens, Stream tags state.openTag.isSome cursor
        (tokens ++ [⟨.done, Span.point next.offset⟩]) ∧
      state'.tokens = tokens.reverse ++ state.tokens := by
  induction fuel generalizing state cursor with
  | zero =>
    rcases Prod.mk.inj ran with ⟨rfl, rfl⟩
    exact stream_at_end (List.length_eq_zero_iff.mp (Nat.le_zero.mp enough)) outside
  | succ fuel ih =>
    unfold run at ran
    split at ran
    · rename_i atEnd
      rcases Prod.mk.inj ran with ⟨rfl, rfl⟩
      exact stream_at_end (List.isEmpty_iff.mp atEnd) outside
    · rename_i notAtEnd
      rw [List.isEmpty_iff] at notAtEnd
      have shorter := (passes_step tags state notAtEnd).length_rest_lt
      cases stepped : step tags state cursor with
      | mk middle place =>
        rw [stepped] at ran shorter
        dsimp only at ran shorter
        have cleanRun : (run tags fuel middle place).1.diagnostics = [] := by
          rw [ran]
          exact clean
        rcases adds_step notAtEnd stepped (clean_of_run cleanRun) with
          ⟨open', rfl, atEnd⟩ | ⟨token, text, adds, tokensEq, tagEq⟩
        · -- The tag is still open at the end of the text.
          rw [run_at_end atEnd] at ran
          rw [(Prod.mk.inj ran).1, outside] at open'
          cases open'
        · rcases ih (by omega) ran with ⟨tokens, stream, laterEq⟩
          rw [tagEq] at stream
          refine ⟨token :: tokens, .token adds stream, ?_⟩
          rw [laterEq, tokensEq]
          simp

/-! ## Tokens of a step -/

theorem reaches_lexemeStart (inside : Bool) (cursor : Cursor) :
    cursor.Reaches (lexemeStart inside cursor) := by
  cases inside with
  | false => exact .refl cursor
  | true => exact reaches_skipBlanks cursor

namespace Adds

variable (adds : Adds tags inside cursor token text next)

include adds

theorem reaches : (lexemeStart inside cursor).Reaches next :=
  adds.crosses.2 ▸ reaches_skip _ _

theorem start_eq : token.span.start = (lexemeStart inside cursor).offset := by
  rw [adds.span_eq]
  rfl

theorem stop_eq : token.span.stop = next.offset := by
  rw [adds.span_eq, stop_spanTo adds.reaches]

theorem in_source (isPlace : cursor.In source) : next.In source :=
  (isPlace.reaches (reaches_lexemeStart inside cursor)).reaches adds.reaches

theorem standsIn (isPlace : cursor.In source) : token.StandsIn tags source := by
  have startsIn := isPlace.reaches (reaches_lexemeStart inside cursor)
  rcases startsIn.spells adds.crosses.1 adds.reaches with ⟨before, after, split, starts, stops⟩
  rw [← adds.span_eq] at starts stops
  refine ⟨before, text, after, split, starts, stops, adds.readsBack, ?_⟩
  rw [Token.describe, starts, stops, LineIndex.position_eq split,
    LineIndex.position_eq (split.trans (List.append_assoc ..))]

end Adds

/-! ## Streams -/

namespace Stream

/-- The tokens of a stream stand ahead. -/
theorem ahead (stream : Stream tags inside cursor tokens) :
    ∀ token ∈ tokens, cursor.offset ≤ token.span.start := by
  induction stream with
  | done => simp [Span.point]
  | @token inside cursor next token text tokens adds _ ih =>
    have first := (reaches_lexemeStart inside cursor).offset_le
    have second := adds.reaches.offset_le
    intro other isIn
    rcases List.mem_cons.mp isIn with rfl | isIn
    · rw [adds.start_eq]
      exact first
    · have := ih other isIn
      omega

theorem ordered (stream : Stream tags inside cursor tokens) :
    tokens.Pairwise fun first second => first.span.stop ≤ second.span.start := by
  induction stream with
  | done => exact List.pairwise_singleton _ _
  | token adds others ih =>
    refine List.Pairwise.cons (fun other isIn => ?_) ih
    rw [adds.stop_eq]
    exact others.ahead other isIn

theorem stand (stream : Stream tags inside cursor tokens) (isPlace : cursor.In source) :
    ∀ token ∈ tokens, token.StandsIn tags source := by
  induction stream with
  | @done cursor atEnd =>
    intro token isIn
    rcases List.mem_singleton.mp isIn with rfl
    have whole : source = source ++ [] ++ [] := by simp
    have offsetEq := isPlace.offset_eq_of_rest_eq_nil atEnd
    refine ⟨source, [], [], whole, offsetEq, ?_, rfl, ?_⟩
    · rw [List.append_nil]
      exact offsetEq
    · simp only [Token.describe, Span.point, offsetEq, List.append_nil]
      rw [LineIndex.position_eq (List.append_nil source).symm]
  | token adds _ ih =>
    exact List.forall_mem_cons.mpr ⟨adds.standsIn isPlace, ih (adds.in_source isPlace)⟩

theorem sides (stream : Stream tags inside cursor tokens) (front : List Token) (token : Token)
    (back : List Token) (split : tokens = front ++ token :: back) :
    token.lexeme.isOutside = !isOpenAfter inside front := by
  induction stream generalizing front with
  | done =>
    cases front with
    | nil =>
      rcases List.cons.inj split with ⟨rfl, -⟩
      rfl
    | cons first front => simp at split
  | token adds _ ih =>
    cases front with
    | nil =>
      rcases List.cons.inj split with ⟨rfl, -⟩
      exact adds.side
    | cons first front =>
      rcases List.cons.inj split with ⟨rfl, others⟩
      exact ih front others

/-- Marks that alternate; inside of a tag they begin with one that closes it. -/
def AlternatesFrom : Bool → List Lexeme → Prop
  | false, marks => Alternates marks
  | true, marks => ∃ trims others, marks = .closing trims :: others ∧ Alternates others

theorem alternates (stream : Stream tags inside cursor tokens) :
    AlternatesFrom inside ((tokens.map Token.lexeme).filter Lexeme.isMark) := by
  induction stream with
  | done => exact .none
  | @token inside cursor next token text tokens adds _ ih =>
    have side := adds.side
    cases isLexeme : token.lexeme with
    | opening trims =>
      rw [isLexeme] at side ih
      obtain rfl : inside = false := by simpa [Lexeme.isOutside] using side
      rcases ih with ⟨trims', others, marks, rest⟩
      rw [List.map_cons, isLexeme, List.filter_cons_of_pos rfl, marks]
      exact .tag trims trims' rest
    | closing trims =>
      rw [isLexeme] at side ih
      obtain rfl : inside = true := by simpa [Lexeme.isOutside] using side
      refine ⟨trims, _, ?_, ih⟩
      rw [List.map_cons, isLexeme, List.filter_cons_of_pos rfl]
    | _ =>
      rw [isLexeme] at ih
      rw [List.map_cons, isLexeme, List.filter_cons_of_neg Bool.false_ne_true]
      exact ih

theorem someText (stream : Stream tags inside cursor tokens) :
    ∀ token ∈ tokens, token.lexeme ≠ .text "" := by
  induction stream with
  | done => simp
  | token adds _ ih =>
    refine List.forall_mem_cons.mpr ⟨fun isText => ?_, ih⟩
    have contentEq := (adds.plain "" isText).1
    exact adds.notEmpty (by simpa using contentEq.symm)

/-- After a text comes a mark or the end, and no text begins there. -/
theorem apart (stream : Stream tags inside cursor tokens) (front : List Token)
    (first second : Token) (back : List Token) (split : tokens = front ++ first :: second :: back)
    (isText : first.lexeme.isText = true) : second.lexeme.isText = false := by
  induction stream generalizing front with
  | done =>
    have lengths := congrArg List.length split
    simp only [List.length_append, List.length_cons, List.length_nil] at lengths
    omega
  | @token inside cursor next token text tokens adds others ih =>
    cases front with
    | cons other front =>
      rcases List.cons.inj split with ⟨rfl, later⟩
      exact ih front later
    | nil =>
      rcases List.cons.inj split with ⟨rfl, rfl⟩
      have side := adds.side
      cases isLexeme : token.lexeme with
      | text content =>
        rw [isLexeme] at side others
        obtain rfl : inside = false := by simpa [Lexeme.isOutside] using side
        have ends := (adds.plain content isLexeme).2.2
        cases others with
        | done => rfl
        | token adds' _ =>
          cases isLexeme' : second.lexeme with
          | text content' =>
            have noMark := (adds'.plain content' isLexeme').2.1
            rcases ends with atEnd | starts
            · have nothing : [] = _ ++ _ := atEnd.symm.trans adds'.crosses.1
              exact absurd (List.append_eq_nil_iff.mp nothing.symm).1 adds'.notEmpty
            · exact absurd (starts.symm.trans noMark) (by decide)
          | _ => rfl
      | _ =>
        rw [isLexeme] at isText
        cases isText

theorem ends (stream : Stream tags inside cursor tokens) (isPlace : cursor.In source) :
    ∃ front, tokens = front ++ [⟨.done, Span.point (byteLength source)⟩] ∧
      ∀ token ∈ front, token.lexeme ≠ .done := by
  induction stream with
  | done atEnd =>
    rw [isPlace.offset_eq_of_rest_eq_nil atEnd]
    exact ⟨[], rfl, by simp⟩
  | @token inside cursor next token text tokens adds others ih =>
    rcases ih (adds.in_source isPlace) with ⟨front, rfl, notDone⟩
    exact ⟨token :: front, rfl, List.forall_mem_cons.mpr ⟨adds.notDone, notDone⟩⟩

/-- A character of a text in two parts is in the first or in the second. -/
theorem mem_or_later {front back before after : List Char} {c : Char}
    (split : front ++ back = before ++ c :: after) :
    (c ∈ front ∧ byteLength before < byteLength front) ∨
      ∃ later, before = front ++ later ∧ back = later ++ c :: after := by
  rcases List.append_eq_append_iff.mp split with ⟨later, rfl, backEq⟩ | ⟨more, rfl, rest⟩
  · exact .inr ⟨later, rfl, backEq⟩
  · cases more with
    | nil => exact .inr ⟨[], by simp, rest.symm⟩
    | cons d more =>
      rcases List.cons.inj rest with ⟨rfl, -⟩
      have sizePositive := c.utf8Size_pos
      refine .inl ⟨List.mem_append_right _ List.mem_cons_self, ?_⟩
      rw [byteLength_append, byteLength_cons]
      omega

/-- A character ahead is in a token, or it is a blank inside of a tag. -/
theorem between (stream : Stream tags inside cursor tokens) {before after : List Char} {c : Char}
    (split : cursor.rest = before ++ c :: after) :
    (∃ token ∈ tokens, token.span.start ≤ cursor.offset + byteLength before ∧
        cursor.offset + byteLength before < token.span.stop) ∨
      Unicode.isBlank c = true ∧ isOpenAfter inside (tokens.filter fun token =>
        token.span.stop ≤ cursor.offset + byteLength before) = true := by
  induction stream generalizing before with
  | done atEnd => simp [atEnd] at split
  | @token inside cursor next token text tokens adds others ih =>
    rcases (reaches_lexemeStart inside cursor).exists_passed with ⟨blanks, restEq, startEq⟩
    rcases adds.reaches.exists_passed with ⟨passed, startRest, nextEq⟩
    rw [restEq] at split
    rcases mem_or_later split with ⟨isBlank, here⟩ | ⟨later, rfl, split'⟩
    · -- Before the token.
      right
      cases inside with
      | false =>
        have none : blanks = [] := by
          have same : [] ++ cursor.rest = blanks ++ cursor.rest := restEq
          exact (List.append_cancel_right same).symm
        rw [none] at isBlank
        exact absurd isBlank List.not_mem_nil
      | true =>
        have run : blanks = cursor.rest.takeWhile Unicode.isBlank := by
          have taken := (crosses_takeWhile cursor Unicode.isBlank).1
          exact List.append_cancel_right (restEq.symm.trans taken)
        rw [run] at isBlank
        refine ⟨List.all_eq_true.mp List.all_takeWhile c isBlank, ?_⟩
        have noneBefore : (token :: tokens).filter (fun token =>
            token.span.stop ≤ cursor.offset + byteLength before) = [] := by
          have startsAfter : ∀ other ∈ token :: tokens,
              (lexemeStart true cursor).offset ≤ other.span.start := by
            refine List.forall_mem_cons.mpr ⟨Nat.le_of_eq adds.start_eq.symm, fun other isIn => ?_⟩
            exact Nat.le_trans adds.reaches.offset_le (others.ahead other isIn)
          rw [List.filter_eq_nil_iff]
          intro other isIn stops
          have starts := startsAfter other isIn
          have ordered := other.span.start_le_stop
          have stops' := of_decide_eq_true stops
          omega
        rw [noneBefore]
        rfl
    · rw [startRest] at split'
      rcases mem_or_later split' with ⟨-, here⟩ | ⟨later', rfl, split''⟩
      · -- In the token.
        left
        refine ⟨token, List.mem_cons_self, ?_, ?_⟩
        · rw [adds.start_eq, byteLength_append]
          omega
        · rw [adds.stop_eq, byteLength_append]
          omega
      · -- After the token.
        have offsetEq : cursor.offset + byteLength (blanks ++ (passed ++ later')) =
            next.offset + byteLength later' := by
          simp only [byteLength_append]
          omega
        rw [offsetEq]
        have passedToken : token.span.stop ≤ next.offset + byteLength later' := by
          rw [adds.stop_eq]
          omega
        rcases ih split'' with ⟨other, isIn, covers⟩ | ⟨isBlank, isOpen⟩
        · exact .inl ⟨other, List.mem_cons_of_mem _ isIn, covers⟩
        · right
          rw [List.filter_cons_of_pos (by simpa using passedToken)]
          exact ⟨isBlank, isOpen⟩

end Stream

end Tokenizer

/-- A source is split into tokens by a run that reports nothing and ends outside of tags. -/
theorem run_of_tokenize {tags : Delimiters} {source : List Char} {tokens : List Token}
    (split : tokenize tags source = .ok tokens) :
    ∃ state cursor, Tokenizer.run tags source.length TokenState.initial (Cursor.ofSource source) =
        (state, cursor) ∧ state.diagnostics = [] ∧ state.openTag = none ∧
      tokens = state.tokens.reverse ++ [⟨.done, Span.point cursor.offset⟩] := by
  unfold tokenize at split
  cases ran : Tokenizer.run tags source.length TokenState.initial (Cursor.ofSource source) with
  | mk state cursor =>
    rw [ran] at split
    dsimp only at split
    split at split
    · rename_i clean
      rcases Except.ok.inj split with rfl
      rw [List.isEmpty_iff] at clean
      have noneOpen : state.openTag = none := by
        cases isOpen : state.openTag with
        | none => rfl
        | some span =>
          simp [TokenState.reportOpen, isOpen, TokenState.report, TokenState.push] at clean
      have unchanged : state.reportOpen = state := by
        simp [TokenState.reportOpen, noneOpen]
      rw [unchanged] at clean ⊢
      exact ⟨state, cursor, rfl, clean, noneOpen, by simp [TokenState.push]⟩
    · simp at split

/-- Every step of the tokenizer passes a character, so that it comes to the end of the source,
and the tokens of a source cover it.  This holds with any marks of tags. -/
theorem tokenize_covers (tags : Delimiters) (source : List Char) :
    (∀ (state : TokenState) (cursor : Cursor), cursor.rest ≠ [] →
        cursor.Passes (Tokenizer.step tags state cursor).2) ∧
      (Tokenizer.run tags source.length .initial (Cursor.ofSource source)).2.rest = [] ∧
      ∀ tokens, tokenize tags source = .ok tokens → Covers tags source tokens := by
  refine ⟨fun state cursor => Tokenizer.passes_step tags state,
    Tokenizer.run_ends tags _ (Nat.le_refl _), fun tokens split => ?_⟩
  rcases run_of_tokenize split with ⟨state, cursor, ran, clean, noneOpen, rfl⟩
  have enough : (Cursor.ofSource source).rest.length ≤ source.length := Nat.le_refl _
  rcases Tokenizer.stream_of_run enough ran clean noneOpen with ⟨tokens, stream, tokensEq⟩
  have allTokens : state.tokens.reverse = tokens := by
    simp [tokensEq, TokenState.initial]
  have isPlace := Cursor.ofSource_in source
  rw [allTokens]
  refine ⟨stream.ordered, fun before c after split => ?_, stream.alternates, stream.sides,
    stream.someText, stream.apart, stream.ends isPlace, stream.stand isPlace⟩
  have covered := stream.between split
  have atStart : (Cursor.ofSource source).offset + byteLength before = byteLength before :=
    Nat.zero_add _
  rwa [atStart] at covered

/-- A trimmed tag with a comment, between texts. -/
theorem tokenize_covers_tag :
    (Cursor.ofSource "a {{- b.1 /* c */ }}\n".toList).rest ≠ [] ∧
      ∃ tokens, tokenize .standard "a {{- b.1 /* c */ }}\n".toList = .ok tokens ∧
        (Cursor.ofSource "a {{- b.1 /* c */ }}\n".toList).Passes
          (Tokenizer.step .standard .initial
            (Cursor.ofSource "a {{- b.1 /* c */ }}\n".toList)).2 ∧
        Covers .standard "a {{- b.1 /* c */ }}\n".toList tokens := by
  have notEmpty : (Cursor.ofSource "a {{- b.1 /* c */ }}\n".toList).rest ≠ [] := by decide
  have splits : (tokenize .standard "a {{- b.1 /* c */ }}\n".toList).isOk = true := by decide
  cases split : tokenize .standard "a {{- b.1 /* c */ }}\n".toList with
  | error diagnostics =>
    rw [split] at splits
    cases splits
  | ok tokens =>
    rcases tokenize_covers .standard "a {{- b.1 /* c */ }}\n".toList with ⟨passes, -, covers⟩
    exact ⟨notEmpty, tokens, rfl, passes _ _ notEmpty, covers tokens split⟩

end TemplateLang
