import TemplateLang.Proofs.Places.Templates
import TemplateLang.Token.Scan

/-!
# Refused tokens

The tokenizer reports all errors of a source in one pass.  Each of its steps goes from a
place of the source to another one, and every diagnostic that it adds points into the
source, as does the mark of the tag that is open.
-/

namespace TemplateLang

variable {source : List Char}

/-- All that a state of the tokenizer points at is on a source. -/
structure TokenState.Located (source : List Char) (state : TokenState) : Prop where
  diagnostics : ∀ diagnostic ∈ state.diagnostics, diagnostic.Located source
  openTag : ∀ span ∈ state.openTag, span.On source

namespace TokenState

variable {state : TokenState}

theorem Located.push (located : state.Located source) (lexeme : Lexeme) (span : Span) :
    (state.push lexeme span).Located source :=
  ⟨located.diagnostics, located.openTag⟩

theorem Located.report (located : state.Located source) (fault : Fault) {span : Span}
    (on : span.On source) : (state.report fault span).Located source where
  diagnostics := List.forall_mem_cons.mpr ⟨fault.located_diagnostic on, located.diagnostics⟩
  openTag := located.openTag

theorem Located.reportOpen (located : state.Located source) :
    state.reportOpen.Located source := by
  unfold TokenState.reportOpen
  split
  · rename_i span isOpen
    exact located.report _ (located.openTag span isOpen)
  · exact located

end TokenState

namespace Tokenizer

open Scan

variable {tags : Delimiters} {state : TokenState} {cursor : Cursor}

/-- A state that is on a source, and a place of it. -/
def Stands (source : List Char) (given : TokenState × Cursor) : Prop :=
  given.1.Located source ∧ given.2.In source

theorem stands_openTag (located : state.Located source) (inside : cursor.In source) :
    Stands source (openTag tags state cursor) := by
  have afterMark := inside.skip tags.opening.length
  have next (trims : Bool) : (if trims then (cursor.skip tags.opening.length).skip 1
      else cursor.skip tags.opening.length).In source := by
    cases trims with
    | false => exact afterMark
    | true => exact afterMark.skip 1
  unfold openTag
  dsimp only
  constructor
  · constructor
    · exact located.diagnostics
    · intro span isOpen
      rcases Option.some.inj isOpen with rfl
      exact inside.spanTo (next _)
  · exact next _

theorem stands_outsideStep (located : state.Located source) (inside : cursor.In source) :
    Stands source (outsideStep tags state cursor) := by
  unfold outsideStep
  split
  · exact stands_openTag located inside
  split
  · exact ⟨located.report _ (inside.spanTo (inside.skip _)), inside.skip _⟩
  · exact ⟨located.push _ _, inside.skip _⟩

theorem stays_lexeme (inside : cursor.In source) : (lexeme cursor).Stays source := by
  have stays_word : (word cursor).Stays source := by
    unfold word
    split
    · exact inside.reaches (Cursor.reaches_skipWord cursor)
    · trivial
  have stays_punctuator : (punctuator cursor).Stays source := by
    unfold punctuator
    split
    · exact inside.skip _
    · trivial
  apply Scan.Stays.orElse _ stays_punctuator
  apply Scan.Stays.orElse _ stays_word
  apply Scan.Stays.orElse _ ((Literal.stays_number inside).map _)
  exact ((Literal.stays_comment inside).map _).orElse ((Literal.stays_string inside).map _)

theorem stands_insideStep (located : state.Located source) (inside : cursor.In source) :
    Stands source (insideStep tags state cursor) := by
  have stays := stays_lexeme inside
  unfold insideStep
  dsimp only
  split
  · exact stands_openTag located.reportOpen inside
  split
  · exact ⟨⟨located.diagnostics, by simp⟩, inside.skip _⟩
  split
  · exact ⟨located.push _ _, inside.skip 1⟩
  split
  · rename_i found next isFound
    rw [isFound] at stays
    exact ⟨located.push _ _, stays⟩
  · exact ⟨located.report _ inside.nextSpan, inside.skip 1⟩
  · rename_i fault span stop isBroken
    rw [isBroken] at stays
    apply And.intro (located.report _ stays.1)
    dsimp only
    split
    · exact inside.skip 1
    · exact stays.2

theorem stands_step (located : state.Located source) (inside : cursor.In source) :
    Stands source (step tags state cursor) := by
  have afterBlanks : cursor.skipBlanks.In source := inside.skipWhile _
  unfold step
  split
  · dsimp only
    split
    · exact ⟨located, afterBlanks⟩
    · exact stands_insideStep located afterBlanks
  · exact stands_outsideStep located inside

theorem stands_run (fuel : Nat) : ∀ {state : TokenState} {cursor : Cursor},
    state.Located source → cursor.In source → Stands source (run tags fuel state cursor) := by
  induction fuel with
  | zero => exact fun located inside => ⟨located, inside⟩
  | succ fuel ih =>
    intro state cursor located inside
    have stepped : Stands source (step tags state cursor) := stands_step located inside
    unfold run
    split
    · exact ⟨located, inside⟩
    · exact ih stepped.1 stepped.2

end Tokenizer

/-- Every diagnostic of a source that is not split into tokens points into it. -/
theorem located_of_tokenize {tags : Delimiters} {diagnostics : List Diagnostic}
    (refused : tokenize tags source = .error diagnostics) :
    ∀ diagnostic ∈ diagnostics, diagnostic.Located source := by
  have start : TokenState.initial.Located source := ⟨by simp [TokenState.initial],
    by simp [TokenState.initial]⟩
  have ran : Tokenizer.Stands source (Tokenizer.run tags source.length TokenState.initial
      (Cursor.ofSource source)) :=
    Tokenizer.stands_run source.length start (Cursor.ofSource_in source)
  unfold tokenize at refused
  dsimp only at refused
  split at refused
  · simp at refused
  · rcases Except.error.inj refused with rfl
    intro diagnostic isReported
    exact (ran.1.reportOpen.push _ _).diagnostics diagnostic (List.mem_reverse.mp isReported)

end TemplateLang
