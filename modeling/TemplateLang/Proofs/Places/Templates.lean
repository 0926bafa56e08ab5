import TemplateLang.Proofs.Places.Refusals

/-!
# Refused templates

The readers of templates fail on the source like those of expressions.  A missing end is
told with the word that began the block, which stands on the source as well.  So the
diagnostic of a template that is not read points into its source.
-/

namespace TemplateLang

open Reading

variable {source : List Char} {cursor : Cursor} {setting : Setting}

namespace Grammar

theorem meets_binding (inside : cursor.In source) (missing : Fault) :
    Meets source (Arrives source) (binding missing cursor) := by
  have next := inside.reaches (Cursor.reaches_skipWord cursor)
  unfold binding
  split
  · dsimp only
    split
    · exact inside.spanTo next
    · exact next
  · exact inside.nextSpan

theorem meets_indexBinding (inside : cursor.In source) :
    Meets source (Arrives source) (indexBinding cursor) := by
  unfold indexBinding
  split
  · apply (meets_binding ((inside.skip 1).skipWhile _) _).bind
    exact fun _ arrives => Cursor.In.skipWhile arrives _
  · exact inside

theorem meets_requireIn (inside : cursor.In source) :
    Meets source (Cursor.In source) (requireIn cursor) := by
  unfold requireIn Cursor.expectWord
  by_cases isAt : cursor.isAt ['i', 'n']
  · rw [if_pos isAt]
    dsimp only
    split
    · rename_i next expected
      split at expected
      · split at expected
        · simp at expected
        · rcases Except.ok.inj expected with rfl
          exact inside.skip _
      · rcases Except.ok.inj expected with rfl
        exact inside.skip _
    · rename_i span failed
      split at failed
      · split at failed
        · rcases Except.error.inj failed with rfl
          exact (inside.skip _).nextSpan
        · simp at failed
      · simp at failed
  · rw [if_neg isAt]
    exact (inside.skip _).nextSpan

/-- The word that ends a body, of a block that began with a word of the source. -/
theorem meets_blockWord {keyword : Span} (on : keyword.On source) (inside : cursor.In source) :
    Meets source (Arrives source) (blockWord setting keyword cursor) := by
  unfold blockWord
  split
  · exact on
  · apply (meets_openingTag inside).bind
    exact fun given arrives => Cursor.In.reaches arrives (Cursor.reaches_skipWord _)

/-- A declared name stands on the source, and what comes after it is a place of it. -/
theorem on_of_declaration? {target : Identifier} {next : Cursor} (inside : cursor.In source)
    (declares : declaration? cursor = some (target, next)) :
    target.span.On source ∧ next.In source := by
  have arrives := inside.reaches (reaches_of_declaration? declares)
  obtain ⟨-, spanEq, -, -⟩ := declaration?_eq_some_iff.mp declares
  rw [spanEq]
  exact ⟨inside.spanTo (inside.reaches (Cursor.reaches_skipWord cursor)), arrives⟩

theorem meets_assignment {target : Identifier} (on : target.span.On source)
    (inside : cursor.In source) :
    Meets source (Arrives source) (assignment setting target cursor) := by
  unfold assignment
  split
  · exact on
  · apply ((meets_expression inside).commit _).bind
    exact fun _ yields => yields.2

theorem meets_loopControl (inside : cursor.In source) (word : String)
    (statement : Span → Statement) :
    Meets source (Arrives source) (loopControl setting cursor word statement) := by
  have next := inside.reaches (Cursor.reaches_skipWord cursor)
  unfold loopControl
  dsimp only
  split
  · exact next
  · exact inside.spanTo next

/-! ## Blocks -/

/-- The readers of what is inside a block fail on the source. -/
structure Blocks.Meets (source : List Char) (blocks : Blocks) : Prop where
  body : ∀ setting stops cursor, cursor.In source →
    Reading.Meets source (Arrives source) (blocks.body setting stops cursor)
  branch : ∀ setting cursor, cursor.In source →
    Reading.Meets source (Arrives source) (blocks.branch setting cursor)

variable {blocks : Blocks} (blocksMeet : blocks.Meets source)

include blocksMeet

theorem meets_alternate {keyword : Span} (on : keyword.On source) (inside : cursor.In source) :
    Meets source (Arrives source) (alternate blocks setting keyword cursor) := by
  apply (meets_blockWord on inside).bind
  rintro ⟨⟨opening, word⟩, next⟩ arrives
  dsimp only
  split
  · exact arrives
  have afterBlanks : next.skipBlanks.In source := Cursor.In.skipWhile arrives _
  split
  · apply (blocksMeet.branch _ _ afterBlanks).bind
    exact fun _ arrives => arrives
  · apply (meets_requireClosing afterBlanks).bind
    rintro ⟨closing, afterHead⟩ arrives
    apply (blocksMeet.body _ _ _ arrives).bind
    rintro ⟨body, afterBody⟩ arrives
    apply (meets_blockWord on arrives).bind
    exact fun _ arrives => arrives

theorem meets_branch (inside : cursor.In source) :
    Meets source (Arrives source) (branch blocks setting cursor) := by
  have afterWord := inside.reaches (Cursor.reaches_skipWord cursor)
  apply ((meets_expression afterWord).commit _).bind
  rintro ⟨test, afterTest⟩ ⟨-, arrives⟩
  apply (meets_requireClosing arrives).bind
  rintro ⟨closing, afterHead⟩ arrives
  apply (blocksMeet.body _ _ _ arrives).bind
  rintro ⟨body, afterBody⟩ arrives
  apply (meets_alternate blocksMeet (inside.spanTo afterWord) arrives).bind
  exact fun _ arrives => arrives

theorem meets_forLoop (inside : cursor.In source) :
    Meets source (Arrives source) (loop blocks setting cursor) := by
  have afterWord := inside.reaches (Cursor.reaches_skipWord cursor)
  apply (meets_binding (afterWord.skipWhile _) _).bind
  rintro ⟨value, afterValue⟩ arrives
  apply (meets_indexBinding (Cursor.In.skipWhile arrives _)).bind
  rintro ⟨index, afterIndex⟩ arrives
  apply (meets_requireIn arrives).bind
  intro afterIn arrives
  apply ((meets_expression arrives).commit _).bind
  rintro ⟨iterable, afterIterable⟩ ⟨-, arrives⟩
  apply (meets_requireClosing arrives).bind
  rintro ⟨closing, afterHead⟩ arrives
  apply (blocksMeet.body _ _ _ arrives).bind
  rintro ⟨body, afterBody⟩ arrives
  apply (meets_blockWord (inside.spanTo afterWord) arrives).bind
  exact fun _ arrives => arrives

theorem meets_statement (inside : cursor.In source) :
    Meets source (Arrives source) (statement blocks setting cursor) := by
  have word := inside.spanTo (inside.reaches (Cursor.reaches_skipWord cursor))
  unfold statement
  split
  · exact inside
  split
  · rename_i target next declares
    rcases on_of_declaration? inside declares with ⟨on, arrives⟩
    exact meets_assignment on arrives
  split
  · exact (meets_branch blocksMeet inside).bind fun _ arrives => arrives
  · exact meets_forLoop blocksMeet inside
  · exact meets_loopControl inside _ _
  · exact meets_loopControl inside _ _
  · exact word
  · exact word
  · exact (meets_expression inside).bind fun _ yields => yields.2

theorem meets_element (inside : cursor.In source) :
    Meets source (Arrives source) (element blocks setting cursor) := by
  unfold element
  split
  · apply (meets_openingTag inside).bind
    rintro ⟨opening, next⟩ arrives
    apply (meets_statement blocksMeet arrives).bind
    rintro ⟨statement, next⟩ arrives
    apply (meets_requireClosing arrives).bind
    exact fun _ arrives => arrives
  · exact inside.reaches (reaches_raw setting cursor)

theorem meets_elements (inside : cursor.In source) (stops : List String) :
    Meets source (Arrives source) (elements blocks setting stops cursor) := by
  apply meets_loop (motive := Arrives source) _ inside
  intro before cursor inside
  unfold elementRound
  split
  · exact inside
  · apply (meets_element blocksMeet inside).bind
    exact fun _ arrives => arrives

omit blocksMeet

theorem meets_body {blocks : Blocks} (blocksMeet : blocks.Meets source)
    (inside : cursor.In source) (stops : List String) :
    Meets source (Arrives source) (body blocks setting stops cursor) := by
  unfold body
  exact Setting.meets_nested inside fun _ => meets_elements blocksMeet inside stops

theorem meets_blocksOf (fuel : Nat) : (blocksOf fuel).Meets source := by
  induction fuel with
  | zero => exact ⟨fun _ _ _ _ => trivial, fun _ _ _ => trivial⟩
  | succ fuel ih =>
    constructor
    · exact fun _ stops _ inside => meets_body ih inside stops
    · exact fun _ _ inside => meets_branch ih inside

end Grammar

/-! ## Diagnostics -/

/-- A diagnostic has a code, and its primary label spans a text of a source. -/
structure Diagnostic.Located (source : List Char) (diagnostic : Diagnostic) : Prop where
  code : diagnostic.code.isSome = true
  label : ∃ label, diagnostic.primaryLabel? = some label ∧ label.span.On source

theorem Fault.located_diagnostic (fault : Fault) {span : Span} (on : span.On source) :
    (fault.diagnostic span).Located source :=
  ⟨rfl, _, rfl, on⟩

theorem Failure.located_diagnostic {failure : Failure} (on : failure.On source) :
    failure.diagnostic.Located source := by
  cases failure with
  | soft fault span => exact fault.located_diagnostic on
  | hard fault span => exact fault.located_diagnostic on
  | exhausted => exact Fault.located_diagnostic _ Span.on_point_zero

/-- The diagnostic of a template that is not read points into its source. -/
theorem located_of_parse {tags : Delimiters} {diagnostic : Diagnostic}
    (refused : parse tags source = .error diagnostic) : diagnostic.Located source := by
  have meets : Meets source (Arrives source) (Grammar.source tags source) :=
    Grammar.meets_elements (Grammar.meets_blocksOf _) (Cursor.ofSource_in source) []
  unfold parse at refused
  split at refused
  · simp at refused
  · rename_i failure failed
    rw [failed] at meets
    rcases Except.error.inj refused with rfl
    exact Failure.located_diagnostic meets

end TemplateLang
