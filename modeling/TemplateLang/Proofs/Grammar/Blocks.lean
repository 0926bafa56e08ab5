import TemplateLang.Grammar.Template
import TemplateLang.Proofs.Grammar.Soundness

/-!
# The grammar of templates as derivations

As for expressions, there is one rule for each way on which a reader of elements,
statements or blocks succeeds.  Whatever is read of a template has a derivation.
-/

namespace TemplateLang

namespace Grammar

/-- The words that begin or end a block, and those that leave a loop. -/
def statementWords : List String :=
  ["if", "for", "break", "continue", "else", "end"]

/-- A body ends at a place, before the opening end of a tag with a word. -/
def EndsBody (setting : Setting) (cursor : Cursor) (opening : Tag) (word : String)
    (next : Cursor) : Prop :=
  cursor.rest.isEmpty = false ∧ ∃ middle, openingTag setting cursor = .ok (opening, middle) ∧
    (middle.peekWord?).getD "" = word ∧ next = middle.skipWord

/-- What is derived between two places of a template. -/
inductive BlockGoal where
  | elements (stops : List String) (elements : List Element)
  | statement (statement : Statement)
  | branch (branch : Branch)
  | alternate (alternate : Alternate)

/-- How the pieces of a template are read between two places. -/
inductive DerivesBlock : Setting → BlockGoal → Cursor → Cursor → Prop where
  | elementsEnd {setting : Setting} {stops : List String} {cursor : Cursor}
      (ends : (cursor.rest.isEmpty || atBlockWord setting stops cursor) = true) :
      DerivesBlock setting (.elements stops []) cursor cursor
  | raw {setting : Setting} {stops : List String} {elements : List Element}
      {cursor next : Cursor}
      (goesOn : (cursor.rest.isEmpty || atBlockWord setting stops cursor) = false)
      (noTag : Cursor.startsWithMark cursor.rest setting.tags.opening.toList = false)
      (others : DerivesBlock setting (.elements stops elements) (Grammar.raw setting cursor).2
        next) :
      DerivesBlock setting (.elements stops ((Grammar.raw setting cursor).1 :: elements))
        cursor next
  | tag {setting : Setting} {stops : List String} {elements : List Element} {opening : Tag}
      {statement : Statement} {closing : Tag}
      {cursor afterOpening afterStatement afterClosing next : Cursor}
      (goesOn : (cursor.rest.isEmpty || atBlockWord setting stops cursor) = false)
      (opens : openingTag setting cursor = .ok (opening, afterOpening))
      (content : DerivesBlock setting (.statement statement) afterOpening afterStatement)
      (closes : closingTag setting afterStatement = .ok (closing, afterClosing))
      (others : DerivesBlock setting (.elements stops elements) afterClosing next) :
      DerivesBlock setting
        (.elements stops
          (.tag opening statement closing (cursor.spanTo afterClosing) :: elements))
        cursor next
  | empty {setting : Setting} {cursor : Cursor}
      (atEnd : setting.atClosing cursor.rest = true) :
      DerivesBlock setting (.statement .empty) cursor cursor
  | assign {setting : Setting} {target : Identifier} {value : Expr}
      {cursor afterTarget next : Cursor}
      (notAtEnd : setting.atClosing cursor.rest = false)
      (declares : declaration? cursor = some (target, afterTarget))
      (allowed : isReserved target.name = false)
      (content : Derives setting (.pipeline value) afterTarget next) :
      DerivesBlock setting
        (.statement (.assign target value (target.span.union value.span))) cursor next
  | branchStatement {setting : Setting} {branch : Branch} {cursor next : Cursor}
      (notAtEnd : setting.atClosing cursor.rest = false)
      (noDeclaration : declaration? cursor = none)
      (word : cursor.peekWord? = some "if")
      (content : DerivesBlock setting (.branch branch) cursor next) :
      DerivesBlock setting (.statement (.branch branch)) cursor next
  | loop {setting : Setting} {room : Nat} {value : Identifier} {index : Option Identifier}
      {iterable : Expr} {closing : Tag} {body : List Element} {endOpening : Tag}
      {endWord : String}
      {cursor afterValue afterIndex afterIn afterIterable afterHead afterBody next : Cursor}
      (notAtEnd : setting.atClosing cursor.rest = false)
      (noDeclaration : declaration? cursor = none)
      (word : cursor.peekWord? = some "for")
      (bindsValue : binding .missingLoopVariable cursor.skipWord.skipBlanks =
        .ok (value, afterValue))
      (bindsIndex : indexBinding afterValue.skipBlanks = .ok (index, afterIndex))
      (wordIn : requireIn afterIndex = .ok afterIn)
      (head : Derives setting (.pipeline iterable) afterIn afterIterable)
      (closes : closingTag setting afterIterable = .ok (closing, afterHead))
      (someRoom : setting.room = room + 1)
      (content : DerivesBlock { setting with room := room, inLoop := true }
        (.elements ["end"] body) afterHead afterBody)
      (ends : EndsBody setting afterBody endOpening endWord next) :
      DerivesBlock setting
        (.statement (.loop value index iterable closing body endOpening (cursor.spanTo next)))
        cursor next
  | breakLoop {setting : Setting} {cursor : Cursor}
      (notAtEnd : setting.atClosing cursor.rest = false)
      (noDeclaration : declaration? cursor = none)
      (word : cursor.peekWord? = some "break") (inLoop : setting.inLoop = true) :
      DerivesBlock setting (.statement (.breakLoop (cursor.spanTo cursor.skipWord)))
        cursor cursor.skipWord
  | continueLoop {setting : Setting} {cursor : Cursor}
      (notAtEnd : setting.atClosing cursor.rest = false)
      (noDeclaration : declaration? cursor = none)
      (word : cursor.peekWord? = some "continue") (inLoop : setting.inLoop = true) :
      DerivesBlock setting (.statement (.continueLoop (cursor.spanTo cursor.skipWord)))
        cursor cursor.skipWord
  | expression {setting : Setting} {expr : Expr} {cursor next : Cursor}
      (notAtEnd : setting.atClosing cursor.rest = false)
      (noDeclaration : declaration? cursor = none)
      (noWord : ∀ word, cursor.peekWord? = some word → word ∉ statementWords)
      (content : Derives setting (.pipeline expr) cursor next) :
      DerivesBlock setting (.statement (.expression expr)) cursor next
  | branch {setting : Setting} {room : Nat} {test : Expr} {closing : Tag} {body : List Element}
      {alternate : Alternate} {cursor afterTest afterHead afterBody next : Cursor}
      (head : Derives setting (.pipeline test) cursor.skipWord afterTest)
      (closes : closingTag setting afterTest = .ok (closing, afterHead))
      (someRoom : setting.room = room + 1)
      (content : DerivesBlock { setting with room := room } (.elements ["else", "end"] body)
        afterHead afterBody)
      (others : DerivesBlock setting (.alternate alternate) afterBody next) :
      DerivesBlock setting
        (.branch (.mk test closing body alternate (cursor.spanTo next))) cursor next
  | done {setting : Setting} {opening : Tag} {cursor next : Cursor}
      (ends : EndsBody setting cursor opening "end" next) :
      DerivesBlock setting (.alternate (.done opening)) cursor next
  | chain {setting : Setting} {opening : Tag} {word : String} {branch : Branch}
      {cursor middle next : Cursor}
      (ends : EndsBody setting cursor opening word middle) (notEnd : word ≠ "end")
      (goesOn : middle.skipBlanks.peekWord? = some "if")
      (content : DerivesBlock setting (.branch branch) middle.skipBlanks next) :
      DerivesBlock setting (.alternate (.chain opening branch)) cursor next
  | otherwise {setting : Setting} {room : Nat} {opening closing : Tag} {word endWord : String}
      {body : List Element} {endOpening : Tag}
      {cursor middle afterHead afterBody next : Cursor}
      (ends : EndsBody setting cursor opening word middle) (notEnd : word ≠ "end")
      (noChain : middle.skipBlanks.peekWord? ≠ some "if")
      (closes : closingTag setting middle.skipBlanks = .ok (closing, afterHead))
      (someRoom : setting.room = room + 1)
      (content : DerivesBlock { setting with room := room } (.elements ["end"] body)
        afterHead afterBody)
      (endsAll : EndsBody setting afterBody endOpening endWord next) :
      DerivesBlock setting (.alternate (.otherwise opening closing body endOpening))
        cursor next

/-! ## Soundness -/

theorem blockWord_eq_ok {setting : Setting} {keyword : Span} {cursor next : Cursor}
    {opening : Tag} {word : String} :
    blockWord setting keyword cursor = .ok ((opening, word), next) ↔
      EndsBody setting cursor opening word next := by
  unfold blockWord EndsBody
  split
  · rename_i atEnd
    simp [atEnd]
  · rename_i notAtEnd
    simp only [Bool.not_eq_true] at notAtEnd
    rw [Reading.bind_eq_ok]
    simp only [notAtEnd, true_and]
    constructor
    · rintro ⟨⟨tag, middle⟩, opens, same⟩
      simp only [Except.ok.injEq, Prod.mk.injEq] at same
      obtain ⟨⟨rfl, rfl⟩, rfl⟩ := same
      exact ⟨middle, opens, rfl, rfl⟩
    · rintro ⟨middle, opens, rfl, rfl⟩
      exact ⟨(opening, middle), opens, rfl⟩

/-- The readers of blocks give what is derivable. -/
structure Blocks.Sound (blocks : Blocks) : Prop where
  body : ∀ {setting stops cursor elements next},
    blocks.body setting stops cursor = .ok (elements, next) →
      ∃ room, setting.room = room + 1 ∧
        DerivesBlock { setting with room := room } (.elements stops elements) cursor next
  branch : ∀ {setting cursor branch next},
    blocks.branch setting cursor = .ok (branch, next) →
      DerivesBlock setting (.branch branch) cursor next

variable {blocks : Blocks} (sound : blocks.Sound) {setting : Setting}

include sound

theorem derivesBlock_of_alternate {keyword : Span} {cursor next : Cursor} {rest : Alternate}
    (given : alternate blocks setting keyword cursor = .ok (rest, next)) :
    DerivesBlock setting (.alternate rest) cursor next := by
  unfold alternate at given
  obtain ⟨⟨⟨opening, word⟩, middle⟩, ends, given⟩ := Reading.bind_eq_ok.mp given
  rw [blockWord_eq_ok] at ends
  dsimp only at given
  split at given
  · rename_i isEnd
    subst isEnd
    simp only [Except.ok.injEq, Prod.mk.injEq] at given
    obtain ⟨rfl, rfl⟩ := given
    exact .done ends
  · rename_i notEnd
    split at given
    · rename_i goesOn
      obtain ⟨⟨branch, _⟩, read, given⟩ := Reading.bind_eq_ok.mp given
      simp only [Except.ok.injEq, Prod.mk.injEq] at given
      obtain ⟨rfl, rfl⟩ := given
      exact .chain ends notEnd goesOn (sound.branch read)
    · rename_i noChain
      obtain ⟨⟨closing, afterHead⟩, closes, given⟩ := Reading.bind_eq_ok.mp given
      obtain ⟨⟨body, afterBody⟩, readBody, given⟩ := Reading.bind_eq_ok.mp given
      obtain ⟨⟨⟨endOpening, endWord⟩, _⟩, endsAll, given⟩ := Reading.bind_eq_ok.mp given
      simp only [Except.ok.injEq, Prod.mk.injEq] at given
      obtain ⟨rfl, rfl⟩ := given
      obtain ⟨room, someRoom, content⟩ := sound.body readBody
      exact .otherwise ends notEnd noChain (requireClosing_eq_ok.mp closes) someRoom content
        (blockWord_eq_ok.mp endsAll)

theorem derivesBlock_of_branch {cursor next : Cursor} {whole : Branch}
    (given : branch blocks setting cursor = .ok (whole, next)) :
    DerivesBlock setting (.branch whole) cursor next := by
  unfold branch at given
  obtain ⟨⟨test, afterTest⟩, readTest, given⟩ := Reading.bind_eq_ok.mp given
  obtain ⟨⟨closing, afterHead⟩, closes, given⟩ := Reading.bind_eq_ok.mp given
  obtain ⟨⟨body, afterBody⟩, readBody, given⟩ := Reading.bind_eq_ok.mp given
  obtain ⟨⟨rest, _⟩, readRest, given⟩ := Reading.bind_eq_ok.mp given
  simp only [Except.ok.injEq, Prod.mk.injEq] at given
  obtain ⟨rfl, rfl⟩ := given
  obtain ⟨room, someRoom, content⟩ := sound.body readBody
  exact .branch (derives_of_expression (Reading.commit_eq_ok.mp readTest))
    (requireClosing_eq_ok.mp closes) someRoom content (derivesBlock_of_alternate sound readRest)

theorem derivesBlock_of_loop {cursor next : Cursor} {whole : Statement}
    (notAtEnd : setting.atClosing cursor.rest = false)
    (noDeclaration : declaration? cursor = none) (word : cursor.peekWord? = some "for")
    (given : loop blocks setting cursor = .ok (whole, next)) :
    DerivesBlock setting (.statement whole) cursor next := by
  unfold loop at given
  obtain ⟨⟨value, afterValue⟩, bindsValue, given⟩ := Reading.bind_eq_ok.mp given
  obtain ⟨⟨index, afterIndex⟩, bindsIndex, given⟩ := Reading.bind_eq_ok.mp given
  obtain ⟨afterIn, wordIn, given⟩ := Reading.bind_eq_ok.mp given
  obtain ⟨⟨iterable, afterIterable⟩, readHead, given⟩ := Reading.bind_eq_ok.mp given
  obtain ⟨⟨closing, afterHead⟩, closes, given⟩ := Reading.bind_eq_ok.mp given
  obtain ⟨⟨body, afterBody⟩, readBody, given⟩ := Reading.bind_eq_ok.mp given
  obtain ⟨⟨⟨endOpening, endWord⟩, _⟩, ends, given⟩ := Reading.bind_eq_ok.mp given
  simp only [Except.ok.injEq, Prod.mk.injEq] at given
  obtain ⟨rfl, rfl⟩ := given
  obtain ⟨room, someRoom, content⟩ := sound.body readBody
  exact .loop notAtEnd noDeclaration word bindsValue bindsIndex wordIn
    (derives_of_expression (Reading.commit_eq_ok.mp readHead)) (requireClosing_eq_ok.mp closes)
    someRoom content (blockWord_eq_ok.mp ends)

theorem derivesBlock_of_statement {cursor next : Cursor} {whole : Statement}
    (given : statement blocks setting cursor = .ok (whole, next)) :
    DerivesBlock setting (.statement whole) cursor next := by
  unfold statement at given
  split at given
  · rename_i atEnd
    simp only [Except.ok.injEq, Prod.mk.injEq] at given
    obtain ⟨rfl, rfl⟩ := given
    exact .empty atEnd
  · rename_i notAtEnd
    rw [Bool.not_eq_true] at notAtEnd
    split at given
    · rename_i target afterTarget declares
      unfold assignment at given
      split at given
      · simp at given
      · rename_i allowed
        obtain ⟨⟨value, _⟩, read, given⟩ := Reading.bind_eq_ok.mp given
        simp only [Except.ok.injEq, Prod.mk.injEq] at given
        obtain ⟨rfl, rfl⟩ := given
        exact .assign notAtEnd declares (Bool.eq_false_iff.mpr allowed)
          (derives_of_expression (Reading.commit_eq_ok.mp read))
    · rename_i noDeclaration
      split at given
      · rename_i word
        obtain ⟨⟨branch, _⟩, read, given⟩ := Reading.bind_eq_ok.mp given
        simp only [Except.ok.injEq, Prod.mk.injEq] at given
        obtain ⟨rfl, rfl⟩ := given
        exact .branchStatement notAtEnd noDeclaration word (derivesBlock_of_branch sound read)
      · rename_i word
        exact derivesBlock_of_loop sound notAtEnd noDeclaration word given
      · rename_i word
        obtain ⟨inLoop, rfl, rfl⟩ := loopControl_eq_ok.mp given
        exact .breakLoop notAtEnd noDeclaration word inLoop
      · rename_i word
        obtain ⟨inLoop, rfl, rfl⟩ := loopControl_eq_ok.mp given
        exact .continueLoop notAtEnd noDeclaration word inLoop
      · simp at given
      · simp at given
      · rename_i notIf notFor notBreak notContinue notElse notEnd
        obtain ⟨⟨expr, _⟩, read, given⟩ := Reading.bind_eq_ok.mp given
        simp only [Except.ok.injEq, Prod.mk.injEq] at given
        obtain ⟨rfl, rfl⟩ := given
        refine .expression notAtEnd noDeclaration ?_ (derives_of_expression read)
        intro word atWord
        simp only [statementWords, List.mem_cons, List.not_mem_nil, or_false, not_or]
        refine ⟨?_, ?_, ?_, ?_, ?_, ?_⟩ <;> rintro rfl
        · exact notIf atWord
        · exact notFor atWord
        · exact notBreak atWord
        · exact notContinue atWord
        · exact notElse atWord
        · exact notEnd atWord

theorem derivesBlock_of_elements {stops : List String} {cursor next : Cursor}
    {whole : List Element}
    (given : elements blocks setting stops cursor = .ok (whole, next)) :
    DerivesBlock setting (.elements stops whole) cursor next := by
  have general := Reading.loop_induction
    (motive := fun before cursor all next =>
      ∃ elements, all = before ++ elements ∧
        DerivesBlock setting (.elements stops elements) cursor next) ?_ ?_ given
  · obtain ⟨same, rfl, derived⟩ := general
    exact derived
  · intro before cursor all next step
    unfold elementRound at step
    split at step
    · rename_i ends
      simp only [Except.ok.injEq, Prod.mk.injEq, Reading.Round.done.injEq] at step
      obtain ⟨rfl, rfl⟩ := step
      exact ⟨[], by simp, .elementsEnd ends⟩
    · obtain ⟨⟨element, middle⟩, -, step⟩ := Reading.bind_eq_ok.mp step
      simp at step
  · intro before cursor before' cursor' all next step later
    obtain ⟨others, rfl, derived⟩ := later
    unfold elementRound at step
    split at step
    · simp at step
    · rename_i goesOn
      rw [Bool.not_eq_true] at goesOn
      obtain ⟨⟨piece, middle⟩, read, step⟩ := Reading.bind_eq_ok.mp step
      simp only [Except.ok.injEq, Prod.mk.injEq, Reading.Round.again.injEq] at step
      obtain ⟨rfl, rfl⟩ := step
      refine ⟨piece :: others, by simp, ?_⟩
      unfold element at read
      split at read
      · unfold tag at read
        obtain ⟨⟨opening, afterOpening⟩, opens, read⟩ := Reading.bind_eq_ok.mp read
        obtain ⟨⟨content, afterStatement⟩, readContent, read⟩ := Reading.bind_eq_ok.mp read
        obtain ⟨⟨closing, afterClosing⟩, closes, read⟩ := Reading.bind_eq_ok.mp read
        simp only [Except.ok.injEq, Prod.mk.injEq] at read
        obtain ⟨rfl, rfl⟩ := read
        exact .tag goesOn opens (derivesBlock_of_statement sound readContent)
          (requireClosing_eq_ok.mp closes) derived
      · rename_i noTag
        simp only [Except.ok.injEq] at read
        obtain ⟨rfl, rfl⟩ := Prod.mk.inj read
        exact .raw goesOn (Bool.eq_false_iff.mpr noTag) derived

omit sound

theorem sound_blocksOf (fuel : Nat) : (blocksOf fuel).Sound := by
  induction fuel with
  | zero => constructor <;> simp [blocksOf]
  | succ fuel ih =>
    constructor
    · intro setting stops cursor whole next read
      change body (blocksOf fuel) setting stops cursor = .ok (whole, next) at read
      unfold body at read
      obtain ⟨room, someRoom, readElements⟩ := Setting.nested_eq_ok.mp read
      exact ⟨room, someRoom, derivesBlock_of_elements ih readElements⟩
    · intro setting cursor branch next read
      exact derivesBlock_of_branch ih read

/-- Every template that is read has a derivation. -/
theorem derivesBlock_of_source {tags : Delimiters} {text : List Char} {next : Cursor}
    {elements : List Element} (given : source tags text = .ok (elements, next)) :
    DerivesBlock (Setting.initial tags) (.elements [] elements) (Cursor.ofSource text) next :=
  derivesBlock_of_elements (sound_blocksOf _) given

end Grammar

/-- A template that is read has a derivation over its whole source. -/
theorem derivesBlock_of_parse {tags : Delimiters} {source : List Char} {template : Template}
    (read : parse tags source = .ok template) :
    ∃ next, Grammar.DerivesBlock (Setting.initial tags) (.elements [] template.elements)
      (Cursor.ofSource source) next := by
  unfold parse at read
  split at read
  · rename_i elements next given
    obtain rfl := Except.ok.inj read
    exact ⟨next, Grammar.derivesBlock_of_source given⟩
  · simp at read

end TemplateLang
