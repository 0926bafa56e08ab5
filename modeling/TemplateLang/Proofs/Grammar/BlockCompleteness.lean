import TemplateLang.Proofs.Grammar.Completeness

/-!
# Derivations of templates are readings

As for expressions, whatever has a derivation is read.  The readers of what is inside a
block go up once for each level of blocks, and each level takes a character at least.
-/

namespace TemplateLang

namespace Grammar

open Cursor

variable {blocks : Blocks} {setting : Setting}

/-! ## Elements take characters -/

theorem passes_afterOpening {cursor : Cursor}
    (starts : startsWithMark cursor.rest setting.tags.opening.toList = true) :
    cursor.Passes (afterOpening setting.tags cursor) := by
  obtain ⟨someMark, after, restEq⟩ := startsWithMark_iff.mp starts
  have notDone : cursor.rest ≠ [] := by
    rw [← restEq]
    simp [someMark]
  have positive : 0 < setting.tags.opening.length := by
    rw [← String.length_toList]
    exact List.length_pos_iff.mpr someMark
  have pastMark := passes_skip notDone positive
  unfold afterOpening
  dsimp only
  split
  · exact pastMark.trans_reaches (reaches_skip _ 1)
  · exact pastMark

theorem passes_of_openingTag {cursor next : Cursor} {tag : Tag}
    (opens : openingTag setting cursor = .ok (tag, next)) : cursor.Passes next := by
  obtain ⟨starts, comments, inside, -⟩ := openingTag_eq_ok.mp opens
  exact (passes_afterOpening starts).trans_reaches (reaches_of_trivia inside)

theorem EndsBody.passes {cursor next : Cursor} {opening : Tag} {word : String}
    (ends : EndsBody setting cursor opening word next) : cursor.Passes next := by
  obtain ⟨-, middle, opens, -, rfl⟩ := ends
  exact (passes_of_openingTag opens).trans_reaches (reaches_skipWord middle)

theorem passes_raw {cursor : Cursor} (notDone : cursor.rest ≠ [])
    (noTag : startsWithMark cursor.rest setting.tags.opening.toList = false) :
    cursor.Passes (raw setting cursor).2 := by
  rw [raw_eq]
  exact passes_skip notDone (List.length_pos_iff.mpr (rawText_ne_nil notDone noTag))

/-! ## One rule of each kind -/

theorem commit_expression {fault : Fault} {expr : Expr} {cursor next : Cursor}
    (content : Derives setting (.pipeline expr) cursor next) :
    (expression setting cursor).commit fault = .ok (expr, next) :=
  commit_ok (expression_of_derives content)

/-- The readers of a block give what is derived. -/
def BlockReadBy (blocks : Blocks) (setting : Setting) (cursor next : Cursor) :
    BlockGoal → Prop
  | .elements stops pieces => ∀ before fuel, cursor.room < fuel →
    Reading.rounds (elementRound blocks setting stops) fuel before cursor =
      .ok (before ++ pieces, next)
  | .statement whole => statement blocks setting cursor = .ok (whole, next)
  | .branch whole => branch blocks setting cursor = .ok (whole, next)
  | .alternate whole => ∀ keyword, alternate blocks setting keyword cursor = .ok (whole, next)

theorem elementRound_raw {stops : List String} {pieces : List Element} {cursor : Cursor}
    (goesOn : (cursor.rest.isEmpty || atBlockWord setting stops cursor) = false)
    (noTag : startsWithMark cursor.rest setting.tags.opening.toList = false) :
    elementRound blocks setting stops pieces cursor =
      .ok (.again (pieces ++ [(raw setting cursor).1]), (raw setting cursor).2) := by
  unfold elementRound
  rw [goesOn, if_neg Bool.false_ne_true]
  refine Reading.bind_eq_ok.mpr ⟨raw setting cursor, ?_, rfl⟩
  unfold element
  rw [noTag, if_neg Bool.false_ne_true]

theorem elementRound_tag {stops : List String} {pieces : List Element} {opening closing : Tag}
    {whole : Statement} {cursor afterOpening afterStatement next : Cursor}
    (goesOn : (cursor.rest.isEmpty || atBlockWord setting stops cursor) = false)
    (opens : openingTag setting cursor = .ok (opening, afterOpening))
    (content : statement blocks setting afterOpening = .ok (whole, afterStatement))
    (closes : closingTag setting afterStatement = .ok (closing, next)) :
    elementRound blocks setting stops pieces cursor =
      .ok (.again (pieces ++ [.tag opening whole closing (cursor.spanTo next)]), next) := by
  unfold elementRound
  rw [goesOn, if_neg Bool.false_ne_true]
  refine Reading.bind_eq_ok.mpr ⟨(.tag opening whole closing (cursor.spanTo next), next), ?_,
    rfl⟩
  unfold element
  rw [if_pos (openingTag_eq_ok.mp opens).1]
  refine Reading.bind_eq_ok.mpr ⟨(opening, afterOpening), opens, ?_⟩
  refine Reading.bind_eq_ok.mpr ⟨(whole, afterStatement), content, ?_⟩
  exact Reading.bind_eq_ok.mpr ⟨(closing, next), requireClosing_eq_ok.mpr closes, rfl⟩

/-- A statement that neither is empty nor declares a name is told by its first word. -/
theorem statement_expression {expr : Expr} {cursor next : Cursor}
    (notAtEnd : setting.atClosing cursor.rest = false)
    (noDeclaration : declaration? cursor = none)
    (noWord : ∀ word, cursor.peekWord? = some word → word ∉ statementWords)
    (content : Derives setting (.pipeline expr) cursor next) :
    statement blocks setting cursor = .ok (.expression expr, next) := by
  unfold statement
  rw [notAtEnd, if_neg Bool.false_ne_true, noDeclaration]
  dsimp only
  split
  all_goals
    first
    | rename_i word
      exact absurd (by decide) (noWord _ word)
    | exact Reading.bind_eq_ok.mpr ⟨_, expression_of_derives content, rfl⟩

theorem blocksOf_body {fuel : Nat} {stops : List String} {cursor : Cursor}
    (positive : 0 < fuel) :
    (blocksOf fuel).body setting stops cursor =
      body (blocksOf (fuel - 1)) setting stops cursor := by
  cases fuel with
  | zero => omega
  | succ fuel => rfl

theorem blocksOf_branch {fuel : Nat} {cursor : Cursor} (positive : 0 < fuel) :
    (blocksOf fuel).branch setting cursor = branch (blocksOf (fuel - 1)) setting cursor := by
  cases fuel with
  | zero => omega
  | succ fuel => rfl

theorem body_ok {room : Nat} {stops : List String} {pieces : List Element}
    {cursor next : Cursor} (someRoom : setting.room = room + 1)
    (read : ∀ before fuel, cursor.room < fuel →
      Reading.rounds (elementRound blocks { setting with room := room } stops) fuel before cursor =
        .ok (before ++ pieces, next)) :
    body blocks setting stops cursor = .ok (pieces, next) :=
  Setting.nested_eq_ok.mpr ⟨room, someRoom, Reading.loop_of_rounds (read [])⟩

theorem loop_ok {value : Identifier} {index : Option Identifier} {iterable : Expr}
    {closing : Tag} {pieces : List Element} {endOpening : Tag} {endWord : String}
    {cursor afterValue afterIndex afterIn afterIterable afterHead afterBody next : Cursor}
    (bindsValue : binding .missingLoopVariable cursor.skipWord.skipBlanks =
      .ok (value, afterValue))
    (bindsIndex : indexBinding afterValue.skipBlanks = .ok (index, afterIndex))
    (wordIn : requireIn afterIndex = .ok afterIn)
    (head : Derives setting (.pipeline iterable) afterIn afterIterable)
    (closes : closingTag setting afterIterable = .ok (closing, afterHead))
    (content : blocks.body { setting with inLoop := true } ["end"] afterHead =
      .ok (pieces, afterBody))
    (ends : EndsBody setting afterBody endOpening endWord next) :
    loop blocks setting cursor =
      .ok (.loop value index iterable closing pieces endOpening (cursor.spanTo next), next) := by
  unfold loop
  refine Reading.bind_eq_ok.mpr ⟨_, bindsValue, ?_⟩
  refine Reading.bind_eq_ok.mpr ⟨_, bindsIndex, ?_⟩
  refine Reading.bind_eq_ok.mpr ⟨_, wordIn, ?_⟩
  refine Reading.bind_eq_ok.mpr ⟨_, commit_expression head, ?_⟩
  refine Reading.bind_eq_ok.mpr ⟨_, requireClosing_eq_ok.mpr closes, ?_⟩
  refine Reading.bind_eq_ok.mpr ⟨_, content, ?_⟩
  exact Reading.bind_eq_ok.mpr ⟨_, blockWord_eq_ok.mpr ends, rfl⟩

theorem branch_ok {test : Expr} {closing : Tag} {pieces : List Element} {rest : Alternate}
    {cursor afterTest afterHead afterBody next : Cursor}
    (head : Derives setting (.pipeline test) cursor.skipWord afterTest)
    (closes : closingTag setting afterTest = .ok (closing, afterHead))
    (content : blocks.body setting ["else", "end"] afterHead = .ok (pieces, afterBody))
    (others : ∀ keyword, alternate blocks setting keyword afterBody = .ok (rest, next)) :
    branch blocks setting cursor =
      .ok (.mk test closing pieces rest (cursor.spanTo next), next) := by
  unfold branch
  refine Reading.bind_eq_ok.mpr ⟨_, commit_expression head, ?_⟩
  refine Reading.bind_eq_ok.mpr ⟨_, requireClosing_eq_ok.mpr closes, ?_⟩
  refine Reading.bind_eq_ok.mpr ⟨_, content, ?_⟩
  exact Reading.bind_eq_ok.mpr ⟨_, others _, rfl⟩

theorem alternate_chain {keyword : Span} {opening : Tag} {word : String} {whole : Branch}
    {cursor middle next : Cursor} (ends : EndsBody setting cursor opening word middle)
    (notEnd : word ≠ "end") (goesOn : middle.skipBlanks.peekWord? = some "if")
    (content : blocks.branch setting middle.skipBlanks = .ok (whole, next)) :
    alternate blocks setting keyword cursor = .ok (.chain opening whole, next) := by
  unfold alternate
  refine Reading.bind_eq_ok.mpr ⟨_, blockWord_eq_ok.mpr ends, ?_⟩
  dsimp only
  rw [if_neg notEnd, if_pos goesOn]
  exact Reading.bind_eq_ok.mpr ⟨_, content, rfl⟩

theorem alternate_otherwise {keyword : Span} {opening closing : Tag} {word endWord : String}
    {pieces : List Element} {endOpening : Tag} {cursor middle afterHead afterBody next : Cursor}
    (ends : EndsBody setting cursor opening word middle) (notEnd : word ≠ "end")
    (noChain : middle.skipBlanks.peekWord? ≠ some "if")
    (closes : closingTag setting middle.skipBlanks = .ok (closing, afterHead))
    (content : blocks.body setting ["end"] afterHead = .ok (pieces, afterBody))
    (endsAll : EndsBody setting afterBody endOpening endWord next) :
    alternate blocks setting keyword cursor =
      .ok (.otherwise opening closing pieces endOpening, next) := by
  unfold alternate
  refine Reading.bind_eq_ok.mpr ⟨_, blockWord_eq_ok.mpr ends, ?_⟩
  dsimp only
  rw [if_neg notEnd, if_neg noChain]
  refine Reading.bind_eq_ok.mpr ⟨_, requireClosing_eq_ok.mpr closes, ?_⟩
  refine Reading.bind_eq_ok.mpr ⟨_, content, ?_⟩
  exact Reading.bind_eq_ok.mpr ⟨_, blockWord_eq_ok.mpr endsAll, rfl⟩

/-! ## All rules -/

theorem readBy_of_derivesBlock {goal : BlockGoal} {cursor next : Cursor}
    (derived : DerivesBlock setting goal cursor next) {fuel : Nat}
    (enough : cursor.rest.length < fuel) :
    BlockReadBy (blocksOf fuel) setting cursor next goal := by
  induction derived generalizing fuel with
  | elementsEnd ends =>
    intro before
    rw [List.append_nil]
    refine Reading.rounds_of_done ?_
    unfold elementRound
    rw [if_pos ends]
  | @raw setting stops elements cursor next goesOn noTag others ih =>
    intro before
    have notDone : cursor.rest ≠ [] := by
      rintro atEnd
      simp [atEnd] at goesOn
    have passes := passes_raw notDone noTag
    have after := passes.length_rest_lt
    have read := @ih fuel (by omega) (before ++ [(Grammar.raw setting cursor).1])
    rw [List.append_assoc] at read
    exact Reading.rounds_of_again (elementRound_raw goesOn noTag) passes read
  | @tag setting stops elements opening statement closing cursor afterOpening afterStatement
      afterClosing next goesOn opens content closes others ihContent ihOthers =>
    intro before
    have inTag := passes_of_openingTag opens
    have passes := inTag.trans_reaches (content.reaches.trans (reaches_of_closingTag closes))
    have inside := inTag.length_rest_lt
    have after := passes.length_rest_lt
    have read := @ihOthers fuel (by omega)
      (before ++ [.tag opening statement closing (cursor.spanTo afterClosing)])
    rw [List.append_assoc] at read
    exact Reading.rounds_of_again (elementRound_tag goesOn opens (ihContent (by omega)) closes)
      passes
      read
  | empty atEnd =>
    change statement _ _ _ = _
    unfold statement
    rw [if_pos atEnd]
  | assign notAtEnd declares allowed content =>
    change statement _ _ _ = _
    unfold statement
    rw [notAtEnd, if_neg Bool.false_ne_true, declares]
    dsimp only
    unfold assignment
    rw [allowed, if_neg Bool.false_ne_true]
    exact Reading.bind_eq_ok.mpr ⟨_, commit_expression content, rfl⟩
  | branchStatement notAtEnd noDeclaration word content ih =>
    change statement _ _ _ = _
    unfold statement
    rw [notAtEnd, if_neg Bool.false_ne_true, noDeclaration, word]
    exact Reading.bind_eq_ok.mpr ⟨_, ih enough, rfl⟩
  | loop notAtEnd noDeclaration word bindsValue bindsIndex wordIn head closes someRoom content
      ends ih =>
    change statement _ _ _ = _
    unfold statement
    rw [notAtEnd, if_neg Bool.false_ne_true, noDeclaration, word]
    obtain ⟨-, rfl, -⟩ := requireIn_eq_ok.mp wordIn
    have names := ((reaches_skipBlanks _).trans (reaches_of_binding bindsValue)).trans
      ((reaches_skipBlanks _).trans (reaches_of_indexBinding bindsIndex))
    have toBody := ((names.trans (reaches_skip _ 2)).trans head.reaches).trans
      (reaches_of_closingTag closes)
    have inside := ((passes_skipWord word).trans_reaches toBody).length_rest_lt
    refine loop_ok bindsValue bindsIndex wordIn head closes ?_ ends
    rw [blocksOf_body (by omega)]
    exact body_ok someRoom (ih (by omega))
  | breakLoop notAtEnd noDeclaration word inLoop =>
    change statement _ _ _ = _
    unfold statement
    rw [notAtEnd, if_neg Bool.false_ne_true, noDeclaration, word]
    exact loopControl_eq_ok.mpr ⟨inLoop, rfl, rfl⟩
  | continueLoop notAtEnd noDeclaration word inLoop =>
    change statement _ _ _ = _
    unfold statement
    rw [notAtEnd, if_neg Bool.false_ne_true, noDeclaration, word]
    exact loopControl_eq_ok.mpr ⟨inLoop, rfl, rfl⟩
  | expression notAtEnd noDeclaration noWord content =>
    exact statement_expression notAtEnd noDeclaration noWord content
  | branch head closes someRoom content others ihContent ihOthers =>
    have inHead := (reaches_skipWord _).trans_passes (head.passes rfl)
    have inBody := (inHead.trans_reaches (reaches_of_closingTag closes)).length_rest_lt
    have after := content.reaches.length_rest_le
    refine branch_ok head closes ?_ (ihOthers (by omega))
    rw [blocksOf_body (by omega)]
    exact body_ok someRoom (ihContent (by omega))
  | done ends =>
    intro keyword
    unfold alternate
    refine Reading.bind_eq_ok.mpr ⟨_, blockWord_eq_ok.mpr ends, ?_⟩
    dsimp only
    rw [if_pos rfl]
  | chain ends notEnd goesOn content ih =>
    intro keyword
    have inside := (ends.passes.trans_reaches (reaches_skipBlanks _)).length_rest_lt
    refine alternate_chain ends notEnd goesOn ?_
    rw [blocksOf_branch (by omega)]
    exact ih (by omega)
  | otherwise ends notEnd noChain closes someRoom content endsAll ih =>
    intro keyword
    have toBody := (reaches_skipBlanks _).trans (reaches_of_closingTag closes)
    have inside := (ends.passes.trans_reaches toBody).length_rest_lt
    refine alternate_otherwise ends notEnd noChain closes ?_ endsAll
    rw [blocksOf_body (by omega)]
    exact body_ok someRoom (ih (by omega))

/-- The elements that are derived from a whole source are read from it. -/
theorem source_of_derivesBlock {tags : Delimiters} {text : List Char} {next : Cursor}
    {pieces : List Element}
    (derived : DerivesBlock (Setting.initial tags) (.elements [] pieces) (Cursor.ofSource text)
      next) : source tags text = .ok (pieces, next) :=
  Reading.loop_of_rounds (readBy_of_derivesBlock derived (Nat.lt_succ_self _) [])

end Grammar

/-- A template with a derivation over its whole source is read. -/
theorem parse_of_derivesBlock {tags : Delimiters} {source : List Char} {next : Cursor}
    {pieces : List Element}
    (derived : Grammar.DerivesBlock (Setting.initial tags) (.elements [] pieces)
      (Cursor.ofSource source) next) : parse tags source = .ok ⟨pieces⟩ := by
  unfold parse
  rw [Grammar.source_of_derivesBlock derived]

end TemplateLang
