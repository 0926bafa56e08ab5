import TemplateLang.Proofs.Locality.Expression

/-!
# Templates in a longer text

The pieces of a template are derived in a longer text as they are in the text alone, with
their spans moved.  The end of a tag is never seen beyond, and so a tag is read in every
longer text as in its own.  A body ends where a tag is opened, and it has to be hidden up to
the word of that tag what comes after the text.
-/

namespace TemplateLang

namespace Grammar

open Cursor

variable {around : Around} {setting : Setting} {cursor middle next : Cursor} {tag : Tag}

/-! ## The ends of tags -/

theorem afterOpening_inside (standard : setting.tags = Delimiters.standard)
    (starts : startsWithMark cursor.rest setting.tags.opening.toList = true)
    (unseen : around.Unseen (afterOpening setting.tags cursor).rest) :
    ((cursor.inside around).skip 2).isAt ['-'] = (cursor.skip 2).isAt ['-'] ∧
      afterOpening setting.tags (cursor.inside around) =
        (afterOpening setting.tags cursor).inside around := by
  rw [standard] at starts unseen ⊢
  have lengthEq : Delimiters.standard.opening.length = 2 := by decide
  have skipMark : (cursor.inside around).skip 2 = (cursor.skip 2).inside around :=
    skip_inside (startsWithMark_iff.mp starts).2.length_le
  have unseenMark : around.Unseen (cursor.skip 2).rest := by
    refine Reaches.unseen ?_ unseen
    unfold afterOpening
    dsimp only
    rw [lengthEq]
    split
    · exact reaches_skip _ 1
    · exact Reaches.refl _
  have sameTrim : ((cursor.inside around).skip 2).isAt ['-'] = (cursor.skip 2).isAt ['-'] := by
    rw [skipMark]
    exact isAt_unseen unseenMark (by decide)
  refine ⟨sameTrim, ?_⟩
  unfold afterOpening
  dsimp only
  rw [lengthEq, sameTrim, skipMark]
  split
  · rename_i trims
    exact (isAt_passed trims).2
  · rfl

/-- An opening end is read in the longer text. -/
theorem openingTag_inside (standard : setting.tags = Delimiters.standard)
    (opens : openingTag setting cursor = .ok (tag, next)) (unseen : around.Unseen next.rest) :
    openingTag setting (cursor.inside around) =
      .ok (tag.shift around.distance, next.inside around) := by
  rcases openingTag_eq_ok.mp opens with ⟨starts, comments, inside, rfl⟩
  have unseenMark := (reaches_of_trivia inside).unseen unseen
  rcases afterOpening_inside standard starts unseenMark with ⟨sameTrim, afterEq⟩
  have lengthEq : setting.tags.opening.length = 2 := by rw [standard]; decide
  rw [openingTag_eq_ok]
  refine ⟨?_, comments.map (·.shift around.distance), ?_, ?_⟩
  · rw [startsWithMark_iff] at starts ⊢
    exact ⟨starts.1, starts.2.trans (List.prefix_append _ _)⟩
  · rw [afterEq]
    exact trivia_inside inside unseen
  · rw [afterEq, spanTo_inside, lengthEq, sameTrim]
    rfl

/-- What comes after a text is not seen from where a tag of the text is closed. -/
theorem unseen_of_atClosing (standard : setting.tags = Delimiters.standard) {text : List Char}
    (atMark : setting.atClosing text = true) : around.Unseen text := by
  right
  unfold Setting.atClosing at atMark
  rw [standard, Bool.or_eq_true, startsWithMark_iff, startsWithTrimmed_iff] at atMark
  rcases atMark with ⟨-, begins⟩ | ⟨rest, rfl, -, begins⟩
  · exact begins.isInfix
  · exact begins.isInfix.trans (List.suffix_cons '-' rest).isInfix

theorem unseen_of_closingTag (standard : setting.tags = Delimiters.standard)
    (closes : closingTag setting cursor = .ok (tag, next)) : around.Unseen cursor.rest := by
  rcases closingTag_eq_ok.mp closes with ⟨comments, start, before, atMark, -, -⟩
  exact (reaches_of_trivia before).unseen (unseen_of_atClosing standard atMark)

/-- A closing end is read in the longer text, whatever comes after it. -/
theorem closingTag_inside (standard : setting.tags = Delimiters.standard)
    (closes : closingTag setting cursor = .ok (tag, next)) :
    closingTag setting (cursor.inside around) =
      .ok (tag.shift around.distance, next.inside around) := by
  rcases closingTag_eq_ok.mp closes with ⟨comments, start, before, atMark, rfl, rfl⟩
  have unseen : around.Unseen start.rest := unseen_of_atClosing standard atMark
  have trimsEq : startsWithTrimmed (start.inside around).rest setting.tags.closing.toList =
      startsWithTrimmed start.rest setting.tags.closing.toList := by
    rw [standard]
    exact unseen.startsWithTrimmed_eq (by decide)
  have within : setting.tags.closing.length +
      (if startsWithTrimmed start.rest setting.tags.closing.toList then 1 else 0) ≤
        start.rest.length := by
    rw [← String.length_toList]
    split
    · rename_i trims
      rcases startsWithTrimmed_iff.mp trims with ⟨rest, restEq, -, begins⟩
      rw [restEq]
      exact Nat.succ_le_succ begins.length_le
    · rename_i notTrimmed
      rw [Setting.atClosing, Bool.or_eq_true] at atMark
      exact (startsWithMark_iff.mp (atMark.resolve_right notTrimmed)).2.length_le
  rw [closingTag_eq_ok]
  refine ⟨_, start.inside around, trivia_inside before unseen, ?_, ?_, ?_⟩
  · exact (unseen.atClosing_eq standard).trans atMark
  · rw [trimsEq, skip_inside within]
  · rw [trimsEq, spanTo_inside]
    rfl

/-- The end of a body is read in the longer text. -/
theorem EndsBody.inside {opening : Tag} {word : String}
    (ends : EndsBody setting cursor opening word next)
    (standard : setting.tags = Delimiters.standard) (unseen : around.Unseen next.rest) :
    EndsBody setting (cursor.inside around) (opening.shift around.distance) word
      (next.inside around) := by
  rcases ends with ⟨-, middle, opens, rfl, rfl⟩
  have unseenWord := (reaches_skipWord middle).unseen unseen
  have opens' := openingTag_inside standard opens unseenWord
  refine ⟨isEmpty_of_openingTag opens', _, opens', ?_, (skipWord_inside unseenWord.overlooks).symm⟩
  rw [peekWord?_inside unseenWord.overlooks]

/-! ## Names -/

/-- A declared name is found in the longer text, or none is in both. -/
theorem declaration?_inside (unseen : around.Unseen cursor.rest) :
    declaration? (cursor.inside around) =
      (declaration? cursor).map fun found =>
        (found.1.shift around.distance, found.2.inside around) := by
  have unseenBlanks : around.Unseen cursor.skipWord.skipBlanks.rest :=
    unseen_skipBlanks (unseen_skipWord unseen)
  unfold declaration?
  dsimp only
  rw [peekWord?_inside unseen.overlooks, skipWord_inside unseen.overlooks,
    skipBlanks_unseen (unseen_skipWord unseen), isAt_unseen unseenBlanks (by decide),
    spanTo_inside]
  cases cursor.peekWord? with
  | none => rfl
  | some word =>
    dsimp only
    split
    · rename_i assigns
      have skipMark : (cursor.skipWord.skipBlanks.inside around).skip 2 =
          (cursor.skipWord.skipBlanks.skip 2).inside around :=
        skip_inside (isAt_iff.mp assigns).length_le
      rw [skipMark]
      rfl
    · rfl

theorem binding_inside {missing : Fault} {name : Identifier}
    (binds : binding missing cursor = .ok (name, next)) (unseen : around.Unseen next.rest) :
    binding missing (cursor.inside around) =
      .ok (name.shift around.distance, next.inside around) := by
  have unseenHere := (reaches_of_binding binds).unseen unseen
  rcases binding_eq_ok.mp binds with ⟨atWord, free, spanEq, rfl⟩
  rw [binding_eq_ok, peekWord?_inside unseenHere.overlooks, skipWord_inside unseenHere.overlooks,
    spanTo_inside, ← spanEq]
  exact ⟨atWord, free, rfl, rfl⟩

theorem indexBinding_inside {index : Option Identifier}
    (binds : indexBinding cursor = .ok (index, next)) (unseen : around.Unseen next.rest) :
    indexBinding (cursor.inside around) =
      .ok (index.map (·.shift around.distance), next.inside around) := by
  have unseenHere := (reaches_of_indexBinding binds).unseen unseen
  rw [indexBinding_eq_ok, isAt_unseen unseenHere (by decide)]
  rcases indexBinding_eq_ok.mp binds with
    ⟨comma, name, middle, read, rfl, rfl⟩ | ⟨noComma, rfl, rfl⟩
  · have unseenMiddle := (reaches_skipBlanks middle).unseen unseen
    have unseenName := (reaches_of_binding read).unseen unseenMiddle
    have unseenComma := (reaches_skipBlanks _).unseen unseenName
    rw [(isAt_passed comma).2, skipBlanks_unseen unseenComma]
    exact .inl ⟨comma, _, _, binding_inside read unseenMiddle, rfl,
      (skipBlanks_unseen unseenMiddle).symm⟩
  · exact .inr ⟨noComma, rfl, rfl⟩

theorem requireIn_inside (wordIn : requireIn cursor = .ok next)
    (unseen : around.Unseen next.rest) :
    requireIn (cursor.inside around) = .ok (next.inside around) := by
  rcases requireIn_eq_ok.mp wordIn with ⟨atWord, rfl, apart⟩
  have skipIn : (cursor.inside around).skip 2 = (cursor.skip 2).inside around :=
    skip_inside (isAt_iff.mp atWord).length_le
  rw [requireIn_eq_ok, skipIn, rest_inside, unseen.head?_eq]
  exact ⟨(isAt_unseen (unseen_of_skip unseen) (by decide)).trans atWord, rfl, apart⟩

/-! ## Rules -/

/-- What comes after the text is not seen where a body ends, nor from the word of the tag that
ends it. -/
def EndUnseen (around : Around) (setting : Setting) (cursor : Cursor) : Prop :=
  around.Unseen cursor.rest ∧ ∀ tag middle,
    openingTag setting cursor = .ok (tag, middle) → around.Unseen middle.rest

theorem EndsBody.endUnseen {opening : Tag} {word : String}
    (ends : EndsBody setting cursor opening word next) (unseen : around.Unseen next.rest) :
    EndUnseen around setting cursor := by
  refine ⟨ends.reaches.unseen unseen, ?_⟩
  intro tag' middle' opens'
  rcases ends with ⟨-, middle, opens, -, rfl⟩
  rcases Prod.mk.inj (Except.ok.inj (opens.symm.trans opens')) with ⟨-, rfl⟩
  exact (reaches_skipWord middle).unseen unseen

/-- What is left of a condition begins with the end of a body. -/
theorem endUnseen_of_alternate {alternate : Alternate}
    (derived : DerivesBlock setting (.alternate alternate) cursor next)
    (unseen : around.Unseen next.rest) : EndUnseen around setting cursor := by
  cases derived with
  | done ends => exact ends.endUnseen unseen
  | chain ends _ _ content =>
    exact ends.endUnseen (((reaches_skipBlanks _).trans content.reaches).unseen unseen)
  | otherwise ends _ _ closes _ content endsAll =>
    have closed := (reaches_skipBlanks _).trans (reaches_of_closingTag closes)
    exact ends.endUnseen (((closed.trans content.reaches).trans endsAll.reaches).unseen unseen)

/-- What is derived for a goal is derived in the longer text. -/
def BlockGoal.Kept (around : Around) (setting : Setting) (cursor next : Cursor) :
    BlockGoal → Prop
  | .elements stops pieces => EndUnseen around setting next →
    DerivesBlock setting (.elements stops (shiftIn around.distance pieces))
      (cursor.inside around) (next.inside around)
  | .statement content => around.Unseen next.rest →
    DerivesBlock setting (.statement (content.shift around.distance)) (cursor.inside around)
      (next.inside around)
  | .branch whole => around.Unseen next.rest →
    DerivesBlock setting (.branch (whole.shift around.distance)) (cursor.inside around)
      (next.inside around)
  | .alternate rest => around.Unseen next.rest →
    DerivesBlock setting (.alternate (rest.shift around.distance)) (cursor.inside around)
      (next.inside around)

section

variable {stops : List String} {pieces : List Element}

variable (standard : setting.tags = Delimiters.standard)

include standard

/-! ### Elements -/

theorem kept_elementsEnd
    (ends : (cursor.rest.isEmpty || atBlockWord setting stops cursor) = true) :
    BlockGoal.Kept around setting cursor cursor (.elements stops []) := by
  rintro ⟨unseen, unseenWord⟩
  apply DerivesBlock.elementsEnd
  rw [Bool.or_eq_true] at ends ⊢
  rcases ends with atEnd | stopped
  · left
    rw [List.isEmpty_iff] at atEnd ⊢
    rw [atEnd] at unseen
    rw [rest_inside, atEnd, unseen.eq_nil]
    rfl
  · right
    rcases atBlockWord_iff.mp stopped with ⟨tag, middle, word, opens, isNext, isStop⟩
    have unseenMiddle := unseenWord _ _ opens
    have isNext' := (peekWord?_inside unseenMiddle.overlooks).trans isNext
    exact atBlockWord_iff.mpr
      ⟨_, _, word, openingTag_inside standard opens unseenMiddle, isNext', isStop⟩

omit standard in
/-- Raw text that an opening mark ends, or the end of the text with nothing after it, is read
in the longer text. -/
theorem raw_inside (goesOn : (cursor.rest.isEmpty || atBlockWord setting stops cursor) = false)
    (noTag : startsWithMark cursor.rest setting.tags.opening.toList = false)
    (ended : (raw setting cursor).2.rest = [] → around.after = []) {others : List Element}
    {stop : Cursor} (later : DerivesBlock setting (.elements stops others)
      ((raw setting cursor).2.inside around) stop) :
    DerivesBlock setting
      (.elements stops ((raw setting cursor).1.shift around.distance :: others))
      (cursor.inside around) stop := by
  have notDone : cursor.rest ≠ [] := by
    rintro atEnd
    simp [atEnd] at goesOn
  have crosses : cursor.Crosses (rawText setting cursor.rest) (raw setting cursor).2 := by
    rcases rawText_spec setting cursor.rest with ⟨after, split, -⟩
    exact crosses_of_rest split
  have ended' (atEnd : (raw setting cursor).2.rest = []) :
      ((raw setting cursor).2.inside around).rest = [] := by
    rw [rest_inside, atEnd, ended atEnd]
    rfl
  have stopped : ((raw setting cursor).2.inside around).rest = [] ∨
      startsWithMark ((raw setting cursor).2.inside around).rest setting.tags.opening.toList =
        true := by
    apply (raw_stops setting cursor).imp ended'
    intro starts
    rw [startsWithMark_iff] at starts ⊢
    exact ⟨starts.1, starts.2.trans (List.prefix_append _ _)⟩
  rcases raw_reads (rawText_ne_nil notDone noTag) crosses.inside stopped ended' with
    ⟨rawEq, noTag', goesOn'⟩
  have later' : DerivesBlock setting (.elements stops others)
      (raw setting (cursor.inside around)).2 stop := by
    rw [rawEq]
    exact later
  have whole := DerivesBlock.raw (goesOn' stops) noTag' later'
  rw [rawEq, spanTo_inside] at whole
  exact whole

theorem tag_inside {opening closing : Tag} {content : Statement}
    {afterOpening afterContent afterClosing : Cursor}
    (goesOn : (cursor.rest.isEmpty || atBlockWord setting stops cursor) = false)
    (opens : openingTag setting cursor = .ok (opening, afterOpening))
    (reaches : afterOpening.Reaches afterContent)
    (kept : BlockGoal.Kept around setting afterOpening afterContent (.statement content))
    (closes : closingTag setting afterContent = .ok (closing, afterClosing))
    {others : List Element} {stop : Cursor}
    (later : DerivesBlock setting (.elements stops others) (afterClosing.inside around) stop) :
    DerivesBlock setting
      (.elements stops
        ((Element.tag opening content closing (cursor.spanTo afterClosing)).shift
          around.distance :: others))
      (cursor.inside around) stop := by
  have unseenContent : around.Unseen afterContent.rest := unseen_of_closingTag standard closes
  have unseenOpening := reaches.unseen unseenContent
  have opens' := openingTag_inside standard opens unseenOpening
  have goesOn' :
      ((cursor.inside around).rest.isEmpty || atBlockWord setting stops (cursor.inside around)) =
        false := by
    rw [isEmpty_of_openingTag opens, Bool.false_or, atBlockWord_of_openingTag opens] at goesOn
    rw [isEmpty_of_openingTag opens', Bool.false_or, atBlockWord_of_openingTag opens',
      peekWord?_inside unseenOpening.overlooks, goesOn]
  have whole := DerivesBlock.tag goesOn' opens' (kept unseenContent)
    (closingTag_inside standard closes) later
  rw [spanTo_inside] at whole
  exact whole

/-! ### Statements -/

/-- What begins with a word and is no declaration is so in the longer text. -/
theorem undeclared_inside (notAtEnd : setting.atClosing cursor.rest = false)
    (noDeclaration : declaration? cursor = none) (unseen : around.Unseen cursor.rest) :
    setting.atClosing (cursor.inside around).rest = false ∧
      declaration? (cursor.inside around) = none ∧
      (cursor.inside around).peekWord? = cursor.peekWord? := by
  refine ⟨(unseen.atClosing_eq standard).trans notAtEnd, ?_, peekWord?_inside unseen.overlooks⟩
  rw [declaration?_inside unseen, noDeclaration]
  rfl

theorem kept_assign {target : Identifier} {value : Expr}
    (notAtEnd : setting.atClosing cursor.rest = false)
    (declares : declaration? cursor = some (target, middle))
    (allowed : isReserved target.name = false)
    (content : Derives setting (.pipeline value) middle next) :
    BlockGoal.Kept around setting cursor next
      (.statement (.assign target value (target.span.union value.span))) := by
  intro unseen
  have unseenHere := ((reaches_of_declaration? declares).trans content.reaches).unseen unseen
  have declares' : declaration? (cursor.inside around) =
      some (target.shift around.distance, middle.inside around) := by
    rw [declaration?_inside unseenHere, declares]
    rfl
  have whole := DerivesBlock.assign ((unseenHere.atClosing_eq standard).trans notAtEnd) declares'
    allowed (content.inside standard around unseen)
  rw [Identifier.shift, Expr.span_shift, Span.union_shift] at whole
  exact whole

theorem kept_loop {room : Nat} {value : Identifier} {index : Option Identifier}
    {iterable : Expr} {closing endOpening : Tag} {endWord : String}
    {afterValue afterIndex afterIn afterIterable afterHead afterBody : Cursor}
    (notAtEnd : setting.atClosing cursor.rest = false)
    (noDeclaration : declaration? cursor = none)
    (word : cursor.peekWord? = some "for")
    (bindsValue : binding .missingLoopVariable cursor.skipWord.skipBlanks =
      .ok (value, afterValue))
    (bindsIndex : indexBinding afterValue.skipBlanks = .ok (index, afterIndex))
    (wordIn : requireIn afterIndex = .ok afterIn)
    (head : Derives setting (.pipeline iterable) afterIn afterIterable)
    (closes : closingTag setting afterIterable = .ok (closing, afterHead))
    (someRoom : setting.room = room + 1)
    (content : BlockGoal.Kept around { setting with room := room, inLoop := true } afterHead
      afterBody (.elements ["end"] pieces))
    (ends : EndsBody setting afterBody endOpening endWord next) :
    BlockGoal.Kept around setting cursor next
      (.statement (.loop value index iterable closing pieces endOpening
        (cursor.spanTo next))) := by
  intro unseen
  have unseenHead : around.Unseen afterIterable.rest := unseen_of_closingTag standard closes
  have unseenIn := head.reaches.unseen unseenHead
  have unseenIndex : around.Unseen afterIndex.rest := by
    rcases requireIn_eq_ok.mp wordIn with ⟨-, rfl, -⟩
    exact unseen_of_skip unseenIn
  have unseenBlanks := (reaches_of_indexBinding bindsIndex).unseen unseenIndex
  have unseenValue := (reaches_skipBlanks afterValue).unseen unseenBlanks
  have unseenName := (reaches_of_binding bindsValue).unseen unseenValue
  have unseenWord := (reaches_skipBlanks _).unseen unseenName
  have unseenHere := (reaches_skipWord cursor).unseen unseenWord
  have bindsValue' := binding_inside bindsValue unseenValue
  have bindsIndex' := indexBinding_inside bindsIndex unseenIndex
  rw [← skipBlanks_unseen unseenWord, ← skipWord_inside unseenHere.overlooks] at bindsValue'
  rw [← skipBlanks_unseen unseenValue] at bindsIndex'
  rcases undeclared_inside standard notAtEnd noDeclaration unseenHere with
    ⟨notAtEnd', noDeclaration', sameWord⟩
  have whole := DerivesBlock.loop notAtEnd' noDeclaration' (sameWord.trans word) bindsValue'
    bindsIndex' (requireIn_inside wordIn unseenIn) (head.inside standard around unseenHead)
    (closingTag_inside standard closes) someRoom (content (ends.endUnseen unseen))
    (ends.inside standard unseen)
  rw [spanTo_inside] at whole
  exact whole

/-! ### Conditions -/

theorem kept_branch {room : Nat} {test : Expr} {closing : Tag} {alternate : Alternate}
    {afterTest afterHead afterBody : Cursor}
    (head : Derives setting (.pipeline test) cursor.skipWord afterTest)
    (closes : closingTag setting afterTest = .ok (closing, afterHead))
    (someRoom : setting.room = room + 1)
    (content : BlockGoal.Kept around { setting with room := room } afterHead afterBody
      (.elements ["else", "end"] pieces))
    (derived : DerivesBlock setting (.alternate alternate) afterBody next)
    (others : BlockGoal.Kept around setting afterBody next (.alternate alternate)) :
    BlockGoal.Kept around setting cursor next
      (.branch (.mk test closing pieces alternate (cursor.spanTo next))) := by
  intro unseen
  have unseenTest : around.Unseen afterTest.rest := unseen_of_closingTag standard closes
  have unseenHere :=
    (reaches_skipWord cursor).unseen (head.reaches.unseen unseenTest)
  have head' := head.inside standard around unseenTest
  rw [← skipWord_inside unseenHere.overlooks] at head'
  have endUnseen : EndUnseen around setting afterBody := endUnseen_of_alternate derived unseen
  have whole := DerivesBlock.branch head' (closingTag_inside standard closes) someRoom
    (content endUnseen) (others unseen)
  rw [spanTo_inside] at whole
  exact whole

theorem kept_chain {opening : Tag} {word : String} {branch : Branch}
    (ends : EndsBody setting cursor opening word middle) (notEnd : word ≠ "end")
    (goesOn : middle.skipBlanks.peekWord? = some "if")
    (reaches : middle.skipBlanks.Reaches next)
    (content : BlockGoal.Kept around setting middle.skipBlanks next (.branch branch)) :
    BlockGoal.Kept around setting cursor next (.alternate (.chain opening branch)) := by
  intro unseen
  have unseenBlanks := reaches.unseen unseen
  have unseenMiddle := (reaches_skipBlanks middle).unseen unseenBlanks
  have content' := content unseen
  have goesOn' := (peekWord?_inside unseenBlanks.overlooks).trans goesOn
  rw [← skipBlanks_unseen unseenMiddle] at content' goesOn'
  exact .chain (ends.inside standard unseenMiddle) notEnd goesOn' content'

theorem kept_otherwise {room : Nat} {opening closing endOpening : Tag} {word endWord : String}
    {afterHead afterBody : Cursor}
    (ends : EndsBody setting cursor opening word middle) (notEnd : word ≠ "end")
    (noChain : middle.skipBlanks.peekWord? ≠ some "if")
    (closes : closingTag setting middle.skipBlanks = .ok (closing, afterHead))
    (someRoom : setting.room = room + 1)
    (content : BlockGoal.Kept around { setting with room := room } afterHead afterBody
      (.elements ["end"] pieces))
    (endsAll : EndsBody setting afterBody endOpening endWord next) :
    BlockGoal.Kept around setting cursor next
      (.alternate (.otherwise opening closing pieces endOpening)) := by
  intro unseen
  have unseenBlanks : around.Unseen middle.skipBlanks.rest :=
    unseen_of_closingTag standard closes
  have unseenMiddle := (reaches_skipBlanks middle).unseen unseenBlanks
  have closes' : closingTag setting (middle.skipBlanks.inside around) =
      .ok (closing.shift around.distance, afterHead.inside around) :=
    closingTag_inside standard closes
  have noChain' : (middle.skipBlanks.inside around).peekWord? ≠ some "if" := by
    rw [peekWord?_inside unseenBlanks.overlooks]
    exact noChain
  rw [← skipBlanks_unseen unseenMiddle] at closes' noChain'
  exact .otherwise (ends.inside standard unseenMiddle) notEnd noChain' closes' someRoom
    (content (endsAll.endUnseen unseen)) (endsAll.inside standard unseen)

end

/-! ## All rules -/

/-- Whatever is derived of a template is derived in the longer text. -/
theorem DerivesBlock.inside {goal : BlockGoal} (derived : DerivesBlock setting goal cursor next)
    (standard : setting.tags = Delimiters.standard) (around : Around) :
    goal.Kept around setting cursor next := by
  induction derived with
  | elementsEnd ends => exact kept_elementsEnd standard ends
  | raw goesOn noTag derived others =>
    intro endUnseen
    apply raw_inside goesOn noTag _ (others standard endUnseen)
    intro atEnd
    have unseen := derived.reaches.unseen endUnseen.1
    rw [atEnd] at unseen
    exact unseen.eq_nil
  | tag goesOn opens derived closes _ content others =>
    exact fun endUnseen => tag_inside standard goesOn opens derived.reaches (content standard)
      closes (others standard endUnseen)
  | empty atEnd => exact fun unseen => .empty ((unseen.atClosing_eq standard).trans atEnd)
  | assign notAtEnd declares allowed content =>
    exact kept_assign standard notAtEnd declares allowed content
  | branchStatement notAtEnd noDeclaration word derived content =>
    intro unseen
    rcases undeclared_inside standard notAtEnd noDeclaration (derived.reaches.unseen unseen) with
      ⟨notAtEnd', noDeclaration', sameWord⟩
    exact .branchStatement notAtEnd' noDeclaration' (sameWord.trans word) (content standard unseen)
  | loop notAtEnd noDeclaration word bindsValue bindsIndex wordIn head closes someRoom _ ends
      content =>
    exact kept_loop standard notAtEnd noDeclaration word bindsValue bindsIndex wordIn head closes
      someRoom (content standard) ends
  | breakLoop notAtEnd noDeclaration word inLoop =>
    intro unseen
    have unseenHere := (reaches_skipWord _).unseen unseen
    rcases undeclared_inside standard notAtEnd noDeclaration unseenHere with
      ⟨notAtEnd', noDeclaration', sameWord⟩
    have whole := DerivesBlock.breakLoop notAtEnd' noDeclaration' (sameWord.trans word) inLoop
    rw [skipWord_inside unseenHere.overlooks, spanTo_inside] at whole
    exact whole
  | continueLoop notAtEnd noDeclaration word inLoop =>
    intro unseen
    have unseenHere := (reaches_skipWord _).unseen unseen
    rcases undeclared_inside standard notAtEnd noDeclaration unseenHere with
      ⟨notAtEnd', noDeclaration', sameWord⟩
    have whole := DerivesBlock.continueLoop notAtEnd' noDeclaration' (sameWord.trans word) inLoop
    rw [skipWord_inside unseenHere.overlooks, spanTo_inside] at whole
    exact whole
  | expression notAtEnd noDeclaration noWord content =>
    intro unseen
    rcases undeclared_inside standard notAtEnd noDeclaration (content.reaches.unseen unseen) with
      ⟨notAtEnd', noDeclaration', sameWord⟩
    exact .expression notAtEnd' noDeclaration' (fun word starts => noWord word (sameWord ▸ starts))
      (content.inside standard around unseen)
  | branch head closes someRoom _ derived content others =>
    exact kept_branch standard head closes someRoom (content standard) derived (others standard)
  | done ends => exact fun unseen => .done (ends.inside standard unseen)
  | chain ends notEnd goesOn derived content =>
    exact kept_chain standard ends notEnd goesOn derived.reaches (content standard)
  | otherwise ends notEnd noChain closes someRoom _ endsAll content =>
    exact kept_otherwise standard ends notEnd noChain closes someRoom (content standard) endsAll

end Grammar

end TemplateLang
