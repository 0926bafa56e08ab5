import TemplateLang.Helper.Registry
import TemplateLang.Proofs.Blanking.Tags

/-!
# Templates with a blank for a comment

A comment in a template can be replaced by a blank unless it stands beside a call that is
called itself.  The new text is read again, and what is read has the same essence.  Each piece
of a template has a twin, by induction over its derivation.  A statement needs that its tag is
closed after it, since a name before a comment must not become a declaration.
-/

namespace TemplateLang

open Cursor

/-! ## Spared templates -/

mutual

/-- Whether a comment spares the expressions of elements. -/
def sparedIn (comment : Comment) : List Element → Bool
  | [] => true
  | .raw _ _ :: others => sparedIn comment others
  | .tag _ content _ _ :: others => content.isSparedBy comment && sparedIn comment others

/-- Whether a comment spares the expressions of a statement. -/
def Statement.isSparedBy (comment : Comment) : Statement → Bool
  | .empty | .breakLoop _ | .continueLoop _ => true
  | .expression expr => expr.isSparedBy comment
  | .assign _ value _ => value.isSparedBy comment
  | .branch branch => branch.isSparedBy comment
  | .loop _ _ iterable _ body _ _ => iterable.isSparedBy comment && sparedIn comment body

/-- Whether a comment spares the expressions of a condition. -/
def Branch.isSparedBy (comment : Comment) : Branch → Bool
  | .mk test _ body alternate _ =>
    test.isSparedBy comment && sparedIn comment body && alternate.isSparedBy comment

/-- Whether a comment spares the expressions of the rest of a condition. -/
def Alternate.isSparedBy (comment : Comment) : Alternate → Bool
  | .done _ => true
  | .otherwise _ _ body _ => sparedIn comment body
  | .chain _ next => next.isSparedBy comment

end

/-- Whether a comment of a template stands beside no call that is called itself. -/
def Template.isSparedBy (comment : Comment) (template : Template) : Bool :=
  sparedIn comment template.elements

namespace Grammar

variable {gap : Gap} {setting : Setting} {cursor cursor' next : Cursor} {opening closing : Tag}

/-- What is derived between two places of a template has a twin, if the comment spares it. -/
def BlockGoal.Twinned (gap : Gap) (setting : Setting) (cursor next : Cursor) : BlockGoal → Prop
  | .elements stops pieces => sparedIn gap.comment pieces = true → ∀ cursor',
    Twin gap false cursor cursor' →
      ∃ pieces' next', DerivesBlock setting (.elements stops pieces') cursor' next' ∧
        Twin gap false next next' ∧ essenceIn pieces' = essenceIn pieces
  | .statement content => content.isSparedBy gap.comment = true → cursor.Settled →
    (∃ closing stop, closingTag setting next = .ok (closing, stop)) → ∀ cursor',
      Twin gap true cursor cursor' →
        ∃ content' next', DerivesBlock setting (.statement content') cursor' next' ∧
          Twin gap true next next' ∧ content'.essence = content.essence
  | .branch whole => whole.isSparedBy gap.comment = true → ∀ cursor',
    Twin gap true cursor cursor' →
      ∃ whole' next', DerivesBlock setting (.branch whole') cursor' next' ∧
        Twin gap true next next' ∧ whole'.essence = whole.essence
  | .alternate rest => rest.isSparedBy gap.comment = true → ∀ cursor',
    Twin gap false cursor cursor' →
      ∃ rest' next', DerivesBlock setting (.alternate rest') cursor' next' ∧
        Twin gap true next next' ∧ rest'.essence = rest.essence

/-! ## Elements -/

variable {stops : List String} {pieces : List Element}

theorem twinned_elementsEnd (standard : setting.tags = Delimiters.standard)
    (ends : (cursor.rest.isEmpty || atBlockWord setting stops cursor) = true) :
    BlockGoal.Twinned gap setting cursor cursor (.elements stops []) := by
  intro _ cursor' twin
  refine ⟨[], cursor', .elementsEnd ?_, twin, rfl⟩
  rw [Bool.or_eq_true] at ends ⊢
  rcases ends with empty | atWord
  · left
    have blanked := twin.blanked
    rw [List.isEmpty_iff.mp empty] at blanked
    generalize cursor'.rest = text at blanked
    cases blanked
    rfl
  · right
    rcases atBlockWord_iff.mp atWord with ⟨tag, next, word, opens, isNext, isStop⟩
    rcases openingTag_twin standard opens twin with ⟨tag', next', opens', twin', -⟩
    have isNext' := (peekWord?_blanked twin'.blanked).trans isNext
    exact atBlockWord_iff.mpr ⟨tag', next', word, opens', isNext', isStop⟩

theorem twinned_raw (standard : setting.tags = Delimiters.standard)
    (goesOn : (cursor.rest.isEmpty || atBlockWord setting stops cursor) = false)
    (noTag : startsWithMark cursor.rest setting.tags.opening.toList = false)
    (ih : BlockGoal.Twinned gap setting (Grammar.raw setting cursor).2 next
      (.elements stops pieces)) :
    BlockGoal.Twinned gap setting cursor next
      (.elements stops ((Grammar.raw setting cursor).1 :: pieces)) := by
  intro spared cursor' twin
  rw [raw_eq, sparedIn] at spared
  rcases raw_twin standard goesOn noTag twin with ⟨span, middle', rawEq, noTag', goesOn', twin'⟩
  rcases ih spared _ twin' with ⟨pieces', next', derived, outside, essence⟩
  have derived' :
      DerivesBlock setting (.elements stops pieces') (Grammar.raw setting cursor').2 next' := by
    rw [rawEq]
    exact derived
  refine ⟨_, next', .raw goesOn' noTag' derived', outside, ?_⟩
  rw [rawEq, raw_eq, essenceIn, essenceIn, essence]

theorem twinned_tag {content : Statement} {span : Span}
    {afterOpening afterContent afterClosing : Cursor}
    (standard : setting.tags = Delimiters.standard)
    (goesOn : (cursor.rest.isEmpty || atBlockWord setting stops cursor) = false)
    (opens : openingTag setting cursor = .ok (opening, afterOpening))
    (closes : closingTag setting afterContent = .ok (closing, afterClosing))
    (ihContent : BlockGoal.Twinned gap setting afterOpening afterContent (.statement content))
    (ih : BlockGoal.Twinned gap setting afterClosing next (.elements stops pieces)) :
    BlockGoal.Twinned gap setting cursor next
      (.elements stops (.tag opening content closing span :: pieces)) := by
  intro spared cursor' twin
  rw [sparedIn, Bool.and_eq_true] at spared
  have settled := (isStandard_of_openingTag standard opens).2
  rcases openingTag_twin standard opens twin with
    ⟨opening', afterOpening', opens', inside, essenceOpening⟩
  rcases ihContent spared.1 settled ⟨_, _, closes⟩ _ inside with
    ⟨content', afterContent', derived, inside', essence⟩
  rcases closingTag_twin standard closes inside'.aligned with
    ⟨closing', afterClosing', closes', outside, essenceClosing⟩
  rcases ih spared.2 _ outside with ⟨pieces', next', derivedOthers, twin', essenceOthers⟩
  have goesOn' : (cursor'.rest.isEmpty || atBlockWord setting stops cursor') = false := by
    rw [isEmpty_of_openingTag opens, Bool.false_or, atBlockWord_of_openingTag opens] at goesOn
    rw [isEmpty_of_openingTag opens', Bool.false_or, atBlockWord_of_openingTag opens',
      peekWord?_blanked inside.blanked, goesOn]
  refine ⟨_, next', .tag goesOn' opens' derived closes' derivedOthers, twin', ?_⟩
  rw [essenceIn, essenceIn, essenceOpening, essence, essenceClosing, essenceOthers]

/-! ## Statements -/

variable {expr : Expr}

theorem twinned_expression (standard : setting.tags = Delimiters.standard)
    (notAtEnd : setting.atClosing cursor.rest = false)
    (derived : Derives setting (.pipeline expr) cursor next) :
    BlockGoal.Twinned gap setting cursor next (.statement (.expression expr)) := by
  intro spared settled closed cursor' twin
  rcases closed with ⟨closing, stop, closes⟩
  rcases derived.twinned standard gap spared _ twin.aligned with
    ⟨expr', next', derived', twin', alike⟩
  rcases closingTag_twin standard closes twin'.aligned with ⟨closing', stop', closes', -⟩
  have notAtEnd' := (twin.blanked.atClosing_eq standard).trans notAtEnd
  -- The tag is closed behind the expression in both texts, so it declares nothing.
  have notColon : next'.isAt [':', '='] = false := by
    rw [Bool.eq_false_iff]
    intro isAt
    rcases isAt_iff.mp isAt with ⟨rest, restEq⟩
    have isColon : next'.isAt [':'] = true := isAt_singleton_iff.mpr ⟨_, restEq.symm⟩
    have settledColon := settled_of_isAt isColon (by decide) (by decide)
    rw [← settledColon.skipBlanks, not_colon_of_closingTag standard closes'] at isColon
    exact Bool.noConfusion isColon
  rcases derived'.someRoom rfl with ⟨room, someRoom⟩
  refine ⟨.expression expr', next', ?_, twin', ?_⟩
  · exact derives_statement someRoom (settled.blanked twin.blanked) derived' notAtEnd' notColon
  · rw [Statement.essence, Statement.essence, alike.essence]

theorem twinned_assign {target : Identifier} {afterTarget : Cursor} {span : Span}
    (standard : setting.tags = Delimiters.standard)
    (notAtEnd : setting.atClosing cursor.rest = false)
    (declares : declaration? cursor = some (target, afterTarget))
    (allowed : isReserved target.name = false)
    (derived : Derives setting (.pipeline expr) afterTarget next) :
    BlockGoal.Twinned gap setting cursor next (.statement (.assign target expr span)) := by
  intro spared _ _ cursor' twin
  rcases declaration_twin declares twin with ⟨target', afterTarget', declares', inside, essence⟩
  rcases derived.twinned standard gap spared _ inside.aligned with
    ⟨expr', next', derived', twin', alike⟩
  have notAtEnd' := (twin.blanked.atClosing_eq standard).trans notAtEnd
  have nameEq : target'.essence.name = target.essence.name := congrArg _ essence
  change target'.name = target.name at nameEq
  have allowed' : isReserved target'.name = false := nameEq ▸ allowed
  refine ⟨_, next', .assign notAtEnd' declares' allowed' derived', twin', ?_⟩
  rw [Statement.essence, Statement.essence, essence, alike.essence]

/-- A word that leaves a loop is read in both texts. -/
theorem twinned_jump {statement : Span → Statement} {word : String}
    (standard : setting.tags = Delimiters.standard)
    (notAtEnd : setting.atClosing cursor.rest = false) (atWord : cursor.peekWord? = some word)
    (derives : ∀ {cursor}, setting.atClosing cursor.rest = false → declaration? cursor = none →
      cursor.peekWord? = some word →
      DerivesBlock setting (.statement (statement (cursor.spanTo cursor.skipWord))) cursor
        cursor.skipWord)
    (essence : ∀ span span', (statement span').essence = (statement span).essence) :
    BlockGoal.Twinned gap setting cursor cursor.skipWord
      (.statement (statement (cursor.spanTo cursor.skipWord))) := by
  intro _ _ closed cursor' twin
  rcases closed with ⟨closing, stop, closes⟩
  rcases closingTag_twin standard closes twin.skipWord.aligned with ⟨closing', stop', closes', -⟩
  have notAtEnd' := (twin.blanked.atClosing_eq standard).trans notAtEnd
  have noDeclaration := declaration?_eq_none (not_colon_of_closingTag standard closes')
  have atWord' := (peekWord?_blanked twin.blanked).trans atWord
  exact ⟨_, _, derives notAtEnd' noDeclaration atWord', twin.skipWord, essence _ _⟩

theorem twinned_loop {room : Nat} {value : Identifier} {index : Option Identifier}
    {iterable : Expr} {body : List Element} {endOpening : Tag} {endWord : String} {span : Span}
    {afterValue afterIndex afterIn afterIterable afterHead afterBody : Cursor}
    (standard : setting.tags = Delimiters.standard)
    (notAtEnd : setting.atClosing cursor.rest = false) (word : cursor.peekWord? = some "for")
    (bindsValue : binding .missingLoopVariable cursor.skipWord.skipBlanks =
      .ok (value, afterValue))
    (bindsIndex : indexBinding afterValue.skipBlanks = .ok (index, afterIndex))
    (wordIn : requireIn afterIndex = .ok afterIn)
    (head : Derives setting (.pipeline iterable) afterIn afterIterable)
    (closes : closingTag setting afterIterable = .ok (closing, afterHead))
    (someRoom : setting.room = room + 1)
    (ih : BlockGoal.Twinned gap { setting with room := room, inLoop := true } afterHead afterBody
      (.elements ["end"] body))
    (ends : EndsBody setting afterBody endOpening endWord next) :
    BlockGoal.Twinned gap setting cursor next
      (.statement (.loop value index iterable closing body endOpening span)) := by
  intro spared _ _ cursor' twin
  simp only [Statement.isSparedBy, Bool.and_eq_true] at spared
  have notAtEnd' := (twin.blanked.atClosing_eq standard).trans notAtEnd
  have word' := (peekWord?_blanked twin.blanked).trans word
  rcases loopHead_twin bindsValue bindsIndex wordIn twin.skipWord with
    ⟨value', index', afterValue', afterIndex', afterIn', names, inside⟩
  have noDeclaration := declaration?_eq_none
    (not_at_of_word (binding_eq_ok.mp names.bindsValue).1 (by decide))
  rcases head.twinned standard gap spared.1 _ inside.aligned with
    ⟨iterable', afterIterable', derivedHead, atClosing, alike⟩
  rcases closingTag_twin standard closes atClosing.aligned with
    ⟨closing', afterHead', closes', outside, essenceClosing⟩
  rcases ih spared.2 _ outside with ⟨body', afterBody', derivedBody, outside', essenceBody⟩
  rcases endsBody_twin standard ends outside' with
    ⟨endOpening', next', ends', twin', essenceEnd⟩
  refine ⟨_, next', .loop notAtEnd' noDeclaration word' names.bindsValue names.bindsIndex
    names.wordIn derivedHead closes' someRoom derivedBody ends', twin', ?_⟩
  rw [Statement.essence, Statement.essence, names.essence, names.indexEssence, alike.essence,
    essenceClosing, essenceBody, essenceEnd]

/-! ## Conditions -/

/-- The condition after its word does not begin with a colon. -/
theorem DerivesBlock.not_colon {whole : Branch}
    (derived : DerivesBlock setting (.branch whole) cursor next) :
    cursor.skipWord.skipBlanks.isAt [':'] = false := by
  cases derived with
  | branch head => exact not_colon_of_pipeline head

theorem twinned_branchStatement {whole : Branch} (standard : setting.tags = Delimiters.standard)
    (notAtEnd : setting.atClosing cursor.rest = false) (word : cursor.peekWord? = some "if")
    (ih : BlockGoal.Twinned gap setting cursor next (.branch whole)) :
    BlockGoal.Twinned gap setting cursor next (.statement (.branch whole)) := by
  intro spared _ _ cursor' twin
  rcases ih spared _ twin with ⟨whole', next', derived, twin', essence⟩
  have notAtEnd' := (twin.blanked.atClosing_eq standard).trans notAtEnd
  have noDeclaration := declaration?_eq_none derived.not_colon
  have word' := (peekWord?_blanked twin.blanked).trans word
  refine ⟨.branch whole', next', .branchStatement notAtEnd' noDeclaration word' derived, twin', ?_⟩
  rw [Statement.essence, Statement.essence, essence]

theorem twinned_branch {room : Nat} {test : Expr} {body : List Element} {rest : Alternate}
    {afterTest afterHead afterBody : Cursor} {span : Span}
    (standard : setting.tags = Delimiters.standard)
    (head : Derives setting (.pipeline test) cursor.skipWord afterTest)
    (closes : closingTag setting afterTest = .ok (closing, afterHead))
    (someRoom : setting.room = room + 1)
    (ihBody : BlockGoal.Twinned gap { setting with room := room } afterHead afterBody
      (.elements ["else", "end"] body))
    (ih : BlockGoal.Twinned gap setting afterBody next (.alternate rest)) :
    BlockGoal.Twinned gap setting cursor next (.branch (.mk test closing body rest span)) := by
  intro spared cursor' twin
  simp only [Branch.isSparedBy, Bool.and_eq_true] at spared
  rcases head.twinned standard gap spared.1.1 _ twin.skipWord.aligned with
    ⟨test', afterTest', derivedHead, atClosing, alike⟩
  rcases closingTag_twin standard closes atClosing.aligned with
    ⟨closing', afterHead', closes', outside, essenceClosing⟩
  rcases ihBody spared.1.2 _ outside with ⟨body', afterBody', derivedBody, outside', essenceBody⟩
  rcases ih spared.2 _ outside' with ⟨rest', next', derivedRest, twin', essence⟩
  refine ⟨_, next', .branch derivedHead closes' someRoom derivedBody derivedRest, twin', ?_⟩
  rw [Branch.essence, Branch.essence, alike.essence, essenceClosing, essenceBody, essence]

theorem twinned_done (standard : setting.tags = Delimiters.standard)
    (ends : EndsBody setting cursor opening "end" next) :
    BlockGoal.Twinned gap setting cursor next (.alternate (.done opening)) := by
  intro _ cursor' twin
  rcases endsBody_twin standard ends twin with ⟨opening', next', ends', twin', essence⟩
  refine ⟨_, next', .done ends', twin', ?_⟩
  rw [Alternate.essence, Alternate.essence, essence]

variable {word : String} {middle : Cursor}

theorem twinned_chain {whole : Branch} (standard : setting.tags = Delimiters.standard)
    (ends : EndsBody setting cursor opening word middle) (notEnd : word ≠ "end")
    (goesOn : middle.skipBlanks.peekWord? = some "if")
    (ih : BlockGoal.Twinned gap setting middle.skipBlanks next (.branch whole)) :
    BlockGoal.Twinned gap setting cursor next (.alternate (.chain opening whole)) := by
  intro spared cursor' twin
  rcases endsBody_twin standard ends twin with
    ⟨opening', middle', ends', inside, essenceOpening⟩
  have atIf := inside.skipBlanks (settled_of_word goesOn)
  have goesOn' := (peekWord?_blanked atIf.blanked).trans goesOn
  rcases ih spared _ atIf with ⟨whole', next', derived, twin', essence⟩
  refine ⟨_, next', .chain ends' notEnd goesOn' derived, twin', ?_⟩
  rw [Alternate.essence, Alternate.essence, essenceOpening, essence]

/-- No word stands where a tag is closed. -/
theorem no_word_of_closingTag (standard : setting.tags = Delimiters.standard)
    (closes : closingTag setting cursor = .ok (closing, next)) : cursor.peekWord? = none := by
  rcases closingTag_eq_ok.mp closes with ⟨comments, start, before, atMark, -, -⟩
  cases atWord : cursor.peekWord? with
  | none => rfl
  | some word =>
    have settled := settled_of_word atWord
    rcases trivia_of_settled settled before with rfl
    rw [AtWord.not_closing ⟨atWord, rfl, settled⟩ standard] at atMark
    exact absurd atMark Bool.false_ne_true

theorem twinned_otherwise {room : Nat} {endWord : String} {body : List Element}
    {endOpening : Tag} {afterHead afterBody : Cursor}
    (standard : setting.tags = Delimiters.standard)
    (ends : EndsBody setting cursor opening word middle) (notEnd : word ≠ "end")
    (closes : closingTag setting middle.skipBlanks = .ok (closing, afterHead))
    (someRoom : setting.room = room + 1)
    (ih : BlockGoal.Twinned gap { setting with room := room } afterHead afterBody
      (.elements ["end"] body))
    (endsAll : EndsBody setting afterBody endOpening endWord next) :
    BlockGoal.Twinned gap setting cursor next
      (.alternate (.otherwise opening closing body endOpening)) := by
  intro spared cursor' twin
  rcases endsBody_twin standard ends twin with
    ⟨opening', middle', ends', inside, essenceOpening⟩
  rcases closingTag_twin standard closes inside.aligned_skipBlanks with
    ⟨closing', afterHead', closes', outside, essenceClosing⟩
  have noChain : middle'.skipBlanks.peekWord? ≠ some "if" := by
    rw [no_word_of_closingTag standard closes']
    simp
  rcases ih spared _ outside with ⟨body', afterBody', derived, outside', essence⟩
  rcases endsBody_twin standard endsAll outside' with
    ⟨endOpening', next', endsAll', twin', essenceEnd⟩
  refine ⟨_, next', .otherwise ends' notEnd noChain closes' someRoom derived endsAll', twin', ?_⟩
  rw [Alternate.essence, Alternate.essence, essenceOpening, essenceClosing, essence, essenceEnd]

/-! ## All rules -/

/-- Whatever is derived of a template has a twin, if the comment spares it. -/
theorem DerivesBlock.twinned {goal : BlockGoal} (derived : DerivesBlock setting goal cursor next)
    (standard : setting.tags = Delimiters.standard) (gap : Gap) :
    goal.Twinned gap setting cursor next := by
  induction derived with
  | elementsEnd ends => exact twinned_elementsEnd standard ends
  | raw goesOn noTag _ ih => exact twinned_raw standard goesOn noTag (ih standard)
  | tag goesOn opens _ closes _ ihContent ih =>
    exact twinned_tag standard goesOn opens closes (ihContent standard) (ih standard)
  | empty atEnd =>
    intro _ _ _ cursor' twin
    have atEnd' := (twin.blanked.atClosing_eq standard).trans atEnd
    exact ⟨.empty, cursor', .empty atEnd', twin, rfl⟩
  | assign notAtEnd declares allowed content =>
    exact twinned_assign standard notAtEnd declares allowed content
  | branchStatement notAtEnd _ word _ ih =>
    exact twinned_branchStatement standard notAtEnd word (ih standard)
  | loop notAtEnd _ word bindsValue bindsIndex wordIn head closes someRoom _ ends ih =>
    exact twinned_loop standard notAtEnd word bindsValue bindsIndex wordIn head closes someRoom
      (ih standard) ends
  | breakLoop notAtEnd _ word inLoop =>
    exact twinned_jump standard notAtEnd word
      (fun notAtEnd noDeclaration word => .breakLoop notAtEnd noDeclaration word inLoop)
      fun _ _ => rfl
  | continueLoop notAtEnd _ word inLoop =>
    exact twinned_jump standard notAtEnd word
      (fun notAtEnd noDeclaration word => .continueLoop notAtEnd noDeclaration word inLoop)
      fun _ _ => rfl
  | expression notAtEnd _ _ content => exact twinned_expression standard notAtEnd content
  | branch head closes someRoom _ _ ihBody ih =>
    exact twinned_branch standard head closes someRoom (ihBody standard) (ih standard)
  | done ends => exact twinned_done standard ends
  | chain ends notEnd goesOn _ ih => exact twinned_chain standard ends notEnd goesOn (ih standard)
  | otherwise ends notEnd _ closes someRoom _ endsAll ih =>
    exact twinned_otherwise standard ends notEnd closes someRoom (ih standard) endsAll

end Grammar

/-! ## Whole sources -/

/-- A source with a blank for what stands at a span. -/
def Span.blanked (span : Span) (source : List Char) : List Char :=
  takeBytes span.start source ++ ' ' :: dropBytes span.stop source

/-- A step that finds a comment is made where the comment begins. -/
theorem comment_of_skimStep {inside inside' : Bool} {cursor next : Cursor} {found : List Token}
    {comment : Comment} (taken : skimStep inside cursor = some (found, inside', next))
    (isIn : comment.token ∈ found) :
    inside = true ∧ Literal.comment cursor = .found comment next := by
  unfold skimStep skimInside skimOutside at taken
  split at taken
  · rename_i isInside
    split at taken
    · rcases Option.some.inj taken with ⟨rfl, -⟩
      simp [closingAt, Comment.token] at isIn
    · split at taken
      · rename_i comment' middle read
        rcases Option.some.inj taken with ⟨rfl, -, rfl⟩
        have same : comment = comment' := by
          cases comment
          cases comment'
          simpa [Comment.token] using isIn
        exact ⟨isInside, same ▸ read⟩
      · simp at taken
      · repeat' split at taken
        all_goals
          simp only [Option.some.injEq, Prod.mk.injEq, reduceCtorEq] at taken
        all_goals
          rcases taken with ⟨rfl, -⟩
          exact absurd isIn List.not_mem_nil
  · repeat' split at taken
    · simp at taken
    · rcases Option.some.inj taken with ⟨rfl, -⟩
      simp [openingAt, Comment.token] at isIn
    · rcases Option.some.inj taken with ⟨rfl, -⟩
      simp [textAt, Comment.token] at isIn

/-- Where a skim finds a comment there is a gap. -/
theorem Skims.gap {inside inside' : Bool} {cursor next : Cursor} {tokens : List Token}
    {comment : Comment} (skimmed : Skims inside cursor tokens inside' next)
    (isIn : comment.token ∈ tokens) :
    ∃ gap : Gap, gap.comment = comment ∧ ∃ front, Skims inside cursor front true gap.start := by
  induction skimmed with
  | done => exact absurd isIn List.not_mem_nil
  | @step inside _ _ cursor middle _ found _ taken _ ih =>
    rcases List.mem_append.mp isIn with isFound | isLater
    · rcases comment_of_skimStep taken isFound with ⟨rfl, read⟩
      exact ⟨⟨cursor, comment, middle, read⟩, rfl, [], .done⟩
    · rcases ih isLater with ⟨gap, same, front, ahead⟩
      exact ⟨gap, same, found ++ front, .step taken ahead⟩

/-- A source and the text with a blank for a comment begin with twins. -/
theorem twin_ofSource {gap : Gap} {source : List Char} {front : List Token}
    (ahead : Skims false (Cursor.ofSource source) front true gap.start) :
    Twin gap false (Cursor.ofSource source)
      (Cursor.ofSource (gap.comment.span.blanked source)) := by
  have reaches := (Literal.passes_of_comment gap.found).reaches
  rcases (ofSource_in source).reaches ahead.ordered.1 with ⟨before, sourceEq, startEq⟩
  rcases reaches.exists_passed with ⟨passed, passedEq, stopEq⟩
  have spanEq : gap.comment.span = gap.start.spanTo gap.stop := by
    rcases Literal.comment_eq_found.mp gap.found with ⟨body, after, -, -, -, same⟩
    rw [same]
  have startOffset : gap.comment.span.start = byteLength before := by
    rw [spanEq, start_spanTo, startEq]
  have stopOffset : gap.comment.span.stop = byteLength (before ++ passed) := by
    rw [spanEq, stop_spanTo reaches, stopEq, startEq, byteLength_append]
  refine .before sourceEq ?_ ahead
  change gap.comment.span.blanked source = before ++ ' ' :: gap.stop.rest
  rw [Span.blanked, startOffset, stopOffset, sourceEq, takeBytes_append, passedEq,
    ← List.append_assoc, dropBytes_append]

/-- A comment of a template that stands beside no call that is called itself can be replaced by
a blank.  The new text is read, and what is read writes the same or fails with the same fault,
and leaves the same variables. -/
theorem parse_blanked {source : List Char} {template : Template} {comment : Comment}
    (read : parse .standard source = .ok template) (isIn : comment.token ∈ template.outline)
    (spared : template.isSparedBy comment = true) :
    ∃ template', parse .standard (comment.span.blanked source) = .ok template' ∧
      ∀ helpers : Callables,
        (template.evaluate helpers).Agrees Eq (template'.evaluate helpers) := by
  rcases derivesBlock_of_parse read with ⟨next, derived⟩
  rcases (derived.skimmed rfl).gap isIn with ⟨gap, rfl, front, ahead⟩
  rcases derived.twinned rfl gap spared _ (twin_ofSource ahead) with
    ⟨pieces, next', derived', -, essence⟩
  refine ⟨⟨pieces⟩, parse_of_derivesBlock derived', fun helpers => ?_⟩
  exact Template.agrees_of_essence (congrArg Template.mk essence.symm)

/-- A comment beside a call that is piped on, and so not called itself, is replaced. -/
theorem parse_blanked_call :
    let source := "\x7b\x7b f(v) /* note */ | g \x7d\x7d".toList
    let comment : Comment := ⟨" note ", ⟨8, 18, by decide⟩⟩
    comment.span.blanked source = "\x7b\x7b f(v)   | g \x7d\x7d".toList ∧
      ∃ template, parse .standard source = .ok template ∧ comment.token ∈ template.outline ∧
        template.isSparedBy comment = true ∧
        ∃ template', parse .standard (comment.span.blanked source) = .ok template' ∧
          ∀ helpers : Callables,
            (template.evaluate helpers).Agrees Eq (template'.evaluate helpers) := by
  intro source comment
  refine ⟨by decide, ?_⟩
  have applies : (parse .standard source).toOption.map (fun template =>
      decide (comment.token ∈ template.outline) && template.isSparedBy comment) = some true := by
    decide +kernel
  cases read : parse .standard source with
  | ok template =>
    rw [read] at applies
    have both := Option.some.inj applies
    rw [Bool.and_eq_true, decide_eq_true_eq] at both
    exact ⟨template, rfl, both.1, both.2, parse_blanked read both.1 both.2⟩
  | error diagnostic =>
    rw [read] at applies
    exact absurd applies (by simp [Except.toOption])

/-- What a template gives without variables: its text, or the code and the message of its
failure. -/
def Template.outcome (helpers : Callables) (template : Template) : Option Code × String :=
  match ((template.evaluate helpers).on (.ofRoot [])).1 with
  | .ok text => (none, text)
  | .error failure => (some failure.fault.code, failure.fault.message)

/-- A segment with a comment behind it is called with the piped value alone, and one with a
blank there is called with the value before its own argument. -/
theorem comment_after_segment :
    let outcome := Template.outcome
      (Helpers.builtin.callables ⟨⟨[], [], []⟩, ⟨0, 0, 0⟩⟩ "")
    (parse .standard "\x7b\x7b ['a'] | append('b') /* note */ \x7d\x7d".toList).toOption.map
        outcome = some (some .notAFunction, "\"b\" is not a function") ∧
      (parse .standard "\x7b\x7b ['a'] | append('b')   \x7d\x7d".toList).toOption.map outcome =
        some (none, "a,b") := by
  decide +kernel

end TemplateLang
