import TemplateLang.Proofs.RoundTrip.Blocks
import TemplateLang.Proofs.RoundTrip.Derived

/-!
# Canonical texts are read back

The canonical text of a stable template is read again.  What is read has the same canonical
text, and the same output whatever the variables are.  A template is stable if its expressions
are clear and the canonical text of each takes no more levels of nesting than are left where
it stands.  The text may take more of them than the source did, since a command inside
another expression is printed with parentheses.

The proof is an induction over the derivation of a template.  It tells for each piece that its
text is read back between any two places, the second of which goes on as the piece did.
-/

namespace TemplateLang

open Cursor Print

/-! ## Stable templates -/

/-- Whether the text of an expression is read back where some levels of nesting are left. -/
def Expr.isStable (room : Nat) (expr : Expr) : Bool :=
  expr.isClear && decide (expr.levels true ≤ room)

mutual

/-- Whether elements are stable where some levels of nesting are left. -/
def stableIn (room : Nat) : List Element → Bool
  | [] => true
  | .raw _ _ :: others => stableIn room others
  | .tag _ content _ _ :: others => content.isStable room && stableIn room others

/-- Whether the expressions of a statement are stable, those of a body with a level less. -/
def Statement.isStable (room : Nat) : Statement → Bool
  | .empty | .breakLoop _ | .continueLoop _ => true
  | .expression expr => expr.isStable room
  | .assign _ value _ => value.isStable room
  | .branch branch => branch.isStable room
  | .loop _ _ iterable _ body _ _ => iterable.isStable room && stableIn (room - 1) body

/-- Whether a condition is stable. -/
def Branch.isStable (room : Nat) : Branch → Bool
  | .mk test _ body alternate _ =>
    test.isStable room && stableIn (room - 1) body && alternate.isStable room

/-- Whether the rest of a condition is stable. -/
def Alternate.isStable (room : Nat) : Alternate → Bool
  | .done _ => true
  | .otherwise _ _ body _ => stableIn (room - 1) body
  | .chain _ next => next.isStable room

end

/-- Whether a template is stable. -/
def Template.isStable (template : Template) : Bool :=
  stableIn maxNesting template.elements

namespace Grammar

variable {setting : Setting} {cursor next start stop after : Cursor} {closing opening : Tag}
  {expr : Expr} {span : Span} {room : Nat} {pieces : List Element}

/-- A stable expression before a closing end can be read back.  All comments before that end
belong to the expression. -/
theorem Derives.reads (derived : Derives setting (.pipeline expr) cursor next)
    (standard : setting.tags = Delimiters.standard)
    (closes : closingTag setting next = .ok (closing, after))
    (stable : expr.isStable setting.room = true) :
    Reads setting.room .pipeline expr ∧ closing.IsStandard .closing ∧ closing.comments = [] := by
  simp only [Expr.isStable, Bool.and_eq_true, decide_eq_true_eq] at stable
  obtain ⟨settled, fits⟩ := derived.fitsLayer (not_argument_of_closingTag standard closes)
  exact ⟨reads_of_written (fits.fits stable.1 setting.room stable.2),
    isStandard_of_closingTag standard closes, no_comments_of_closingTag settled closes⟩

/-! ## Reading again -/

/-- Elements are read again between two places. -/
def RereadsElements (setting : Setting) (stops : List String) (pieces : List Element)
    (start stop : Cursor) : Prop :=
  ∃ pieces', DerivesBlock setting (.elements stops pieces') start stop ∧
    Print.elements pieces' = Print.elements pieces ∧ essenceIn pieces' = essenceIn pieces

/-- A condition is read again between two places, and not as a declaration. -/
def RereadsBranch (setting : Setting) (whole : Branch) (start stop : Cursor) : Prop :=
  (∃ afterWord, AtWord start "if" afterWord) ∧ declaration? start = none ∧
    ∃ whole', DerivesBlock setting (.branch whole') start stop ∧
      Print.branch whole' = Print.branch whole ∧ whole'.essence = whole.essence

/-- The rest of a condition is read again, and a body ends before it. -/
def RereadsAlternate (setting : Setting) (rest : Alternate) (start stop : Cursor) : Prop :=
  atBlockWord setting ["else", "end"] start = true ∧
    ∃ rest', DerivesBlock setting (.alternate rest') start stop ∧
      Print.alternate rest' = Print.alternate rest ∧ rest'.essence = rest.essence

/-- A stable piece of a template is read again from its text. -/
def BlockGoal.Rereads (setting : Setting) (cursor next : Cursor) : BlockGoal → Prop
  | .elements stops pieces => stableIn setting.room pieces = true →
    (∀ word ∈ stops, word ∈ ["else", "end"]) →
    ∀ {start stop}, start.Crosses (Print.elements pieces).toList stop →
      (stop.rest.isEmpty || atBlockWord setting stops stop) = true →
      (next.rest = [] → stop.rest = []) → RereadsElements setting stops pieces start stop
  | .statement content => cursor.Settled → content.isStable setting.room = true →
    ∀ {opening closing span after start stop}, opening.IsStandard .opening →
      closingTag setting next = .ok (closing, after) →
      start.Crosses (Print.element (.tag opening content closing span)).toList stop →
      TagRereads setting opening content closing start stop
  | .branch whole => whole.isStable setting.room = true →
    ∀ {start stop}, start.Crosses (Print.branch whole).toList stop → stop.Apart →
      RereadsBranch setting whole start stop
  | .alternate rest => rest.isStable setting.room = true →
    ∀ {start stop}, start.Crosses (Print.alternate rest).toList stop → stop.Apart →
      RereadsAlternate setting rest start stop

/-! ## Elements -/

/-- No statement begins with a word that ends a body. -/
theorem DerivesBlock.first_word {content : Statement} {word : String}
    (derived : DerivesBlock setting (.statement content) cursor next)
    (standard : setting.tags = Delimiters.standard) (atWord : cursor.peekWord? = some word) :
    word ∉ ["else", "end"] := by
  have differs (other : String) (at' : cursor.peekWord? = some other)
      (notEnd : other ∉ ["else", "end"]) : word ∉ ["else", "end"] :=
    Option.some.inj (atWord.symm.trans at') ▸ notEnd
  cases derived with
  | empty atEnd =>
    obtain ⟨c, rest, restEq, starts⟩ := word_starts atWord
    have opens : Opens cursor.rest := restEq ▸ .primary (by simp [startsPrimary, starts])
    rw [opens.not_closing standard] at atEnd
    exact absurd atEnd Bool.false_ne_true
  | assign _ declares allowed =>
    have atTarget := (declaration?_eq_some_iff.mp declares).1
    obtain rfl := Option.some.inj (atWord.symm.trans atTarget)
    intro isIn
    simp only [List.mem_cons, List.not_mem_nil, or_false] at isIn
    rcases isIn with same | same <;> simp [same, isReserved, reservedWords] at allowed
  | branchStatement _ _ atIf => exact differs _ atIf (by decide)
  | loop _ _ atFor => exact differs _ atFor (by decide)
  | breakLoop _ _ atBreak => exact differs _ atBreak (by decide)
  | continueLoop _ _ atContinue => exact differs _ atContinue (by decide)
  | expression _ _ noWord =>
    intro isIn
    refine noWord word atWord ?_
    simp only [List.mem_cons, List.not_mem_nil, or_false] at isIn
    rcases isIn with rfl | rfl <;> decide

/-- A tag with a statement does not end the elements before it. -/
theorem goesOn_of_tag {stops : List String} {content : Statement} {inside inside' : Cursor}
    (standard : setting.tags = Delimiters.standard)
    (stopWords : ∀ word ∈ stops, word ∈ ["else", "end"])
    (opens : openingTag setting start = .ok (opening, inside))
    (derived : DerivesBlock setting (.statement content) inside inside') :
    (start.rest.isEmpty || atBlockWord setting stops start) = false := by
  rw [isEmpty_of_openingTag opens, Bool.false_or, atBlockWord_of_openingTag opens,
    Bool.eq_false_iff, Ne, Option.any_eq_true]
  rintro ⟨word, atWord, isStop⟩
  exact derived.first_word standard atWord (stopWords word (by simpa using isStop))

/-- The text of a tag begins with an opening mark. -/
theorem element_starts (isStandard : opening.IsStandard .opening) (content : Statement)
    (closing : Tag) (span : Span) :
    ∃ more, (Print.element (.tag opening content closing span)).toList =
      openMark opening.trims ++ more := by
  have text := isStandard.toList_text_opening
  have spaced (more : String) :
      ∃ more', (Print.opening opening ++ more).toList = openMark opening.trims ++ more' :=
    ⟨_, by rw [String.toList_append, isStandard.toList_opening, List.append_assoc]⟩
  by_cases isEmpty : content = .empty
  · subst isEmpty
    rw [Print.element, emptyTag]
    split
    · split
      · exact ⟨_, by rw [String.toList_append, String.toList_append, text, List.append_assoc]⟩
      · exact spaced _
    · exact spaced _
  · rw [Print.element_tag isEmpty, String.append_assoc, String.append_assoc]
    exact spaced _

/-- What is printed of the elements after raw text begins with an opening mark, or the text
ends there. -/
theorem DerivesBlock.after_raw {stops : List String}
    (derived : DerivesBlock setting (.elements stops pieces) cursor next)
    (standard : setting.tags = Delimiters.standard)
    (stopped : cursor.rest = [] ∨ startsWithMark cursor.rest setting.tags.opening.toList = true)
    (crosses : start.Crosses (Print.elements pieces).toList stop)
    (ends : (stop.rest.isEmpty || atBlockWord setting stops stop) = true)
    (ended : next.rest = [] → stop.rest = []) :
    (start.rest = [] ∨ startsWithMark start.rest setting.tags.opening.toList = true) ∧
      (cursor.rest = [] → start.rest = []) := by
  have notEmpty (goesOn : (cursor.rest.isEmpty || atBlockWord setting stops cursor) = false) :
      cursor.rest ≠ [] := by
    rintro empty
    simp [empty] at goesOn
  cases derived with
  | elementsEnd =>
    have stopEq : stop = start := crosses.2.trans (skip_zero start)
    subst stopEq
    rw [Bool.or_eq_true, List.isEmpty_iff] at ends
    exact ⟨ends.imp_right startsWithMark_of_atBlockWord, ended⟩
  | raw goesOn noTag =>
    rcases stopped with empty | starts
    · exact absurd empty (notEmpty goesOn)
    · rw [noTag] at starts
      exact absurd starts Bool.false_ne_true
  | @tag _ _ elements opening statement closing _ _ _ _ _ goesOn opens =>
    refine ⟨.inr ?_, fun empty => absurd empty (notEmpty goesOn)⟩
    obtain ⟨more, printed⟩ := element_starts (isStandard_of_openingTag standard opens).1 statement
      closing (cursor.spanTo _)
    rw [Print.elements, String.toList_append, printed, List.append_assoc] at crosses
    rw [crosses.1, standard]
    rfl

theorem rereads_raw {stops : List String} (standard : setting.tags = Delimiters.standard)
    (goesOn : (cursor.rest.isEmpty || atBlockWord setting stops cursor) = false)
    (noTag : startsWithMark cursor.rest setting.tags.opening.toList = false)
    (others : DerivesBlock setting (.elements stops pieces) (Grammar.raw setting cursor).2 next)
    (ih : BlockGoal.Rereads setting (Grammar.raw setting cursor).2 next (.elements stops pieces)) :
    BlockGoal.Rereads setting cursor next
      (.elements stops ((Grammar.raw setting cursor).1 :: pieces)) := by
  intro stable stopWords start stop crosses ends ended
  have someText : rawText setting cursor.rest ≠ [] := by
    refine rawText_ne_nil ?_ noTag
    rintro empty
    simp [empty] at goesOn
  rw [raw_eq, Print.elements, Print.element, String.toList_append, String.toList_ofList] at crosses
  obtain ⟨middle, crossesText, crosses⟩ := crosses.split
  obtain ⟨stopped, endsText⟩ :=
    others.after_raw standard (raw_stops setting cursor) crosses ends ended
  obtain ⟨pieces', derived, text, essence⟩ := ih stable stopWords crosses ends ended
  obtain ⟨rawEq, noTag', goesOn'⟩ := raw_reads someText crossesText stopped endsText
  have derived' :
      DerivesBlock setting (.elements stops pieces') (Grammar.raw setting start).2 stop := by
    rw [rawEq]
    exact derived
  refine ⟨_, .raw (goesOn' stops) noTag' derived', ?_, ?_⟩
  · rw [rawEq, raw_eq, Print.elements, Print.elements, Print.element, Print.element, text]
  · rw [rawEq, raw_eq, essenceIn, essenceIn, essence]

theorem rereads_tag {stops : List String} {content : Statement}
    {afterOpening afterContent afterClosing : Cursor}
    (standard : setting.tags = Delimiters.standard)
    (opens : openingTag setting cursor = .ok (opening, afterOpening))
    (closes : closingTag setting afterContent = .ok (closing, afterClosing))
    (ihContent : BlockGoal.Rereads setting afterOpening afterContent (.statement content))
    (ih : BlockGoal.Rereads setting afterClosing next (.elements stops pieces)) :
    BlockGoal.Rereads setting cursor next
      (.elements stops (.tag opening content closing span :: pieces)) := by
  intro stable stopWords start stop crosses ends ended
  simp only [stableIn, Bool.and_eq_true] at stable
  obtain ⟨isStandard, settled⟩ := isStandard_of_openingTag standard opens
  rw [Print.elements, String.toList_append] at crosses
  obtain ⟨middle, crossesTag, crosses⟩ := crosses.split
  obtain ⟨opening', content', closing', inside, inside', opens', derived, closes', echoes⟩ :=
    ihContent settled stable.1 isStandard closes crossesTag
  obtain ⟨pieces', derivedOthers, text, essence⟩ := ih stable.2 stopWords crosses ends ended
  refine ⟨_, .tag (goesOn_of_tag standard stopWords opens' derived) opens' derived closes'
    derivedOthers, ?_, ?_⟩
  · rw [Print.elements, Print.elements, text, echoes.text span]
  · rw [essenceIn, essenceIn, essence, echoes.opening, echoes.content, echoes.closing]

/-! ## Statements -/

theorem rereads_expression (standard : setting.tags = Delimiters.standard)
    (derived : Derives setting (.pipeline expr) cursor next) :
    BlockGoal.Rereads setting cursor next (.statement (.expression expr)) := by
  intro settled stable opening closing span after start stop isStandard closes crosses
  obtain ⟨content, isStandardClosing, noComments⟩ := derived.reads standard closes stable
  obtain ⟨room, someRoom⟩ := derived.someRoom rfl
  rw [someRoom] at content
  exact expressionTag_reads content ⟨standard, someRoom⟩ isStandard isStandardClosing noComments
    crosses

/-- What a declaration declares is a word. -/
theorem shaped_of_declaration? {target : Identifier}
    (declares : declaration? cursor = some (target, next)) :
    isWordShaped target.name.toList = true :=
  isWordShaped_of_peekWord? (declaration?_eq_some_iff.mp declares).1

theorem rereads_assign {target : Identifier} {value : Expr} {afterTarget : Cursor}
    (standard : setting.tags = Delimiters.standard)
    (declares : declaration? cursor = some (target, afterTarget))
    (free : isReserved target.name = false)
    (derived : Derives setting (.pipeline value) afterTarget next) {spanWhole : Span} :
    BlockGoal.Rereads setting cursor next (.statement (.assign target value spanWhole)) := by
  intro settled stable opening closing span after start stop isStandard closes crosses
  obtain ⟨content, isStandardClosing, noComments⟩ := derived.reads standard closes stable
  have shaped := shaped_of_declaration? declares
  exact wordTag_reads standard isStandard isStandardClosing (by simp) shaped
    (by simp [Print.statement])
    (assignment_reads content ⟨standard, rfl⟩ isStandardClosing noComments shaped free) crosses

/-- A statement that is a word alone is read again. -/
theorem rereads_jump {content : Statement} {word : String}
    (standard : setting.tags = Delimiters.standard) (someContent : content ≠ .empty)
    (shaped : isWordShaped word.toList = true) (printed : Print.statement content = word)
    (read : ∀ {cursor}, setting.atClosing cursor.rest = false → declaration? cursor = none →
      cursor.peekWord? = some word → ∃ content',
        DerivesBlock setting (.statement content') cursor cursor.skipWord ∧
          Print.statement content' = Print.statement content ∧ content'.essence = content.essence) :
    BlockGoal.Rereads setting cursor next (.statement content) := by
  intro settled stable opening closing span after start stop isStandard closes crosses
  have isStandardClosing := isStandard_of_closingTag standard closes
  refine wordTag_reads standard isStandard isStandardClosing someContent shaped
    (printed ▸ List.prefix_rfl)
    (rereadsInside_of_word standard isStandardClosing fun crosses before => ?_) crosses
  obtain ⟨apart, c, rest, restEq, notColon⟩ := before
  rw [printed] at crosses
  have atWord := atWord shaped crosses apart
  rw [← atWord.skip]
  exact read (atWord.not_closing standard) (atWord.no_declaration restEq notColon) atWord.peek

/-! ## Blocks -/

theorem not_empty_of_alternate {rest : Alternate}
    (derived : DerivesBlock setting (.alternate rest) cursor next) : cursor.rest ≠ [] := by
  have notEmpty {opening : Tag} {word : String} {middle : Cursor}
      (ends : EndsBody setting cursor opening word middle) : cursor.rest ≠ [] := by
    intro empty
    have isEmpty := ends.1
    simp [empty] at isEmpty
  cases derived with
  | done ends => exact notEmpty ends
  | chain ends => exact notEmpty ends
  | otherwise ends => exact notEmpty ends

/-- What an expression begins with after a blank is no colon. -/
theorem no_colon_of_reads {text : List Char} (content : Reads room .pipeline expr)
    (crosses : cursor.Crosses (' ' :: (chars true expr ++ text)) stop) :
    ∃ c rest, cursor.skipBlanks.rest = c :: rest ∧ c ≠ ':' := by
  obtain ⟨before, body, spelled, -⟩ := content
  obtain ⟨c, rest, starts, notBlank, differs⟩ := spelled.starts
  obtain ⟨afterBlank, blank, crosses⟩ := crosses.head
  rw [starts] at crosses
  have skipEq : cursor.skipBlanks = afterBlank := by
    refine skipBlanks_blank blank fun d rest' restEq => ?_
    obtain ⟨rfl, -⟩ := List.cons.inj (crosses.1.symm.trans restEq)
    exact notBlank
  rw [skipEq]
  exact ⟨c, _, crosses.1, differs _ (by decide) (by decide)⟩

theorem rereads_branch {test : Expr} {body : List Element} {rest : Alternate} {room : Nat}
    {afterTest afterHead afterBody : Cursor} (standard : setting.tags = Delimiters.standard)
    (head : Derives setting (.pipeline test) cursor.skipWord afterTest)
    (closes : closingTag setting afterTest = .ok (closing, afterHead))
    (someRoom : setting.room = room + 1)
    (others : DerivesBlock setting (.alternate rest) afterBody next)
    (ihBody : BlockGoal.Rereads { setting with room := room } afterHead afterBody
      (.elements ["else", "end"] body))
    (ih : BlockGoal.Rereads setting afterBody next (.alternate rest)) :
    BlockGoal.Rereads setting cursor next (.branch (.mk test closing body rest span)) := by
  intro stable start stop crosses apart
  simp only [Branch.isStable, Bool.and_eq_true] at stable
  obtain ⟨⟨stableTest, stableBody⟩, stableRest⟩ := stable
  have roomEq : setting.room - 1 = room := by rw [someRoom]; rfl
  rw [roomEq] at stableBody
  obtain ⟨content, isStandard, noComments⟩ := head.reads standard closes stableTest
  have printed (test : Expr) (closing : Tag) (body : List Element) (rest : Alternate)
    (span : Span) :
      (Print.branch (.mk test closing body rest span)).toList = "if".toList ++
        ((' ' :: (chars true test ++ (Print.closing closing).toList)) ++
          ((Print.elements body).toList ++ (Print.alternate rest).toList)) := by
    simp [Print.branch, chars]
  rw [printed] at crosses
  obtain ⟨afterIf, crossesIf, crosses⟩ := crosses.split
  obtain ⟨headEnd, crossesHead, crosses⟩ := crosses.split
  obtain ⟨bodyEnd, crossesBody, crosses⟩ := crosses.split
  have atIf := atWord (by decide) crossesIf (apart_of_char crossesHead.1 (by decide))
  obtain ⟨c, _, restEq, notColon⟩ := no_colon_of_reads content crossesHead
  refine ⟨⟨afterIf, atIf⟩, atIf.no_declaration restEq notColon, ?_⟩
  obtain ⟨test', testEnd, closing', echoes, derived, alike, closes'⟩ :=
    expression_reads content ⟨standard, rfl⟩ isStandard noComments crossesHead
  obtain ⟨atEnd, rest', derivedRest, textRest, essenceRest⟩ := ih stableRest crosses apart
  obtain ⟨body', derivedBody, textBody, essenceBody⟩ :=
    ihBody stableBody (by simp) crossesBody (by rw [Bool.or_eq_true]; exact .inr atEnd)
      (fun empty => absurd empty (not_empty_of_alternate others))
  rw [← atIf.skip] at derived
  refine ⟨_, .branch derived closes' someRoom derivedBody derivedRest, ?_, ?_⟩
  · rw [Print.branch, Print.branch, echoes.expression_eq, alike.closing isStandard, textBody,
      textRest]
  · rw [Branch.essence, Branch.essence, echoes.essence, alike.essence isStandard, essenceBody,
      essenceRest]

theorem rereads_branchStatement {whole : Branch} (standard : setting.tags = Delimiters.standard)
    (ih : BlockGoal.Rereads setting cursor next (.branch whole)) :
    BlockGoal.Rereads setting cursor next (.statement (.branch whole)) := by
  intro settled stable opening closing span after start stop isStandard closes crosses
  have isStandardClosing := isStandard_of_closingTag standard closes
  have starts : "if".toList <+: (Print.statement (.branch whole)).toList := by
    cases whole
    simp [Print.statement, Print.branch]
  refine wordTag_reads standard isStandard isStandardClosing (by simp) (by decide) starts
    (rereadsInside_of_word standard isStandardClosing fun crosses before => ?_) crosses
  obtain ⟨⟨afterIf, atIf⟩, noDeclaration, whole', derived, text, essence⟩ :=
    ih stable crosses before.1
  refine ⟨.branch whole',
    .branchStatement (atIf.not_closing standard) noDeclaration atIf.peek derived, text, ?_⟩
  rw [Statement.essence, Statement.essence, essence]

/-- A body that an `end` ends is read again, with the tag of that. -/
theorem body_rereads {body : List Element} {endOpening : Tag} {endWord : String}
    {afterHead afterBody afterEnd : Cursor} {inner : Setting}
    (standard : setting.tags = Delimiters.standard)
    (ih : BlockGoal.Rereads inner afterHead afterBody (.elements ["end"] body))
    (sameTags : inner.tags = setting.tags) (stable : stableIn inner.room body = true)
    (ends : EndsBody setting afterBody endOpening endWord afterEnd)
    (crosses : start.Crosses
      ((Print.elements body).toList ++ (Print.blockEnd endOpening).toList) stop)
    (apart : stop.Apart) :
    ∃ bodyEnd endOpening', RereadsElements inner ["end"] body start bodyEnd ∧
      EndsBody setting bodyEnd endOpening' "end" stop ∧
      Tag.Alike .opening endOpening endOpening' ∧ endOpening.IsStandard .opening := by
  obtain ⟨notEmpty, middle, opens, -⟩ := ends
  have isStandard := (isStandard_of_openingTag standard opens).1
  obtain ⟨bodyEnd, crossesBody, crosses⟩ := crosses.split
  have printed : (Print.blockEnd endOpening).toList =
      (Print.opening endOpening).toList ++ ' ' :: "end".toList := by
    simp [Print.blockEnd]
  rw [printed] at crosses
  obtain ⟨endOpening', alike, ends', atEnd⟩ :=
    endsBody_reads standard isStandard (by decide) crosses apart
  have stopsInner : atBlockWord inner ["end"] bodyEnd = true := by
    unfold atBlockWord openingTag at atEnd ⊢
    rw [sameTags]
    exact atEnd ["end"]
  refine ⟨bodyEnd, endOpening', ih stable (by simp) crossesBody ?_ ?_, ends', alike, isStandard⟩
  · rw [Bool.or_eq_true]
    exact .inr stopsInner
  · intro empty
    simp [empty] at notEmpty

theorem rereads_done {opening : Tag} (standard : setting.tags = Delimiters.standard)
    (ends : EndsBody setting cursor opening "end" next) :
    BlockGoal.Rereads setting cursor next (.alternate (.done opening)) := by
  intro stable start stop crosses apart
  obtain ⟨-, middle, opens, -⟩ := ends
  have isStandard := (isStandard_of_openingTag standard opens).1
  have printed : (Print.alternate (.done opening)).toList =
      (Print.opening opening).toList ++ ' ' :: "end".toList := by
    simp [Print.alternate, Print.blockEnd]
  rw [printed] at crosses
  obtain ⟨opening', alike, ends', atEnd⟩ :=
    endsBody_reads standard isStandard (by decide) crosses apart
  refine ⟨atEnd _, .done opening', .done ends', ?_, ?_⟩
  · rw [Print.alternate, Print.alternate, Print.blockEnd, Print.blockEnd, alike.opening isStandard]
  · rw [Alternate.essence, Alternate.essence, alike.essence isStandard]

theorem rereads_chain {whole : Branch} {word : String} {middle middle' : Cursor}
    (standard : setting.tags = Delimiters.standard)
    (ends : EndsBody setting cursor opening word middle)
    (ih : BlockGoal.Rereads setting middle' next (.branch whole)) :
    BlockGoal.Rereads setting cursor next (.alternate (.chain opening whole)) := by
  intro stable start stop crosses apart
  obtain ⟨-, afterOpening, opens, -⟩ := ends
  have isStandard := (isStandard_of_openingTag standard opens).1
  have printed : (Print.alternate (.chain opening whole)).toList =
      ((Print.opening opening).toList ++ ' ' :: "else".toList) ++
        ' ' :: (Print.branch whole).toList := by
    simp [Print.alternate]
  rw [printed] at crosses
  obtain ⟨afterElse, crossesElse, crosses⟩ := crosses.split
  obtain ⟨afterBlank, blank, crosses⟩ := crosses.head
  obtain ⟨opening', alike, ends', atElse⟩ := endsBody_reads standard isStandard (by decide)
    crossesElse (apart_of_char blank.1 (by decide))
  obtain ⟨⟨afterIf, atIf⟩, -, whole', derived, text, essence⟩ := ih stable crosses apart
  have skipEq : afterElse.skipBlanks = afterBlank := skipBlanks_blank blank atIf.settled.1
  refine ⟨atElse _, .chain opening' whole', .chain ends' (by decide) ?_ ?_, ?_, ?_⟩
  · rw [skipEq]
    exact atIf.peek
  · rw [skipEq]
    exact derived
  · rw [Print.alternate, Print.alternate, alike.opening isStandard, text]
  · rw [Alternate.essence, Alternate.essence, alike.essence isStandard, essence]

theorem rereads_otherwise {body : List Element} {endOpening : Tag} {word endWord : String}
    {middle middle' afterHead afterBody : Cursor} (standard : setting.tags = Delimiters.standard)
    (ends : EndsBody setting cursor opening word middle)
    (closes : closingTag setting middle' = .ok (closing, afterHead))
    (someRoom : setting.room = room + 1)
    (endsAll : EndsBody setting afterBody endOpening endWord next)
    (ih : BlockGoal.Rereads { setting with room := room } afterHead afterBody
      (.elements ["end"] body)) :
    BlockGoal.Rereads setting cursor next
      (.alternate (.otherwise opening closing body endOpening)) := by
  intro stable start stop crosses apart
  have roomEq : setting.room - 1 = room := by rw [someRoom]; rfl
  rw [Alternate.isStable, roomEq] at stable
  obtain ⟨-, afterOpening, opens, -⟩ := ends
  have isStandard := (isStandard_of_openingTag standard opens).1
  have isStandardClosing := isStandard_of_closingTag standard closes
  have printed : (Print.alternate (.otherwise opening closing body endOpening)).toList =
      ((Print.opening opening).toList ++ ' ' :: "else".toList) ++ ((Print.closing closing).toList ++
        ((Print.elements body).toList ++ (Print.blockEnd endOpening).toList)) := by
    simp [Print.alternate]
  rw [printed] at crosses
  obtain ⟨afterElse, crossesElse, crosses⟩ := crosses.split
  obtain ⟨headEnd, crossesClosing, crosses⟩ := crosses.split
  obtain ⟨apartElse, -, noWord, -⟩ := skipBlanks_closing isStandardClosing crossesClosing
  obtain ⟨opening', alike, ends', atElse⟩ :=
    endsBody_reads standard isStandard (by decide) crossesElse apartElse
  obtain ⟨closing', alikeClosing, -, closes'⟩ :=
    closing_reads standard isStandardClosing crossesClosing
  obtain ⟨bodyEnd, endOpening', ⟨body', derived, text, essence⟩, endsAll', alikeEnd,
    isStandardEnd⟩ :=
    body_rereads standard ih rfl stable endsAll crosses apart
  refine ⟨atElse _, .otherwise opening' closing' body' endOpening',
    .otherwise ends' (by decide) (by simp [noWord]) closes' someRoom derived endsAll', ?_, ?_⟩
  · rw [Print.alternate, Print.alternate, Print.blockEnd, Print.blockEnd, alike.opening isStandard,
      alikeClosing.closing isStandardClosing, text, alikeEnd.opening isStandardEnd]
  · rw [Alternate.essence, Alternate.essence, alike.essence isStandard,
      alikeClosing.essence isStandardClosing, essence, alikeEnd.essence isStandardEnd]

theorem indexText_eq {index index' : Option Identifier}
    (same : index'.map Identifier.essence = index.map Identifier.essence) :
    indexText index' = indexText index := by
  have own (index : Option Identifier) :
      indexText (index.map Identifier.essence) = indexText index := by
    cases index <;> rfl
  rw [← own, same, own]

theorem rereads_loop {value : Identifier} {index : Option Identifier} {iterable : Expr}
    {body : List Element} {endOpening : Tag} {endWord : String}
    {afterFor afterValue afterIndex afterIn afterIterable afterHead afterBody : Cursor}
    (standard : setting.tags = Delimiters.standard)
    (bindsValue : binding .missingLoopVariable afterFor = .ok (value, afterValue))
    (bindsIndex : indexBinding afterValue.skipBlanks = .ok (index, afterIndex))
    (head : Derives setting (.pipeline iterable) afterIn afterIterable)
    (closes : closingTag setting afterIterable = .ok (closing, afterHead))
    (someRoom : setting.room = room + 1)
    (ends : EndsBody setting afterBody endOpening endWord next)
    (ih : BlockGoal.Rereads { setting with room := room, inLoop := true } afterHead afterBody
      (.elements ["end"] body)) :
    BlockGoal.Rereads setting cursor next
      (.statement (.loop value index iterable closing body endOpening span)) := by
  intro settled stable opening closingAll spanTag after start stop isStandard closesAll crosses
  simp only [Statement.isStable, Bool.and_eq_true] at stable
  obtain ⟨stableIterable, stableBody⟩ := stable
  have roomEq : setting.room - 1 = room := by rw [someRoom]; rfl
  rw [roomEq] at stableBody
  obtain ⟨content, isStandardHead, noComments⟩ := head.reads standard closes stableIterable
  obtain ⟨shaped, free⟩ := shaped_of_binding bindsValue
  have indexed : ∀ name ∈ index, isWordShaped name.name.toList = true ∧
      isReserved name.name = false := by
    rintro name rfl
    exact shaped_of_indexBinding bindsIndex
  have isStandardAll := isStandard_of_closingTag standard closesAll
  have printed :
      (Print.statement (.loop value index iterable closing body endOpening span)).toList =
      "for".toList ++
        ((' ' :: (value.name.toList ++ ((indexText index).toList ++ [' ', 'i', 'n']))) ++
        ((' ' :: (chars true iterable ++ (Print.closing closing).toList)) ++
          ((Print.elements body).toList ++ (Print.blockEnd endOpening).toList))) := by
    simp [Print.statement, chars]
  refine wordTag_reads standard isStandard isStandardAll (by simp) (by decide)
    (printed ▸ List.prefix_append "for".toList _)
    (rereadsInside_of_word standard isStandardAll fun crosses before => ?_) crosses
  rw [printed] at crosses
  obtain ⟨afterFor', crossesFor, crosses⟩ := crosses.split
  obtain ⟨afterIn', crossesNames, crosses⟩ := crosses.split
  obtain ⟨headEnd, crossesHead, crosses⟩ := crosses.split
  have atFor := atWord (by decide) crossesFor (apart_of_char crossesNames.1 (by decide))
  obtain ⟨⟨c, _, restEq, notColon⟩, value', index', afterValue', afterIndex', names⟩ :=
    loopHead_reads shaped free indexed crossesNames (apart_of_char crossesHead.1 (by decide))
  obtain ⟨iterable', iterableEnd, closing', echoes, derived, alike, closes'⟩ :=
    expression_reads content ⟨standard, rfl⟩ isStandardHead noComments crossesHead
  obtain ⟨bodyEnd, endOpening', ⟨body', derivedBody, text, essence⟩, ends', alikeEnd,
    isStandardEnd⟩ :=
    body_rereads standard ih rfl stableBody ends crosses before.1
  have valueName : value'.essence.name = value.essence.name := congrArg _ names.essence
  change value'.name = value.name at valueName
  refine ⟨_, .loop (atFor.not_closing standard) (atFor.no_declaration restEq notColon) atFor.peek
    (atFor.skip ▸ names.bindsValue) names.bindsIndex names.wordIn derived closes' someRoom
    derivedBody ends', ?_, ?_⟩
  · rw [Print.statement, Print.statement, valueName, indexText_eq names.indexEssence,
      echoes.expression_eq, alike.closing isStandardHead, text, Print.blockEnd, Print.blockEnd,
      alikeEnd.opening isStandardEnd]
  · rw [Statement.essence, Statement.essence, names.essence, names.indexEssence, echoes.essence,
      alike.essence isStandardHead, essence, alikeEnd.essence isStandardEnd]

/-! ## All rules -/

/-- Every stable piece of a template is read again from its text. -/
theorem DerivesBlock.rereads {goal : BlockGoal} (derived : DerivesBlock setting goal cursor next)
    (standard : setting.tags = Delimiters.standard) : goal.Rereads setting cursor next := by
  induction derived with
  | elementsEnd =>
    intro stable stopWords start stop crosses ends ended
    have stopEq : stop = start := crosses.2.trans (skip_zero start)
    subst stopEq
    exact ⟨[], .elementsEnd ends, rfl, rfl⟩
  | raw goesOn noTag others ih => exact rereads_raw standard goesOn noTag others (ih standard)
  | tag _ opens _ closes _ ihContent ih =>
    exact rereads_tag standard opens closes (ihContent standard) (ih standard)
  | empty =>
    intro settled stable opening closing span after start stop isStandard closes crosses
    exact emptyTag_reads standard isStandard (isStandard_of_closingTag standard closes)
      (no_comments_of_closingTag settled closes) crosses
  | assign _ declares allowed content => exact rereads_assign standard declares allowed content
  | branchStatement _ _ _ _ ih => exact rereads_branchStatement standard (ih standard)
  | loop _ _ _ bindsValue bindsIndex _ head closes someRoom _ ends ih =>
    exact rereads_loop standard bindsValue bindsIndex head closes someRoom ends (ih standard)
  | breakLoop _ _ _ inLoop =>
    exact rereads_jump standard (by simp) (by decide : isWordShaped "break".toList = true) rfl
      fun notAtEnd noDeclaration word =>
        ⟨_, .breakLoop notAtEnd noDeclaration word inLoop, rfl, rfl⟩
  | continueLoop _ _ _ inLoop =>
    exact rereads_jump standard (by simp) (by decide : isWordShaped "continue".toList = true) rfl
      fun notAtEnd noDeclaration word =>
        ⟨_, .continueLoop notAtEnd noDeclaration word inLoop, rfl, rfl⟩
  | expression _ _ _ content => exact rereads_expression standard content
  | branch head closes someRoom _ others ihBody ih =>
    exact rereads_branch standard head closes someRoom others (ihBody standard) (ih standard)
  | done ends => exact rereads_done standard ends
  | chain ends _ _ _ ih => exact rereads_chain standard ends (ih standard)
  | otherwise ends _ _ closes someRoom _ endsAll ih =>
    exact rereads_otherwise standard ends closes someRoom endsAll (ih standard)

end Grammar

/-- The canonical text of a stable template is read again.  It is the canonical text of what is
read, which gives the same output or the same fault and leaves the same variables. -/
theorem parse_print {source : List Char} {template : Template}
    (read : parse .standard source = .ok template) (stable : template.isStable = true) :
    ∃ template', parse .standard template.print.toList = .ok template' ∧
      template'.print = template.print ∧
      ∀ helpers : Callables,
        (template.evaluate helpers).Agrees Eq (template'.evaluate helpers) := by
  obtain ⟨next, derived⟩ := derivesBlock_of_parse read
  obtain ⟨stop, crosses, atEnd⟩ : ∃ stop, (Cursor.ofSource template.print.toList).Crosses
      template.print.toList stop ∧ stop.rest = [] := crosses_all rfl
  obtain ⟨pieces', derived', text, essence⟩ :=
    derived.rereads rfl stable (by simp) crosses (by rw [atEnd]; rfl) fun _ => atEnd
  refine ⟨⟨pieces'⟩, parse_of_derivesBlock derived', text, fun helpers => ?_⟩
  exact Template.agrees_of_essence (congrArg Template.mk essence.symm)

/-- A loop over the result of a pipe, with a command in its body, is read again. -/
theorem parse_print_loop :
    ∃ template,
      parse .standard
        "\x7b\x7bfor v in xs|g 2\x7d\x7d \x7b\x7b- f v/*a*/ (i*2)\x7d\x7d\x7b\x7bend\x7d\x7d".toList =
          .ok template ∧
      template.isStable = true ∧
      ∃ template', parse .standard template.print.toList = .ok template' ∧
        template'.print = template.print ∧
        ∀ helpers : Callables,
          (template.evaluate helpers).Agrees Eq (template'.evaluate helpers) := by
  generalize sourceEq : String.toList _ = source
  have stable : (parse .standard source).toOption.map Template.isStable = some true := by
    rw [← sourceEq]
    decide +kernel
  cases read : parse .standard source with
  | ok template =>
    rw [read] at stable
    have isStable : template.isStable = true := Option.some.inj stable
    exact ⟨template, rfl, isStable, parse_print read isStable⟩
  | error diagnostic =>
    rw [read] at stable
    exact absurd stable (by simp [Except.toOption])

/-- A member of a number that ends in a point is printed without the point, and then it is
not read. -/
theorem print_member_of_number :
    ((parse .standard "\x7b\x7b 1..a \x7d\x7d".toList).toOption.map fun template =>
      (parse .standard template.print.toList).isOk) = some false := by
  decide +kernel

end TemplateLang
