import TemplateLang.Proofs.Splitting.Expression

/-!
# Splitting what the grammar reads of a template

The tokenizer goes through wherever the grammar has gone.  The argument runs backward along a
derivation: from the end of the text, each raw text, tag and body is put in front of what
follows, and each expression in a tag is passed from its end to its start.

The two differ in what they take for the end of a raw text: the grammar reads up to the next
opening mark, while the tokenizer also stops at a closing mark and reports it.  They differ in
the keys of members too: after a dot the grammar reads digits alone, but the tokenizer a number,
which may go on with an exponent.  A template without the one and the other can be split.
-/

namespace TemplateLang

open Cursor

/-! ## What splits -/

/-- Raw text holds no closing mark, and in the heads of a tag the keys end. -/
def Element.Splits (source : List Char) : Element → Prop
  | .raw text _ => ¬ Delimiters.standard.closing.toList <:+: text.toList
  | .tag _ statement _ _ => ∀ head ∈ statement.heads, head.KeysEnd source

/-- All elements of a list and of the bodies in it split. -/
def AllSplit (source : List Char) (elements : List Element) : Prop :=
  ∀ element, HasElement elements element → element.Splits source

section

variable {source : List Char} {element : Element} {elements : List Element}

theorem AllSplit.first (split : AllSplit source (element :: elements)) : element.Splits source :=
  split element (.here (List.mem_cons_self ..))

theorem AllSplit.others (split : AllSplit source (element :: elements)) :
    AllSplit source elements :=
  fun other has => split other has.of_others

theorem AllSplit.body (split : AllSplit source (element :: elements)) {body : List Element}
    (isBody : body ∈ element.bodies) : AllSplit source body :=
  fun other has => split other (.inside (List.mem_cons_self ..) isBody has)

end

namespace Grammar

open Tokenizer

variable {setting : Setting} {source : List Char} {cursor next : Cursor}

/-! ## Text and the ends of tags -/

/-- A closing mark in front of the end of a text lies in the text or goes on behind it. -/
theorem no_closing_before {front after : List Char} (free : ¬ ['\x7d', '\x7d'] <:+: front)
    (ends : after.head? ≠ some '\x7d') {count : Nat} (isBefore : count < front.length) :
    ¬ ['\x7d', '\x7d'] <+: (front ++ after).drop count := by
  rw [List.drop_append_of_le_length (Nat.le_of_lt isBefore)]
  rintro ⟨back, same⟩
  have isSuffix : front.drop count <:+ front := List.drop_suffix count front
  cases dropEq : front.drop count with
  | nil => exact absurd (List.drop_eq_nil_iff.mp dropEq) (Nat.not_le_of_lt isBefore)
  | cons c more =>
    rw [dropEq] at same isSuffix
    cases more with
    | nil =>
      have goesOn : '\x7d' :: back = after := (List.cons.inj same).2
      exact ends (by rw [← goesOn]; rfl)
    | cons d more =>
      have goesOn : '\x7d' :: back = d :: (more ++ after) := (List.cons.inj same).2
      rcases List.cons.inj goesOn with ⟨rfl, -⟩
      rcases List.cons.inj same with ⟨rfl, -⟩
      exact free (List.IsInfix.trans ⟨[], more, rfl⟩ isSuffix.isInfix)

/-- Text without a closing mark is one token. -/
theorem textLength_of_free {text : List Char}
    (free : ¬ Delimiters.standard.closing.toList <:+:
      rawText (Setting.initial Delimiters.standard) text) :
    textLength Delimiters.standard text =
      (rawText (Setting.initial Delimiters.standard) text).length := by
  rcases rawText_spec (Setting.initial Delimiters.standard) text with ⟨after, split, -, ends⟩
  have within : textLength Delimiters.standard text ≤
      (rawText (Setting.initial Delimiters.standard) text).length := by
    rw [textLength_standard]
    exact Nat.min_le_left _ _
  have noBrace : after.head? ≠ some '\x7d' := by
    rcases ends with rfl | starts
    · simp
    · rcases startsWithMark_iff.mp starts with ⟨-, back, same⟩
      rw [← same]
      exact fun isBrace => absurd (Option.some.inj isBrace) (by decide)
  rcases textLength_spec text with whole | stray
  · exact whole
  rcases Nat.lt_or_eq_of_le within with shorter | whole
  · have noStray := no_closing_before free noBrace shorter
    rw [← split] at noStray
    exact absurd (startsWithMark_iff.mp stray).2 noStray
  · exact whole

theorem goes_of_raw (standard : setting.tags = Delimiters.standard) (notDone : cursor.rest ≠ [])
    (noTag : startsWithMark cursor.rest setting.tags.opening.toList = false)
    (splits : (raw setting cursor).1.Splits source)
    (others : GoesThrough false (raw setting cursor).2) : GoesThrough false cursor := by
  have textEq : rawText setting cursor.rest =
      rawText (Setting.initial Delimiters.standard) cursor.rest := by
    simp [rawText, standard, Setting.initial]
  rw [raw_eq, textEq] at splits others
  have free : ¬ Delimiters.standard.closing.toList <:+:
      rawText (Setting.initial Delimiters.standard) cursor.rest := by
    simpa only [Element.Splits, String.toList_ofList] using splits
  have whole := textLength_of_free free
  have positive : 0 < textLength Delimiters.standard cursor.rest := by
    rw [whole, List.length_pos_iff, ← textEq]
    exact rawText_ne_nil notDone noTag
  exact GoesThrough.of_text (whole ▸ others) notDone
    ((isTextLength_textLength Delimiters.standard cursor.rest).free 0 positive)

theorem goes_of_openingTag (standard : setting.tags = Delimiters.standard) {tag : Tag}
    (opens : openingTag setting cursor = .ok (tag, next)) (others : Clear next) :
    GoesThrough false cursor := by
  rcases openingTag_eq_ok.mp opens with ⟨starts, comments, inside, -⟩
  rw [standard] at starts inside
  exact (others.of_trivia inside).here.of_opening starts

theorem clear_of_closingTag (standard : setting.tags = Delimiters.standard) {tag : Tag}
    (closed : closingTag setting cursor = .ok (tag, next)) (others : GoesThrough false next) :
    Clear cursor := by
  rcases closingTag_eq_ok.mp closed with ⟨comments, start, before, atMark, rfl, -⟩
  rw [closes_of_tags standard] at atMark
  rw [standard] at others
  exact (Clear.of_closing others atMark).of_trivia before

theorem EndsBody.goes (standard : setting.tags = Delimiters.standard) {opening : Tag}
    {word : String} (ends : EndsBody setting cursor opening word next) (others : Clear next) :
    GoesThrough false cursor := by
  rcases ends with ⟨-, middle, opens, -, rfl⟩
  exact goes_of_openingTag standard opens others.of_word

/-! ## Statements -/

theorem clear_of_declaration {target : Identifier}
    (declares : declaration? cursor = some (target, next)) (others : Clear next) :
    Clear cursor := by
  rcases declaration?_eq_some_iff.mp declares with ⟨-, -, isAt, rfl⟩
  rcases isAt_iff.mp isAt with ⟨rest, starts⟩
  have atMark := Clear.of_punctuator .declare others starts.symm trivial rfl
  exact atMark.of_blanks.of_word

theorem clear_of_binding {missing : Fault} {name : Identifier}
    (binds : binding missing cursor = .ok (name, next)) (others : Clear next) : Clear cursor := by
  rcases binding_eq_ok.mp binds with ⟨-, -, -, rfl⟩
  exact others.of_word

theorem clear_of_indexBinding {name : Option Identifier}
    (binds : indexBinding cursor = .ok (name, next)) (others : Clear next) : Clear cursor := by
  rcases indexBinding_eq_ok.mp binds with ⟨comma, _, _, read, -, rfl⟩ | ⟨-, -, rfl⟩
  · exact clear_of_isAt .comma rfl rfl (clear_of_binding read others.of_blanks).of_blanks comma
      trivial
  · exact others

theorem clear_of_requireIn (wordIn : requireIn cursor = .ok next) (others : Clear next) :
    Clear cursor := by
  rcases requireIn_eq_ok.mp wordIn with ⟨isAt, rfl, ends⟩
  rcases isAt_iff.mp isAt with ⟨rest, starts⟩
  have crosses : cursor.Crosses ['i', 'n'] (cursor.skip 2) := crosses_of_rest starts.symm
  have apart : (cursor.skip 2).Apart := fun c rest starts => ends c (by rw [starts]; rfl)
  rw [← (word_reads (by decide) crosses apart).2] at others
  exact others.of_word

/-! ## Templates -/

/-- The tokenizer goes through what is derived between two places if it goes through what
follows.  A statement lies inside of a tag, and elements and the rest of a block begin
outside. -/
def BlockGoal.Passed (source : List Char) (cursor next : Cursor) : BlockGoal → Prop
  | .elements _ pieces =>
    AllSplit source pieces → GoesThrough false next → GoesThrough false cursor
  | .statement whole => (∀ head ∈ whole.heads, head.KeysEnd source) →
      (∀ body ∈ whole.bodies, AllSplit source body) → Clear next → Clear cursor
  | .branch whole => (∀ head ∈ whole.heads, head.KeysEnd source) →
      (∀ body ∈ whole.bodies, AllSplit source body) → Clear next → Clear cursor
  | .alternate whole => (∀ head ∈ whole.heads, head.KeysEnd source) →
      (∀ body ∈ whole.bodies, AllSplit source body) → Clear next → GoesThrough false cursor

theorem DerivesBlock.passed {goal : BlockGoal} (derived : DerivesBlock setting goal cursor next)
    (standard : setting.tags = Delimiters.standard) (inside : cursor.In source) :
    goal.Passed source cursor next := by
  induction derived with
  | elementsEnd => exact fun _ => id
  | raw goesOn noTag _ ih =>
    intro split goes
    have goes' := ih standard (inside.reaches (reaches_raw _ _)) split.others goes
    refine goes_of_raw standard (fun atEnd => ?_) noTag split.first goes'
    simp [atEnd] at goesOn
  | tag _ opens content closed others ih ihOthers =>
    intro split goes
    have atStatement := inside.reaches (reaches_of_openingTag opens)
    have atOthers := (atStatement.reaches content.reaches).reaches (reaches_of_closingTag closed)
    have atClosing := clear_of_closingTag standard closed
      (ihOthers standard atOthers split.others goes)
    exact goes_of_openingTag standard opens
      (ih standard atStatement split.first (fun _ => split.body) atClosing)
  | empty => exact fun _ _ => id
  | assign _ declares _ content =>
    intro keysEnd _ clear
    have atValue := inside.reaches (reaches_of_declaration? declares)
    exact clear_of_declaration declares
      (content.passed standard atValue (keysEnd _ (List.mem_singleton_self _)) clear)
  | branchStatement _ _ _ _ ih => exact ih standard inside
  | @loop _ _ _ _ _ _ _ _ _ _ _ _ afterIn _ _ _ _ _ _ _ bindsValue bindsIndex wordIn head closed _
      content ends ih =>
    intro keysEnd split clear
    have atValue := (inside.reaches (reaches_skipWord _)).reaches (reaches_skipBlanks _)
    have atIndex := (atValue.reaches (reaches_of_binding bindsValue)).reaches (reaches_skipBlanks _)
    have atIn := atIndex.reaches (reaches_of_indexBinding bindsIndex)
    have atHead : afterIn.In source := by
      rcases requireIn_eq_ok.mp wordIn with ⟨-, rfl, -⟩
      exact atIn.reaches (reaches_skip _ 2)
    have atBody := (atHead.reaches head.reaches).reaches (reaches_of_closingTag closed)
    have goesBody := ih standard atBody (split _ (List.mem_singleton_self _))
      (ends.goes standard clear)
    have clearHead := head.passed standard atHead (keysEnd _ (List.mem_singleton_self _))
      (clear_of_closingTag standard closed goesBody)
    have clearIndex := clear_of_indexBinding bindsIndex (clear_of_requireIn wordIn clearHead)
    exact (clear_of_binding bindsValue clearIndex.of_blanks).of_blanks.of_word
  | breakLoop | continueLoop => exact fun _ _ => Clear.of_word
  | expression _ _ _ content =>
    exact fun keysEnd _ => content.passed standard inside (keysEnd _ (List.mem_singleton_self _))
  | branch head closed _ content others ih ihOthers =>
    intro keysEnd split clear
    rcases List.forall_mem_cons.mp keysEnd with ⟨keysTest, keysOthers⟩
    rcases List.forall_mem_cons.mp split with ⟨splitBody, splitOthers⟩
    have atTest := inside.reaches (reaches_skipWord _)
    have atBody := (atTest.reaches head.reaches).reaches (reaches_of_closingTag closed)
    have goesOthers :=
      ihOthers standard (atBody.reaches content.reaches) keysOthers splitOthers clear
    have goesBody := ih standard atBody splitBody goesOthers
    have clearTest := head.passed standard atTest keysTest
      (clear_of_closingTag standard closed goesBody)
    exact clearTest.of_word
  | done ends => exact fun _ _ => ends.goes standard
  | chain ends _ _ _ ih =>
    intro keysEnd split clear
    have atBranch := (inside.reaches ends.reaches).reaches (reaches_skipBlanks _)
    exact ends.goes standard (ih standard atBranch keysEnd split clear).of_blanks
  | otherwise ends _ _ closed _ content endsAll ih =>
    intro _ split clear
    have atClosing := (inside.reaches ends.reaches).reaches (reaches_skipBlanks _)
    have goesBody := ih standard (atClosing.reaches (reaches_of_closingTag closed))
      (split _ (List.mem_singleton_self _)) (endsAll.goes standard clear)
    exact ends.goes standard (clear_of_closingTag standard closed goesBody).of_blanks

end Grammar

theorem tokenize_of_goesThrough {source : List Char}
    (goes : Tokenizer.GoesThrough false (Cursor.ofSource source)) :
    ∃ tokens, tokenize Delimiters.standard source = .ok tokens := by
  rcases goes TokenState.initial source.length rfl (Nat.le_refl _) with ⟨kept, closed⟩
  unfold tokenize
  dsimp only
  have unchanged {state : TokenState} (closed : state.openTag = none) :
      state.reportOpen = state := by
    simp [TokenState.reportOpen, closed]
  rw [unchanged closed]
  simp only [TokenState.push, kept]
  exact ⟨_, rfl⟩

/-- A source that is read as a template can be split into tokens, if none of its raw texts holds
the closing mark and no key that is a position is directly followed by the letter of an
exponent. -/
theorem tokenize_of_parse {source : List Char} {template : Template}
    (read : parse Delimiters.standard source = .ok template)
    (free : ∀ text span, template.HasElement (.raw text span) →
      ¬ Delimiters.standard.closing.toList <:+: text.toList)
    (keysEnd : ∀ opening statement closing span,
      template.HasElement (.tag opening statement closing span) →
        ∀ head ∈ statement.heads, head.KeysEnd source) :
    ∃ tokens, tokenize Delimiters.standard source = .ok tokens := by
  rcases derivesBlock_of_parse read with ⟨next, derived⟩
  have split : AllSplit source template.elements := by
    intro element has
    cases element with
    | raw text span => exact free text span has
    | tag opening statement closing span => exact keysEnd opening statement closing span has
  exact tokenize_of_goesThrough (derived.passed rfl (Cursor.ofSource_in source) split
    (Tokenizer.goesThrough_at_end derived.atEnd))

/-- An update and a negation that are added, without blanks between the signs. -/
def signs : Expr :=
  let x := Expr.identifier "x" (Note.at (Span.between 4 5))
  let member := Expr.field x (.position (Number.ofDecimal false ⟨1, 0⟩)) (Span.between 6 7)
    (Note.at (Span.between 4 7))
  let y := Expr.identifier "y" (Note.at (Span.between 11 12))
  .binary .add (.update .increment .after member (Note.at (Span.between 4 9)))
    (.unary .minus y (Note.at (Span.between 10 12))) (Note.at (Span.between 4 12))

/-- The signs in a tag after some text. -/
def signsInTag : Template :=
  ⟨[.raw "a" (Span.between 0 1),
    .tag ⟨.opening, "\x7b\x7b", false, [], Span.between 1 3⟩ (.expression signs)
      ⟨.closing, "\x7d\x7d", false, [], Span.between 13 15⟩ (Span.between 1 15)]⟩

theorem keysEnd_signs : signs.KeysEnd "a\x7b\x7b x.1+++-y \x7d\x7d".toList := by
  have leaf {name : String} {note : Note} :
      (Expr.identifier name note).KeysEnd "a\x7b\x7b x.1+++-y \x7d\x7d".toList :=
    Expr.everywhere_iff.mpr ⟨trivial, by simp [Expr.children]⟩
  refine Expr.everywhere_iff.mpr
    ⟨trivial, List.forall_mem_cons.mpr ⟨?_, List.forall_mem_singleton.mpr ?_⟩⟩
  · refine Expr.everywhere_iff.mpr ⟨trivial, List.forall_mem_singleton.mpr ?_⟩
    exact Expr.everywhere_iff.mpr
      ⟨⟨by decide, by decide⟩, List.forall_mem_singleton.mpr leaf⟩
  · exact Expr.everywhere_iff.mpr ⟨trivial, List.forall_mem_singleton.mpr leaf⟩

/-- Three plus signs are split into two and one, as they are read. -/
theorem tokenize_of_parse_signs :
    parse Delimiters.standard "a\x7b\x7b x.1+++-y \x7d\x7d".toList = .ok signsInTag ∧
      (∀ text span, signsInTag.HasElement (.raw text span) →
        ¬ Delimiters.standard.closing.toList <:+: text.toList) ∧
      (∀ opening statement closing span,
        signsInTag.HasElement (.tag opening statement closing span) →
          ∀ head ∈ statement.heads, head.KeysEnd "a\x7b\x7b x.1+++-y \x7d\x7d".toList) ∧
      ∃ tokens, tokenize Delimiters.standard "a\x7b\x7b x.1+++-y \x7d\x7d".toList =
        .ok tokens := by
  have read : parse Delimiters.standard "a\x7b\x7b x.1+++-y \x7d\x7d".toList = .ok signsInTag :=
    rfl
  have flat : ∀ outer ∈ signsInTag.elements, outer.bodies = [] := by
    simp [signsInTag, Element.bodies, Statement.bodies]
  have free : ∀ text span, signsInTag.HasElement (.raw text span) →
      ¬ Delimiters.standard.closing.toList <:+: text.toList := by
    intro text span has
    have among := has.mem_of_flat flat
    simp only [signsInTag, List.mem_cons, Element.raw.injEq, reduceCtorEq, List.not_mem_nil,
      or_false] at among
    rcases among with ⟨rfl, -⟩
    decide
  have keysEnd : ∀ opening statement closing span,
      signsInTag.HasElement (.tag opening statement closing span) →
        ∀ head ∈ statement.heads, head.KeysEnd "a\x7b\x7b x.1+++-y \x7d\x7d".toList := by
    intro opening statement closing span has
    have among := has.mem_of_flat flat
    simp only [signsInTag, List.mem_cons, Element.tag.injEq, reduceCtorEq, List.not_mem_nil,
      or_false, false_or] at among
    rcases among with ⟨-, rfl, -⟩
    exact List.forall_mem_singleton.mpr keysEnd_signs
  exact ⟨read, free, keysEnd, tokenize_of_parse read free keysEnd⟩

/-- A position is applied to a name that directly follows it and begins as an exponent does: the
template is read, without any raw text, but it is not split. -/
theorem not_tokenize_exponent :
    ∃ template, parse Delimiters.standard "\x7b\x7b a.1e \x7d\x7d".toList = .ok template ∧
      (∀ text span, template.HasElement (.raw text span) →
        ¬ Delimiters.standard.closing.toList <:+: text.toList) ∧
      ∀ tokens, tokenize Delimiters.standard "\x7b\x7b a.1e \x7d\x7d".toList ≠ .ok tokens := by
  refine ⟨⟨[.tag _ (.expression _) _ _]⟩, rfl, ?_, ?_⟩
  · intro text span has
    exact nomatch List.mem_singleton.mp (has.mem_of_flat (List.forall_mem_singleton.mpr rfl))
  · intro tokens split
    have broken : (tokenize Delimiters.standard "\x7b\x7b a.1e \x7d\x7d".toList).isOk = false := by
      decide
    rw [split] at broken
    cases broken

end TemplateLang
