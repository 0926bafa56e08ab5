import TemplateLang.Proofs.Essence.Template
import TemplateLang.Proofs.RoundTrip.Tags

/-!
# Printed statements and raw text

How raw text is read back before what follows it, how a tag is read back that holds nothing
or an expression, and how the names of a declaration or a loop are.
-/

namespace TemplateLang

open Cursor Print

/-! ## The text of a statement -/

namespace Print

/-- The index variable of a loop and the comma before it. -/
def indexText : Option Identifier → String
  | some index => ", " ++ index.name
  | none => ""

/-- A statement between the ends of its tag. -/
def statement : Statement → String
  | .empty => ""
  | .expression expr => expression true expr
  | .assign target value _ => target.name ++ " := " ++ expression true value
  | .branch b => branch b
  | .loop value index iterable headClose body endOpen _ =>
    "for " ++ value.name ++ indexText index ++ " in " ++ expression true iterable ++
      closing headClose ++ elements body ++ blockEnd endOpen
  | .breakLoop _ => "break"
  | .continueLoop _ => "continue"

/-- A tag that holds something is its statement between its ends. -/
theorem element_tag {content : Statement} (someContent : content ≠ .empty) (open' close : Tag)
    (span : Span) : element (.tag open' content close span) =
      opening open' ++ " " ++ statement content ++ closing close := by
  cases content with
  | empty => exact absurd rfl someContent
  | loop value index =>
    apply String.toList_injective
    cases index <;> simp [element, statement, indexText]
  | _ => simp only [element, statement, String.append_assoc]; try rfl

end Print

namespace Grammar

variable {setting : Setting} {cursor start stop next : Cursor} {tag : Tag} {name word : String}

theorem essence_of_bare {expr expr' : Expr} (same : expr'.bare = expr.bare) :
    expr'.essence = expr.essence := by
  rw [← Expr.essence_bare, same, Expr.essence_bare]

theorem Echoes.essence {top : Bool} {expr expr' : Expr} (echoes : Echoes top expr expr') :
    expr'.essence = expr.essence :=
  essence_of_bare echoes.bare

theorem Echoes.expression_eq {top : Bool} {expr expr' : Expr} (echoes : Echoes top expr expr') :
    Print.expression top expr' = Print.expression top expr :=
  String.toList_injective echoes.text

/-! ## Names -/

/-- The name that a binding reads is a word that is not reserved. -/
theorem shaped_of_binding {missing : Fault} {bound : Identifier}
    (binds : binding missing cursor = .ok (bound, next)) :
    isWordShaped bound.name.toList = true ∧ isReserved bound.name = false := by
  obtain ⟨atWord, free, -, -⟩ := binding_eq_ok.mp binds
  exact ⟨isWordShaped_of_peekWord? atWord, free⟩

/-- Where a name is read it is bound. -/
theorem AtWord.binds (atName : AtWord cursor name stop) (free : isReserved name = false)
    (missing : Fault) : binding missing cursor = .ok (⟨name, cursor.spanTo stop⟩, stop) := by
  refine binding_eq_ok.mpr ⟨atName.peek, free, ?_, atName.skip.symm⟩
  rw [atName.skip]

/-- A declared name is read up to the end of its `:=`. -/
theorem declaration_reads (shaped : isWordShaped name.toList = true)
    (crosses : cursor.Crosses (name.toList ++ [' ', ':', '=']) stop) :
    ∃ afterName, AtWord cursor name afterName ∧
      declaration? cursor = some (⟨name, cursor.spanTo afterName⟩, stop) := by
  obtain ⟨afterName, mark, atName, blank, crosses⟩ := word_blank shaped crosses
  have skipEq : afterName.skipBlanks = mark := by
    refine skipBlanks_blank blank fun c rest restEq => ?_
    obtain ⟨rfl, -⟩ := List.cons.inj (crosses.1.symm.trans restEq)
    decide
  refine ⟨afterName, atName, ?_⟩
  rw [declaration?_eq_some_iff, atName.skip, skipEq]
  refine ⟨atName.peek, rfl, ?_, crosses.2⟩
  rw [isAt_iff, crosses.1]
  exact List.prefix_append _ _

/-- The word before what a loop runs over is read. -/
theorem requireIn_reads (crosses : cursor.Crosses ['i', 'n'] stop) (apart : stop.Apart) :
    requireIn cursor = .ok stop := by
  refine requireIn_eq_ok.mpr ⟨?_, crosses.2, fun c isFirst => ?_⟩
  · rw [isAt_iff, crosses.1]
    exact List.prefix_append _ _
  · have stopEq : stop = cursor.skip 2 := crosses.2
    rw [← stopEq] at isFirst
    obtain ⟨rest, restEq⟩ := List.head?_eq_some_iff.mp isFirst
    exact apart c rest restEq

/-- The index variable that a loop reads is a word that is not reserved. -/
theorem shaped_of_indexBinding {index : Identifier}
    (binds : indexBinding cursor = .ok (some index, next)) :
    isWordShaped index.name.toList = true ∧ isReserved index.name = false := by
  rcases indexBinding_eq_ok.mp binds with ⟨-, _, _, read, ⟨⟩, -⟩ | ⟨-, ⟨⟩, -⟩
  exact shaped_of_binding read

/-- What is read between the word of a loop and what it runs over. -/
structure LoopHead (value : Identifier) (index : Option Identifier) (cursor stop : Cursor)
    (value' : Identifier) (index' : Option Identifier) (afterValue afterIndex : Cursor) :
    Prop where
  bindsValue : binding .missingLoopVariable cursor.skipBlanks = .ok (value', afterValue)
  bindsIndex : indexBinding afterValue.skipBlanks = .ok (index', afterIndex)
  wordIn : requireIn afterIndex = .ok stop
  essence : value'.essence = value.essence
  indexEssence : index'.map Identifier.essence = index.map Identifier.essence

/-- A name after a blank is bound. -/
theorem binds_blank {text : List Char} (shaped : isWordShaped name.toList = true)
    (free : isReserved name = false) (missing : Fault)
    (apart : ∀ c ∈ text.head?, isWordChar c = false)
    (someText : text ≠ []) (crosses : cursor.Crosses (' ' :: (name.toList ++ text)) stop) :
    ∃ start afterName, AtWord start name afterName ∧ cursor.skipBlanks = start ∧
      binding missing start = .ok (⟨name, start.spanTo afterName⟩, afterName) ∧
      afterName.Crosses text stop := by
  obtain ⟨start, blank, crosses⟩ := crosses.head
  obtain ⟨afterName, crossesName, crosses⟩ := crosses.split
  have apartAfter : afterName.Apart := by
    intro c rest restEq
    obtain ⟨d, text, rfl⟩ := List.exists_cons_of_ne_nil someText
    obtain ⟨rfl, -⟩ := List.cons.inj (crosses.1.symm.trans restEq)
    exact apart d rfl
  have atName := atWord shaped crossesName apartAfter
  exact ⟨start, afterName, atName, skipBlanks_blank blank atName.settled.1,
    atName.binds free missing, crosses⟩

/-- The last word before what a loop runs over is read after a blank. -/
theorem requireIn_blank (apart : stop.Apart) (crosses : cursor.Crosses [' ', 'i', 'n'] stop) :
    ∃ start, cursor.skipBlanks = start ∧ start.isAt [','] = false ∧ requireIn start = .ok stop := by
  obtain ⟨start, blank, crosses⟩ := crosses.head
  refine ⟨start, skipBlanks_blank blank fun c rest restEq => ?_,
    isAt_eq_false crosses.1 (by decide), requireIn_reads crosses apart⟩
  obtain ⟨rfl, -⟩ := List.cons.inj (crosses.1.symm.trans restEq)
  decide

/-- The names of a loop are read up to the end of the word after them. -/
theorem loopHead_reads {value : Identifier} {index : Option Identifier}
    (shaped : isWordShaped value.name.toList = true) (free : isReserved value.name = false)
    (indexed : ∀ name ∈ index, isWordShaped name.name.toList = true ∧ isReserved name.name = false)
    (crosses : cursor.Crosses
      (' ' :: (value.name.toList ++ ((indexText index).toList ++ [' ', 'i', 'n']))) stop)
    (apart : stop.Apart) :
    (∃ c rest, cursor.skipBlanks.rest = c :: rest ∧ c ≠ ':') ∧
      ∃ value' index' afterValue afterIndex,
        LoopHead value index cursor stop value' index' afterValue afterIndex := by
  have apartText : ∀ c ∈ ((indexText index).toList ++ [' ', 'i', 'n']).head?,
      isWordChar c = false := by
    cases index <;> simp [indexText] <;> decide
  obtain ⟨start, afterValue, atName, skipEq, bindsValue, crosses⟩ :=
    binds_blank shaped free .missingLoopVariable apartText (by simp) crosses
  constructor
  · obtain ⟨c, rest, restEq, starts⟩ := word_starts atName.peek
    rw [skipEq]
    refine ⟨c, rest, restEq, ?_⟩
    rintro rfl
    exact absurd starts (by decide)
  cases index with
  | none =>
    obtain ⟨afterIndex, skipIndex, noComma, wordIn⟩ := requireIn_blank apart crosses
    refine ⟨⟨value.name, start.spanTo afterValue⟩, none, afterValue, afterIndex,
      ⟨by rw [skipEq, bindsValue], ?_, wordIn, rfl, rfl⟩⟩
    rw [skipIndex]
    exact indexBinding_eq_ok.mpr (.inr ⟨noComma, rfl, rfl⟩)
  | some index =>
    obtain ⟨shapedIndex, freeIndex⟩ := indexed index rfl
    have comma : (indexText (some index)).toList ++ [' ', 'i', 'n'] =
        ',' :: ' ' :: (index.name.toList ++ [' ', 'i', 'n']) := by
      simp [indexText]
    rw [comma] at crosses
    obtain ⟨atComma, crossesIndex⟩ := crosses.cons
    obtain ⟨startIndex, afterName, -, skipStart, bindsIndex, crossesIn⟩ :=
      binds_blank shapedIndex freeIndex .missingIndexVariable (by simp; decide) (by simp)
        crossesIndex
    obtain ⟨afterIndex, skipIndex, -, wordIn⟩ := requireIn_blank apart crossesIn
    refine ⟨⟨value.name, start.spanTo afterValue⟩,
      some ⟨index.name, startIndex.spanTo afterName⟩, afterValue, afterIndex,
      ⟨by rw [skipEq, bindsValue], ?_, wordIn, rfl, rfl⟩⟩
    rw [skipBlanks_eq_self crosses.1 (by decide)]
    have bindsAfter := (congrArg (binding .missingIndexVariable) skipStart).trans bindsIndex
    exact indexBinding_eq_ok.mpr (.inl ⟨atComma, _, _, bindsAfter, rfl, skipIndex.symm⟩)

/-! ## Raw text -/

/-- Raw text before other text is cut off there. -/
theorem cutBefore?_of_rawText {text after : List Char}
    (own : rawText setting (text ++ after) = text) (someMark : setting.tags.opening.toList ≠ [])
    (notEnded : after ≠ []) :
    cutBefore? setting.tags.opening.toList (text ++ after) = some (text, after) := by
  unfold rawText at own
  dsimp only at own
  rw [if_neg (by simpa using someMark)] at own
  split at own
  · rename_i front back cut
    obtain ⟨parts, -⟩ := cutBefore?_eq_some cut
    rw [own] at parts cut
    rw [cut, List.append_cancel_left parts]
  · exact absurd (List.append_cancel_left (own.trans (List.append_nil text).symm)) notEnded

/-- Raw text ends in the same place before whatever begins with an opening mark. -/
theorem rawText_append {text after after' : List Char}
    (own : rawText setting (text ++ after) = text)
    (stops : after' = [] ∨ startsWithMark after' setting.tags.opening.toList = true)
    (ended : after = [] → after' = []) : rawText setting (text ++ after') = text := by
  obtain ⟨rest, split, noMark, ends⟩ := rawText_spec setting (text ++ after)
  rw [own] at split noMark
  obtain rfl := List.append_cancel_left split
  rcases stops with rfl | starts
  · unfold rawText
    dsimp only
    rw [List.append_nil]
    split
    · rfl
    · rename_i someMark
      have opening : setting.tags.opening ≠ "" := by
        intro empty
        simp [empty] at someMark
      split
      · rename_i front back cut
        obtain ⟨parts, begins, -⟩ := cutBefore?_eq_some_iff.mp cut
        refine absurd ?_ (noMark opening)
        rw [← parts]
        exact begins.isInfix.trans (List.suffix_append _ _).isInfix
      · rfl
  · obtain ⟨someMark, begins'⟩ := startsWithMark_iff.mp starts
    have notEnded : after ≠ [] := by
      intro empty
      rw [ended empty] at begins'
      exact someMark (List.prefix_nil.mp begins')
    obtain ⟨-, begins⟩ := startsWithMark_iff.mp (ends.resolve_left notEnded)
    obtain ⟨-, -, first⟩ := cutBefore?_eq_some_iff.mp (cutBefore?_of_rawText own someMark notEnded)
    have cut : cutBefore? setting.tags.opening.toList (text ++ after') = some (text, after') := by
      refine cutBefore?_eq_some_iff.mpr ⟨rfl, begins', fun front back parts someBack earlier => ?_⟩
      -- Whether the mark begins earlier is decided by the mark that both texts go on with.
      obtain ⟨rest', rfl⟩ := begins'
      have within : setting.tags.opening.toList <+: back ++ setting.tags.opening.toList := by
        refine List.prefix_of_prefix_length_le earlier ?_ (by simp)
        rw [← List.append_assoc]
        exact List.prefix_append _ _
      exact first front back parts someBack
        (within.trans ((List.prefix_append_right_inj back).mpr begins))
    unfold rawText
    dsimp only
    rw [if_neg (by simpa using someMark), cut]

/-- Raw text does not begin with an opening mark. -/
theorem no_tag_of_rawText {text : List Char} (someText : rawText setting text ≠ []) :
    startsWithMark text setting.tags.opening.toList = false := by
  rw [Bool.eq_false_iff]
  intro starts
  obtain ⟨someMark, begins⟩ := startsWithMark_iff.mp starts
  have cut : cutBefore? setting.tags.opening.toList text = some ([], text) := by
    refine cutBefore?_eq_some_iff.mpr ⟨rfl, begins, fun front back parts someBack => ?_⟩
    exact absurd (List.append_eq_nil_iff.mp parts.symm).2 someBack
  refine someText ?_
  unfold rawText
  dsimp only
  rw [if_neg (by simpa using someMark), cut]

theorem startsWithMark_of_atBlockWord {stops : List String}
    (atWord : atBlockWord setting stops cursor = true) :
    startsWithMark cursor.rest setting.tags.opening.toList = true := by
  obtain ⟨_, _, _, opens, -, -⟩ := atBlockWord_iff.mp atWord
  exact (openingTag_eq_ok.mp opens).1

/-- Raw text is read again before what begins as the text after it did. -/
theorem raw_reads (someText : rawText setting cursor.rest ≠ [])
    (crosses : start.Crosses (rawText setting cursor.rest) stop)
    (stopped : stop.rest = [] ∨ startsWithMark stop.rest setting.tags.opening.toList = true)
    (ended : (Grammar.raw setting cursor).2.rest = [] → stop.rest = []) :
    Grammar.raw setting start =
        (.raw (String.ofList (rawText setting cursor.rest)) (start.spanTo stop), stop) ∧
      startsWithMark start.rest setting.tags.opening.toList = false ∧
      ∀ stops, (start.rest.isEmpty || atBlockWord setting stops start) = false := by
  have own : rawText setting start.rest = rawText setting cursor.rest := by
    obtain ⟨after, split, -⟩ := rawText_spec setting cursor.rest
    have afterEq : (Grammar.raw setting cursor).2.rest = after := by
      rw [raw_eq, rest_skip]
      conv => lhs; arg 2; rw [split]
      exact List.drop_left
    rw [crosses.1]
    exact rawText_append (by rw [← split]) stopped (afterEq ▸ ended)
  have noTag : startsWithMark start.rest setting.tags.opening.toList = false :=
    no_tag_of_rawText (own ▸ someText)
  refine ⟨by rw [raw_eq, own, ← crosses.2], noTag, fun stops => ?_⟩
  rw [Bool.or_eq_false_iff, Bool.eq_false_iff, Ne, List.isEmpty_iff]
  constructor
  · intro empty
    rw [crosses.1, List.append_eq_nil_iff] at empty
    exact someText empty.1
  · rw [Bool.eq_false_iff]
    intro atWord
    rw [startsWithMark_of_atBlockWord atWord] at noTag
    exact Bool.noConfusion noTag

/-! ## Tags -/

/-- A tag that prints as another one does and has the same essence. -/
structure TagEchoes (opening : Tag) (content : Statement) (closing : Tag) (opening' : Tag)
    (content' : Statement) (closing' : Tag) : Prop where
  text : ∀ span span', Print.element (.tag opening' content' closing' span') =
    Print.element (.tag opening content closing span)
  opening : opening'.essence = opening.essence
  content : content'.essence = content.essence
  closing : closing'.essence = closing.essence

/-- A tag is read again between two places. -/
def TagRereads (setting : Setting) (opening : Tag) (content : Statement) (closing : Tag)
    (start stop : Cursor) : Prop :=
  ∃ opening' content' closing' inside inside',
    openingTag setting start = .ok (opening', inside) ∧
    DerivesBlock setting (.statement content') inside inside' ∧
    closingTag setting inside' = .ok (closing', stop) ∧
    TagEchoes opening content closing opening' content' closing'

variable {opening opening' closing closing' : Tag} {span : Span}

/-! ### Tags that hold nothing -/

/-- Whether a comment is over several lines is seen from its text. -/
theorem isMultiline_iff {comment : Comment} :
    comment.isMultiline = true ↔ '\n' ∈ (Print.comment comment).toList := by
  have marks : '\n' ∉ Literal.commentOpening ∧ '\n' ∉ Literal.commentClosing := by decide
  have inside : '\n' ∈ (Print.comment comment).toList ↔ '\n' ∈ commentBody comment := by
    simp [toList_comment, marks]
  have own : comment.isMultiline = true ↔ '\n' ∈ comment.body.toList := by
    simp [Comment.isMultiline]
  rw [inside]
  unfold commentBody
  split
  · rename_i multiline
    exact iff_of_true multiline (own.mp multiline)
  · rename_i notMultiline
    refine iff_of_false notMultiline fun isIn => notMultiline (own.mpr ?_)
    exact (Text.dropOuter_infix _).mem (Text.mem_of_mem_spaced isIn (by decide))

theorem isMultiline_eq {comment comment' : Comment}
    (same : Print.comment comment' = Print.comment comment) :
    comment'.isMultiline = comment.isMultiline := by
  rw [Bool.eq_iff_iff, isMultiline_iff, isMultiline_iff, same]

/-- Tags that hold nothing print alike if their ends do. -/
theorem emptyTag_alike (alike : Tag.Alike .opening opening opening')
    (isStandard : opening.IsStandard .opening) (alikeClosing : Tag.Alike .closing closing closing')
    (isStandardClosing : closing.IsStandard .closing) (noComments : closing.comments = []) :
    emptyTag opening' closing' = emptyTag opening closing := by
  have noComments' : closing'.comments = [] := by
    have lengths := alikeClosing.comments.length_eq
    rw [noComments] at lengths
    exact List.length_eq_zero_iff.mp lengths
  have comments := alike.comments
  unfold Print.Alike at comments
  unfold emptyTag
  rw [noComments, noComments', List.append_nil, List.append_nil, alike.opening isStandard,
    alikeClosing.closing isStandardClosing, alike.text isStandard,
    alikeClosing.text isStandardClosing]
  match own : opening.comments, own' : opening'.comments with
  | [], [] => rfl
  | [only], [only'] =>
    rw [own, own', List.map_singleton, List.map_singleton] at comments
    have same := (List.cons.inj comments).1
    dsimp only
    rw [same, isMultiline_eq same]
  | _ :: _ :: _, _ :: _ :: _ => rfl
  | [], _ :: _ | _ :: _, [] | [_], _ :: _ :: _ | _ :: _ :: _, [_] =>
    rw [own, own'] at comments
    simp at comments

/-- A tag that holds nothing but a comment over several lines is read up to its end. -/
theorem huggedTag_reads {only : Comment} (standard : setting.tags = Delimiters.standard)
    (isStandard : opening.IsStandard .opening) (comments : opening.comments = [only])
    (crosses : start.Crosses
      (openMark opening.trims ++ ((Print.comment only).toList ++ closeMark closing.trims)) stop) :
    ∃ opening' inside, Tag.Alike .opening opening opening' ∧
      openingTag setting start = .ok (opening', inside) ∧ inside.Settled ∧
      inside.Crosses (closeMark closing.trims) stop := by
  obtain ⟨afterMark, mark, crosses⟩ := crosses.split
  obtain ⟨inside, first, crosses⟩ := crosses.split
  have closed : only.Closed :=
    isStandard.closed only (by rw [comments]; exact List.mem_singleton_self _)
  obtain ⟨only', found, same⟩ := comment_reads closed first
  have settled : inside.Settled := (settles_closeMark _).crossed crosses
  have notMinus : afterMark.isAt ['-'] = false := by
    obtain ⟨body, after, restEq, -⟩ := Literal.comment_eq_found.mp found
    exact isAt_eq_false (restEq : afterMark.rest = '/' :: '*' :: (body ++ after)) (by decide)
  have opens := openingTag_reads opening.trims standard mark (fun _ => notMinus)
    ((Between.comment found (.here inside)).trivia settled)
  refine ⟨_, inside, ⟨(isStandard_of_openingTag standard opens).1, rfl, ?_⟩, opens, settled,
    crosses⟩
  rw [comments, Print.Alike, List.map_singleton, List.map_singleton, same]

/-- A tag that holds nothing else is read up to its end too. -/
theorem spacedTag_reads (standard : setting.tags = Delimiters.standard)
    (isStandard : opening.IsStandard .opening) (isStandardClosing : closing.IsStandard .closing)
    (noComments : closing.comments = [])
    (crosses : start.Crosses (Print.opening opening ++ Print.closing closing).toList stop) :
    ∃ opening' inside, Tag.Alike .opening opening opening' ∧
      openingTag setting start = .ok (opening', inside) ∧ inside.Settled ∧
      inside.Crosses (closeMark closing.trims) stop := by
  rw [String.toList_append, isStandardClosing.toList_closing, noComments, trailing_nil] at crosses
  exact opening_reads standard isStandard (settles_closeMark _) crosses

/-- A tag that holds nothing is read. -/
theorem emptyTag_reads (standard : setting.tags = Delimiters.standard)
    (isStandard : opening.IsStandard .opening) (isStandardClosing : closing.IsStandard .closing)
    (noComments : closing.comments = [])
    (crosses : start.Crosses (emptyTag opening closing).toList stop) :
    TagRereads setting opening .empty closing start stop := by
  obtain ⟨opening', inside, alike, opens, settled, mark⟩ :
      ∃ opening' inside, Tag.Alike .opening opening opening' ∧
        openingTag setting start = .ok (opening', inside) ∧ inside.Settled ∧
        inside.Crosses (closeMark closing.trims) stop := by
    have apart
        (crosses : start.Crosses (Print.opening opening ++ Print.closing closing).toList stop) :=
      spacedTag_reads standard isStandard isStandardClosing noComments crosses
    unfold emptyTag at crosses
    rw [noComments, List.append_nil] at crosses
    split at crosses
    · rename_i only comments
      split at crosses
      · rw [String.toList_append, String.toList_append, isStandard.toList_text_opening,
          isStandardClosing.toList_text_closing, List.append_assoc] at crosses
        exact huggedTag_reads standard isStandard comments crosses
      · exact apart crosses
    · exact apart crosses
  have closes := closingTag_reads closing.trims standard settled.trivia mark
  have alikeClosing : Tag.Alike .closing closing _ :=
    ⟨isStandard_of_closingTag standard closes, rfl, noComments ▸ Alike.refl []⟩
  refine ⟨opening', .empty, _, inside, inside, opens, .empty (atClosing_closeMark standard mark),
    closes, ⟨fun _ _ => ?_, alike.essence isStandard, rfl, alikeClosing.essence isStandardClosing⟩⟩
  exact emptyTag_alike alike isStandard alikeClosing isStandardClosing noComments

/-! ### Tags that hold an expression -/

/-- A tag with an expression is read.  The comments before the expression are read with the
opening end. -/
theorem expressionTag_reads {room : Nat} {expr : Expr}
    (content : Reads (room + 1) .pipeline expr) (standard : Standard setting (room + 1))
    (isStandard : opening.IsStandard .opening) (isStandardClosing : closing.IsStandard .closing)
    (noComments : closing.comments = [])
    (crosses : start.Crosses (Print.element (.tag opening (.expression expr) closing span)).toList
      stop) :
    TagRereads setting opening (.expression expr) closing start stop := by
  obtain ⟨before, body, content⟩ := content
  have spelled := content.1
  have printed (open' close : Tag) (expr : Expr) (span : Span) :
      (Print.element (.tag open' (.expression expr) close span)).toList =
        (Print.opening open').toList ++
          ' ' :: (chars true expr ++ (Print.closing close).toList) := by
    rw [Print.element_tag (by simp)]
    simp [Print.statement, chars]
  rw [printed, spelled.text, List.append_assoc] at crosses
  obtain ⟨opening', inside, alike, opens, settled, crosses⟩ :=
    opening_reads_leading standard.1 isStandard spelled.closed (spelled.opens.append _).settles
      crosses
  obtain ⟨expr', inside', closing', reread, derived, notColon, alikeClosing, closes⟩ :=
    body_reads content standard isStandardClosing noComments settled.trivia crosses
  have notAtEnd : setting.atClosing inside.rest = false := by
    rw [crosses.1, List.append_assoc]
    exact (spelled.opens.append _).not_closing standard.1
  have whole := isStandard.addComments spelled.closed
  refine ⟨opening', .expression expr', closing', inside, inside', opens,
    derives_statement standard.2 settled derived notAtEnd notColon, closes,
    ⟨fun _ _ => ?_, alike.essence whole, ?_, alikeClosing.essence isStandardClosing⟩⟩
  · apply String.toList_injective
    rw [printed, printed, reread.text, spelled.text, alikeClosing.closing isStandardClosing,
      alike.opening whole, whole.toList_opening, isStandard.toList_opening]
    simp only [Tag.addComments, trailing_append, List.append_assoc, leading_nil, trailing_nil,
      List.nil_append, trailing_blank]
  · rw [Statement.essence, Statement.essence, essence_of_bare reread.bare]

/-! ### Tags that begin with a word -/

/-- A statement is read again up to the closing end of its tag. -/
def RereadsInside (setting : Setting) (content : Statement) (closing : Tag) (start stop : Cursor) :
    Prop :=
  ∃ content' closing' next, DerivesBlock setting (.statement content') start next ∧
    Print.statement content' = Print.statement content ∧ content'.essence = content.essence ∧
    Tag.Alike .closing closing closing' ∧ closingTag setting next = .ok (closing', stop)

theorem Statement.ne_empty_of_essence {content content' : Statement}
    (same : content'.essence = content.essence) (someContent : content ≠ .empty) :
    content' ≠ .empty := by
  rintro rfl
  cases content <;> simp [Statement.essence] at same
  exact someContent rfl

/-- A tag is read whose statement begins with a word. -/
theorem wordTag_reads {content : Statement}
    (standard : setting.tags = Delimiters.standard) (isStandard : opening.IsStandard .opening)
    (isStandardClosing : closing.IsStandard .closing) (someContent : content ≠ .empty)
    (shaped : isWordShaped word.toList = true)
    (starts : word.toList <+: (Print.statement content).toList)
    (inner : ∀ {inside}, inside.Crosses
      ((Print.statement content).toList ++ (Print.closing closing).toList) stop →
        RereadsInside setting content closing inside stop)
    (crosses : start.Crosses (Print.element (.tag opening content closing span)).toList stop) :
    TagRereads setting opening content closing start stop := by
  have printed : (Print.element (.tag opening content closing span)).toList =
      (Print.opening opening).toList ++
        ' ' :: ((Print.statement content).toList ++ (Print.closing closing).toList) := by
    rw [Print.element_tag someContent]
    simp
  have settles : Settles ((Print.statement content).toList ++ (Print.closing closing).toList) := by
    obtain ⟨text, textEq⟩ := starts
    rw [← textEq, List.append_assoc]
    exact settles_word shaped _
  rw [printed] at crosses
  obtain ⟨opening', inside, alike, opens, -, crosses⟩ :=
    opening_reads standard isStandard settles crosses
  obtain ⟨content', closing', next, derived, text, essence, alikeClosing, closes⟩ := inner crosses
  refine ⟨opening', content', closing', inside, next, opens, derived, closes, ⟨fun _ _ => ?_,
    alike.essence isStandard, essence, alikeClosing.essence isStandardClosing⟩⟩
  rw [Print.element_tag someContent,
    Print.element_tag (Statement.ne_empty_of_essence essence someContent), text,
    alike.opening isStandard, alikeClosing.closing isStandardClosing]

/-- What is seen from before a closing end: no word goes on and no name is declared. -/
def BeforeClosing (cursor : Cursor) : Prop :=
  cursor.Apart ∧ ∃ c rest, cursor.skipBlanks.rest = c :: rest ∧ c ≠ ':'

/-- A statement that ends in a word is read up to it and then the closing end. -/
theorem rereadsInside_of_word {content : Statement} (standard : setting.tags = Delimiters.standard)
    (isStandard : closing.IsStandard .closing)
    (inner : ∀ {next}, start.Crosses (Print.statement content).toList next → BeforeClosing next →
      ∃ content', DerivesBlock setting (.statement content') start next ∧
        Print.statement content' = Print.statement content ∧ content'.essence = content.essence)
    (crosses : start.Crosses ((Print.statement content).toList ++ (Print.closing closing).toList)
      stop) :
    RereadsInside setting content closing start stop := by
  obtain ⟨next, crosses, crossesClosing⟩ := crosses.split
  obtain ⟨apart, -, -, starts⟩ := skipBlanks_closing isStandard crossesClosing
  obtain ⟨closing', alike, closes, -⟩ := closing_reads standard isStandard crossesClosing
  obtain ⟨content', derived, text, essence⟩ := inner crosses ⟨apart, starts⟩
  exact ⟨content', closing', next, derived, text, essence, alike, closes⟩

/-- The assignment to a declared name is read up to the closing end. -/
theorem assignment_reads {room : Nat} {target : Identifier} {value : Expr}
    (content : Reads room .pipeline value) (standard : Standard setting room)
    (isStandard : closing.IsStandard .closing) (noComments : closing.comments = [])
    (shaped : isWordShaped target.name.toList = true) (free : isReserved target.name = false)
    (crosses : start.Crosses ((Print.statement (.assign target value span)).toList ++
      (Print.closing closing).toList) stop) :
    RereadsInside setting (.assign target value span) closing start stop := by
  have printed : (Print.statement (.assign target value span)).toList ++
      (Print.closing closing).toList = (target.name.toList ++ [' ', ':', '=']) ++
        ' ' :: (chars true value ++ (Print.closing closing).toList) := by
    simp [Print.statement, chars]
  rw [printed] at crosses
  obtain ⟨afterTarget, declares, crosses⟩ := crosses.split
  obtain ⟨afterName, atName, declares⟩ := declaration_reads shaped declares
  obtain ⟨value', next, closing', echoes, derived, alike, closes⟩ :=
    expression_reads content standard isStandard noComments crosses
  refine ⟨_, closing', next, .assign (atName.not_closing standard.1) declares free derived, ?_, ?_,
    alike, closes⟩
  · rw [Print.statement, Print.statement, echoes.expression_eq]
  · rw [Statement.essence, Statement.essence, echoes.essence]
    rfl

end Grammar

end TemplateLang
