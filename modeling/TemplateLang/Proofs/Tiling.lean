import TemplateLang.Eval.Template
import TemplateLang.Proofs.Grammar.Forward

/-!
# A template keeps every byte of its source

The elements of a template tile its source, those of a body tile the text between the
two tag ends around it, and raw text and tag ends are spelled in the source as the
template has them.  The main statement says so of every template that is read, for any
delimiters.

The invariant that carries the proof is stated for every goal of a derivation: what is
derived between two places covers exactly the text between them.
-/

namespace TemplateLang

/-- An end of a tag is spelled in a source as the tag has it. -/
structure Tag.Written (tags : Delimiters) (source : List Char) (kind : TagEnd) (tag : Tag) :
    Prop where
  kind_eq : tag.kind = kind
  delimiter_eq : tag.delimiter = match kind with
    | .opening => tags.opening
    | .closing => tags.closing
  spelled : tag.span.Spells source tag.text.toList

/-- Whether an element is raw text. -/
def Element.isRaw : Element → Bool
  | .raw _ _ => true
  | .tag _ _ _ _ => false

section

variable (tags : Delimiters) (source : List Char)

mutual

/-- Raw text is a nonempty part of the source without the opening delimiter, and a tag
lasts from its opening end to its closing end. -/
def Element.Faithful : Element → Prop
  | .raw text span =>
    text ≠ "" ∧ span.Spells source text.toList ∧
      (tags.opening ≠ "" → ¬ tags.opening.toList <:+: text.toList)
  | .tag opening statement closing span =>
    opening.Written tags source .opening ∧ closing.Written tags source .closing ∧
      span.start = opening.span.start ∧ span.stop = closing.span.stop ∧ statement.Faithful

/-- The body of a loop lasts from the end of its head to the tag that ends it. -/
def Statement.Faithful : Statement → Prop
  | .branch branch => branch.Faithful
  | .loop _ _ _ closing body endOpening _ =>
    closing.Written tags source .closing ∧ endOpening.Written tags source .opening ∧
      Tiles body closing.span.stop endOpening.span.start
  | .empty | .expression _ | .assign _ _ _ | .breakLoop _ | .continueLoop _ => True

/-- The body of a condition lasts from the end of its head to the next tag of the
block. -/
def Branch.Faithful : Branch → Prop
  | .mk _ closing body alternate _ =>
    closing.Written tags source .closing ∧
      Tiles body closing.span.stop alternate.bodyEnd.span.start ∧ alternate.Faithful

/-- What comes after the body of a condition is faithful too. -/
def Alternate.Faithful : Alternate → Prop
  | .done endOpening => endOpening.Written tags source .opening
  | .otherwise elseOpening elseClosing body endOpening =>
    elseOpening.Written tags source .opening ∧ elseClosing.Written tags source .closing ∧
      endOpening.Written tags source .opening ∧
      Tiles body elseClosing.span.stop endOpening.span.start
  | .chain elseOpening next => elseOpening.Written tags source .opening ∧ next.Faithful

/-- Faithful elements follow one another from one offset to another, and no two runs of
raw text are neighbours. -/
def Tiles : List Element → Nat → Nat → Prop
  | [], start, stop => start = stop
  | first :: rest, start, stop =>
    first.span.start = start ∧ first.Faithful ∧
      (first.isRaw = true → (rest.head?.map Element.isRaw).getD false = false) ∧
      Tiles rest first.span.stop stop

end

end

namespace Grammar

open Cursor

variable {tags : Delimiters} {source : List Char} {setting : Setting}

/-! ## The ends of tags -/

theorem written_of_openingTag {cursor next : Cursor} {tag : Tag} (inside : cursor.In source)
    (opens : openingTag setting cursor = .ok (tag, next)) :
    tag.Written setting.tags source .opening ∧ tag.span.start = cursor.offset := by
  obtain ⟨starts, comments, -, rfl⟩ := openingTag_eq_ok.mp opens
  obtain ⟨-, after, restEq⟩ := startsWithMark_iff.mp starts
  have lengthEq : setting.tags.opening.length = setting.tags.opening.toList.length :=
    String.length_toList.symm
  have afterMark : (cursor.skip setting.tags.opening.length).rest = after := by
    rw [rest_skip, lengthEq, ← restEq, List.drop_left]
  refine ⟨⟨rfl, rfl, ?_⟩, rfl⟩
  simp only [Tag.text, afterOpening]
  by_cases trims : (cursor.skip setting.tags.opening.length).isAt ['-'] = true
  · obtain ⟨rest, minusEq⟩ := isAt_singleton_iff.mp trims
    have wholeEq : cursor.rest = setting.tags.opening.toList ++ ['-'] ++ rest := by
      rw [← restEq, ← afterMark, minusEq]
      simp
    have spelled := inside.spells_skip wholeEq
    rw [List.length_append, ← lengthEq] at spelled
    simpa [trims] using spelled
  · have spelled := inside.spells_skip restEq.symm
    rw [← lengthEq] at spelled
    simpa [trims] using spelled

theorem written_of_closingTag {cursor next : Cursor} {tag : Tag} (inside : cursor.In source)
    (closes : closingTag setting cursor = .ok (tag, next)) :
    tag.Written setting.tags source .closing ∧ tag.span.stop = next.offset := by
  obtain ⟨comments, start, before, atMark, nextEq, rfl⟩ := closingTag_eq_ok.mp closes
  have startInside := inside.reaches (reaches_of_trivia before)
  have forward : start.Reaches next := nextEq ▸ start.reaches_skip _
  refine ⟨⟨rfl, rfl, ?_⟩, stop_spanTo forward⟩
  simp only [Tag.text]
  subst nextEq
  by_cases trims : startsWithTrimmed start.rest setting.tags.closing.toList = true
  · obtain ⟨rest, minusEq, -, after, restEq⟩ := startsWithTrimmed_iff.mp trims
    have wholeEq : start.rest = ('-' :: setting.tags.closing.toList) ++ after := by
      rw [minusEq, ← restEq]
      rfl
    have spelled := startInside.spells_skip wholeEq
    rw [List.length_cons, String.length_toList] at spelled
    simpa [trims] using spelled
  · have marked : startsWithMark start.rest setting.tags.closing.toList = true := by
      simpa [Setting.atClosing, trims] using atMark
    obtain ⟨-, after, restEq⟩ := startsWithMark_iff.mp marked
    have spelled := startInside.spells_skip restEq.symm
    rw [String.length_toList] at spelled
    simpa [trims] using spelled

theorem EndsBody.written {cursor next : Cursor} {opening : Tag} {word : String}
    (inside : cursor.In source) (ends : EndsBody setting cursor opening word next) :
    opening.Written setting.tags source .opening ∧ opening.span.start = cursor.offset := by
  obtain ⟨-, middle, opens, -, -⟩ := ends
  exact written_of_openingTag inside opens

/-! ## Raw text -/

theorem faithful_raw {cursor : Cursor} (inside : cursor.In source) (notDone : cursor.rest ≠ [])
    (noTag : startsWithMark cursor.rest setting.tags.opening.toList = false) :
    (raw setting cursor).1.Faithful setting.tags source := by
  obtain ⟨after, split, free, -⟩ := rawText_spec setting cursor.rest
  rw [raw_eq]
  simp only [Element.Faithful, String.toList_ofList]
  refine ⟨?_, inside.spells_skip split, free⟩
  intro empty
  apply rawText_ne_nil notDone noTag
  rw [← String.toList_ofList (l := rawText setting cursor.rest), empty]
  rfl

/-! ## Derivations -/

/-- What is derived between two places covers the text between them. -/
def BlockGoal.Covers (tags : Delimiters) (source : List Char) (cursor next : Cursor) :
    BlockGoal → Prop
  | .elements _ pieces =>
    Tiles tags source pieces cursor.offset next.offset ∧
      ((pieces.head?.map Element.isRaw).getD false = true →
        cursor.rest ≠ [] ∧ startsWithMark cursor.rest tags.opening.toList = false)
  | .statement whole => whole.Faithful tags source
  | .branch whole => whole.Faithful tags source
  | .alternate whole =>
    whole.Faithful tags source ∧ whole.bodyEnd.span.start = cursor.offset

theorem DerivesBlock.covers {goal : BlockGoal} {cursor next : Cursor}
    (derived : DerivesBlock setting goal cursor next) (inside : cursor.In source) :
    goal.Covers setting.tags source cursor next := by
  induction derived with
  | elementsEnd => exact ⟨rfl, by simp⟩
  | @raw setting stops elements cursor next goesOn noTag others ih =>
    have notDone : cursor.rest ≠ [] := by
      rintro atEnd
      simp [atEnd] at goesOn
    obtain ⟨tiled, neighbour⟩ := ih (inside.reaches (reaches_raw _ _))
    refine ⟨⟨rfl, faithful_raw inside notDone noTag, ?_, ?_⟩, fun _ => ⟨notDone, noTag⟩⟩
    · intro _
      rw [Bool.eq_false_iff]
      intro isRaw
      obtain ⟨notDone', noTag'⟩ := neighbour isRaw
      rcases raw_stops setting cursor with atEnd | starts
      · exact notDone' atEnd
      · rw [starts] at noTag'
        exact Bool.noConfusion noTag'
    · have stopEq : (Grammar.raw setting cursor).1.span.stop =
          (Grammar.raw setting cursor).2.offset := stop_spanTo (reaches_raw setting cursor)
      rwa [stopEq]
  | @tag setting stops elements opening statement closing cursor afterOpening afterStatement
      afterClosing next _ opens content closes _ ihContent ihOthers =>
    have toStatement := reaches_of_openingTag opens
    have toClosing := toStatement.trans content.reaches
    have toOthers := toClosing.trans (reaches_of_closingTag closes)
    obtain ⟨openingWritten, openingStart⟩ := written_of_openingTag inside opens
    obtain ⟨closingWritten, closingStop⟩ := written_of_closingTag (inside.reaches toClosing) closes
    have stopEq : (cursor.spanTo afterClosing).stop = afterClosing.offset := stop_spanTo toOthers
    obtain ⟨tiled, -⟩ := ihOthers (inside.reaches toOthers)
    refine ⟨⟨rfl, ⟨openingWritten, closingWritten, openingStart.symm, ?_,
      ihContent (inside.reaches toStatement)⟩, by simp [Element.isRaw], ?_⟩,
      by simp [Element.isRaw]⟩
    · rw [stopEq, closingStop]
    · change Tiles _ _ _ (cursor.spanTo afterClosing).stop _
      rwa [stopEq]
  | empty | assign | breakLoop | continueLoop | expression =>
    simp [BlockGoal.Covers, Statement.Faithful]
  | branchStatement _ _ _ _ ih => exact ih inside
  | loop _ _ _ bindsValue bindsIndex wordIn head closes _ content ends ih =>
    obtain ⟨-, rfl, -⟩ := requireIn_eq_ok.mp wordIn
    have names := (((reaches_skipWord _).trans (reaches_skipBlanks _)).trans
      (reaches_of_binding bindsValue)).trans
        ((reaches_skipBlanks _).trans (reaches_of_indexBinding bindsIndex))
    have toClosing := (names.trans (reaches_skip _ 2)).trans head.reaches
    have toBody := toClosing.trans (reaches_of_closingTag closes)
    obtain ⟨closingWritten, closingStop⟩ := written_of_closingTag (inside.reaches toClosing) closes
    obtain ⟨endWritten, endStart⟩ := ends.written (inside.reaches (toBody.trans content.reaches))
    obtain ⟨tiled, -⟩ := ih (inside.reaches toBody)
    refine ⟨closingWritten, endWritten, ?_⟩
    rwa [closingStop, endStart]
  | branch head closes _ content others ihContent ihOthers =>
    have toClosing := (reaches_skipWord _).trans head.reaches
    have toBody := toClosing.trans (reaches_of_closingTag closes)
    obtain ⟨closingWritten, closingStop⟩ := written_of_closingTag (inside.reaches toClosing) closes
    obtain ⟨alternateFaithful, bodyEnd⟩ :=
      ihOthers (inside.reaches (toBody.trans content.reaches))
    obtain ⟨tiled, -⟩ := ihContent (inside.reaches toBody)
    refine ⟨closingWritten, ?_, alternateFaithful⟩
    rwa [closingStop, bodyEnd]
  | done ends => exact ends.written inside
  | chain ends _ _ content ih =>
    obtain ⟨openingWritten, openingStart⟩ := ends.written inside
    exact ⟨⟨openingWritten, ih (inside.reaches (ends.reaches.trans (reaches_skipBlanks _)))⟩,
      openingStart⟩
  | otherwise ends _ _ closes _ content endsAll ih =>
    have toClosing := ends.reaches.trans (reaches_skipBlanks _)
    have toBody := toClosing.trans (reaches_of_closingTag closes)
    obtain ⟨openingWritten, openingStart⟩ := ends.written inside
    obtain ⟨closingWritten, closingStop⟩ := written_of_closingTag (inside.reaches toClosing) closes
    obtain ⟨endWritten, endStart⟩ :=
      endsAll.written (inside.reaches (toBody.trans content.reaches))
    obtain ⟨tiled, -⟩ := ih (inside.reaches toBody)
    refine ⟨⟨openingWritten, closingWritten, endWritten, ?_⟩, openingStart⟩
    rwa [closingStop, endStart]

end Grammar

/-- The elements of a template that is read tile its source. -/
theorem tiles_of_parse {tags : Delimiters} {source : List Char} {template : Template}
    (read : parse tags source = .ok template) :
    Tiles tags source template.elements 0 (byteLength source) := by
  obtain ⟨next, derived⟩ := derivesBlock_of_parse read
  have inside := Cursor.ofSource_in source
  obtain ⟨tiled, -⟩ := derived.covers inside
  have stopEq := (inside.reaches derived.reaches).offset_eq_of_rest_eq_nil derived.atEnd
  rwa [stopEq] at tiled

/-- A condition with two bodies in a template with trim markers and other delimiters. -/
theorem tiles_of_parse_branch :
    ∃ template,
      parse ⟨"<%", "%>"⟩ "é<%- if x %>b<% else -%> {{c}}<% end %>".toList = .ok template ∧
        Tiles ⟨"<%", "%>"⟩ "é<%- if x %>b<% else -%> {{c}}<% end %>".toList template.elements 0
          (byteLength "é<%- if x %>b<% else -%> {{c}}<% end %>".toList) := by
  have accepted :
      (parse ⟨"<%", "%>"⟩ "é<%- if x %>b<% else -%> {{c}}<% end %>".toList).isOk = true := by
    decide
  cases read : parse ⟨"<%", "%>"⟩ "é<%- if x %>b<% else -%> {{c}}<% end %>".toList with
  | error diagnostic =>
    rw [read] at accepted
    cases accepted
  | ok template => exact ⟨template, rfl, tiles_of_parse read⟩

end TemplateLang
