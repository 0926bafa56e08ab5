import TemplateLang.Proofs.Outline.Tokens
import TemplateLang.Proofs.Places.Tokens

/-!
# Progress of the tokenizer

Every step of the tokenizer passes at least one character, whatever the text and the marks of
tags are: also where it reports an error, and with marks that are empty.  So the length of the
text is enough fuel, and every run ends at the end of the text.

A scanner that breaks off gives no text that it has read.  But it stays in every source that
its start is a place of, and that keeps it from going back.
-/

namespace TemplateLang

namespace Cursor

variable {start stop cursor : Cursor}

/-! ## Staying ahead -/

theorem byteLength_replicate {c : Char} (small : c.utf8Size = 1) (count : Nat) :
    byteLength (List.replicate count c) = count := by
  induction count with
  | zero => rfl
  | succ count ih => rw [List.replicate_succ, byteLength_cons, small, ih, Nat.add_comm]

theorem reaches_of_passed {passed : List Char} (restEq : start.rest = passed ++ stop.rest)
    (offsetEq : stop.offset = start.offset + byteLength passed) : start.Reaches stop := by
  have limits : stop.limit = start.limit := by
    rw [← start.limit_eq, ← stop.limit_eq, offsetEq, restEq, byteLength_append, Nat.add_assoc]
  refine ⟨passed.length, ext ?_ ?_ limits.symm⟩
  · rw [offset_skip, restEq, List.take_left, offsetEq]
  · rw [rest_skip, restEq, List.drop_left]

/-- Let one character stand for all that comes before a place.  A place of such a source lies
after that one, or only the character is between them. -/
theorem In.reaches_or_filled {c : Char} (small : c.utf8Size = 1)
    (inside : stop.In (List.replicate start.offset c ++ start.rest)) :
    start.Reaches stop ∨ ∃ count, stop.rest = List.replicate (count + 1) c ++ start.rest := by
  rcases inside with ⟨before, split, offsetEq⟩
  rcases List.append_eq_append_iff.mp split with ⟨passed, rfl, restEq⟩ | ⟨more, filled, restEq⟩
  · left
    apply reaches_of_passed restEq
    rw [offsetEq, byteLength_append, byteLength_replicate small]
  · cases more with
    | nil =>
      left
      rw [List.append_nil] at filled
      have nothing : start.rest = [] ++ stop.rest := restEq.symm
      apply reaches_of_passed nothing
      rw [offsetEq, ← filled, byteLength_replicate small]
      rfl
    | cons d more =>
      right
      have same : ∀ e ∈ d :: more, e = c := fun e isIn =>
        List.eq_of_mem_replicate (filled ▸ List.mem_append_right before isIn)
      exact ⟨more.length, by rw [restEq, List.eq_replicate_of_mem same, List.length_cons]⟩

/-- A place that every source of another one has lies at or after that one. -/
theorem reaches_of_in (stays : ∀ source, start.In source → stop.In source) :
    start.Reaches stop := by
  have filled {c : Char} (small : c.utf8Size = 1) :=
    (stays _ ⟨_, rfl, (byteLength_replicate small start.offset).symm⟩).reaches_or_filled small
  -- Two sources that differ before the first place cannot both lead further back.
  rcases filled (c := 'a') rfl with reaches | ⟨m, first⟩
  · exact reaches
  · rcases filled (c := 'b') rfl with reaches | ⟨n, second⟩
    · exact reaches
    · rw [first, List.replicate_succ, List.replicate_succ] at second
      exact absurd (List.cons.inj second).1 (by decide)

/-- A scanner breaks off at or after the place where it starts. -/
theorem reaches_of_stays {α : Type} {scan : Scan α} {fault : Fault} {span : Span}
    (stays : ∀ source, cursor.In source → scan.Stays source)
    (broken : scan = .broken fault span stop) : cursor.Reaches stop := by
  apply reaches_of_in
  intro source inside
  have here := stays source inside
  rw [broken] at here
  exact here.2

theorem passes_of_reaches (notDone : start.rest ≠ []) (reaches : start.Reaches stop)
    (moved : stop.offset ≠ start.offset) : start.Passes stop := by
  rcases reaches with ⟨count, rfl⟩
  apply passes_skip notDone
  apply Nat.pos_of_ne_zero
  rintro rfl
  exact moved (by rw [skip_zero])

end Cursor

namespace Tokenizer

open Cursor

variable {tags : Delimiters} {state : TokenState} {cursor next : Cursor} {text : List Char}

/-! ## Text outside of tags -/

/-- One of the marks of tags is at the front of a text. -/
def startsMark (tags : Delimiters) (text : List Char) : Bool :=
  Cursor.startsWithMark text tags.opening.toList || Cursor.startsWithMark text tags.closing.toList

/-- How much of a text comes before a mark that is not empty. -/
def lengthBefore (mark : String) (text : List Char) : Nat :=
  if mark.isEmpty then text.length
  else match cutBefore? mark.toList text with
    | some (front, _) => front.length
    | none => text.length

theorem textLength_eq (tags : Delimiters) (text : List Char) :
    textLength tags text = min (lengthBefore tags.opening text) (lengthBefore tags.closing text) :=
  rfl

/-- The mark does not begin before the place where a text is cut, and there it does. -/
theorem lengthBefore_spec (mark : String) (text : List Char) :
    lengthBefore mark text ≤ text.length ∧
      (∀ count, count < lengthBefore mark text →
        startsWithMark (text.drop count) mark.toList = false) ∧
      (lengthBefore mark text = text.length ∨
        startsWithMark (text.drop (lengthBefore mark text)) mark.toList = true) := by
  have emptyIff : mark.isEmpty = true ↔ mark.toList = [] := by simp
  unfold lengthBefore
  split
  · rename_i empty
    refine ⟨Nat.le_refl _, fun count _ => ?_, .inl rfl⟩
    rw [emptyIff.mp empty]
    rfl
  · rename_i notEmpty
    rw [emptyIff] at notEmpty
    split
    · rename_i front back cut
      rcases cutBefore?_eq_some_iff.mp cut with ⟨rfl, starts, first⟩
      refine ⟨by simp, fun count isBefore => ?_, .inr ?_⟩
      · rw [Bool.eq_false_iff, Ne, startsWithMark_iff]
        rintro ⟨-, earlier⟩
        rw [List.drop_append_of_le_length (Nat.le_of_lt isBefore)] at earlier
        refine first (front.take count) _ (List.take_append_drop count front).symm ?_ earlier
        intro none
        exact Nat.not_le_of_lt isBefore (List.drop_eq_nil_iff.mp none)
      · rw [List.drop_left]
        exact startsWithMark_iff.mpr ⟨notEmpty, starts⟩
    · rename_i cut
      refine ⟨Nat.le_refl _, fun count _ => ?_, .inl rfl⟩
      rw [Bool.eq_false_iff, Ne, startsWithMark_iff]
      rintro ⟨-, starts⟩
      exact not_infix_of_cutBefore?_eq_none cut
        (starts.isInfix.trans (List.drop_suffix count text).isInfix)

/-- A text outside of tags goes up to the first mark or to the end. -/
structure IsTextLength (tags : Delimiters) (text : List Char) (count : Nat) : Prop where
  within : count ≤ text.length
  free : ∀ earlier, earlier < count → startsMark tags (text.drop earlier) = false
  ends : count = text.length ∨ startsMark tags (text.drop count) = true

theorem isTextLength_textLength (tags : Delimiters) (text : List Char) :
    IsTextLength tags text (textLength tags text) := by
  rcases lengthBefore_spec tags.opening text with ⟨within, free, ends⟩
  rcases lengthBefore_spec tags.closing text with ⟨within', free', ends'⟩
  rw [textLength_eq]
  refine ⟨Nat.le_trans (Nat.min_le_left _ _) within, fun earlier isBefore => ?_, ?_⟩
  · rw [startsMark, free earlier (by omega), free' earlier (by omega)]
    rfl
  · rcases Nat.le_total (lengthBefore tags.opening text) (lengthBefore tags.closing text) with
      first | second
    · rw [Nat.min_eq_left first]
      exact ends.imp id fun starts => by rw [startsMark, starts, Bool.true_or]
    · rw [Nat.min_eq_right second]
      exact ends'.imp id fun starts => by rw [startsMark, starts, Bool.or_true]

theorem IsTextLength.unique {count count' : Nat} (first : IsTextLength tags text count)
    (second : IsTextLength tags text count') : count = count' := by
  have notLess {count count' : Nat} (first : IsTextLength tags text count)
      (second : IsTextLength tags text count') : count' ≤ count := by
    rcases Nat.lt_or_ge count count' with less | notLess
    · rcases first.ends with whole | starts
      · have := second.within
        omega
      · rw [second.free count less] at starts
        exact Bool.noConfusion starts
    · exact notLess
  exact Nat.le_antisymm (notLess second first) (notLess first second)

theorem textLength_pos (notDone : text ≠ []) (noMark : startsMark tags text = false) :
    0 < textLength tags text := by
  apply Nat.pos_of_ne_zero
  intro none
  rcases (isTextLength_textLength tags text).ends with whole | starts
  · rw [none] at whole
    exact notDone (List.length_eq_zero_iff.mp whole.symm)
  · rw [none, List.drop_zero, noMark] at starts
    exact Bool.noConfusion starts

/-! ## Steps -/

theorem passes_openTag (starts : startsWithMark cursor.rest tags.opening.toList = true) :
    cursor.Passes (openTag tags state cursor).2 :=
  passes_afterOpening starts

theorem passes_outsideStep (notDone : cursor.rest ≠ []) :
    cursor.Passes (outsideStep tags state cursor).2 := by
  unfold outsideStep
  split
  · rename_i starts
    exact passes_openTag starts
  · rename_i noOpening
    split
    · rename_i starts
      exact passes_mark starts
    · rename_i noClosing
      rw [Bool.not_eq_true] at noOpening noClosing
      apply passes_skip notDone
      apply textLength_pos notDone
      rw [startsMark, noOpening, noClosing]
      rfl

/-- A token that is found is not empty. -/
theorem passes_of_lexeme {found : Lexeme} (read : lexeme cursor = .found found next) :
    cursor.Passes next := by
  cases lexeme_eq_found.mp read with
  | comment scanned => exact Literal.passes_of_comment scanned
  | string _ scanned => exact Literal.passes_of_string scanned
  | number _ _ scanned => exact Literal.passes_of_number scanned
  | word _ _ _ atWord nextEq => exact nextEq ▸ passes_skipWord atWord
  | punctuator _ _ _ _ atPunctuator nextEq => exact nextEq ▸ passes_punctuator atPunctuator

theorem passes_insideStep (notDone : cursor.rest ≠ []) :
    cursor.Passes (insideStep tags state cursor).2 := by
  unfold insideStep
  dsimp only
  split
  · rename_i starts
    exact passes_openTag starts
  split
  · rename_i closes
    have someMark : tags.closing.toList ≠ [] := by
      rw [Bool.or_eq_true, startsWithTrimmed_iff, startsWithMark_iff] at closes
      rcases closes with ⟨-, -, someMark, -⟩ | ⟨someMark, -⟩ <;> exact someMark
    exact passes_skip notDone (Nat.add_pos_left (List.length_pos_iff.mpr someMark) _)
  split
  · exact passes_skip notDone Nat.one_pos
  split
  · rename_i read
    exact passes_of_lexeme read
  · exact passes_skip notDone Nat.one_pos
  · rename_i fault span stop broken
    dsimp only
    split
    · exact passes_skip notDone Nat.one_pos
    · rename_i moved
      exact passes_of_reaches notDone
        (reaches_of_stays (fun source inside => stays_lexeme inside) broken) moved

/-- A step passes at least one character. -/
theorem passes_step (tags : Delimiters) (state : TokenState) (notDone : cursor.rest ≠ []) :
    cursor.Passes (step tags state cursor).2 := by
  unfold step
  split
  · dsimp only
    split
    · rename_i atEnd
      rw [List.isEmpty_iff] at atEnd
      refine passes_of_reaches notDone (reaches_skipBlanks cursor) fun same => ?_
      have shorter := cursor.skipBlanks.limit_eq
      have whole := cursor.limit_eq
      rw [atEnd, same] at shorter
      have limits : cursor.skipBlanks.limit = cursor.limit := rfl
      simp only [byteLength_nil] at shorter
      exact notDone (byteLength_eq_zero_iff.mp (by omega))
    · rename_i notAtEnd
      rw [List.isEmpty_iff] at notAtEnd
      exact (reaches_skipBlanks cursor).trans_passes (passes_insideStep notAtEnd)
  · exact passes_outsideStep notDone

/-- A run with enough fuel goes to the end of the text. -/
theorem run_ends (tags : Delimiters) {fuel : Nat} (state : TokenState)
    (enough : cursor.rest.length ≤ fuel) : (run tags fuel state cursor).2.rest = [] := by
  induction fuel generalizing state cursor with
  | zero => exact List.length_eq_zero_iff.mp (Nat.le_zero.mp enough)
  | succ fuel ih =>
    unfold run
    split
    · rename_i atEnd
      exact List.isEmpty_iff.mp atEnd
    · rename_i notAtEnd
      rw [List.isEmpty_iff] at notAtEnd
      have shorter := (passes_step tags state notAtEnd).length_rest_lt
      exact ih _ (Nat.le_of_lt_succ (Nat.lt_of_lt_of_le shorter enough))

end Tokenizer

end TemplateLang
