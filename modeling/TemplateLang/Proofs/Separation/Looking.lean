import TemplateLang.Proofs.Locality.Expression

/-!
# Looking ahead at a separator

A text that ends is read as it would be before a separator: a blank, a comma, a parenthesis
or a bar.  No word, no number and no mark goes on with one of these, so that a look ahead
sees the same whether the text ends or is followed by a separator.  The one exception is a bar
after a bar, which makes an operator of the two.
-/

namespace TemplateLang

/-- Characters that may stand right after an expression without becoming part of it. -/
def isSeparator (c : Char) : Bool :=
  Unicode.isBlank c || [',', '(', ')', '|'].contains c

/-- A text that begins with a separator, if with anything. -/
def Separates (after : List Char) : Prop :=
  ∀ c rest, after = c :: rest → isSeparator c = true

/-- A mark in which no separator occurs. -/
def IsSolid (mark : List Char) : Prop :=
  mark ≠ [] ∧ ∀ c ∈ mark, isSeparator c = false

instance (mark : List Char) : Decidable (IsSolid mark) :=
  decidable_of_decidable_of_iff
    (p := (!mark.isEmpty && mark.all fun c => !isSeparator c) = true) (by simp [IsSolid])

/-- Characters that begin operands without an operator are no separators, except for the
parenthesis. -/
theorem isSeparator_of_startsPrimary {c : Char} (starts : Grammar.startsPrimary c = true)
    (noParen : c ≠ '(') : isSeparator c = false := by
  rcases Grammar.startsPrimary_small starts with ⟨small, high⟩
  have notSpace : c ≠ ' ' := by
    rintro rfl
    exact absurd starts (by decide)
  unfold isSeparator
  rw [Grammar.isBlank_eq_false small notSpace high, Bool.false_or, Bool.eq_false_iff]
  intro listed
  simp only [List.contains_eq_mem, List.mem_cons, List.not_mem_nil, or_false,
    decide_eq_true_eq] at listed
  rcases listed with rfl | rfl | rfl | rfl
  · exact absurd starts (by decide)
  · exact noParen rfl
  · exact absurd starts (by decide)
  · exact absurd starts (by decide)

/-- Characters that continue a word are no separators. -/
theorem isSeparator_of_isWordChar {c : Char} (isWord : isWordChar c = true) :
    isSeparator c = false := by
  apply isSeparator_of_startsPrimary
  · rcases isWordChar_iff.mp isWord with starts | digit
    · simp [Grammar.startsPrimary, starts]
    · simp [Grammar.startsPrimary, digit]
  · rintro rfl
    exact absurd isWord (by decide)

namespace Separates

variable {after text mark : List Char} {c : Char} {setting : Setting}

/-! ## Marks and runs -/

/-- A mark without separators is found in the text or not at all. -/
theorem prefix_iff (separates : Separates after) (solid : IsSolid mark) :
    mark <+: text ++ after ↔ mark <+: text := by
  induction text generalizing mark with
  | nil =>
    rcases solid with ⟨someMark, free⟩
    rw [List.nil_append, List.prefix_nil]
    constructor
    · rintro ⟨rest, same⟩
      cases mark with
      | nil => rfl
      | cons c mark =>
        have isSep := separates c (mark ++ rest) same.symm
        rw [free c List.mem_cons_self] at isSep
        exact Bool.noConfusion isSep
    · exact fun none => absurd none someMark
  | cons d text ih =>
    cases mark with
    | nil => simp
    | cons c mark =>
      rw [List.cons_append, List.cons_prefix_cons, List.cons_prefix_cons]
      by_cases more : mark = []
      · simp [more]
      · rw [ih ⟨more, fun c isIn => solid.2 c (List.mem_cons_of_mem _ isIn)⟩]

theorem isPrefixOf_eq (separates : Separates after) (solid : IsSolid mark) :
    mark.isPrefixOf (text ++ after) = mark.isPrefixOf text := by
  rw [Bool.eq_iff_iff, List.isPrefixOf_iff_prefix, List.isPrefixOf_iff_prefix]
  exact separates.prefix_iff solid

/-- Whether a text begins with a character that is no separator. -/
theorem head?_iff (separates : Separates after) (solid : isSeparator c = false) :
    (text ++ after).head? = some c ↔ text.head? = some c := by
  cases text with
  | cons d text => rfl
  | nil =>
    cases after with
    | nil => rfl
    | cons d rest =>
      simp only [List.nil_append, List.head?_cons, List.head?_nil, reduceCtorEq, iff_false]
      intro same
      rcases Option.some.inj same with rfl
      rw [separates d rest rfl] at solid
      exact Bool.noConfusion solid

/-- Whether a character with some property begins a text. -/
theorem any_head?_eq (separates : Separates after) {p : Char → Bool}
    (solid : ∀ c, isSeparator c = true → p c = false) :
    (text ++ after).head?.any p = text.head?.any p := by
  cases text with
  | cons c text => rfl
  | nil =>
    cases after with
    | nil => rfl
    | cons c rest => simp [solid c (separates c rest rfl)]

/-- Runs of characters end before a separator. -/
theorem takeWhile_eq (separates : Separates after) {p : Char → Bool}
    (solid : ∀ c, isSeparator c = true → p c = false) :
    (text ++ after).takeWhile p = text.takeWhile p := by
  induction text with
  | nil =>
    cases after with
    | nil => rfl
    | cons c rest => simp [solid c (separates c rest rfl)]
  | cons c text ih => rw [List.cons_append, List.takeWhile_cons, List.takeWhile_cons, ih]

/-- No separator continues a word. -/
theorem not_wordChar {c : Char} (isSep : isSeparator c = true) : isWordChar c = false := by
  rw [Bool.eq_false_iff]
  intro isWord
  rw [isSeparator_of_isWordChar isWord] at isSep
  exact Bool.noConfusion isSep

theorem not_wordStart {c : Char} (isSep : isSeparator c = true) : isWordStart c = false := by
  rw [Bool.eq_false_iff]
  intro starts
  have isWord := not_wordChar isSep
  rw [isWordChar_iff.mpr (.inl starts)] at isWord
  exact Bool.noConfusion isWord

theorem not_digit {c : Char} (isSep : isSeparator c = true) : c.isDigit = false := by
  rw [Bool.eq_false_iff]
  intro digit
  have isWord := not_wordChar isSep
  rw [isWordChar_iff.mpr (.inr digit)] at isWord
  exact Bool.noConfusion isWord

/-! ## The ends of tags -/

theorem startsWithMark_eq (separates : Separates after) (solid : IsSolid mark) :
    Cursor.startsWithMark (text ++ after) mark = Cursor.startsWithMark text mark := by
  rw [Cursor.startsWithMark, Cursor.startsWithMark, separates.isPrefixOf_eq solid]

theorem startsWithTrimmed_eq (separates : Separates after) (solid : IsSolid mark) :
    Cursor.startsWithTrimmed (text ++ after) mark = Cursor.startsWithTrimmed text mark := by
  have trimmed : IsSolid ('-' :: mark) :=
    ⟨by simp, fun c isIn => by
      rcases List.mem_cons.mp isIn with rfl | isIn
      · decide
      · exact solid.2 c isIn⟩
  have begins (text : List Char) :
      Cursor.startsWithTrimmed text mark = ('-' :: mark).isPrefixOf text := by
    rw [Bool.eq_iff_iff, Cursor.startsWithTrimmed_iff, List.isPrefixOf_iff_prefix]
    constructor
    · rintro ⟨rest, rfl, -, starts⟩
      exact List.cons_prefix_cons.mpr ⟨rfl, starts⟩
    · rintro ⟨rest, rfl⟩
      exact ⟨mark ++ rest, rfl, solid.1, List.prefix_append _ _⟩
  rw [begins, begins, separates.isPrefixOf_eq trimmed]

theorem atClosing_eq (separates : Separates after)
    (standard : setting.tags = Delimiters.standard) :
    setting.atClosing (text ++ after) = setting.atClosing text := by
  have solid : IsSolid setting.tags.closing.toList := by
    rw [standard]
    decide
  unfold Setting.atClosing
  dsimp only
  rw [separates.startsWithMark_eq solid, separates.startsWithTrimmed_eq solid]

/-! ## Numbers -/

theorem startsDecimal_eq (separates : Separates after) :
    Literal.startsDecimal (text ++ after) = Literal.startsDecimal text := by
  have digit (text : List Char) : (text ++ after).head?.any Char.isDigit =
      text.head?.any Char.isDigit :=
    separates.any_head?_eq fun c => not_digit
  cases text with
  | nil =>
    cases after with
    | nil => rfl
    | cons c rest =>
      have notPoint : c ≠ '.' := by
        rintro rfl
        exact absurd (separates '.' rest rfl) (by decide)
      simpa [Literal.startsDecimal, notPoint] using not_digit (separates c rest rfl)
  | cons c text =>
    by_cases point : c = '.'
    · subst point
      have shape (text : List Char) :
          Literal.startsDecimal ('.' :: text) = text.head?.any Char.isDigit := by
        cases text <;> rfl
      rw [List.cons_append, shape, shape, separates.any_head?_eq fun c => not_digit]
    · simp [Literal.startsDecimal, point]

theorem announced_eq (separates : Separates after) :
    Literal.announced (text ++ after) = Literal.announced text := by
  have notRadix {c : Char} {rest : List Char} (same : after = c :: rest) :
      Literal.radix? c = none :=
    radix?_eq_none (not_wordStart (separates c rest same))
  cases text with
  | nil =>
    cases after with
    | nil => rfl
    | cons c rest =>
      have notZero : c ≠ '0' := by
        rintro rfl
        exact absurd (separates '0' rest rfl) (by decide)
      simp [Literal.announced, notZero]
  | cons c text =>
    by_cases zero : c = '0'
    · subst zero
      cases text with
      | cons d text => rfl
      | nil =>
        cases after with
        | nil => rfl
        | cons d rest => exact notRadix rfl
    · simp [Literal.announced, zero]

end Separates

/-! ## Operators, arguments and pipes

A bar is an operator with another one after it.  So a text of one bar alone is told from one
that goes on with a second. -/

/-- A text is no bar before another one. -/
def Unbarred (text after : List Char) : Prop :=
  text = ['|'] → ∀ rest, after ≠ '|' :: rest

namespace Grammar

variable {after text : List Char} {setting : Setting} (separates : Separates after)
  (standard : setting.tags = Delimiters.standard) (someText : text ≠ [])

include separates standard someText

theorem updateOp?_separated : updateOp? setting (text ++ after) = updateOp? setting text := by
  match text, someText with
  | [c], _ =>
    cases after with
    | nil => rfl
    | cons d rest =>
      have isSep := separates d rest rfl
      have notPlus : d ≠ '+' := by
        rintro rfl
        exact absurd isSep (by decide)
      have notMinus : d ≠ '-' := by
        rintro rfl
        exact absurd isSep (by decide)
      simp [updateOp?, notPlus, notMinus]
  | c :: d :: text, _ =>
    have closing : setting.atClosing (d :: text ++ after) = setting.atClosing (d :: text) :=
      separates.atClosing_eq standard
    rw [List.cons_append] at closing ⊢
    rw [List.cons_append]
    generalize text ++ after = text' at closing ⊢
    unfold updateOp?
    split <;> simp_all

theorem unaryOp?_separated : unaryOp? setting (text ++ after) = unaryOp? setting text := by
  match text, someText with
  | c :: text, _ =>
    have plus : (text ++ after).head? = some '+' ↔ text.head? = some '+' :=
      separates.head?_iff (by decide)
    have minus : (text ++ after).head? = some '-' ↔ text.head? = some '-' :=
      separates.head?_iff (by decide)
    have equal : (text ++ after).head? = some '=' ↔ text.head? = some '=' :=
      separates.head?_iff (by decide)
    have closing : setting.atClosing (c :: text ++ after) = setting.atClosing (c :: text) :=
      separates.atClosing_eq standard
    rw [List.cons_append] at closing ⊢
    generalize text ++ after = text' at plus minus equal closing ⊢
    unfold unaryOp?
    split <;> simp_all

theorem atArgument_separated :
    atArgument setting (text ++ after) = atArgument setting text := by
  unfold atArgument
  rw [separates.atClosing_eq standard]
  match text, someText with
  | c :: text, _ =>
    have point (text : List Char) :
        (text.head?.map Char.isDigit).getD false = text.head?.any Char.isDigit := by
      cases text <;> rfl
    have equal : ((text ++ after).head? != some '=') = (text.head? != some '=') := by
      rw [Bool.eq_iff_iff, bne_iff_ne, bne_iff_ne, Ne, Ne, separates.head?_iff (by decide)]
    simp only [List.cons_append, point, equal,
      separates.any_head?_eq fun c => Separates.not_digit]

variable (unbarred : Unbarred text after)

include unbarred

theorem infixOp?_separated (tier : List InfixOp) :
    infixOp? setting tier (text ++ after) = infixOp? setting tier text := by
  have bars : ['|', '|'].isPrefixOf (text ++ after) = ['|', '|'].isPrefixOf text := by
    match text, someText with
    | [c], _ =>
      cases after with
      | nil => rfl
      | cons d rest =>
        by_cases both : c = '|' ∧ d = '|'
        · rcases both with ⟨rfl, rfl⟩
          exact absurd rfl (unbarred rfl rest)
        · simpa [List.isPrefixOf] using fun first second => both ⟨first.symm, second.symm⟩
    | c :: d :: text, _ => rfl
  have symbols (op : InfixOp) : op.symbol.toList.isPrefixOf (text ++ after) =
      op.symbol.toList.isPrefixOf text := by
    rcases op with op | op
    · cases op <;> exact separates.isPrefixOf_eq (by decide)
    · cases op
      · exact bars
      · exact separates.isPrefixOf_eq (by decide)
  unfold infixOp?
  rw [separates.atClosing_eq standard, separates.isPrefixOf_eq (by decide)]
  simp only [symbols]

theorem atPipe_separated : atPipe setting (text ++ after) = atPipe setting text := by
  match text, someText with
  | c :: text, _ =>
    by_cases bar : c = '|'
    · subst bar
      have closing : setting.atClosing ('|' :: text ++ after) = setting.atClosing ('|' :: text) :=
        separates.atClosing_eq standard
      rw [List.cons_append] at closing ⊢
      have second : ((text ++ after).head? != some '|') = (text.head? != some '|') := by
        cases text with
        | cons d text => rfl
        | nil =>
          cases after with
          | nil => rfl
          | cons d rest =>
            rw [Bool.eq_iff_iff, bne_iff_ne, bne_iff_ne]
            have notBar : d ≠ '|' := by
              rintro rfl
              exact unbarred rfl rest rfl
            simp [notBar]
      simp only [atPipe, closing, second]
    · simp [atPipe, bar]

end Grammar

/-! ## The veil of a separator -/

namespace Separates

open Cursor

variable {around : Around} (separates : Separates around.after)

include separates

/-- Nothing of what a separator begins is seen from a text that does not end here. -/
theorem overlooks {text : List Char} (unbarred : Unbarred text around.after)
    (someText : text ≠ []) : around.Overlooks text where
  head?_eq := by
    cases text with
    | nil => exact absurd rfl someText
    | cons c text => rfl
  comment_eq := separates.isPrefixOf_eq (by decide)
  word_eq := separates.takeWhile_eq fun c => not_wordChar
  digits_eq := separates.takeWhile_eq fun c => not_digit
  announced_eq := separates.announced_eq
  startsDecimal_eq := separates.startsDecimal_eq
  updateOp?_eq := fun standard => Grammar.updateOp?_separated separates standard someText
  unaryOp?_eq := fun standard => Grammar.unaryOp?_separated separates standard someText
  infixOp?_eq := fun standard tier =>
    Grammar.infixOp?_separated separates standard someText unbarred tier
  atArgument_eq := fun standard => Grammar.atArgument_separated separates standard someText
  atPipe_eq := fun standard => Grammar.atPipe_separated separates standard someText unbarred

/-- Numbers end before a separator as at the end of a text. -/
theorem looksAlike :
    Literal.LooksAlike fun cursor cursor' => cursor' = cursor.inside around where
  run := by
    rintro cursor _ rfl p run
    have solid (c : Char) (isSep : isSeparator c = true) : p c = false := by
      rcases run with rfl | rfl
      · exact not_digit isSep
      · exact not_wordChar isSep
    have same : (cursor.rest ++ around.after).takeWhile p = cursor.rest.takeWhile p :=
      separates.takeWhile_eq solid
    rw [skipWhile, rest_inside, same]
    exact ⟨rfl, skip_inside (List.takeWhile_prefix p).length_le⟩
  mark := by
    rintro cursor _ rfl c isMark
    have solid : isSeparator c = false := by
      simp only [Literal.isNumberMark, List.contains_eq_mem, List.mem_cons, List.not_mem_nil,
        or_false, decide_eq_true_eq] at isMark
      rcases isMark with rfl | rfl | rfl | rfl | rfl <;> decide
    refine ⟨separates.head?_iff solid, fun starts => skip_one_inside ?_⟩
    rintro atEnd
    simp [atEnd] at starts
  announced_eq := by
    rintro cursor _ rfl
    exact ⟨separates.announced_eq, Literal.skip_announced_inside⟩
  startsDecimal_eq := by
    rintro cursor _ rfl
    exact separates.startsDecimal_eq

/-- What a separator begins is veiled, but for a bar after a bar. -/
theorem veils : around.Veils (Unbarred · around.after) where
  overlooks := separates.overlooks
  back := by
    rintro start stop ⟨⟨count, rfl⟩, stays⟩ unbarred bar
    apply unbarred
    have notDone := stays bar
    rw [rest_skip, bar] at notDone ⊢
    cases count with
    | zero => rfl
    | succ count => simp at notDone
  number := by
    intro cursor next value found _
    rcases separates.looksAlike.number_eq_found rfl found with ⟨_, found', rfl⟩
    exact found'

end Separates

end TemplateLang
