import TemplateLang.Proofs.RoundTrip.Boundary

/-!
# Looking ahead at a comment or a blank

Two texts are twins if they are the same but for a comment in the first, where the second has
a blank.  No mark, word or number begins with a blank or goes on with one, and the grammar
never takes the slash of a comment for an operator.  So every look ahead sees the same in both
texts, whether it reaches up to the comment or not.
-/

namespace TemplateLang

/-- Two texts that are the same, or the same up to a comment in the first and a blank in the
second. -/
inductive Blanked : List Char → List Char → Prop where
  | same (text : List Char) : Blanked text text
  | comment (rest rest' : List Char) : Blanked ('/' :: '*' :: rest) (' ' :: rest')
  | cons (c : Char) {text text' : List Char} (others : Blanked text text') :
      Blanked (c :: text) (c :: text')

namespace Blanked

variable {text text' mark : List Char} {c : Char}

theorem append (front rest rest' : List Char) :
    Blanked (front ++ '/' :: '*' :: rest) (front ++ ' ' :: rest') := by
  induction front with
  | nil => exact .comment rest rest'
  | cons c front ih => exact .cons c ih

/-! ## Marks -/

/-- A mark without slashes and blanks begins both texts or none. -/
theorem prefix_iff (blanked : Blanked text text') (noSlash : '/' ∉ mark) (noBlank : ' ' ∉ mark) :
    mark <+: text' ↔ mark <+: text := by
  induction blanked generalizing mark with
  | same => rfl
  | comment rest rest' =>
    cases mark with
    | nil => simp
    | cons d mark =>
      simp only [List.cons_prefix_cons]
      constructor
      · rintro ⟨rfl, -⟩
        exact absurd List.mem_cons_self noBlank
      · rintro ⟨rfl, -⟩
        exact absurd List.mem_cons_self noSlash
  | cons c _ ih =>
    cases mark with
    | nil => simp
    | cons d mark =>
      simp only [List.mem_cons, not_or] at noSlash noBlank
      simp only [List.cons_prefix_cons, ih noSlash.2 noBlank.2]

theorem isPrefixOf_eq (blanked : Blanked text text') (noSlash : '/' ∉ mark)
    (noBlank : ' ' ∉ mark) : mark.isPrefixOf text' = mark.isPrefixOf text := by
  rw [Bool.eq_iff_iff, List.isPrefixOf_iff_prefix, List.isPrefixOf_iff_prefix]
  exact blanked.prefix_iff noSlash noBlank

/-- As before, for a mark that may begin with a slash where the texts do not differ yet. -/
theorem cons_isPrefixOf_eq (blanked : Blanked text text') (noSlash : '/' ∉ mark)
    (noBlank : ' ' ∉ mark) (c d : Char) :
    (d :: mark).isPrefixOf (c :: text') = (d :: mark).isPrefixOf (c :: text) := by
  rw [List.isPrefixOf, List.isPrefixOf, blanked.isPrefixOf_eq noSlash noBlank]

/-- The first characters are the same, or they are a slash and a blank. -/
theorem head?_cases (blanked : Blanked text text') :
    text'.head? = text.head? ∨ text.head? = some '/' ∧ text'.head? = some ' ' := by
  cases blanked with
  | same => exact .inl rfl
  | comment => exact .inr ⟨rfl, rfl⟩
  | cons => exact .inl rfl

/-- Whether a text begins with a character that is neither a slash nor a blank. -/
theorem head?_iff (blanked : Blanked text text') (noSlash : c ≠ '/') (noBlank : c ≠ ' ') :
    text'.head? = some c ↔ text.head? = some c := by
  rcases blanked.head?_cases with same | ⟨slash, blank⟩
  · rw [same]
  · rw [slash, blank, Option.some.injEq, Option.some.injEq]
    exact ⟨fun same => absurd same.symm noBlank, fun same => absurd same.symm noSlash⟩

/-- Whether a character with some property begins a text. -/
theorem any_head?_eq (blanked : Blanked text text') {p : Char → Bool} (noSlash : p '/' = false)
    (noBlank : p ' ' = false) : text'.head?.any p = text.head?.any p := by
  rcases blanked.head?_cases with same | ⟨slash, blank⟩
  · rw [same]
  · simp [slash, blank, noSlash, noBlank]

/-- Runs of characters end before the comment and the blank alike. -/
theorem takeWhile_eq (blanked : Blanked text text') {p : Char → Bool} (noSlash : p '/' = false)
    (noBlank : p ' ' = false) : text'.takeWhile p = text.takeWhile p := by
  induction blanked with
  | same => rfl
  | comment => simp [noSlash, noBlank]
  | cons c _ ih => rw [List.takeWhile_cons, List.takeWhile_cons, ih]

/-- What is left after a run of characters. -/
theorem dropWhile (blanked : Blanked text text') {p : Char → Bool} (noSlash : p '/' = false)
    (noBlank : p ' ' = false) : Blanked (text.dropWhile p) (text'.dropWhile p) := by
  induction blanked with
  | same => exact .same _
  | comment rest rest' =>
    rw [List.dropWhile_cons_of_neg (by simp [noSlash]),
      List.dropWhile_cons_of_neg (by simp [noBlank])]
    exact .comment rest rest'
  | cons c others ih =>
    rw [List.dropWhile_cons, List.dropWhile_cons]
    split
    · exact ih
    · exact .cons c others

/-- What is left after a character that is no slash. -/
theorem uncons {rest : List Char} (blanked : Blanked (c :: rest) text') (noSlash : c ≠ '/') :
    ∃ rest', text' = c :: rest' ∧ Blanked rest rest' := by
  cases blanked with
  | same => exact ⟨rest, rfl, .same rest⟩
  | comment => exact absurd rfl noSlash
  | cons _ others => exact ⟨_, rfl, others⟩

theorem startsWithMark_eq (blanked : Blanked text text') (noSlash : '/' ∉ mark)
    (noBlank : ' ' ∉ mark) :
    Cursor.startsWithMark text' mark = Cursor.startsWithMark text mark := by
  rw [Cursor.startsWithMark, Cursor.startsWithMark, blanked.isPrefixOf_eq noSlash noBlank]

theorem startsWithTrimmed_eq (blanked : Blanked text text') (noSlash : '/' ∉ mark)
    (noBlank : ' ' ∉ mark) :
    Cursor.startsWithTrimmed text' mark = Cursor.startsWithTrimmed text mark := by
  cases blanked with
  | same => rfl
  | comment => rfl
  | cons c others =>
    by_cases minus : c = '-'
    · subst minus
      exact others.startsWithMark_eq noSlash noBlank
    · unfold Cursor.startsWithTrimmed
      split <;> split <;> simp_all

theorem atClosing_eq (blanked : Blanked text text') {setting : Setting}
    (standard : setting.tags = Delimiters.standard) :
    setting.atClosing text' = setting.atClosing text := by
  unfold Setting.atClosing
  rw [standard]
  dsimp only
  rw [blanked.startsWithMark_eq (by decide) (by decide),
    blanked.startsWithTrimmed_eq (by decide) (by decide)]

/-! ## Literals -/

theorem startsDecimal_eq (blanked : Blanked text text') :
    Literal.startsDecimal text' = Literal.startsDecimal text := by
  cases blanked with
  | same => rfl
  | comment => rfl
  | cons c others =>
    by_cases point : c = '.'
    · subst point
      cases others <;> rfl
    · have alone (rest : List Char) : Literal.startsDecimal (c :: rest) = c.isDigit := by
        cases rest <;> simp [Literal.startsDecimal, point]
      rw [alone, alone]

theorem announced_eq (blanked : Blanked text text') :
    Literal.announced text' = Literal.announced text := by
  cases blanked with
  | same => rfl
  | comment => rfl
  | cons c others =>
    by_cases zero : c = '0'
    · subst zero
      cases others <;> rfl
    · have alone (rest : List Char) : Literal.announced (c :: rest) = none := by
        cases rest <;> simp [Literal.announced, zero]
      rw [alone, alone]

end Blanked

namespace Grammar

open Cursor

variable {setting : Setting} {text text' : List Char}

/-! ## Operators of one operand -/

theorem updateOp?_blanked (standard : setting.tags = Delimiters.standard)
    (blanked : Blanked text text') : updateOp? setting text' = updateOp? setting text := by
  cases blanked with
  | same => rfl
  | comment => rfl
  | cons c others =>
    cases others with
    | same => rfl
    | comment rest rest' =>
      have alone (d : Char) (rest : List Char) (notPlus : d ≠ '+') (notMinus : d ≠ '-') :
          updateOp? setting (c :: d :: rest) = none := by
        unfold updateOp?
        split <;> simp_all
      rw [alone _ _ (by decide) (by decide), alone _ _ (by decide) (by decide)]
    | cons d others =>
      have closing := (Blanked.cons d others).atClosing_eq standard
      unfold updateOp?
      split <;> simp_all

theorem unaryOp?_blanked (standard : setting.tags = Delimiters.standard)
    (blanked : Blanked text text') : unaryOp? setting text' = unaryOp? setting text := by
  have closing := blanked.atClosing_eq standard
  cases blanked with
  | same => rfl
  | comment => rfl
  | cons c others =>
    have plus := others.head?_iff (c := '+') (by decide) (by decide)
    have minus := others.head?_iff (c := '-') (by decide) (by decide)
    have equal := others.head?_iff (c := '=') (by decide) (by decide)
    unfold unaryOp?
    split <;> simp_all

/-! ## Operators between operands -/

theorem infixOp?_blanked (standard : setting.tags = Delimiters.standard) (tier : List InfixOp)
    (blanked : Blanked text text') : infixOp? setting tier text' = infixOp? setting tier text := by
  have closing := blanked.atClosing_eq standard
  cases blanked with
  | same => rfl
  | comment rest rest' =>
    rw [infixOp?_eq_none tier (no_symbol (by decide))]
    simp [infixOp?, Literal.commentOpening]
  | @cons c text text' others =>
    have opening : Literal.commentOpening.isPrefixOf (c :: text') =
        Literal.commentOpening.isPrefixOf (c :: text) :=
      others.cons_isPrefixOf_eq (by decide) (by decide) c '/'
    have symbols (op : InfixOp) : op.symbol.toList.isPrefixOf (c :: text') =
        op.symbol.toList.isPrefixOf (c :: text) := by
      rcases op with op | op <;> cases op <;>
        exact others.cons_isPrefixOf_eq (by decide) (by decide) c _
    unfold infixOp?
    rw [closing, opening]
    simp only [symbols]

/-! ## Arguments and pipes -/

theorem atArgument_blanked (standard : setting.tags = Delimiters.standard)
    (blanked : Blanked text text') : atArgument setting text' = atArgument setting text := by
  have closing := blanked.atClosing_eq standard
  unfold atArgument
  rw [closing]
  cases blanked with
  | same => rfl
  | comment => rfl
  | cons c others =>
    rcases others.head?_cases with same | ⟨slash, blank⟩
    · simp only [same]
    · simp only [slash, blank]
      rfl

theorem atPipe_blanked (standard : setting.tags = Delimiters.standard)
    (blanked : Blanked text text') : atPipe setting text' = atPipe setting text := by
  have closing := blanked.atClosing_eq standard
  cases blanked with
  | same => rfl
  | comment => rfl
  | cons c others =>
    by_cases pipe : c = '|'
    · subst pipe
      unfold atPipe
      rcases others.head?_cases with same | ⟨slash, blank⟩
      · simp only [closing, same]
      · simp only [closing, slash, blank]
        rfl
    · have none (rest : List Char) : atPipe setting (c :: rest) = false := by
        unfold atPipe
        split <;> simp_all
      rw [none, none]

end Grammar

namespace Cursor

variable {cursor cursor' : Cursor}

/-! ## Places -/

theorem isAt_blanked (blanked : Blanked cursor.rest cursor'.rest) {mark : List Char}
    (noSlash : '/' ∉ mark) (noBlank : ' ' ∉ mark) : cursor'.isAt mark = cursor.isAt mark :=
  blanked.isPrefixOf_eq noSlash noBlank

theorem word_blanked (blanked : Blanked cursor.rest cursor'.rest) : cursor'.word = cursor.word := by
  have shape (cursor : Cursor) : cursor.word =
      if cursor.rest.head?.any isWordStart then cursor.rest.takeWhile isWordChar else [] := by
    unfold Cursor.word
    split <;> simp [*]
  rw [shape, shape, blanked.any_head?_eq (by decide) (by decide),
    blanked.takeWhile_eq (by decide) (by decide)]

theorem peekWord?_blanked (blanked : Blanked cursor.rest cursor'.rest) :
    cursor'.peekWord? = cursor.peekWord? := by
  rw [peekWord?, peekWord?, word_blanked blanked]

theorem quote?_blanked (blanked : Blanked cursor.rest cursor'.rest) :
    Literal.quote? cursor' = Literal.quote? cursor := by
  ext quote
  rw [Literal.quote?_eq_some, Literal.quote?_eq_some, ← List.head?_eq_some_iff,
    ← List.head?_eq_some_iff]
  exact blanked.head?_iff (by cases quote <;> decide) (by cases quote <;> decide)

theorem decimalDigits_blanked (blanked : Blanked cursor.rest cursor'.rest) :
    Literal.decimalDigits cursor' = Literal.decimalDigits cursor :=
  blanked.takeWhile_eq (by decide) (by decide)

/-- Where neither a blank nor a comment begins, none does in the twin. -/
theorem Settled.blanked (settled : cursor.Settled) (blanked : Blanked cursor.rest cursor'.rest) :
    cursor'.Settled := by
  unfold Settled at settled ⊢
  generalize cursor.rest = text at settled blanked
  generalize cursor'.rest = text' at blanked
  cases blanked with
  | same => exact settled
  | comment rest => exact absurd (List.prefix_append ['/', '*'] rest) settled.2
  | @cons c text text' others =>
    constructor
    · intro d rest same
      rcases List.cons.inj same with ⟨rfl, -⟩
      exact settled.1 c text rfl
    · intro opens
      apply settled.2
      rw [Literal.commentOpening, List.cons_prefix_cons] at opens ⊢
      exact ⟨opens.1, (others.prefix_iff (by decide) (by decide)).mp opens.2⟩

end Cursor

end TemplateLang
