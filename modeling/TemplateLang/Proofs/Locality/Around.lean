import TemplateLang.Proofs.Blanking.Scanning
import TemplateLang.Syntax.Shift

/-!
# A text in a longer one

A place of a text is also a place of every text in which that one stands, further on by what
comes before it.  What comes after it is not seen from a place that is followed by the end
of a tag: every look ahead goes at most one character beyond the mark that it looks for, and
every run of characters that belong together ends before a brace.
-/

namespace TemplateLang

/-- What comes before and after a text that stands in a longer one. -/
structure Around where
  before : List Char
  after : List Char

namespace Around

/-- How far the places of a text are moved. -/
def distance (around : Around) : Nat :=
  byteLength around.before

/-- What comes after a text is not seen where the text goes on like this: with the end of a
tag in it, or with nothing after it. -/
def Unseen (around : Around) (text : List Char) : Prop :=
  around.after = [] ∨ Delimiters.standard.closing.toList <:+: text

variable {around : Around} {text front mark : List Char} {c : Char} {setting : Setting}

namespace Unseen

theorem append (unseen : around.Unseen text) : around.Unseen (front ++ text) := by
  rcases unseen with nothing | closes
  · exact .inl nothing
  · exact .inr (closes.trans (List.suffix_append front text).isInfix)

/-- Two characters are ahead, or nothing comes after the text. -/
theorem cases (unseen : around.Unseen text) :
    around.after = [] ∨ ∃ c d rest, text = c :: d :: rest := by
  rcases unseen with nothing | closes
  · exact .inl nothing
  · right
    have long := closes.length_le
    match text, long with
    | c :: d :: rest, _ => exact ⟨c, d, rest, rfl⟩

/-- Nothing comes after a text whose end sees nothing. -/
theorem eq_nil (unseen : around.Unseen []) : around.after = [] := by
  rcases unseen.cases with nothing | ⟨c, d, rest, same⟩
  · exact nothing
  · exact absurd same.symm (List.cons_ne_nil _ _)

/-- A character that is no brace does not belong to the end of a tag. -/
theorem tail (unseen : around.Unseen (c :: text)) (notBrace : c ≠ '\x7d') :
    around.Unseen text := by
  rcases unseen with nothing | closes
  · exact .inl nothing
  · right
    rcases List.infix_cons_iff.mp closes with starts | inside
    · rcases starts with ⟨rest, same⟩
      exact absurd (List.cons.inj same).1.symm notBrace
    · exact inside

/-! ## Marks and runs -/

theorem prefix_iff (unseen : around.Unseen text) (short : mark.length ≤ 2) :
    mark <+: text ++ around.after ↔ mark <+: text := by
  rcases unseen.cases with nothing | ⟨c, d, rest, rfl⟩
  · rw [nothing, List.append_nil]
  · constructor
    · intro starts
      apply List.prefix_of_prefix_length_le starts (List.prefix_append _ _)
      simp only [List.length_cons]
      exact Nat.le_trans short (Nat.le_add_left 2 _)
    · exact fun starts => starts.trans (List.prefix_append _ _)

theorem isPrefixOf_eq (unseen : around.Unseen text) (short : mark.length ≤ 2) :
    mark.isPrefixOf (text ++ around.after) = mark.isPrefixOf text := by
  rw [Bool.eq_iff_iff, List.isPrefixOf_iff_prefix, List.isPrefixOf_iff_prefix]
  exact unseen.prefix_iff short

theorem head?_eq (unseen : around.Unseen text) : (text ++ around.after).head? = text.head? := by
  rcases unseen.cases with nothing | ⟨c, d, rest, rfl⟩
  · rw [nothing, List.append_nil]
  · rfl

theorem takeWhile_eq (unseen : around.Unseen text) {p : Char → Bool} (ends : p '\x7d' = false) :
    (text ++ around.after).takeWhile p = text.takeWhile p := by
  rcases unseen with nothing | closes
  · rw [nothing, List.append_nil]
  · have brace : '\x7d' ∈ text := closes.subset List.mem_cons_self
    rw [List.takeWhile_append, if_neg]
    intro whole
    rw [← (List.takeWhile_prefix p).eq_of_length whole] at brace
    have holds := List.all_eq_true.mp List.all_takeWhile _ brace
    rw [ends] at holds
    exact Bool.noConfusion holds

/-- No run of such characters goes beyond the end of a tag. -/
theorem dropWhile (unseen : around.Unseen text) {p : Char → Bool} (ends : p '\x7d' = false) :
    around.Unseen (text.dropWhile p) := by
  induction text with
  | nil => exact unseen
  | cons c rest ih =>
    rw [List.dropWhile_cons]
    split
    · rename_i holds
      apply ih
      apply unseen.tail
      rintro rfl
      rw [ends] at holds
      exact Bool.noConfusion holds
    · exact unseen

/-! ## The ends of tags -/

theorem startsWithMark_eq (unseen : around.Unseen text) (short : mark.length ≤ 2) :
    Cursor.startsWithMark (text ++ around.after) mark = Cursor.startsWithMark text mark := by
  rw [Cursor.startsWithMark, Cursor.startsWithMark, unseen.isPrefixOf_eq short]

theorem startsWithTrimmed_eq (unseen : around.Unseen text) (short : mark.length ≤ 2) :
    Cursor.startsWithTrimmed (text ++ around.after) mark =
      Cursor.startsWithTrimmed text mark := by
  rcases unseen.cases with nothing | ⟨c, d, rest, rfl⟩
  · rw [nothing, List.append_nil]
  · by_cases minus : c = '-'
    · subst minus
      exact (unseen.tail (by decide)).startsWithMark_eq short
    · unfold Cursor.startsWithTrimmed
      split <;> split <;> simp_all

theorem atClosing_eq (unseen : around.Unseen text)
    (standard : setting.tags = Delimiters.standard) :
    setting.atClosing (text ++ around.after) = setting.atClosing text := by
  unfold Setting.atClosing
  rw [standard]
  dsimp only
  rw [unseen.startsWithMark_eq (by decide), unseen.startsWithTrimmed_eq (by decide)]

/-! ## Numbers -/

theorem startsDecimal_eq (unseen : around.Unseen text) :
    Literal.startsDecimal (text ++ around.after) = Literal.startsDecimal text := by
  rcases unseen.cases with nothing | ⟨c, d, rest, rfl⟩
  · rw [nothing, List.append_nil]
  · rw [List.cons_append, List.cons_append]
    unfold Literal.startsDecimal
    split <;> grind

theorem announced_eq (unseen : around.Unseen text) :
    Literal.announced (text ++ around.after) = Literal.announced text := by
  rcases unseen.cases with nothing | ⟨c, d, rest, rfl⟩
  · rw [nothing, List.append_nil]
  · rw [List.cons_append, List.cons_append]
    unfold Literal.announced
    split <;> simp_all

end Unseen

end Around

/-! ## Operators, arguments and pipes -/

namespace Grammar

variable {around : Around} {setting : Setting} {text : List Char}

theorem updateOp?_around (standard : setting.tags = Delimiters.standard)
    (unseen : around.Unseen text) :
    updateOp? setting (text ++ around.after) = updateOp? setting text := by
  rcases unseen.cases with nothing | ⟨c, d, rest, rfl⟩
  · rw [nothing, List.append_nil]
  · rw [List.cons_append, List.cons_append]
    by_cases minus : c = '-'
    · subst minus
      have closing := (unseen.tail (by decide)).atClosing_eq standard
      rw [List.cons_append] at closing
      unfold updateOp?
      split <;> simp_all
    · unfold updateOp?
      split <;> simp_all

theorem unaryOp?_around (standard : setting.tags = Delimiters.standard)
    (unseen : around.Unseen text) :
    unaryOp? setting (text ++ around.after) = unaryOp? setting text := by
  have closing := unseen.atClosing_eq standard
  rcases unseen.cases with nothing | ⟨c, d, rest, rfl⟩
  · rw [nothing, List.append_nil]
  · have second : (d :: rest ++ around.after).head? = (d :: rest).head? := rfl
    rw [List.cons_append] at closing ⊢
    generalize d :: rest ++ around.after = others' at closing second ⊢
    generalize d :: rest = others at closing second ⊢
    unfold unaryOp?
    split <;> simp_all

theorem infixOp?_around (standard : setting.tags = Delimiters.standard) (tier : List InfixOp)
    (unseen : around.Unseen text) :
    infixOp? setting tier (text ++ around.after) = infixOp? setting tier text := by
  have symbols (op : InfixOp) : op.symbol.toList.isPrefixOf (text ++ around.after) =
      op.symbol.toList.isPrefixOf text := by
    rcases op with op | op <;> cases op <;> exact unseen.isPrefixOf_eq (by decide)
  unfold infixOp?
  rw [unseen.atClosing_eq standard, unseen.isPrefixOf_eq (by decide)]
  simp only [symbols]

theorem atArgument_around (standard : setting.tags = Delimiters.standard)
    (unseen : around.Unseen text) :
    atArgument setting (text ++ around.after) = atArgument setting text := by
  have closing := unseen.atClosing_eq standard
  rcases unseen.cases with nothing | ⟨c, d, rest, rfl⟩
  · rw [nothing, List.append_nil]
  · unfold atArgument
    rw [closing]
    rfl

theorem atPipe_around (standard : setting.tags = Delimiters.standard)
    (unseen : around.Unseen text) :
    atPipe setting (text ++ around.after) = atPipe setting text := by
  have closing := unseen.atClosing_eq standard
  rcases unseen.cases with nothing | ⟨c, d, rest, rfl⟩
  · rw [nothing, List.append_nil]
  · have second : (d :: rest ++ around.after).head? = (d :: rest).head? := rfl
    rw [List.cons_append] at closing ⊢
    generalize d :: rest ++ around.after = others' at closing second ⊢
    generalize d :: rest = others at closing second ⊢
    unfold atPipe
    split <;> simp_all

end Grammar

namespace Around

/-- No look ahead tells a text from the same text with what comes after it. -/
structure Overlooks (around : Around) (text : List Char) : Prop where
  head?_eq : (text ++ around.after).head? = text.head?
  comment_eq : Literal.commentOpening.isPrefixOf (text ++ around.after) =
    Literal.commentOpening.isPrefixOf text
  word_eq : (text ++ around.after).takeWhile isWordChar = text.takeWhile isWordChar
  digits_eq : (text ++ around.after).takeWhile Char.isDigit = text.takeWhile Char.isDigit
  announced_eq : Literal.announced (text ++ around.after) = Literal.announced text
  startsDecimal_eq : Literal.startsDecimal (text ++ around.after) = Literal.startsDecimal text
  updateOp?_eq : ∀ {setting : Setting}, setting.tags = Delimiters.standard →
    Grammar.updateOp? setting (text ++ around.after) = Grammar.updateOp? setting text
  unaryOp?_eq : ∀ {setting : Setting}, setting.tags = Delimiters.standard →
    Grammar.unaryOp? setting (text ++ around.after) = Grammar.unaryOp? setting text
  infixOp?_eq : ∀ {setting : Setting}, setting.tags = Delimiters.standard → ∀ tier,
    Grammar.infixOp? setting tier (text ++ around.after) = Grammar.infixOp? setting tier text
  atArgument_eq : ∀ {setting : Setting}, setting.tags = Delimiters.standard →
    Grammar.atArgument setting (text ++ around.after) = Grammar.atArgument setting text
  atPipe_eq : ∀ {setting : Setting}, setting.tags = Delimiters.standard →
    Grammar.atPipe setting (text ++ around.after) = Grammar.atPipe setting text

theorem Unseen.overlooks {around : Around} {text : List Char} (unseen : around.Unseen text) :
    around.Overlooks text where
  head?_eq := unseen.head?_eq
  comment_eq := unseen.isPrefixOf_eq (by decide)
  word_eq := unseen.takeWhile_eq (by decide)
  digits_eq := unseen.takeWhile_eq (by decide)
  announced_eq := unseen.announced_eq
  startsDecimal_eq := unseen.startsDecimal_eq
  updateOp?_eq := fun standard => Grammar.updateOp?_around standard unseen
  unaryOp?_eq := fun standard => Grammar.unaryOp?_around standard unseen
  infixOp?_eq := fun standard tier => Grammar.infixOp?_around standard tier unseen
  atArgument_eq := fun standard => Grammar.atArgument_around standard unseen
  atPipe_eq := fun standard => Grammar.atPipe_around standard unseen

end Around

/-! ## Places -/

namespace Cursor

/-- A place of a text, in the longer text. -/
def inside (around : Around) (cursor : Cursor) : Cursor where
  offset := cursor.offset + around.distance
  rest := cursor.rest ++ around.after
  limit := cursor.limit + around.distance + byteLength around.after
  limit_eq := by
    rw [← cursor.limit_eq, byteLength_append]
    omega

variable {around : Around} {cursor start stop next : Cursor} {text mark : List Char} {count : Nat}

@[simp]
theorem offset_inside : (cursor.inside around).offset = cursor.offset + around.distance :=
  rfl

@[simp]
theorem rest_inside : (cursor.inside around).rest = cursor.rest ++ around.after :=
  rfl

theorem spanTo_inside :
    (start.inside around).spanTo (stop.inside around) =
      (start.spanTo stop).shift around.distance :=
  Span.between_shift _ _ _

theorem skip_inside (within : count ≤ cursor.rest.length) :
    (cursor.inside around).skip count = (cursor.skip count).inside around := by
  apply ext
  · rw [offset_skip, offset_inside, offset_inside, offset_skip, rest_inside,
      List.take_append_of_le_length within]
    omega
  · rw [rest_skip, rest_inside, rest_inside, rest_skip, List.drop_append_of_le_length within]
  · rfl

theorem skip_one_inside (notDone : cursor.rest ≠ []) :
    (cursor.inside around).skip 1 = (cursor.skip 1).inside around :=
  skip_inside (List.length_pos_iff.mpr notDone)

/-- A text that is crossed is crossed in the longer text. -/
theorem Crosses.inside (crosses : start.Crosses text stop) :
    (start.inside around).Crosses text (stop.inside around) := by
  rcases crosses with ⟨restEq, rfl⟩
  have within : text.length ≤ start.rest.length := by
    rw [restEq, List.length_append]
    exact Nat.le_add_right _ _
  constructor
  · rw [rest_inside, rest_inside, ← List.append_assoc, ← restEq]
  · rw [skip_inside within]

/-- The start of a text lies in the longer text behind what comes before. -/
theorem crosses_before (around : Around) (text : List Char) :
    (ofSource (around.before ++ (text ++ around.after))).Crosses around.before
      ((ofSource text).inside around) := by
  refine ⟨rfl, ext ?_ ?_ ?_⟩
  · change 0 + byteLength around.before =
      0 + byteLength ((around.before ++ (text ++ around.after)).take around.before.length)
    rw [List.take_left]
  · change text ++ around.after = (around.before ++ (text ++ around.after)).drop _
    rw [List.drop_left]
  · change byteLength text + byteLength around.before + byteLength around.after =
      byteLength (around.before ++ (text ++ around.after))
    rw [byteLength_append, byteLength_append]
    omega

theorem Reaches.unseen (reaches : start.Reaches stop) (unseen : around.Unseen stop.rest) :
    around.Unseen start.rest := by
  rcases reaches.exists_passed with ⟨passed, restEq, -⟩
  rw [restEq]
  exact unseen.append

/-! ## Looking ahead at a place -/

/-- Blanks that end within the text are skipped in the longer text. -/
theorem skipBlanks_inside (notDone : cursor.skipBlanks.rest ≠ []) :
    (cursor.inside around).skipBlanks = cursor.skipBlanks.inside around := by
  have same : (cursor.rest ++ around.after).takeWhile Unicode.isBlank =
      cursor.rest.takeWhile Unicode.isBlank := by
    rw [List.takeWhile_append, if_neg]
    intro whole
    apply notDone
    rw [skipBlanks, skipWhile, rest_skip, whole, List.drop_length]
  rw [skipBlanks, skipWhile, rest_inside, same]
  exact skip_inside (List.takeWhile_prefix _).length_le

section

variable (unseen : around.Unseen cursor.rest)

include unseen

theorem isAt_unseen (short : mark.length ≤ 2) :
    (cursor.inside around).isAt mark = cursor.isAt mark :=
  unseen.isPrefixOf_eq short

theorem skipWhile_unseen {p : Char → Bool} (ends : p '\x7d' = false) :
    (cursor.inside around).skipWhile p = (cursor.skipWhile p).inside around := by
  rw [skipWhile, rest_inside, unseen.takeWhile_eq ends]
  exact skip_inside (List.takeWhile_prefix p).length_le

theorem skipBlanks_unseen :
    (cursor.inside around).skipBlanks = cursor.skipBlanks.inside around :=
  skipWhile_unseen unseen (by decide)

theorem unseen_skipBlanks : around.Unseen cursor.skipBlanks.rest := by
  rw [skipBlanks, rest_skipWhile]
  exact unseen.dropWhile (by decide)

theorem unseen_skipWord : around.Unseen cursor.skipWord.rest := by
  unfold skipWord Cursor.word
  split
  · split
    · change around.Unseen (cursor.skipWhile isWordChar).rest
      rw [rest_skipWhile]
      exact unseen.dropWhile (by decide)
    · exact unseen
  · exact unseen

end

section

variable (overlooks : around.Overlooks cursor.rest)

include overlooks

theorem isAt_inside {c : Char} : (cursor.inside around).isAt [c] = cursor.isAt [c] := by
  rw [Bool.eq_iff_iff, isAt_singleton_iff, isAt_singleton_iff, ← List.head?_eq_some_iff,
    ← List.head?_eq_some_iff, rest_inside, overlooks.head?_eq]

theorem word_inside : (cursor.inside around).word = cursor.word := by
  have shape (cursor : Cursor) : cursor.word =
      if cursor.rest.head?.any isWordStart then cursor.rest.takeWhile isWordChar else [] := by
    unfold Cursor.word
    split <;> simp [*]
  rw [shape, shape, rest_inside, overlooks.head?_eq, overlooks.word_eq]

theorem peekWord?_inside : (cursor.inside around).peekWord? = cursor.peekWord? := by
  rw [peekWord?, peekWord?, word_inside overlooks]

theorem skipWord_inside : (cursor.inside around).skipWord = cursor.skipWord.inside around := by
  rw [skipWord, word_inside overlooks]
  apply skip_inside
  unfold Cursor.word
  split
  · split
    · exact (List.takeWhile_prefix _).length_le
    · exact Nat.zero_le _
  · exact Nat.zero_le _

theorem quote?_inside : Literal.quote? (cursor.inside around) = Literal.quote? cursor := by
  ext quote
  rw [Literal.quote?_eq_some, Literal.quote?_eq_some, ← List.head?_eq_some_iff,
    ← List.head?_eq_some_iff, rest_inside, overlooks.head?_eq]

theorem decimalDigits_inside :
    Literal.decimalDigits (cursor.inside around) = Literal.decimalDigits cursor :=
  overlooks.digits_eq

theorem skip_digits_inside :
    (cursor.inside around).skip (Literal.decimalDigits (cursor.inside around)).length =
      (cursor.skip (Literal.decimalDigits cursor).length).inside around := by
  rw [decimalDigits_inside overlooks]
  exact skip_inside (List.takeWhile_prefix _).length_le

/-- Where neither a blank nor a comment begins, none does in the longer text. -/
theorem Settled.inside (settled : cursor.Settled) : (cursor.inside around).Settled := by
  constructor
  · intro c rest starts
    have isFirst : cursor.rest.head? = some c := by
      rw [← overlooks.head?_eq]
      exact congrArg List.head? starts
    rcases List.head?_eq_some_iff.mp isFirst with ⟨rest', restEq⟩
    exact settled.1 c rest' restEq
  · intro opens
    rw [← List.isPrefixOf_iff_prefix, rest_inside, overlooks.comment_eq,
      List.isPrefixOf_iff_prefix] at opens
    exact settled.2 opens

end

end Cursor

end TemplateLang
