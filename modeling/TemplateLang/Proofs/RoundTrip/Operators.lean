import TemplateLang.Proofs.RoundTrip.Operands

/-!
# Operators between operands are read back

An operator is printed between blanks.  The operand before it ends there, since no tighter
operator begins with it, and the operand after it begins after the second blank.
-/

namespace TemplateLang

namespace Grammar

open Cursor Print

variable {room : Nat} {note : Note} {setting : Setting} {cursor next : Cursor}
  {tier : List InfixOp} {tighter levels : List (List InfixOp)}

/-! ## Tiers -/

/-- Operands are joined where no operator of their tiers follows. -/
theorem Joins.derives {expr : Expr} (joins : Joins setting expr cursor next levels)
    (ends : ∀ tier ∈ levels, infixOp? setting tier next.rest = none) :
    Derives setting (.joined levels expr) cursor next := by
  cases levels with
  | nil => exact joins
  | cons tier tighter => exact joins _ _ (.noInfix (ends tier List.mem_cons_self))

theorem reads_tightest {expr : Expr} (content : Reads room .unary expr) :
    Reads room (.joined []) expr := by
  obtain ⟨before, body, ⟨spelled, read⟩, -⟩ := content
  refine ⟨before, body, spelled, ?_⟩
  intro setting cursor before' after next standard lies _
  obtain ⟨expr', derived, reread⟩ := read standard lies trivial
  exact ⟨expr', .tightest derived, reread⟩

theorem reads_looser {expr : Expr} (content : Reads room (.joined tighter) expr) :
    Reads room (.joined (tier :: tighter)) expr := by
  obtain ⟨before, body, spelled, read⟩ := content
  refine ⟨before, body, spelled, ?_⟩
  intro setting cursor before' after next standard lies ends
  obtain ⟨expr', joins, reread⟩ := read standard lies fun other isIn =>
    ends other (List.mem_of_mem_tail isIn)
  exact ⟨expr', fun _ _ others => .tier (joins.derives ends) others, reread⟩

/-- A printed operator is no blank and no comment. -/
theorem settles_symbol (op : InfixOp) (rest : List Char) :
    Settles (op.symbol.toList ++ ' ' :: rest) := by
  obtain ⟨c, tail, symbolEq, isStart, alone⟩ := symbol_starts op
  intro more
  rw [symbolEq]
  constructor
  · intro d rest' same
    obtain ⟨rfl, -⟩ := List.cons.inj same
    have notBlank : infixStarts.all (fun c => !Unicode.isBlank c) = true := by decide
    simpa using List.all_eq_true.mp notBlank c (by simpa using isStart)
  · rintro ⟨after, same⟩
    obtain ⟨rfl, second⟩ := List.cons.inj same
    rw [alone (.inr rfl)] at second
    exact absurd (List.cons.inj second).1 (by decide)

/-- A text up to a blank, and what follows the blank. -/
theorem stretch_blank {front text : List Char} {after : List Comment} (settles : Settles text)
    (stretch : cursor.Stretch (front ++ ' ' :: text) after next) :
    ∃ middle, cursor.Stretch front [] middle ∧ middle.Stretch text after next := by
  rw [← List.nil_append text, ← leading_nil] at stretch
  obtain ⟨comments', middle, alike, first, -, second⟩ :=
    stretch.cut (fun _ isIn => absurd isIn List.not_mem_nil) settles
  have none : comments' = [] := List.length_eq_zero_iff.mp alike.length_eq
  exact ⟨middle, none ▸ first, second⟩

theorem bare_node (op : InfixOp) (left right : Expr) :
    (op.node left right note).bare = op.node left.bare right.bare .blank := by
  cases op <;> rw [InfixOp.node, Expr.bare] <;> rfl

theorem note_node (op : InfixOp) (left right : Expr) :
    (op.node left right note).note = note := by
  cases op <;> rfl

theorem comments_node (op : InfixOp) (left right : Expr) :
    (op.node left right note).comments = note.around (left.comments ++ right.comments) := by
  cases op <;> rw [InfixOp.node, Expr.comments]

theorem chars_node (op : InfixOp) (left right : Expr) (bare : note.isBare = true) :
    chars false (op.node left right note) =
      chars false left ++ ' ' :: (op.symbol.toList ++ ' ' :: chars false right) := by
  rw [chars_of_bare _ (by rwa [note_node]), core_node]

/-- Operands with an operator between them. -/
theorem reads_join {op : InfixOp} {left right : Expr} (bare : note.isBare = true)
    (inTiers : tier :: tighter <:+ tiers) (isIn : op ∈ tier)
    (first : Reads room (.joined (tier :: tighter)) left)
    (second : Reads room (.joined tighter) right) :
    Reads room (.joined (tier :: tighter)) (op.node left right note) := by
  obtain ⟨before, bodyLeft, spelledLeft, readLeft⟩ := first
  obtain ⟨beforeRight, bodyRight, spelledRight, readRight⟩ := second
  refine ⟨before, bodyLeft ++ ' ' :: (op.symbol.toList ++ ' ' :: chars false right),
    ⟨?_, spelledLeft.closed, spelledLeft.opens.append _⟩, ?_⟩
  · rw [chars_node op left right bare, spelledLeft.text, List.append_assoc]
  intro setting cursor before' after next standard lies ends
  obtain ⟨start, triviaEq, stretch⟩ := lies
  obtain ⟨middle, stretchLeft, stretch⟩ := stretch_blank (settles_symbol op _) stretch
  obtain ⟨afterOp, crossesOp, stretch⟩ := stretch.split
  rw [spelledRight.text] at stretch
  obtain ⟨beforeRight', alike, liesRight⟩ :=
    stretch.lies_blank spelledRight.closed spelledRight.opens.settles
  have middleEq : ∃ rest, middle.rest = op.symbol.toList ++ ' ' :: rest := by
    obtain ⟨stop, crosses, -⟩ := stretch
    exact ⟨_, by rw [crossesOp.1, crosses.1]; rfl⟩
  obtain ⟨rest, middleEq⟩ := middleEq
  obtain ⟨found, noneTighter⟩ := infixOp?_printed standard.1 inTiers isIn rest
  rw [← middleEq] at found noneTighter
  obtain ⟨left', joins, rereadLeft⟩ := readLeft standard ⟨start, triviaEq, stretchLeft⟩ noneTighter
  obtain ⟨right', joinsRight, rereadRight⟩ := readRight standard liesRight fun other isIn =>
    ends other (List.mem_of_mem_tail isIn)
  have derivesRight := joinsRight.derives ends
  rw [crossesOp.2, String.length_toList] at derivesRight
  refine ⟨op.join left' right', fun whole last others =>
    joins _ _ (.infixMore found derivesRight others), ?_⟩
  rw [InfixOp.join_eq]
  refine ⟨?_, ?_, ?_⟩
  · rw [bare_node, bare_node, rereadLeft.bare, rereadRight.bare]
  · rw [chars_node op left' right' rfl, rereadLeft.text, rereadRight.text, spelledRight.text,
      alike.leading_eq]
    simp
  · rw [comments_node, comments_node, Note.around_bare rfl, Note.around_bare bare]
    have lengthsLeft := rereadLeft.comments
    have lengthsRight := rereadRight.comments
    rw [alike.length_eq] at lengthsRight
    simp only [List.length_append, List.length_nil] at lengthsLeft ⊢
    omega

/-! ## Conditionals -/

theorem reads_test {expr : Expr} (content : Reads room (.joined tiers) expr) :
    Reads room .conditional expr := by
  obtain ⟨before, body, spelled, read⟩ := content
  refine ⟨before, body, spelled, ?_⟩
  intro setting cursor before' after next standard lies ends
  obtain ⟨expr', joins, reread⟩ := read standard lies fun tier _ => ends.noInfix tier
  exact ⟨expr', .test (joins.derives fun tier _ => ends.noInfix tier) ends.noQuestion, reread⟩

/-- A sign that separates the parts of a conditional is settled and no operator. -/
theorem settles_sign {c : Char} (isSign : c = '?' ∨ c = ':') (rest : List Char) :
    Settles (c :: rest) := by
  intro more
  rcases isSign with rfl | rfl <;> exact settled_of_char (by decide) (by decide)

theorem infixOp?_sign {c : Char} (isSign : c = '?' ∨ c = ':') {rest : List Char}
    (starts : cursor.rest = c :: rest) (tier : List InfixOp) :
    infixOp? setting tier cursor.rest = none := by
  rw [starts]
  rcases isSign with rfl | rfl <;> exact infixOp?_eq_none tier (no_symbol (by decide))

theorem chars_choice (test consequent alternate : Expr) (bare : note.isBare = true) :
    chars false (.conditional test consequent alternate note) =
      chars false test ++ ' ' :: '?' :: ' ' :: (chars false consequent ++
        ' ' :: ':' :: ' ' :: chars false alternate) :=
  (chars_of_bare (.conditional test consequent alternate note) bare).trans
    (core_conditional test consequent alternate)

/-- A conditional with its two arms. -/
theorem reads_choice {test consequent alternate : Expr} (bare : note.isBare = true)
    (start : Reads room (.joined tiers) test) (first : Reads room .conditional consequent)
    (second : Reads room .conditional alternate) :
    Reads room .conditional (.conditional test consequent alternate note) := by
  obtain ⟨before, body, spelled, read⟩ := start
  obtain ⟨beforeFirst, bodyFirst, spelledFirst, readFirst⟩ := first
  obtain ⟨beforeSecond, bodySecond, spelledSecond, readSecond⟩ := second
  refine ⟨before, body ++ ' ' :: '?' :: ' ' :: (chars false consequent ++
    ' ' :: ':' :: ' ' :: chars false alternate), ⟨?_, spelled.closed, spelled.opens.append _⟩, ?_⟩
  · rw [chars_choice test consequent alternate bare, spelled.text, List.append_assoc]
  intro setting cursor before' after next standard lies ends
  obtain ⟨start, triviaEq, stretch⟩ := lies
  -- The condition up to the question mark.
  obtain ⟨afterTest, stretchTest, stretch⟩ := stretch_blank (settles_sign (.inl rfl) _) stretch
  obtain ⟨afterQuestion, question, stretch⟩ := stretch.head
  obtain ⟨test', joins, reread⟩ := read standard ⟨start, triviaEq, stretchTest⟩ fun tier _ =>
    infixOp?_sign (.inl rfl) question.1 tier
  have derivesTest := joins.derives fun tier _ => infixOp?_sign (.inl rfl) question.1 tier
  -- The first arm up to the colon.
  rw [spelledFirst.text, List.append_assoc] at stretch
  obtain ⟨beforeFirst', alikeFirst, liesFirst⟩ := stretch.lies_blank spelledFirst.closed
    (spelledFirst.opens.append _).settles
  obtain ⟨startFirst, triviaFirst, stretch⟩ := liesFirst
  obtain ⟨afterFirst, stretchFirst, stretch⟩ :=
    stretch_blank (settles_sign (.inr rfl) _) stretch
  obtain ⟨afterColon, colon, stretch⟩ := stretch.head
  have endsFirst : EndsConditional setting afterFirst :=
    (endsCommand_of_char colon.1 (by decide)).toEndsConditional
  obtain ⟨consequent', derivesFirst, rereadFirst⟩ :=
    readFirst standard ⟨startFirst, triviaFirst, stretchFirst⟩ endsFirst
  -- The second arm up to the end.
  rw [spelledSecond.text] at stretch
  obtain ⟨beforeSecond', alikeSecond, liesSecond⟩ := stretch.lies_blank spelledSecond.closed
    spelledSecond.opens.settles
  obtain ⟨alternate', derivesSecond, rereadSecond⟩ := readSecond standard liesSecond ends
  have afterQuestionEq : afterQuestion = afterTest.skip 1 := question.2
  have afterColonEq : afterColon = afterFirst.skip 1 := colon.2
  rw [afterQuestionEq] at derivesFirst
  rw [afterColonEq] at derivesSecond
  refine ⟨_, .choice derivesTest (isAt_singleton_iff.mpr ⟨_, question.1⟩) derivesFirst
    (isAt_singleton_iff.mpr ⟨_, colon.1⟩) derivesSecond, ?_, ?_, ?_⟩
  · rw [Expr.bare, Expr.bare, reread.bare, rereadFirst.bare, rereadSecond.bare]
  · rw [chars_choice test' consequent' alternate' rfl, reread.text, rereadFirst.text,
      rereadSecond.text, spelledFirst.text, spelledSecond.text, alikeFirst.leading_eq,
      alikeSecond.leading_eq]
    simp
  · rw [Expr.comments, Expr.comments, Note.around_bare rfl, Note.around_bare bare]
    have lengths := reread.comments
    have lengthsFirst := rereadFirst.comments
    have lengthsSecond := rereadSecond.comments
    rw [alikeFirst.length_eq] at lengthsFirst
    rw [alikeSecond.length_eq] at lengthsSecond
    simp only [List.length_append, List.length_nil] at lengths lengthsFirst ⊢
    omega

end Grammar

end TemplateLang
