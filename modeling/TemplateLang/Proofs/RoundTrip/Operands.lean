import TemplateLang.Proofs.RoundTrip.Suffixes

/-!
# Operands are read back

An operand takes the comments before and after it.  Where the printer leaves them to a
smaller operand, as after an operator before it, that operand takes them when it is read.
-/

namespace TemplateLang

namespace Grammar

open Cursor Print

variable {room : Nat} {note : Note} {setting : Setting} {start stop cursor : Cursor}

theorem opens_primary {text : List Char}
    (opens : ∃ c rest, text = c :: rest ∧ startsPrimary c = true) (more : List Char) :
    Opens (text ++ more) ∧ Unsigned (text ++ more) := by
  obtain ⟨c, rest, rfl, primary⟩ := opens
  refine ⟨.primary primary, ?_, ?_⟩
  · intro isPlus
    exact startsPrimary_ne primary (by decide) (Option.some.inj isPlus)
  · intro isMinus
    exact startsPrimary_ne primary (by decide) (Option.some.inj isMinus)

/-- An expression without an operator before it is an operand with its comments. -/
theorem reads_unary_of_update {expr : Expr} (closed : ClosedNote expr.note)
    (opens : ∃ c rest, core false expr = c :: rest ∧ startsPrimary c = true)
    (update : ∀ {setting start stop}, Standard setting room →
      start.Crosses (core false expr) stop → stop.Ends →
      ∃ expr', expr'.note.isBare = true ∧ expr'.bare = expr.bare ∧
        core false expr' = core false expr ∧
        expr'.comments.length + expr.note.leading.length + expr.note.trailing.length =
          expr.comments.length ∧
        Derives setting (.update expr') start stop) :
    Reads (room + 1) .unary expr := by
  obtain ⟨opensBody, unsigned⟩ := opens_primary opens (trailing expr.note.trailing)
  refine ⟨expr.note.leading, core false expr ++ trailing expr.note.trailing,
    ⟨⟨?_, closed.1, opensBody⟩, ?_⟩, fun _ => unsigned⟩
  · rw [chars_eq, List.append_assoc]
  intro setting cursor before' after next standard lies _
  obtain ⟨start, before, stretch⟩ := lies
  obtain ⟨own, alike, stop, crosses, ends, between, settled⟩ := stretch.absorb closed.2
  have standard' : Standard { setting with room := room } room := ⟨standard.1, rfl⟩
  obtain ⟨expr', bare', bareEq, coreEq, commentsEq, derived⟩ := update standard' crosses ends
  have noOperator : unaryOp? { setting with room := room } start.rest = none := by
    obtain ⟨c, rest, starts, primary⟩ := opens
    rw [crosses.1, starts]
    exact unaryOp?_eq_none (startsPrimary_no_sign primary)
  refine ⟨_, .operand standard.2 before noOperator derived (between.trivia settled), ?_, ?_, ?_⟩
  · rw [Expr.addLeading, Expr.bare_withNote, Expr.addTrailing, Expr.bare_withNote, bareEq]
  · obtain ⟨noLeading, noTrailing⟩ : expr'.note.leading = [] ∧ expr'.note.trailing = [] := by
      simpa [Note.isBare] using bare'
    rw [Expr.addLeading, chars_withNote, Expr.addTrailing, core_withNote, coreEq]
    simp only [Expr.note_withNote, noLeading, noTrailing, List.append_nil, List.nil_append,
      trailing_append, alike.trailing_eq, List.append_assoc]
  · rw [Expr.comments_addLeading, Expr.comments_addTrailing]
    simp only [List.length_append, alike.length_eq]
    omega

/-- An expression with suffixes is an operand. -/
theorem reads_operand {expr : Expr} (closed : ClosedNote note)
    (content : ReadsSuffixed room expr) : Reads (room + 1) .unary (expr.withNote note) := by
  have coreEq : core false expr = chars false expr := (chars_of_bare expr content.bare).symm
  refine reads_unary_of_update ?_ ?_ ?_
  · rwa [Expr.note_withNote]
  · rw [core_withNote, coreEq]
    exact content.opens
  · intro setting start stop standard crosses ends
    rw [core_withNote, coreEq] at crosses
    obtain ⟨noDot, noBracket, noParen, noUpdate, apart⟩ := no_suffix_of_ends ends
    obtain ⟨expr', bare', echoes, suffixable⟩ :=
      content.reads standard crosses apart fun _ => noDot
    have derived := suffixable _ _ (.noSuffix noDot noBracket noParen)
    have noneBefore : updateOp? setting start.rest = none := by
      obtain ⟨c, rest, starts, primary⟩ := content.opens
      rw [crosses.1, starts]
      exact updateOp?_eq_none (startsPrimary_ne primary (by decide))
        (startsPrimary_ne primary (by decide))
    refine ⟨expr', bare', ?_, ?_, ?_, .noUpdate noneBefore derived noUpdate⟩
    · rw [Expr.bare_withNote, echoes.bare]
    · rw [core_withNote, coreEq, ← chars_of_bare expr' bare', echoes.text]
    · rw [Expr.note_withNote, Expr.comments_withNote_length note content.bare, echoes.comments]
      omega

/-- An update after its target is an operand. -/
theorem reads_updateAfter {op : UpdateOp} {target : Expr} (closed : ClosedNote note)
    (content : ReadsSuffixed room target) (assignable : target.isAssignable = true) :
    Reads (room + 1) .unary (.update op .after target note) := by
  have printed (target : Expr) (note : Note) :
      core false (.update op .after target note) = chars false target ++ op.symbol.toList :=
    core_update_after op target
  refine reads_unary_of_update closed ?_ ?_
  · obtain ⟨c, rest, starts, primary⟩ := content.opens
    exact ⟨c, rest ++ op.symbol.toList, by rw [printed, starts, List.cons_append], primary⟩
  · intro setting start stop standard crosses ends
    rw [printed] at crosses
    obtain ⟨middle, first, updated⟩ := crosses.split
    have sign : ∃ c rest, middle.rest = c :: rest ∧ (c = '+' ∨ c = '-') := by
      rw [updated.1]
      cases op
      · exact ⟨'+', _, rfl, .inl rfl⟩
      · exact ⟨'-', _, rfl, .inr rfl⟩
    obtain ⟨c, rest, starts, isSign⟩ := sign
    have apart : middle.Apart := apart_of_char starts (by rcases isSign with rfl | rfl <;> decide)
    have notAt (d : Char) (differ : d ≠ '+' ∧ d ≠ '-') : middle.isAt [d] = false := by
      refine isAt_eq_false starts ?_
      rcases isSign with rfl | rfl
      · exact differ.1.symm
      · exact differ.2.symm
    have noDot := notAt '.' (by decide)
    obtain ⟨target', bare', echoes, suffixable⟩ :=
      content.reads standard first apart fun _ => noDot
    have derived := suffixable _ _
      (.noSuffix noDot (notAt '[' (by decide)) (notAt '(' (by decide)))
    have noneBefore : updateOp? setting start.rest = none := by
      obtain ⟨d, rest', starts', primary⟩ := content.opens
      rw [first.1, starts']
      exact updateOp?_eq_none (startsPrimary_ne primary (by decide))
        (startsPrimary_ne primary (by decide))
    have follows : updateOp? setting middle.rest = some op := by
      rw [updated.1]
      refine updateOp?_printed standard.1 op ?_
      obtain ⟨d, rest', starts', isEnd⟩ := ends
      rw [starts']
      rcases isEnd with rfl | rfl | rfl | rfl <;> simp
    have assignable' : target'.isAssignable = true := by
      rw [← Expr.isAssignable_bare, echoes.bare, Expr.isAssignable_bare, assignable]
    have stopEq : stop = middle.skip 2 := by
      rw [updated.2]
      cases op <;> rfl
    rw [stopEq]
    refine ⟨_, rfl, ?_, ?_, ?_, .updateAfter noneBefore derived follows assignable'⟩
    · rw [Expr.bare, Expr.bare, echoes.bare]
    · rw [printed, printed, echoes.text]
    · simp only [Expr.comments, Expr.note, Note.around, Note.at, List.length_append,
        List.length_nil, echoes.comments]
      omega

/-! ## Operators before an operand -/

/-- An operand after an operator is read with all comments that follow it. -/
theorem reads_after_sign {expr : Expr} {gap : List Char} {after : List Comment} {next : Cursor}
    (content : Reads room .unary expr) (standard : Standard setting room)
    (isGap : gap = [] ∨ gap = [' '])
    (stretch : cursor.Stretch (gap ++ chars false expr) after next) :
    ∃ expr', Derives setting (.unary expr') cursor next ∧ expr'.bare = expr.bare ∧
      chars false expr' = chars false expr ++ trailing after ∧
      expr'.comments.length = expr.comments.length + after.length := by
  obtain ⟨before, body, ⟨spelled, read⟩, -⟩ := content
  have lies : ∃ before', Alike before before' ∧ cursor.Lies before' body after next := by
    rw [spelled.text] at stretch
    rcases isGap with rfl | rfl
    · exact stretch.lies_leading spelled.closed spelled.opens.settles
    · exact stretch.lies_blank spelled.closed spelled.opens.settles
  obtain ⟨before', alike, lies⟩ := lies
  obtain ⟨expr', derived, reread⟩ := read standard lies trivial
  refine ⟨expr', derived, reread.bare, ?_, ?_⟩
  · rw [reread.text, spelled.text, alike.leading_eq]
  · have lengths := reread.comments
    rw [alike.length_eq] at lengths
    omega

theorem Spelled.head?_chars {top : Bool} {expr : Expr} {before : List Comment} {body : List Char}
    (spelled : Spelled top expr before body) (more : List Char) :
    (chars top expr ++ more).head? ≠ some '\x7d' ∧ (chars top expr ++ more).head? ≠ some '=' := by
  obtain ⟨c, rest, starts, -, differs⟩ := spelled.starts
  rw [starts]
  exact ⟨fun isHead => differs _ (by decide) (by decide) (Option.some.inj isHead),
    fun isHead => differs _ (by decide) (by decide) (Option.some.inj isHead)⟩

theorem stretch_settled {text : List Char} {after : List Comment} {next : Cursor}
    (stretch : cursor.Stretch text after next) : next.Settled := by
  obtain ⟨stop, -, -, -, settled⟩ := stretch
  exact settled

/-- An update before its target is an operand, and the comments after it are those of its
target. -/
theorem reads_updateBefore {op : UpdateOp} {target : Expr} (closed : ClosedNote note)
    (noTrailing : note.trailing = []) (content : Reads room .unary target)
    (assignable : target.isAssignable = true) :
    Reads (room + 1) .unary (.update op .before target note) := by
  have printed (target : Expr) (note : Note) :
      core false (.update op .before target note) = op.symbol.toList ++ chars false target :=
    core_update_before op target
  have spelledTarget := content
  obtain ⟨before, body, ⟨spelled, -⟩, -⟩ := spelledTarget
  refine ⟨note.leading, op.symbol.toList ++ chars false target, ⟨⟨?_, closed.1, ?_⟩, ?_⟩, ?_⟩
  · rw [chars_eq, printed]
    simp [Expr.note, noTrailing]
  · cases op
    · exact .sign (by decide) (by decide) (by decide)
    · exact .sign (by decide) (by decide) (by decide)
  · intro setting cursor before' after next standard lies _
    obtain ⟨start, triviaEq, stretch⟩ := lies
    have settled := stretch_settled stretch
    obtain ⟨middle, sign, stretch⟩ := stretch.split
    have standard' : Standard { setting with room := room } room := ⟨standard.1, rfl⟩
    obtain ⟨target', derived, bareEq, textEq, commentsEq⟩ :=
      reads_after_sign content standard' (.inl rfl) stretch
    have middleEq : middle = start.skip 2 := by
      rw [sign.2]
      cases op <;> rfl
    have starts : updateOp? { setting with room := room } start.rest = some op := by
      obtain ⟨stop, crosses, -⟩ := stretch
      rw [sign.1, crosses.1]
      exact updateOp?_printed standard.1 op (spelled.head?_chars _).1
    have noOperator : unaryOp? { setting with room := room } start.rest = none := by
      rw [sign.1]
      exact unaryOp?_update op
    have assignable' : target'.isAssignable = true := by
      rw [← Expr.isAssignable_bare, bareEq, Expr.isAssignable_bare, assignable]
    rw [middleEq] at derived
    refine ⟨_, .operand standard.2 triviaEq noOperator (.updateBefore starts derived assignable')
      settled.trivia, ?_, ?_, ?_⟩
    · rw [Expr.addLeading, Expr.bare_withNote, Expr.addTrailing, Expr.bare_withNote, Expr.bare,
        Expr.bare, bareEq]
    · rw [Expr.addLeading, chars_withNote, Expr.addTrailing, core_withNote, printed, textEq]
      simp only [Expr.note_withNote]
      simp [Expr.note, Note.at]
    · rw [Expr.comments_addLeading, Expr.comments_addTrailing]
      simp only [Expr.comments, Note.around, Note.at, List.length_append, List.length_nil,
        commentsEq, noTrailing]
      omega
  · simp [isSigned]

/-- The blank that keeps two equal signs apart. -/
def signGap (op : UnaryOp) (text : List Char) : List Char :=
  if (op = .plus ∧ text.head? = some '+') ∨ (op = .minus ∧ text.head? = some '-') then [' ']
  else []

theorem toList_unary (op : UnaryOp) (text : String) :
    (Print.unary op text).toList =
      op.symbol.toList ++ (signGap op text.toList ++ text.toList) := by
  unfold Print.unary signGap
  cases op
  · by_cases clash : text.toList.head? = some '+' <;> simp [clash]
  · by_cases clash : text.toList.head? = some '-' <;> simp [clash]
  · simp
  · simp

theorem signGap_cases (op : UnaryOp) (text : List Char) :
    signGap op text = [] ∨ signGap op text = [' '] := by
  unfold signGap
  split
  · exact .inr rfl
  · exact .inl rfl

/-- What is printed after an operator does not make it another one. -/
theorem unaryOp?_gap {text more : List Char} (op : UnaryOp)
    (standard : setting.tags = Delimiters.standard) (someText : text ≠ [])
    (noBrace : (text ++ more).head? ≠ some '\x7d') (noEqual : (text ++ more).head? ≠ some '=') :
    unaryOp? setting (op.symbol.toList ++ (signGap op text ++ text ++ more)) = some op := by
  have head : (text ++ more).head? = text.head? := List.head?_append_of_ne_nil text someText
  by_cases clash : (op = .plus ∧ text.head? = some '+') ∨ (op = .minus ∧ text.head? = some '-')
  · have gap : signGap op text = [' '] := if_pos clash
    rw [gap]
    refine unaryOp?_printed standard op ?_ ?_ ?_ ?_ <;> simp
  · have gap : signGap op text = [] := if_neg clash
    rw [not_or] at clash
    rw [gap, List.nil_append]
    refine unaryOp?_printed standard op ?_ ?_ noEqual noBrace
    · rintro rfl isPlus
      exact clash.1 ⟨rfl, head ▸ isPlus⟩
    · rintro rfl isMinus
      exact clash.2 ⟨rfl, head ▸ isMinus⟩

/-- An operator before an operand makes an operand, and the comments after it are those of
its argument. -/
theorem reads_operator {op : UnaryOp} {argument : Expr} (closed : ClosedNote note)
    (noTrailing : note.trailing = []) (content : Reads room .unary argument) :
    Reads (room + 1) .unary (.unary op argument note) := by
  have printed (argument : Expr) (note : Note) :
      core false (.unary op argument note) =
        op.symbol.toList ++ (signGap op (chars false argument) ++ chars false argument) := by
    rw [core_unary, toList_unary]
    rfl
  have spelledArgument := content
  obtain ⟨before, body, ⟨spelled, -⟩, -⟩ := spelledArgument
  have someText : chars false argument ≠ [] := by
    obtain ⟨c, rest, starts, -⟩ := spelled.starts
    simp [starts]
  refine ⟨note.leading,
    op.symbol.toList ++ (signGap op (chars false argument) ++ chars false argument),
    ⟨⟨?_, closed.1, ?_⟩, ?_⟩, ?_⟩
  · rw [chars_eq, printed]
    simp [Expr.note, noTrailing]
  · obtain ⟨c, rest, starts, -, differs⟩ := spelled.starts
    have second : ∃ d rest', signGap op (chars false argument) ++ chars false argument =
        d :: rest' ∧ d ≠ '=' ∧ d ≠ '\x7d' := by
      rcases signGap_cases op (chars false argument) with gap | gap
      · exact ⟨c, rest, by rw [gap, starts, List.nil_append], differs _ (by decide) (by decide),
          differs _ (by decide) (by decide)⟩
      · exact ⟨' ', chars false argument, by rw [gap]; rfl, by decide, by decide⟩
    obtain ⟨d, rest', secondEq, notEqual', notBrace'⟩ := second
    rw [secondEq]
    cases op <;> exact .sign (by decide) notEqual' notBrace'
  · intro setting cursor before' after next standard lies _
    obtain ⟨start, triviaEq, stretch⟩ := lies
    obtain ⟨middle, sign, stretch⟩ := stretch.split
    have standard' : Standard { setting with room := room } room := ⟨standard.1, rfl⟩
    obtain ⟨argument', derived, bareEq, textEq, commentsEq⟩ :=
      reads_after_sign content standard' (signGap_cases op _) stretch
    have middleEq : middle = start.skip 1 := by
      rw [sign.2]
      cases op <;> rfl
    have starts : unaryOp? { setting with room := room } start.rest = some op := by
      obtain ⟨stop, crosses, -⟩ := stretch
      rw [sign.1, crosses.1]
      have heads := spelled.head?_chars stop.rest
      exact unaryOp?_gap op standard.1 someText heads.1 heads.2
    have sameGap : signGap op (chars false argument') = signGap op (chars false argument) := by
      unfold signGap
      rw [textEq, List.head?_append_of_ne_nil _ someText]
    rw [middleEq] at derived
    refine ⟨_, .operator standard.2 triviaEq starts derived, ?_, ?_, ?_⟩
    · rw [Expr.addLeading, Expr.bare_withNote, Expr.bare, Expr.bare, bareEq]
    · rw [Expr.addLeading, chars_withNote, printed, sameGap, textEq]
      simp [Expr.note, Note.at]
    · rw [Expr.comments_addLeading]
      simp only [Expr.comments, Note.around, Note.at, List.length_append, List.length_nil,
        commentsEq, noTrailing]
      omega
  · intro notSigned
    cases op
    · exact absurd notSigned (by simp [isSigned])
    · exact absurd notSigned (by simp [isSigned])
    · exact ⟨by simp [UnaryOp.symbol], by simp [UnaryOp.symbol]⟩
    · exact ⟨by simp [UnaryOp.symbol], by simp [UnaryOp.symbol]⟩

end Grammar

end TemplateLang
