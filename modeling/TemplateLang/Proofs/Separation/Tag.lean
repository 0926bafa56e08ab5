import TemplateLang.Proofs.Coverage.Alone
import TemplateLang.Proofs.RoundTrip.Grouped
import TemplateLang.Proofs.Separation.Looking

/-!
# An expression in a tag

A text that is an expression is read as the same expression when it stands in a tag with
blanks around it.  What may be read before it as a declaration or a statement would not have
been an expression, and the end of the text is met like the blank and the closing mark.
-/

namespace TemplateLang

namespace Grammar

open Cursor

variable {setting : Setting} {cursor start next : Cursor}

/-! ## Blanks before an expression -/

/-- The comments of an expression with operands. -/
def Goal.comments : Goal → List Comment
  | .unary expr | .joined _ expr | .conditional expr | .command expr | .pipeline expr =>
    expr.comments
  | _ => []

/-- The comments before an expression are its first ones.  Without them, the expression is
derived from behind the blanks. -/
theorem Derives.leading {goal : Goal} (derived : Derives setting goal cursor next)
    (standard : setting.tags = Delimiters.standard) (takes : goal.takesLevel = true) :
    ∃ leading start, trivia cursor = .ok (leading, start) ∧ leading <+: goal.comments ∧
      (leading = [] → Derives setting goal start next) := by
  induction derived with
  | operator someRoom before starts operand =>
    refine ⟨_, _, before, ⟨_, (Expr.comments_addLeading _ _).symm⟩, ?_⟩
    rintro rfl
    exact .operator someRoom (trivia_eq_ok.mp before).2.trivia starts operand
  | operand someRoom before noOperator operand after =>
    refine ⟨_, _, before, ⟨_, (Expr.comments_addLeading _ _).symm⟩, ?_⟩
    rintro rfl
    exact .operand someRoom (trivia_eq_ok.mp before).2.trivia noOperator operand after
  | tightest _ ih =>
    rcases ih standard rfl with ⟨leading, start, before, first, settled⟩
    exact ⟨leading, start, before, first, fun none => .tightest (settled none)⟩
  | tier _ derived ih =>
    rcases ih standard rfl with ⟨leading, start, before, first, settled⟩
    rcases derived.skimmed standard with ⟨more, moreEq, -⟩
    exact ⟨leading, start, before, first.trans ⟨more, moreEq.symm⟩,
      fun none => .tier (settled none) derived⟩
  | test _ noQuestion ih =>
    rcases ih standard rfl with ⟨leading, start, before, first, settled⟩
    exact ⟨leading, start, before, first, fun none => .test (settled none) noQuestion⟩
  | @choice _ test consequent alternate _ _ _ _ _ question derived colon derived' ih =>
    rcases ih standard rfl with ⟨leading, start, before, first, settled⟩
    have commentsEq : test.comments ++ (consequent.comments ++ alternate.comments) =
        (Expr.conditional test consequent alternate
          (Note.at (test.span.union alternate.span))).comments := by
      rw [Expr.comments, around_at, List.append_assoc]
    exact ⟨leading, start, before, first.trans ⟨_, commentsEq⟩,
      fun none => .choice (settled none) question derived colon derived'⟩
  | noCommand _ ends ih =>
    rcases ih standard rfl with ⟨leading, start, before, first, settled⟩
    exact ⟨leading, start, before, first, fun none => .noCommand (settled none) ends⟩
  | command _ goesOn arguments ih =>
    rcases ih standard rfl with ⟨leading, start, before, first, settled⟩
    exact ⟨leading, start, before, first.trans ⟨_, (Expr.comments_command _ _).symm⟩,
      fun none => .command (settled none) goesOn arguments⟩
  | pipeline _ derived ih =>
    rcases ih standard rfl with ⟨leading, start, before, first, settled⟩
    rcases derived.skimmed standard with ⟨more, moreEq, -⟩
    exact ⟨leading, start, before, first.trans ⟨more, moreEq.symm⟩,
      fun none => .pipeline (settled none) derived⟩
  | _ => simp [Goal.takesLevel] at takes

end Grammar

open Grammar Cursor

/-! ## The text of a tag -/

/-- A text in a tag, with a blank on either side. -/
def inTag (text : String) : String :=
  "\x7b\x7b " ++ text ++ " \x7d\x7d"

/-- What comes before and after the text in a tag. -/
def Around.tag : Around where
  before := ['\x7b', '\x7b', ' ']
  after := [' ', '\x7d', '\x7d']

theorem toList_inTag (text : String) :
    (inTag text).toList = Around.tag.before ++ (text.toList ++ Around.tag.after) := by
  simp [inTag, Around.tag]

theorem separates_tag : Separates Around.tag.after := by
  rintro c rest same
  rcases (List.cons.inj same).1 with rfl
  decide

/-- Up to where only blanks are left, the text has nothing that the end of a tag is mistaken
for, and blanks lead from there to the closing mark. -/
theorem closes_beyond {next : Cursor} (blank : next.skipBlanks.rest = []) :
    ∃ close, trivia (next.beyond Around.tag) = .ok ([], close) ∧
      close.rest = ['\x7d', '\x7d'] := by
  have restEq : (next.inside Around.tag).skipBlanks.rest = ['\x7d', '\x7d'] := by
    rw [skipBlanks, rest_skipWhile] at blank ⊢
    rw [rest_inside, List.dropWhile_append, blank]
    decide
  have settled : (next.inside Around.tag).skipBlanks.Settled :=
    settled_of_rest restEq (by decide) (by decide)
  refine ⟨_, ?_, restEq⟩
  unfold beyond
  split
  · exact settled.trivia
  · exact (between_skipBlanks _).trivia settled

namespace Grammar

variable {next : Cursor}

/-- At the end of the text in a tag every expression is over. -/
theorem ends_in_tag {expr : Expr} (atEnd : next.rest = []) :
    Goal.Ends .tag (Setting.initial Delimiters.standard) next (.pipeline expr) := by
  have insideEq : (next.inside .tag).rest = [' ', '\x7d', '\x7d'] := by
    rw [rest_inside, atEnd]
    rfl
  have beyondEq : (next.beyond .tag).rest = ['\x7d', '\x7d'] := by
    rw [beyond, if_pos atEnd, skipBlanks, rest_skipWhile, insideEq]
    decide
  refine ⟨⟨fun c isIn => ?_, fun c isIn => ?_, ?_⟩, ?_, ?_⟩
  · simp only [List.mem_cons, List.not_mem_nil, or_false] at isIn
    rcases isIn with rfl | rfl | rfl <;> exact isAt_eq_false insideEq (by decide)
  · simp only [List.mem_cons, List.not_mem_nil, or_false] at isIn
    rcases isIn with rfl | rfl <;> exact isAt_eq_false insideEq (by decide)
  · exact settled_of_rest beyondEq (by decide) (by decide)
  · exact endsCommand_of_closing rfl (by rw [beyondEq]; rfl)
  · rw [beyondEq]
    rfl

end Grammar

/-! ## Whole texts -/

/-- A whole text is read as what is derived from its start up to blanks. -/
theorem wholeExpression_eq_ok {text : List Char} {expr : Expr} {stop : Cursor} :
    wholeExpression text = .ok (expr, stop) ↔
      ∃ next, Derives (Setting.initial Delimiters.standard) (.pipeline expr) (ofSource text) next ∧
        next.skipBlanks = stop ∧ stop.rest = [] := by
  unfold wholeExpression
  refine Reading.bind_eq_ok.trans ⟨?_, ?_⟩
  · rintro ⟨⟨found, next⟩, given, ends⟩
    dsimp only at ends
    split at ends
    · rename_i blank
      rcases Prod.mk.inj (Except.ok.inj ends) with ⟨rfl, rfl⟩
      exact ⟨next, derives_of_expression given, rfl, List.isEmpty_iff.mp blank⟩
    · simp at ends
  · rintro ⟨next, derived, rfl, blank⟩
    refine ⟨_, expression_of_derives derived, ?_⟩
    dsimp only
    rw [blank]
    rfl

/-- An expression that is a whole text is derived from its start up to blanks. -/
theorem parseExpression_eq_ok {text : List Char} {expr : Expr} :
    parseExpression text = .ok expr ↔
      ∃ next, Derives (Setting.initial Delimiters.standard) (.pipeline expr) (ofSource text) next ∧
        next.skipBlanks.rest = [] := by
  unfold parseExpression
  constructor
  · intro read
    split at read
    · rename_i whole
      rcases Except.ok.inj read with rfl
      rcases wholeExpression_eq_ok.mp whole with ⟨next, derived, rfl, blank⟩
      exact ⟨next, derived, blank⟩
    · simp at read
  · rintro ⟨next, derived, blank⟩
    rw [wholeExpression_eq_ok.mpr ⟨next, derived, rfl, blank⟩]

/-- An expression without comments that is a whole text is read in a tag with that text. -/
theorem parse_inTag {text : String} {expr : Expr} (read : parseExpression text.toList = .ok expr)
    (noComments : expr.comments = []) :
    ∃ opening closing span,
      parse .standard (inTag text).toList =
        .ok ⟨[.tag opening (.expression (expr.shift 3)) closing span]⟩ ∧
      (opening.trims = false ∧ closing.trims = false) ∧
      opening.comments = [] ∧ closing.comments = [] := by
  have standard : (Setting.initial Delimiters.standard).tags = Delimiters.standard := rfl
  rcases parseExpression_eq_ok.mp read with ⟨next, derived, blank⟩
  rcases derived.leading standard rfl with ⟨leading, start, before, first, settled⟩
  have noLeading : leading = [] := List.prefix_nil.mp (noComments ▸ first)
  rcases noLeading with rfl
  have derived := settled rfl
  -- The place where the text ends in its tag.
  have unbarred : Unbarred next.rest Around.tag.after := by
    intro _ rest same
    simp [Around.tag] at same
  have veils := separates_tag.veils
  have carried : Derives (Setting.initial Delimiters.standard) (.pipeline (expr.shift 3))
      (start.inside Around.tag) (next.beyond Around.tag) :=
    derived.kept veils standard unbarred ends_in_tag
  have before' := trivia_within veils before
    (veils.back (derived.clears (by simp)) unbarred) (derived.passes rfl).1
  rcases closes_beyond blank with ⟨close, after, closeEq⟩
  have settledStart := (trivia_eq_ok.mp before').2
  -- The tag around it.
  have crosses := crosses_before Around.tag text.toList
  rw [← toList_inTag] at crosses
  rcases (show (ofSource (inTag text).toList).Crosses (['\x7b', '\x7b'] ++ [' '])
    ((ofSource text.toList).inside Around.tag) from crosses).split with ⟨afterMark, mark, blankMark⟩
  have opens := openingTag_reads false standard mark
    (fun _ => isAt_eq_false blankMark.1 (by decide))
    (((between_blank blankMark).trans (trivia_eq_ok.mp before').1).trivia settledStart)
  rcases crosses_all closeEq with ⟨done, closes, doneEq⟩
  have closed := closingTag_reads false standard after closes
  have notAtEnd : (Setting.initial Delimiters.standard).atClosing (start.inside .tag).rest =
      false := by
    rcases carried.begins with ⟨_, _, before, starts⟩
    rcases trivia_of_settled settledStart before with rfl
    exact starts.not_closing standard
  have notColon : (next.beyond .tag).isAt [':', '='] = false := by
    rw [Bool.eq_false_iff]
    intro colon
    rcases isAt_iff.mp colon with ⟨rest, restEq⟩
    have settled : (next.beyond .tag).Settled :=
      settled_of_rest restEq.symm (by decide) (by decide)
    rw [trivia_of_settled settled after, ← restEq] at closeEq
    simp at closeEq
  have statement := derives_statement rfl settledStart carried notAtEnd notColon
  have goesOn : ((ofSource (inTag text).toList).rest.isEmpty ||
      atBlockWord (Setting.initial Delimiters.standard) [] (ofSource (inTag text).toList)) =
        false := by
    rw [mark.1, atBlockWord_nil]
    rfl
  have block := DerivesBlock.tag goesOn opens statement closed
    (.elementsEnd (by rw [doneEq]; rfl))
  exact ⟨_, _, _, parse_of_derivesBlock block, ⟨rfl, rfl⟩, rfl, rfl⟩

end TemplateLang
