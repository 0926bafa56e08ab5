import TemplateLang.Proofs.Grammar.Derivation

/-!
# Readings of expressions are derivations

Each layer of readers gives only what has a derivation, provided the readers of inner
expressions do.  The readers that the layers are tied with do by induction on how often
they go up, and so does the reader of whole expressions.
-/

namespace TemplateLang

namespace Grammar

/-- The readers of inner expressions give derivable expressions. -/
structure Inner.Sound (inner : Inner) : Prop where
  pipeline : ∀ {setting cursor expr next},
    inner.pipeline setting cursor = .ok (expr, next) →
      Derives setting (.pipeline expr) cursor next
  conditional : ∀ {setting cursor expr next},
    inner.conditional setting cursor = .ok (expr, next) →
      Derives setting (.conditional expr) cursor next
  unary : ∀ {setting cursor expr next},
    inner.unary setting cursor = .ok (expr, next) → Derives setting (.unary expr) cursor next

variable {inner : Inner} (sound : inner.Sound) {setting : Setting}

include sound

/-! ## Primary expressions and suffixes -/

theorem derives_of_list {close : Char} {cursor next : Cursor} {items : List Expr}
    (given : list inner setting close cursor = .ok (items, next)) :
    Derives setting (.items close items) cursor next := by
  have general := Reading.loop_induction
    (motive := fun before cursor all next =>
      ∃ items, all = before ++ items ∧ Derives setting (.items close items) cursor next)
    ?_ ?_ given
  · obtain ⟨same, rfl, derived⟩ := general
    exact derived
  · intro before cursor all next step
    unfold listRound at step
    dsimp only at step
    split at step
    · rename_i closes
      simp only [Except.ok.injEq, Prod.mk.injEq, Reading.Round.done.injEq] at step
      obtain ⟨rfl, rfl⟩ := step
      exact ⟨[], by simp, .itemsEnd closes⟩
    · rename_i notYet
      obtain ⟨⟨item, middle⟩, read, step⟩ := Reading.bind_eq_ok.mp step
      rw [Reading.commit_eq_ok] at read
      dsimp only at step
      split at step
      · simp at step
      · rename_i noComma
        obtain ⟨after, closed, step⟩ := Reading.bind_eq_ok.mp step
        obtain ⟨closes, rfl⟩ := requireChar_eq_ok.mp closed
        simp only [Except.ok.injEq, Prod.mk.injEq, Reading.Round.done.injEq] at step
        obtain ⟨rfl, rfl⟩ := step
        exact ⟨[item], rfl, .itemsLast (Bool.eq_false_iff.mpr notYet) (sound.conditional read)
          (Bool.eq_false_iff.mpr noComma) closes⟩
  · intro before cursor before' cursor' all next step later
    obtain ⟨items, rfl, derived⟩ := later
    unfold listRound at step
    dsimp only at step
    split at step
    · simp at step
    · rename_i notYet
      obtain ⟨⟨item, middle⟩, read, step⟩ := Reading.bind_eq_ok.mp step
      rw [Reading.commit_eq_ok] at read
      dsimp only at step
      split at step
      · rename_i comma
        simp only [Except.ok.injEq, Prod.mk.injEq, Reading.Round.again.injEq] at step
        obtain ⟨rfl, rfl⟩ := step
        exact ⟨item :: items, by simp, .itemsMore (Bool.eq_false_iff.mpr notYet)
          (sound.conditional read) comma derived⟩
      · obtain ⟨after, -, step⟩ := Reading.bind_eq_ok.mp step
        simp at step

theorem derives_of_primary {cursor next : Cursor} {expr : Expr}
    (given : primary inner setting cursor = .ok (expr, next)) :
    Derives setting (.primary expr) cursor next := by
  unfold primary at given
  split at given
  · rename_i opens
    obtain ⟨⟨content, middle⟩, read, given⟩ := Reading.bind_eq_ok.mp given
    obtain ⟨after, closed, given⟩ := Reading.bind_eq_ok.mp given
    obtain ⟨closes, rfl⟩ := requireChar_eq_ok.mp closed
    simp only [Except.ok.injEq, Prod.mk.injEq] at given
    obtain ⟨rfl, rfl⟩ := given
    exact .paren opens (sound.pipeline (Reading.commit_eq_ok.mp read)) closes
  · rename_i noParen
    split at given
    · rename_i opens
      obtain ⟨⟨items, middle⟩, read, given⟩ := Reading.bind_eq_ok.mp given
      simp only [Except.ok.injEq, Prod.mk.injEq] at given
      obtain ⟨rfl, rfl⟩ := given
      exact .array opens (derives_of_list sound read)
    · rename_i noBracket
      rw [Bool.not_eq_true] at noParen noBracket
      split at given
      · rename_i word starts
        exact .word noParen noBracket starts given
      · rename_i noWord
        exact .literal noParen noBracket noWord given

theorem derives_of_suffixes {head expr : Expr} {cursor next : Cursor}
    (given : Reading.loop (suffixRound inner setting) head cursor = .ok (expr, next)) :
    Derives setting (.suffixes head expr) cursor next := by
  refine Reading.loop_induction
    (motive := fun head cursor expr next => Derives setting (.suffixes head expr) cursor next)
    ?_ ?_ given
  · intro head cursor expr next step
    unfold suffixRound at step
    dsimp only at step
    split at step
    · obtain ⟨⟨key, middle⟩, -, step⟩ := Reading.bind_eq_ok.mp step
      simp at step
    · rename_i noDot
      split at step
      · obtain ⟨⟨key, middle⟩, -, step⟩ := Reading.bind_eq_ok.mp step
        obtain ⟨after, -, step⟩ := Reading.bind_eq_ok.mp step
        simp at step
      · rename_i noBracket
        split at step
        · obtain ⟨⟨arguments, middle⟩, -, step⟩ := Reading.bind_eq_ok.mp step
          simp at step
        · rename_i noParen
          simp only [Except.ok.injEq, Prod.mk.injEq, Reading.Round.done.injEq] at step
          obtain ⟨rfl, rfl⟩ := step
          rw [Bool.not_eq_true] at noDot noBracket noParen
          exact .noSuffix noDot noBracket noParen
  · intro head cursor head' cursor' expr next step later
    unfold suffixRound at step
    dsimp only at step
    split at step
    · rename_i dot
      obtain ⟨⟨key, middle⟩, read, step⟩ := Reading.bind_eq_ok.mp step
      simp only [Except.ok.injEq, Prod.mk.injEq, Reading.Round.again.injEq] at step
      obtain ⟨rfl, rfl⟩ := step
      exact .field dot read later
    · split at step
      · rename_i opens
        obtain ⟨⟨key, middle⟩, read, step⟩ := Reading.bind_eq_ok.mp step
        obtain ⟨after, closed, step⟩ := Reading.bind_eq_ok.mp step
        obtain ⟨closes, rfl⟩ := requireChar_eq_ok.mp closed
        simp only [Except.ok.injEq, Prod.mk.injEq, Reading.Round.again.injEq] at step
        obtain ⟨rfl, rfl⟩ := step
        exact .item opens (sound.pipeline (Reading.commit_eq_ok.mp read)) closes later
      · split at step
        · rename_i opens
          obtain ⟨⟨arguments, middle⟩, read, step⟩ := Reading.bind_eq_ok.mp step
          simp only [Except.ok.injEq, Prod.mk.injEq, Reading.Round.again.injEq] at step
          obtain ⟨rfl, rfl⟩ := step
          exact .call opens (derives_of_list sound read) later
        · simp at step

theorem derives_of_suffixed {cursor next : Cursor} {expr : Expr}
    (given : suffixed inner setting cursor = .ok (expr, next)) :
    Derives setting (.suffixed expr) cursor next := by
  unfold suffixed at given
  obtain ⟨⟨head, middle⟩, read, given⟩ := Reading.bind_eq_ok.mp given
  exact .suffixed (derives_of_primary sound read) (derives_of_suffixes sound given)

/-! ## Operators of one operand -/

theorem derives_of_bareUpdate {cursor next : Cursor} {expr : Expr}
    (given : bareUpdate inner setting cursor = .ok (expr, next)) :
    Derives setting (.update expr) cursor next := by
  unfold bareUpdate at given
  split at given
  · rename_i op starts
    obtain ⟨⟨target, middle⟩, read, given⟩ := Reading.bind_eq_ok.mp given
    obtain ⟨_, required, given⟩ := Reading.bind_eq_ok.mp given
    simp only [Except.ok.injEq, Prod.mk.injEq] at given
    obtain ⟨rfl, rfl⟩ := given
    exact .updateBefore starts (sound.unary (Reading.commit_eq_ok.mp read))
      (requireAssignable_eq_ok.mp required)
  · rename_i noneBefore
    obtain ⟨⟨target, middle⟩, read, given⟩ := Reading.bind_eq_ok.mp given
    dsimp only at given
    split at given
    · rename_i op follows
      obtain ⟨_, required, given⟩ := Reading.bind_eq_ok.mp given
      simp only [Except.ok.injEq, Prod.mk.injEq] at given
      obtain ⟨rfl, rfl⟩ := given
      exact .updateAfter noneBefore (derives_of_suffixed sound read) follows
        (requireAssignable_eq_ok.mp required)
    · rename_i noneAfter
      simp only [Except.ok.injEq, Prod.mk.injEq] at given
      obtain ⟨rfl, rfl⟩ := given
      exact .noUpdate noneBefore (derives_of_suffixed sound read) noneAfter

theorem derives_of_unary {cursor next : Cursor} {expr : Expr}
    (given : unary inner setting cursor = .ok (expr, next)) :
    Derives setting (.unary expr) cursor next := by
  unfold unary at given
  obtain ⟨room, someRoom, given⟩ := Setting.nested_eq_ok.mp given
  unfold prefixed at given
  obtain ⟨⟨comments, start⟩, before, given⟩ := Reading.bind_eq_ok.mp given
  dsimp only at given
  split at given
  · rename_i op starts
    obtain ⟨⟨argument, middle⟩, read, given⟩ := Reading.bind_eq_ok.mp given
    obtain ⟨⟨_, _⟩, same, given⟩ := Reading.bind_eq_ok.mp given
    simp only [Except.ok.injEq, Prod.mk.injEq] at same given
    obtain ⟨rfl, rfl⟩ := same
    obtain ⟨rfl, rfl⟩ := given
    exact .operator someRoom before starts (sound.unary (Reading.commit_eq_ok.mp read))
  · rename_i noOperator
    obtain ⟨⟨whole, middle⟩, readWhole, given⟩ := Reading.bind_eq_ok.mp given
    simp only [Except.ok.injEq, Prod.mk.injEq] at given
    obtain ⟨rfl, rfl⟩ := given
    unfold update at readWhole
    obtain ⟨⟨bare, middle⟩, read, readTrailing⟩ := Reading.bind_eq_ok.mp readWhole
    obtain ⟨⟨trailing, _⟩, after, same⟩ := Reading.bind_eq_ok.mp readTrailing
    simp only [Except.ok.injEq, Prod.mk.injEq] at same
    obtain ⟨rfl, rfl⟩ := same
    exact .operand someRoom before noOperator (derives_of_bareUpdate sound read) after

/-! ## Operators between operands -/

omit sound in
theorem derives_of_infixes {tier : List InfixOp} {tighter : List (List InfixOp)}
    {operand : Cursor → Reading (Expr × Cursor)}
    (operandSound : ∀ {cursor expr next}, operand cursor = .ok (expr, next) →
      Derives setting (.joined tighter expr) cursor next)
    {left expr : Expr} {cursor next : Cursor}
    (given : Reading.loop (infixRound setting tier operand) left cursor = .ok (expr, next)) :
    Derives setting (.infixes tier tighter left expr) cursor next := by
  refine Reading.loop_induction
    (motive := fun left cursor expr next =>
      Derives setting (.infixes tier tighter left expr) cursor next) ?_ ?_ given
  · intro left cursor expr next step
    unfold infixRound at step
    split at step
    · obtain ⟨⟨right, middle⟩, -, step⟩ := Reading.bind_eq_ok.mp step
      simp at step
    · rename_i ends
      simp only [Except.ok.injEq, Prod.mk.injEq, Reading.Round.done.injEq] at step
      obtain ⟨rfl, rfl⟩ := step
      exact .noInfix ends
  · intro left cursor left' cursor' expr next step later
    unfold infixRound at step
    split at step
    · rename_i op follows
      obtain ⟨⟨right, middle⟩, read, step⟩ := Reading.bind_eq_ok.mp step
      simp only [Except.ok.injEq, Prod.mk.injEq, Reading.Round.again.injEq] at step
      obtain ⟨rfl, rfl⟩ := step
      exact .infixMore follows (operandSound (Reading.commit_eq_ok.mp read)) later
    · simp at step

theorem derives_of_joined {levels : List (List InfixOp)} {cursor next : Cursor} {expr : Expr}
    (given : joined inner setting levels cursor = .ok (expr, next)) :
    Derives setting (.joined levels expr) cursor next := by
  induction levels generalizing cursor expr next with
  | nil => exact .tightest (derives_of_unary sound given)
  | cons tier tighter ih =>
    unfold joined at given
    obtain ⟨⟨left, middle⟩, read, given⟩ := Reading.bind_eq_ok.mp given
    exact .tier (ih read) (derives_of_infixes ih given)

theorem derives_of_conditional {cursor next : Cursor} {expr : Expr}
    (given : conditional inner setting cursor = .ok (expr, next)) :
    Derives setting (.conditional expr) cursor next := by
  unfold conditional at given
  obtain ⟨⟨test, afterTest⟩, read, given⟩ := Reading.bind_eq_ok.mp given
  dsimp only at given
  split at given
  · rename_i question
    obtain ⟨⟨consequent, afterConsequent⟩, first, given⟩ := Reading.bind_eq_ok.mp given
    obtain ⟨afterColon, required, given⟩ := Reading.bind_eq_ok.mp given
    obtain ⟨colon, rfl⟩ := requireChar_eq_ok.mp required
    obtain ⟨⟨alternate, _⟩, second, given⟩ := Reading.bind_eq_ok.mp given
    simp only [Except.ok.injEq, Prod.mk.injEq] at given
    obtain ⟨rfl, rfl⟩ := given
    exact .choice (derives_of_joined sound read) question
      (sound.conditional (Reading.commit_eq_ok.mp first)) colon
      (sound.conditional (Reading.commit_eq_ok.mp second))
  · rename_i ends
    simp only [Except.ok.injEq, Prod.mk.injEq] at given
    obtain ⟨rfl, rfl⟩ := given
    exact .test (derives_of_joined sound read) (Bool.eq_false_iff.mpr ends)

/-! ## Commands and pipes -/

theorem derives_of_arguments {cursor next : Cursor} {exprs : List Expr}
    (given : arguments inner setting cursor = .ok (exprs, next)) :
    Derives setting (.arguments exprs) cursor next := by
  have general := Reading.loop_induction
    (motive := fun before cursor all next =>
      ∃ exprs, all = before ++ exprs ∧ Derives setting (.arguments exprs) cursor next)
    ?_ ?_ given
  · obtain ⟨same, rfl, derived⟩ := general
    exact derived
  · intro before cursor all next step
    unfold argumentRound at step
    split at step
    · rename_i starts
      split at step
      · simp at step
      · rename_i fault span failed
        simp only [Except.ok.injEq, Prod.mk.injEq, Reading.Round.done.injEq] at step
        obtain ⟨rfl, rfl⟩ := step
        exact ⟨[], by simp, .refused starts (refused_of_unary_soft failed)⟩
      · simp at step
    · rename_i ends
      simp only [Except.ok.injEq, Prod.mk.injEq, Reading.Round.done.injEq] at step
      obtain ⟨rfl, rfl⟩ := step
      exact ⟨[], by simp, .noArgument (Bool.eq_false_iff.mpr ends)⟩
  · intro before cursor before' cursor' all next step later
    obtain ⟨exprs, rfl, derived⟩ := later
    unfold argumentRound at step
    split at step
    · rename_i starts
      split at step
      · rename_i argument middle read
        simp only [Except.ok.injEq, Prod.mk.injEq, Reading.Round.again.injEq] at step
        obtain ⟨rfl, rfl⟩ := step
        exact ⟨argument :: exprs, by simp,
          .argument starts (derives_of_unary sound read) derived⟩
      · simp at step
      · simp at step
    · simp at step

theorem derives_of_command {cursor next : Cursor} {expr : Expr}
    (given : command inner setting cursor = .ok (expr, next)) :
    Derives setting (.command expr) cursor next := by
  unfold command at given
  obtain ⟨⟨head, middle⟩, read, given⟩ := Reading.bind_eq_ok.mp given
  dsimp only at given
  split at given
  · rename_i goesOn
    obtain ⟨⟨extra, _⟩, readExtra, given⟩ := Reading.bind_eq_ok.mp given
    simp only [Except.ok.injEq, Prod.mk.injEq] at given
    obtain ⟨rfl, rfl⟩ := given
    exact .command (derives_of_conditional sound read) goesOn
      (derives_of_arguments sound readExtra)
  · rename_i ends
    simp only [Except.ok.injEq, Prod.mk.injEq] at given
    obtain ⟨rfl, rfl⟩ := given
    exact .noCommand (derives_of_conditional sound read) (Bool.eq_false_iff.mpr ends)

theorem derives_of_pipes {value expr : Expr} {cursor next : Cursor}
    (given : Reading.loop (pipeRound inner setting) value cursor = .ok (expr, next)) :
    Derives setting (.pipes value expr) cursor next := by
  refine Reading.loop_induction
    (motive := fun value cursor expr next => Derives setting (.pipes value expr) cursor next)
    ?_ ?_ given
  · intro value cursor expr next step
    unfold pipeRound at step
    split at step
    · obtain ⟨⟨leading, start⟩, -, step⟩ := Reading.bind_eq_ok.mp step
      obtain ⟨⟨segment, afterSegment⟩, -, step⟩ := Reading.bind_eq_ok.mp step
      obtain ⟨⟨trailing, afterTrivia⟩, -, step⟩ := Reading.bind_eq_ok.mp step
      obtain ⟨⟨extra, _⟩, -, step⟩ := Reading.bind_eq_ok.mp step
      simp at step
    · rename_i ends
      simp only [Except.ok.injEq, Prod.mk.injEq, Reading.Round.done.injEq] at step
      obtain ⟨rfl, rfl⟩ := step
      exact .noPipe (Bool.eq_false_iff.mpr ends)
  · intro value cursor value' cursor' expr next step later
    unfold pipeRound at step
    split at step
    · rename_i follows
      obtain ⟨⟨leading, start⟩, before, step⟩ := Reading.bind_eq_ok.mp step
      obtain ⟨⟨segment, afterSegment⟩, read, step⟩ := Reading.bind_eq_ok.mp step
      obtain ⟨⟨trailing, afterTrivia⟩, after, step⟩ := Reading.bind_eq_ok.mp step
      obtain ⟨⟨extra, _⟩, readExtra, step⟩ := Reading.bind_eq_ok.mp step
      simp only [Except.ok.injEq, Prod.mk.injEq, Reading.Round.again.injEq] at step
      obtain ⟨rfl, rfl⟩ := step
      exact .pipe follows before
        (derives_of_suffixed sound (Reading.commit_eq_ok.mp read)) after
        (derives_of_arguments sound readExtra) later
    · simp at step

theorem derives_of_pipeline {cursor next : Cursor} {expr : Expr}
    (given : pipeline inner setting cursor = .ok (expr, next)) :
    Derives setting (.pipeline expr) cursor next := by
  unfold pipeline at given
  obtain ⟨⟨head, middle⟩, read, given⟩ := Reading.bind_eq_ok.mp given
  exact .pipeline (derives_of_command sound read) (derives_of_pipes sound given)

omit sound

/-! ## Tying the layers -/

theorem sound_innerOf (fuel : Nat) : (innerOf fuel).Sound := by
  induction fuel with
  | zero => constructor <;> simp [innerOf]
  | succ fuel ih =>
    exact
      { pipeline := fun read => derives_of_pipeline ih read
        conditional := fun read => derives_of_conditional ih read
        unary := fun read => derives_of_unary ih read }

/-- Every expression that is read has a derivation. -/
theorem derives_of_expression {cursor next : Cursor} {expr : Expr}
    (given : expression setting cursor = .ok (expr, next)) :
    Derives setting (.pipeline expr) cursor next :=
  derives_of_pipeline (sound_innerOf _) given

end Grammar

end TemplateLang
