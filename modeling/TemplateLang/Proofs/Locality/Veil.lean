import TemplateLang.Proofs.Blanking.Tags
import TemplateLang.Proofs.Locality.Scanning

/-!
# What a longer text hides

A derivation is repeated in a longer text if no look ahead sees what comes after the text.
Places from which nothing is seen are told by a predicate on what is left of the text, a veil,
and each veil has its own reason.  At the end of the text something may be seen; there the
longer text is gone on with past its blanks.

A bar is an operator with another one after it, so that the last bar of a text is never
veiled before a bar.  No derivation leaves such a bar behind on its way to the end.
-/

namespace TemplateLang

namespace Cursor

variable {around : Around} {start middle stop cursor next : Cursor} {c : Char}

/-! ## Bars at the end of a text -/

/-- One place lies at or after another, and not at the end of a text of which a bar is left. -/
def Clears (start stop : Cursor) : Prop :=
  start.Reaches stop ∧ (start.rest = ['|'] → stop.rest ≠ [])

theorem clears_refl (cursor : Cursor) : cursor.Clears cursor :=
  ⟨Reaches.refl cursor, fun bar => by simp [bar]⟩

theorem clears_of_ne (noBar : start.rest ≠ ['|']) (reaches : start.Reaches stop) :
    start.Clears stop :=
  ⟨reaches, fun bar => absurd bar noBar⟩

theorem clears_of_isAt (isAt : start.isAt [c] = true) (notBar : c ≠ '|')
    (reaches : start.Reaches stop) : start.Clears stop := by
  apply clears_of_ne _ reaches
  intro bar
  rcases isAt_singleton_iff.mp isAt with ⟨rest, restEq⟩
  exact notBar (List.cons.inj (restEq.symm.trans bar)).1

theorem Clears.trans (first : start.Clears middle) (second : middle.Clears stop) :
    start.Clears stop := by
  refine ⟨first.1.trans second.1, fun bar => second.2 ?_⟩
  have notDone := first.2 bar
  rcases first.1 with ⟨count, rfl⟩
  rw [rest_skip, bar] at notDone ⊢
  cases count with
  | zero => rfl
  | succ count => simp at notDone

theorem clears_of_trivia {comments : List Comment} (read : trivia start = .ok (comments, stop)) :
    start.Clears stop := by
  refine ⟨reaches_of_trivia read, fun bar => ?_⟩
  have settled : start.Settled := settled_of_rest bar (by decide) (by decide)
  rw [Grammar.trivia_of_settled settled read, bar]
  simp

/-- Nothing is ahead of the end of a text. -/
theorem Reaches.eq_of_nil (reaches : start.Reaches stop) (atEnd : start.rest = []) :
    stop = start := by
  rcases reaches with ⟨count, rfl⟩
  apply ext
  · simp [atEnd]
  · simp [atEnd]
  · rfl

theorem Reaches.rest_ne_nil (reaches : start.Reaches stop) (notDone : stop.rest ≠ []) :
    start.rest ≠ [] := by
  intro atEnd
  rw [reaches.eq_of_nil atEnd] at notDone
  exact notDone atEnd

/-! ## Places after a text -/

/-- The place from which the longer text goes on: at the end of a text it lies past the blanks
that come after. -/
def beyond (around : Around) (cursor : Cursor) : Cursor :=
  if cursor.rest = [] then (cursor.inside around).skipBlanks else cursor.inside around

theorem beyond_eq_inside (notDone : cursor.rest ≠ []) :
    cursor.beyond around = cursor.inside around :=
  if_neg notDone

theorem between_beyond : Between (cursor.inside around) [] (cursor.beyond around) := by
  unfold beyond
  split
  · exact between_skipBlanks _
  · exact .here _

end Cursor

open Cursor

/-- Blanks and comments are read in the longer text, and the blanks after it at its end. -/
theorem trivia_beyond {around : Around} {cursor next : Cursor} {comments : List Comment}
    (overlooks : next.rest ≠ [] → around.Overlooks next.rest)
    (ends : next.rest = [] → (next.beyond around).Settled)
    (read : trivia cursor = .ok (comments, next)) :
    trivia (cursor.inside around) =
      .ok (comments.map (·.shift around.distance), next.beyond around) := by
  rcases trivia_eq_ok.mp read with ⟨between, settled⟩
  have between' : Between (cursor.inside around) (comments.map (·.shift around.distance) ++ [])
      (next.beyond around) := between.inside.trans between_beyond
  rw [List.append_nil] at between'
  refine trivia_eq_ok.mpr ⟨between', ?_⟩
  by_cases atEnd : next.rest = []
  · exact ends atEnd
  · rw [beyond_eq_inside atEnd]
    exact settled.inside (overlooks atEnd)

/-! ## Veils -/

/-- Where a predicate holds of what is left of a text, no look ahead sees what comes after.  It
holds of the way to such a place, but for a last bar. -/
structure Around.Veils (around : Around) (hidden : List Char → Prop) : Prop where
  overlooks : ∀ {text}, hidden text → text ≠ [] → around.Overlooks text
  back : ∀ {start stop : Cursor}, start.Clears stop → hidden stop.rest → hidden start.rest
  number : ∀ {cursor next value}, Literal.number cursor = .found value next →
    hidden cursor.rest → Literal.number (cursor.inside around) = .found value (next.inside around)

/-- What comes after the end of a tag is veiled. -/
theorem Around.veils_unseen (around : Around) : around.Veils around.Unseen where
  overlooks := fun unseen _ => unseen.overlooks
  back := fun clears unseen => clears.1.unseen unseen
  number := fun found unseen => Literal.number_inside found unseen

namespace Grammar

variable {setting : Setting} {goal : Goal} {cursor next : Cursor}

/-- Nothing that is derived leaves a last bar behind.  Items may, if a bar closes them. -/
theorem Derives.clears (derived : Derives setting goal cursor next)
    (noItems : ∀ close exprs, goal ≠ .items close exprs) : cursor.Clears next := by
  induction derived with
  | paren opens content =>
    exact clears_of_isAt opens (by decide)
      (((reaches_skip _ 1).trans content.reaches).trans (reaches_skip _ 1))
  | array opens content =>
    exact clears_of_isAt opens (by decide) ((reaches_skip _ 1).trans content.reaches)
  | word _ _ starts read =>
    apply clears_of_ne _ (reaches_of_wordExpr read ▸ reaches_skipWord _)
    intro bar
    simp [peekWord?, Cursor.word, bar, isWordStart] at starts
  | literal _ _ _ read =>
    apply clears_of_ne _ (reaches_of_literal read)
    intro bar
    rcases literal_eq_ok.mp read with ⟨_, _, found, -⟩ | ⟨-, _, found, -⟩
    · simp [Literal.string, Literal.quote?, bar] at found
    · simp [Literal.number, Literal.startsDecimal, bar] at found
  | noSuffix | noInfix | noArgument | refused | noPipe => exact clears_refl _
  | field dot read others =>
    exact clears_of_isAt dot (by decide)
      (((reaches_skip _ 1).trans (reaches_of_fieldKey read)).trans others.reaches)
  | item opens content _ others =>
    exact clears_of_isAt opens (by decide)
      ((((reaches_skip _ 1).trans content.reaches).trans (reaches_skip _ 1)).trans others.reaches)
  | call opens content others =>
    exact clears_of_isAt opens (by decide)
      (((reaches_skip _ 1).trans content.reaches).trans others.reaches)
  | suffixed _ _ start others | tier _ _ start others | argument _ _ _ start others
  | command _ _ _ start others | pipeline _ _ start others =>
    exact (start (by simp)).trans (others (by simp))
  | updateBefore starts operand =>
    apply clears_of_ne _ ((reaches_skip _ 2).trans operand.reaches)
    intro bar
    simp [bar, updateOp?] at starts
  | @updateAfter setting op target cursor next _ _ follows _ operand =>
    refine (operand (by simp)).trans (clears_of_ne ?_ (reaches_skip next 2))
    intro bar
    simp [bar, updateOp?] at follows
  | noUpdate _ _ _ operand | tightest _ operand | test _ _ operand | noCommand _ _ operand =>
    exact operand (by simp)
  | operator _ before starts operand =>
    refine (clears_of_trivia before).trans
      (clears_of_ne ?_ ((reaches_skip _ 1).trans operand.reaches))
    intro bar
    simp [bar, unaryOp?] at starts
  | operand _ before _ _ after operand =>
    exact ((clears_of_trivia before).trans (operand (by simp))).trans (clears_of_trivia after)
  | @infixMore setting tier tighter op left right expr cursor middle next follows operand others =>
    apply clears_of_ne _ (((reaches_skip _ _).trans operand.reaches).trans others.reaches)
    intro bar
    exact (operand.passes rfl).1 (by
      have passes := (passes_of_infixOp follows).length_rest_lt
      rw [bar] at passes
      exact List.length_eq_zero_iff.mp (Nat.lt_one_iff.mp passes))
  | choice _ question first _ second start =>
    exact (start (by simp)).trans (clears_of_isAt question (by decide)
      ((((reaches_skip _ 1).trans first.reaches).trans (reaches_skip _ 1)).trans second.reaches))
  | itemsEnd | itemsLast | itemsMore => exact absurd rfl (noItems _ _)
  | pipe _ before callee after arguments others =>
    apply clears_of_ne _ (((((reaches_skip _ 1).trans (reaches_of_trivia before)).trans
      callee.reaches).trans (reaches_of_trivia after)).trans
        (arguments.reaches.trans others.reaches))
    intro bar
    apply (reaches_of_trivia before).rest_ne_nil (callee.passes rfl).1
    rw [rest_skip, bar]
    rfl

end Grammar

end TemplateLang
