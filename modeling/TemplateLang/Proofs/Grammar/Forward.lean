import TemplateLang.Proofs.Grammar.Blocks
import TemplateLang.Proofs.Literal

/-!
# Derivations go forward

What is derived between two places is derived from the text between them: the second
place lies at or after the first.
-/

namespace TemplateLang

namespace Grammar

open Cursor

/-! ## The leaves -/

theorem reaches_of_wordExpr {cursor next : Cursor} {word : String} {expr : Expr}
    (read : wordExpr cursor word = .ok (expr, next)) : next = cursor.skipWord :=
  (wordExpr_eq_ok.mp read).1

theorem reaches_of_literal {cursor next : Cursor} {expr : Expr}
    (read : literal cursor = .ok (expr, next)) : cursor.Reaches next := by
  rcases literal_eq_ok.mp read with ⟨value, quote, found, -⟩ | ⟨-, value, found, -⟩
  · exact (Literal.passes_of_string found).reaches
  · exact (Literal.passes_of_number found).reaches

theorem reaches_of_fieldKey {cursor next : Cursor} {key : FieldKey}
    (read : fieldKey cursor = .ok (key, next)) : cursor.Reaches next := by
  rcases fieldKey_eq_ok.mp read with ⟨_, -, -, rfl⟩ | ⟨-, -, -, rfl⟩
  · exact cursor.reaches_skipWord
  · exact cursor.reaches_skip _

/-! ## Expressions -/

theorem Derives.reaches {setting : Setting} {goal : Goal} {cursor next : Cursor}
    (derived : Derives setting goal cursor next) : cursor.Reaches next := by
  induction derived with
  | paren _ _ _ content =>
    exact ((reaches_skip _ 1).trans content).trans (reaches_skip _ 1)
  | array _ _ content => exact (reaches_skip _ 1).trans content
  | word _ _ _ read => exact reaches_of_wordExpr read ▸ reaches_skipWord _
  | literal _ _ _ read => exact reaches_of_literal read
  | noSuffix | noInfix | noArgument | refused | noPipe => exact Reaches.refl _
  | field _ read _ others =>
    exact ((reaches_skip _ 1).trans (reaches_of_fieldKey read)).trans others
  | item _ _ _ _ content others =>
    exact (((reaches_skip _ 1).trans content).trans (reaches_skip _ 1)).trans others
  | call _ _ _ content others => exact ((reaches_skip _ 1).trans content).trans others
  | suffixed _ _ start others => exact start.trans others
  | updateBefore _ _ _ operand => exact (reaches_skip _ 2).trans operand
  | updateAfter _ _ _ _ operand => exact operand.trans (reaches_skip _ 2)
  | noUpdate _ _ _ operand => exact operand
  | operator _ before _ _ operand =>
    exact ((reaches_of_trivia before).trans (reaches_skip _ 1)).trans operand
  | operand _ before _ _ after operand =>
    exact ((reaches_of_trivia before).trans operand).trans (reaches_of_trivia after)
  | infixMore _ _ _ operand others => exact ((reaches_skip _ _).trans operand).trans others
  | tightest _ operand => exact operand
  | tier _ _ start others => exact start.trans others
  | test _ _ start => exact start
  | choice _ _ _ _ _ start first second =>
    exact (((start.trans (reaches_skip _ 1)).trans first).trans (reaches_skip _ 1)).trans second
  | itemsEnd _ => exact (reaches_skipBlanks _).trans (reaches_skip _ 1)
  | itemsLast _ _ _ _ content =>
    exact ((reaches_skipBlanks _).trans content).trans (reaches_skip _ 1)
  | itemsMore _ _ _ _ content others =>
    exact (((reaches_skipBlanks _).trans content).trans (reaches_skip _ 1)).trans others
  | argument _ _ _ operand others => exact operand.trans others
  | noCommand _ _ start => exact start
  | command _ _ _ start arguments => exact start.trans arguments
  | pipe _ before _ after _ _ callee arguments others =>
    exact (((((reaches_skip _ 1).trans (reaches_of_trivia before)).trans callee).trans
      (reaches_of_trivia after)).trans arguments).trans others
  | pipeline _ _ start others => exact start.trans others

/-! ## Raw text -/

/-- The text that `raw` takes, up to the next opening mark. -/
def rawText (setting : Setting) (text : List Char) : List Char :=
  let opening := setting.tags.opening.toList
  if opening.isEmpty then text
  else match cutBefore? opening text with
    | some (front, _) => front
    | none => text

theorem raw_eq (setting : Setting) (cursor : Cursor) :
    raw setting cursor =
      (.raw (String.ofList (rawText setting cursor.rest))
          (cursor.spanTo (cursor.skip (rawText setting cursor.rest).length)),
        cursor.skip (rawText setting cursor.rest).length) :=
  rfl

/-- Raw text is free of the opening delimiter, and after it the text ends or the
delimiter stands. -/
theorem rawText_spec (setting : Setting) (text : List Char) :
    ∃ after, text = rawText setting text ++ after ∧
      (setting.tags.opening ≠ "" → ¬ setting.tags.opening.toList <:+: rawText setting text) ∧
      (after = [] ∨ startsWithMark after setting.tags.opening.toList = true) := by
  unfold rawText
  dsimp only
  split
  · rename_i empty
    have noOpening : setting.tags.opening = "" := by
      rw [List.isEmpty_iff] at empty
      exact String.toList_eq_nil_iff.mp empty
    exact ⟨[], by simp, fun some => absurd noOpening some, .inl rfl⟩
  · rename_i some
    rw [List.isEmpty_iff] at some
    split
    · rename_i front after cut
      obtain ⟨parts, starts, -⟩ := cutBefore?_eq_some_iff.mp cut
      exact ⟨after, parts.symm, fun _ => not_infix_of_cutBefore?_eq_some some cut,
        .inr (startsWithMark_iff.mpr ⟨some, starts⟩)⟩
    · rename_i none
      exact ⟨[], by simp, fun _ => not_infix_of_cutBefore?_eq_none none, .inl rfl⟩

theorem rawText_ne_nil {setting : Setting} {text : List Char} (notDone : text ≠ [])
    (noTag : startsWithMark text setting.tags.opening.toList = false) :
    rawText setting text ≠ [] := by
  intro empty
  obtain ⟨after, split, -, ends⟩ := rawText_spec setting text
  rw [empty, List.nil_append] at split
  rcases ends with rfl | starts
  · exact notDone split
  · rw [← split, noTag] at starts
    exact Bool.noConfusion starts

/-- After raw text no other raw text begins. -/
theorem raw_stops (setting : Setting) (cursor : Cursor) :
    (raw setting cursor).2.rest = [] ∨
      startsWithMark (raw setting cursor).2.rest setting.tags.opening.toList = true := by
  obtain ⟨after, split, -, ends⟩ := rawText_spec setting cursor.rest
  have restEq : (raw setting cursor).2.rest = after := by
    rw [raw_eq, rest_skip]
    conv => lhs; arg 2; rw [split]
    exact List.drop_left
  rwa [restEq]

theorem reaches_raw (setting : Setting) (cursor : Cursor) :
    cursor.Reaches (raw setting cursor).2 :=
  reaches_skip cursor _

/-! ## Templates -/

theorem reaches_of_declaration? {cursor next : Cursor} {target : Identifier}
    (declares : declaration? cursor = some (target, next)) : cursor.Reaches next := by
  obtain ⟨-, -, -, rfl⟩ := declaration?_eq_some_iff.mp declares
  exact ((cursor.reaches_skipWord).trans (reaches_skipBlanks _)).trans (reaches_skip _ 2)

theorem reaches_of_binding {missing : Fault} {cursor next : Cursor} {name : Identifier}
    (binds : binding missing cursor = .ok (name, next)) : cursor.Reaches next := by
  obtain ⟨-, -, -, rfl⟩ := binding_eq_ok.mp binds
  exact cursor.reaches_skipWord

theorem reaches_of_indexBinding {cursor next : Cursor} {name : Option Identifier}
    (binds : indexBinding cursor = .ok (name, next)) : cursor.Reaches next := by
  rcases indexBinding_eq_ok.mp binds with ⟨-, _, _, read, -, rfl⟩ | ⟨-, -, rfl⟩
  · exact (((cursor.reaches_skip 1).trans (reaches_skipBlanks _)).trans
      (reaches_of_binding read)).trans (reaches_skipBlanks _)
  · exact Reaches.refl _

theorem EndsBody.reaches {setting : Setting} {cursor next : Cursor} {opening : Tag}
    {word : String} (ends : EndsBody setting cursor opening word next) :
    cursor.Reaches next := by
  obtain ⟨-, middle, opens, -, rfl⟩ := ends
  exact (reaches_of_openingTag opens).trans (reaches_skipWord middle)

theorem DerivesBlock.reaches {setting : Setting} {goal : BlockGoal} {cursor next : Cursor}
    (derived : DerivesBlock setting goal cursor next) : cursor.Reaches next := by
  induction derived with
  | elementsEnd | empty => exact Reaches.refl _
  | raw _ _ _ others => exact (reaches_raw _ _).trans others
  | tag _ opens _ closes _ content others =>
    exact (((reaches_of_openingTag opens).trans content).trans
      (reaches_of_closingTag closes)).trans others
  | assign _ declares _ content => exact (reaches_of_declaration? declares).trans content.reaches
  | branchStatement _ _ _ _ content => exact content
  | loop _ _ _ bindsValue bindsIndex wordIn head closes _ _ ends content =>
    obtain ⟨-, rfl, -⟩ := requireIn_eq_ok.mp wordIn
    have names := (((reaches_skipWord _).trans (reaches_skipBlanks _)).trans
      (reaches_of_binding bindsValue)).trans
        ((reaches_skipBlanks _).trans (reaches_of_indexBinding bindsIndex))
    exact ((((names.trans (reaches_skip _ 2)).trans head.reaches).trans
      (reaches_of_closingTag closes)).trans content).trans ends.reaches
  | breakLoop | continueLoop => exact reaches_skipWord _
  | expression _ _ _ content => exact content.reaches
  | branch head closes _ _ _ content others =>
    exact ((((reaches_skipWord _).trans head.reaches).trans
      (reaches_of_closingTag closes)).trans content).trans others
  | done ends => exact ends.reaches
  | chain ends _ _ _ content =>
    exact (ends.reaches.trans (reaches_skipBlanks _)).trans content
  | otherwise ends _ _ closes _ _ endsAll content =>
    exact (((ends.reaches.trans (reaches_skipBlanks _)).trans
      (reaches_of_closingTag closes)).trans content).trans endsAll.reaches

/-- Elements that nothing stops are read up to the end of the text. -/
theorem DerivesBlock.atEnd {setting : Setting} {elements : List Element} {cursor next : Cursor}
    (derived : DerivesBlock setting (.elements [] elements) cursor next) : next.rest = [] := by
  generalize goalEq : BlockGoal.elements [] elements = goal at derived
  induction derived generalizing elements with
  | elementsEnd ends =>
    obtain ⟨rfl, -⟩ := BlockGoal.elements.inj goalEq
    rw [Bool.or_eq_true, List.isEmpty_iff] at ends
    rcases ends with atEnd | stopped
    · exact atEnd
    · obtain ⟨_, _, _, -, -, isStop⟩ := atBlockWord_iff.mp stopped
      simp at isStop
  | raw _ _ _ ih =>
    obtain ⟨rfl, -⟩ := BlockGoal.elements.inj goalEq
    exact ih rfl
  | tag _ _ _ _ _ _ ih =>
    obtain ⟨rfl, -⟩ := BlockGoal.elements.inj goalEq
    exact ih rfl
  | _ => simp at goalEq

end Grammar

end TemplateLang
