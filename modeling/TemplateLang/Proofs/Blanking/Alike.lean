import TemplateLang.Proofs.Blanking.Twin
import TemplateLang.Proofs.Essence.Expression

/-!
# Expressions that differ by a comment

Two expressions are alike if they have the same essence, and comments beside them both or
neither, unless the comment of a gap is one of them.  A call takes further arguments only if it
is bare.  So expressions stay alike if the comment is not beside a call that is called itself,
and then the comment spares them.
-/

namespace TemplateLang

/-! ## Spared expressions -/

/-- Whether a comment stands beside an expression. -/
def Note.holds (note : Note) (comment : Comment) : Bool :=
  (note.leading ++ note.trailing).contains comment

/-- Whether a comment does not stand beside a call that could take more arguments. -/
def Expr.isApartFrom (comment : Comment) : Expr → Bool
  | .call _ _ false note => !note.holds comment
  | _ => true

mutual

/-- Whether a comment stands beside no call in an expression that is called itself. -/
def Expr.isSparedBy (comment : Comment) : Expr → Bool
  | .null _ | .undefined _ | .boolean _ _ | .number _ _ | .text _ _ _ | .identifier _ _ => true
  | .array items _ => allSparedBy comment items
  | .field object _ _ _ => object.isSparedBy comment
  | .item object key _ => object.isSparedBy comment && key.isSparedBy comment
  | .call callee arguments _ _ =>
    callee.isSparedBy comment && callee.isApartFrom comment && allSparedBy comment arguments
  | .unary _ argument _ | .update _ _ argument _ => argument.isSparedBy comment
  | .binary _ left right _ | .logical _ left right _ =>
    left.isSparedBy comment && right.isSparedBy comment
  | .conditional test consequent alternate _ =>
    test.isSparedBy comment && consequent.isSparedBy comment && alternate.isSparedBy comment
  | .paren inner _ => inner.isSparedBy comment

/-- Whether a comment spares each of several expressions. -/
def allSparedBy (comment : Comment) : List Expr → Bool
  | [] => true
  | first :: rest => first.isSparedBy comment && allSparedBy comment rest

end

variable {comment : Comment}

theorem allSparedBy_append (first second : List Expr) :
    allSparedBy comment (first ++ second) =
      (allSparedBy comment first && allSparedBy comment second) := by
  induction first with
  | nil => rfl
  | cons expr others ih => simp [allSparedBy, ih, Bool.and_assoc]

namespace Expr

theorem isSparedBy_withNote (note : Note) (expr : Expr) :
    (expr.withNote note).isSparedBy comment = expr.isSparedBy comment := by
  cases expr <;> rfl

/-- What is spared with its arguments is spared in all parts. -/
theorem spared_of_applyTo {callee : Expr} {first extra : List Expr} {isPiped : Bool} {span : Span}
    (spared : (callee.applyTo first extra isPiped span).isSparedBy comment = true) :
    callee.isSparedBy comment = true ∧ allSparedBy comment first = true ∧
      allSparedBy comment extra = true := by
  rcases applyTo_cases callee first extra isPiped span with
    ⟨inner, arguments, note, -, rfl, same⟩ | same
  all_goals rw [same] at spared
  · simp only [isSparedBy, allSparedBy_append, Bool.and_eq_true] at spared ⊢
    exact ⟨⟨spared.1, spared.2.1.2⟩, spared.2.1.1, spared.2.2⟩
  · simp only [isSparedBy, allSparedBy_append, Bool.and_eq_true] at spared
    exact ⟨spared.1.1, spared.2⟩

/-! ## Essences -/

theorem essence_withNote (note : Note) (expr : Expr) :
    (expr.withNote note).essence = expr.essence := by
  cases expr with
  | field object key => cases key <;> rfl
  | _ => rfl

theorem isCallable_essence (expr : Expr) : expr.essence.isCallable = expr.isCallable := by
  cases expr with
  | field object key =>
    cases key with
    | name => rfl
    | position => rw [essence]; split <;> rfl
  | item object key => rw [essence]; split <;> rfl
  | call callee arguments isPiped => cases isPiped <;> rfl
  | _ => rfl

theorem isAssignable_essence : ∀ expr : Expr, expr.essence.isAssignable = expr.isAssignable
  | .field _ (.name _) _ _ => rfl
  | .field _ (.position _) _ _ => by rw [essence]; split <;> rfl
  | .item _ _ _ => by rw [essence]; split <;> rfl
  | .paren inner _ => isAssignable_essence inner
  | .null _ | .undefined _ | .boolean _ _ | .number _ _ | .text _ _ _ | .identifier _ _
  | .array _ _ | .call _ _ _ _ | .unary _ _ _ | .update _ _ _ _ | .binary _ _ _ _
  | .logical _ _ _ _ | .conditional _ _ _ _ => rfl

theorem isCallable_eq {expr expr' : Expr} (same : expr'.essence = expr.essence) :
    expr'.isCallable = expr.isCallable := by
  rw [← isCallable_essence, same, isCallable_essence]

theorem isAssignable_eq {expr expr' : Expr} (same : expr'.essence = expr.essence) :
    expr'.isAssignable = expr.isAssignable := by
  rw [← isAssignable_essence, same, isAssignable_essence]

end Expr

theorem essenceAll_append (first second : List Expr) :
    essenceAll (first ++ second) = essenceAll first ++ essenceAll second := by
  induction first with
  | nil => rfl
  | cons expr others ih => simp [essenceAll, ih]

/-! ## Alike expressions -/

/-- Two expressions have the same essence, and comments beside them both or neither. -/
structure Expr.Alike (gap : Gap) (expr expr' : Expr) : Prop where
  essence : expr'.essence = expr.essence
  bare : expr.note.holds gap.comment = true ∨ expr'.note.isBare = expr.note.isBare

namespace Expr

variable {gap : Gap} {expr expr' callee callee' : Expr} {first first' extra extra' : List Expr}
  {isPiped : Bool} {span span' : Span} {note : Note}

theorem alike_of_bare (same : expr'.essence = expr.essence) (bare : expr.note.isBare = true)
    (bare' : expr'.note.isBare = true) : expr.Alike gap expr' :=
  ⟨same, .inr (bare'.trans bare.symm)⟩

/-- Only calls have the essence of a call. -/
theorem essence_eq_call {arguments : List Expr}
    (same : expr.essence = (call callee arguments isPiped note).essence) :
    ∃ callee' arguments' note', expr = call callee' arguments' isPiped note' ∧
      callee'.essence = callee.essence ∧ essenceAll arguments' = essenceAll arguments := by
  cases expr with
  | call callee' arguments' isPiped' note' =>
    simp only [essence, call.injEq, and_true] at same
    rcases same with ⟨sameCallee, sameArguments, rfl⟩
    exact ⟨callee', arguments', note', rfl, sameCallee, sameArguments⟩
  | field object key =>
    cases key with
    | name => simp [essence] at same
    | position => rw [essence] at same; split at same <;> simp [essence] at same
  | item object key => rw [essence] at same; split at same <;> simp [essence] at same
  | _ => simp [essence] at same

/-- With other comments beside them, both are bare or neither, or the gap is there. -/
theorem alike_withNote (same : expr'.essence = expr.essence)
    {leading leading' trailing trailing' : List Comment} (before : Misses gap leading leading')
    (after : Misses gap trailing trailing') :
    (expr.withNote ⟨span, leading, trailing⟩).Alike gap
      (expr'.withNote ⟨span', leading', trailing'⟩) := by
  constructor
  · rw [essence_withNote, essence_withNote, same]
  · rw [note_withNote, note_withNote]
    rcases before.append after with isIn | lengths
    · exact .inl (by simpa [Note.holds] using isIn)
    · right
      apply isBare_eq_of_length
      simpa [Note.around] using lengths

/-- Whether an expression is a call that could take more arguments. -/
def IsOpenCall (expr : Expr) : Prop :=
  ∃ callee arguments note, expr = call callee arguments false note

theorem IsOpenCall.of_essence (isOpen : expr.IsOpenCall) (same : expr'.essence = expr.essence) :
    expr'.IsOpenCall := by
  rcases isOpen with ⟨callee, arguments, note, rfl⟩
  rcases essence_eq_call same with ⟨callee', arguments', note', rfl, -⟩
  exact ⟨callee', arguments', note', rfl⟩

theorem applyTo_of_not_open (notOpen : ¬ callee.IsOpenCall) :
    callee.applyTo first extra isPiped span =
      call callee (first ++ extra) isPiped (Note.at span) := by
  rcases applyTo_cases callee first extra isPiped span with
    ⟨inner, arguments, note, -, isCall, -⟩ | same
  · exact absurd ⟨inner, arguments, note, isCall⟩ notOpen
  · exact same

/-- A call on more arguments is alike if the callees are, and the gap is not beside one that
could take them. -/
theorem Alike.applyTo (alike : callee.Alike gap callee')
    (sameFirst : essenceAll first' = essenceAll first)
    (sameExtra : essenceAll extra' = essenceAll extra)
    (spared : (callee.applyTo first extra isPiped span).isSparedBy gap.comment = true) :
    (callee.applyTo first extra isPiped span).Alike gap
      (callee'.applyTo first' extra' isPiped span') := by
  have wrapped : (call callee (first ++ extra) isPiped (Note.at span)).Alike gap
      (call callee' (first' ++ extra') isPiped (Note.at span')) := by
    refine alike_of_bare ?_ rfl rfl
    simp only [Expr.essence, essenceAll_append, alike.essence, sameFirst, sameExtra]
  by_cases isOpen : callee.IsOpenCall
  · have isOpen' := isOpen.of_essence alike.essence
    rcases isOpen with ⟨inner, arguments, note, rfl⟩
    rcases essence_eq_call alike.essence with ⟨inner', arguments', note', rfl, same, sameAll⟩
    unfold Expr.applyTo at spared ⊢
    dsimp only at spared ⊢
    -- Whether arguments are passed on depends on the comments beside the callee alone.
    have bareEq : note'.isBare = note.isBare := by
      rcases alike.bare with beside | bareEq
      · rw [Expr.note] at beside
        split at spared
        · rename_i bare
          simp_all [Note.isBare, Note.holds]
        · simp [isSparedBy, isApartFrom, beside] at spared
      · exact bareEq
    rw [bareEq]
    split
    · refine alike_of_bare ?_ rfl rfl
      simp only [Expr.essence, essenceAll_append, same, sameAll, sameFirst, sameExtra]
    · exact wrapped
  · have notOpen' : ¬ callee'.IsOpenCall := fun isOpen' =>
      isOpen (isOpen'.of_essence alike.essence.symm)
    rw [applyTo_of_not_open isOpen, applyTo_of_not_open notOpen']
    exact wrapped

end Expr

end TemplateLang
