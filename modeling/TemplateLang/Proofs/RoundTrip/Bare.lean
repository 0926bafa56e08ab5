import TemplateLang.Print.Expression
import TemplateLang.Proofs.Outline.Listing

/-!
# Expressions without spans and comments

`Expr.bare` is what remains of an expression when spans and comments are set aside and every
member whose key can stand after a dot has it there.  It is what printing and reading an
expression keep.  The choices of the printer between several forms depend on nothing else,
except that a key with comments stays in brackets.
-/

namespace TemplateLang

/-- The note of a bare expression. -/
def Note.blank : Note :=
  Note.at default

/-- A note without comments adds none. -/
theorem Note.around_bare {note : Note} (bare : note.isBare = true) (inside : List Comment) :
    note.around inside = inside := by
  obtain ⟨noLeading, noTrailing⟩ : note.leading = [] ∧ note.trailing = [] := by
    simpa [Note.isBare] using bare
  rw [Note.around, noLeading, noTrailing, List.nil_append, List.append_nil]

/-- A key in brackets as the key after a dot that is printed for it. -/
def fixedKey? : Expr → Option FieldKey
  | .number x note => if note.isBare && Print.isDotIndex x then some (.position x) else none
  | .text value _ note =>
    if note.isBare && Print.isWordShaped value.toList && !isReserved value then
      some (.name value)
    else none
  | _ => none

/-- The literals that can stand after a dot: positions, and texts that are words. -/
inductive IsFixed : Expr → FieldKey → Prop
  | position {x : Number} {note : Note} (bare : note.isBare = true)
      (isDot : Print.isDotIndex x = true) : IsFixed (.number x note) (.position x)
  | name {value : String} {quote : Quote} {note : Note} (bare : note.isBare = true)
      (shaped : Print.isWordShaped value.toList = true) (free : isReserved value = false) :
      IsFixed (.text value quote note) (.name value)

theorem fixedKey?_eq_some_iff {key : Expr} {fixed : FieldKey} :
    fixedKey? key = some fixed ↔ IsFixed key fixed := by
  constructor
  · intro isFixed
    cases key with
    | number x note =>
      simp only [fixedKey?, Option.ite_none_right_eq_some, Bool.and_eq_true,
        Option.some.injEq] at isFixed
      obtain ⟨⟨bare, isDot⟩, rfl⟩ := isFixed
      exact .position bare isDot
    | text value quote note =>
      simp only [fixedKey?, Option.ite_none_right_eq_some, Bool.and_eq_true, Bool.not_eq_true',
        Option.some.injEq] at isFixed
      obtain ⟨⟨⟨bare, shaped⟩, free⟩, rfl⟩ := isFixed
      exact .name bare shaped free
    | _ => simp [fixedKey?] at isFixed
  · intro isFixed
    cases isFixed with
    | position bare isDot => simp [fixedKey?, bare, isDot]
    | name bare shaped free => simp [fixedKey?, bare, shaped, free]

/-- The text of a key after a dot. -/
def FieldKey.text : FieldKey → String
  | .name word => word
  | .position index => index.text

theorem dotKey?_eq (key : Expr) : Print.dotKey? key = (fixedKey? key).map FieldKey.text := by
  cases key with
  | number => simp only [Print.dotKey?, fixedKey?]; split <;> rfl
  | text => simp only [Print.dotKey?, fixedKey?]; split <;> rfl
  | _ => rfl

mutual

/-- An expression without its spans and comments, and with the keys that can stand after a
dot in that place. -/
def Expr.bare : Expr → Expr
  | .null _ => .null .blank
  | .undefined _ => .undefined .blank
  | .boolean value _ => .boolean value .blank
  | .number value _ => .number value .blank
  | .text value quote _ => .text value quote .blank
  | .identifier name _ => .identifier name .blank
  | .array items _ => .array (bareAll items) .blank
  | .field object (.name name) _ _ => .field object.bare (.name name) default .blank
  | .field object (.position index) _ _ =>
    if Print.isDotIndex index then .field object.bare (.position index) default .blank
    else .item object.bare (.number index .blank) .blank
  | .item object key _ =>
    match fixedKey? key with
    | some key => .field object.bare key default .blank
    | none => .item object.bare key.bare .blank
  | .call callee arguments isPiped _ => .call callee.bare (bareAll arguments) isPiped .blank
  | .unary op argument _ => .unary op argument.bare .blank
  | .update op place argument _ => .update op place argument.bare .blank
  | .binary op left right _ => .binary op left.bare right.bare .blank
  | .logical op left right _ => .logical op left.bare right.bare .blank
  | .conditional test consequent alternate _ =>
    .conditional test.bare consequent.bare alternate.bare .blank
  | .paren inner _ => .paren inner.bare .blank

/-- Bare expressions in order. -/
def bareAll : List Expr → List Expr
  | [] => []
  | first :: rest => first.bare :: bareAll rest

end

theorem bareAll_eq_map (exprs : List Expr) : bareAll exprs = exprs.map Expr.bare := by
  induction exprs with
  | nil => rfl
  | cons first rest ih => exact congrArg (first.bare :: ·) ih

namespace Expr

@[simp]
theorem bare_withNote (note : Note) (expr : Expr) : (expr.withNote note).bare = expr.bare := by
  cases expr with
  | field object key => cases key <;> rfl
  | _ => rfl

theorem bare_position {object : Expr} {index : Number} {keySpan : Span} {note : Note} :
    (field object (.position index) keySpan note).bare =
      if Print.isDotIndex index then field object.bare (.position index) default .blank
      else item object.bare (.number index .blank) .blank := by
  rw [bare]

theorem bare_item {object key : Expr} {note : Note} :
    (item object key note).bare =
      match fixedKey? key with
      | some key => field object.bare key default .blank
      | none => item object.bare key.bare .blank :=
  rfl

theorem bare_item_none {object key : Expr} {note : Note} (notFixed : fixedKey? key = none) :
    (item object key note).bare = item object.bare key.bare .blank := by
  rw [bare_item, notFixed]

/-- What holds of every bare expression of a form. -/
theorem bare_member {motive : Expr → Prop} {object : Expr}
    (field : ∀ object key keySpan note, motive (.field object key keySpan note))
    (item : ∀ object key note, motive (.item object key note)) :
    (∀ key keySpan note, motive (Expr.field object key keySpan note).bare) ∧
      ∀ key note, motive (Expr.item object key note).bare := by
  constructor
  · intro key keySpan note
    cases key with
    | name => exact field _ _ _ _
    | position index =>
      rw [bare_position]
      split
      · exact field _ _ _ _
      · exact item _ _ _
  · intro key note
    rw [bare_item]
    split
    · exact field _ _ _ _
    · exact item _ _ _

theorem comments_call (callee : Expr) (arguments : List Expr) (note : Note) :
    (call callee arguments false note).comments =
      note.around (callee.comments ++ exprComments arguments) := by
  cases arguments <;> rfl

@[simp]
theorem comments_withNote_length (note : Note) {expr : Expr} (bare : expr.note.isBare = true) :
    (expr.withNote note).comments.length =
      note.leading.length + expr.comments.length + note.trailing.length := by
  rw [comments_withNote bare, Note.around, List.length_append, List.length_append]

/-- Comments on both sides of an expression that has none. -/
theorem addComments_eq {expr : Expr} (bare : expr.note.isBare = true)
    (leading trailing : List Comment) :
    (expr.addTrailing trailing).addLeading leading =
      expr.withNote ⟨expr.span, leading, trailing⟩ := by
  obtain ⟨noLeading, noTrailing⟩ : expr.note.leading = [] ∧ expr.note.trailing = [] := by
    simpa [Note.isBare] using bare
  have twice (note note' : Note) : (expr.withNote note).withNote note' = expr.withNote note' := by
    cases expr <;> rfl
  simp [addTrailing, addLeading, noLeading, noTrailing, twice, span]

/-! ## What the printer looks at

Each of these depends on the bare expression alone. -/

section

open Print

@[simp]
theorem isSimpleCallee_bare (expr : Expr) : isSimpleCallee expr.bare = isSimpleCallee expr := by
  cases expr with
  | field => exact (bare_member (motive := fun bare => isSimpleCallee bare = true)
      (fun _ _ _ _ => rfl) fun _ _ _ => rfl).1 _ _ _
  | item => exact (bare_member (motive := fun bare => isSimpleCallee bare = true)
      (fun _ _ _ _ => rfl) fun _ _ _ => rfl).2 _ _
  | _ => rfl

@[simp]
theorem isTight_bare (expr : Expr) : isTight expr.bare = isTight expr := by
  cases expr with
  | field => exact (bare_member (motive := fun bare => isTight bare = true)
      (fun _ _ _ _ => rfl) fun _ _ _ => rfl).1 _ _ _
  | item => exact (bare_member (motive := fun bare => isTight bare = true)
      (fun _ _ _ _ => rfl) fun _ _ _ => rfl).2 _ _
  | _ => rfl

@[simp]
theorem isSigned_bare (expr : Expr) : isSigned expr.bare = isSigned expr := by
  cases expr with
  | field => exact (bare_member (motive := fun bare => isSigned bare = false)
      (fun _ _ _ _ => rfl) fun _ _ _ => rfl).1 _ _ _
  | item => exact (bare_member (motive := fun bare => isSigned bare = false)
      (fun _ _ _ _ => rfl) fun _ _ _ => rfl).2 _ _
  | unary op => cases op <;> rfl
  | update op place => cases place <;> rfl
  | _ => rfl

@[simp]
theorem isAssignable_bare (expr : Expr) : expr.bare.isAssignable = expr.isAssignable := by
  induction expr using Expr.isAssignable.induct with
  | case4 inner note ih => exact ih
  | case1 => rfl
  | case2 => exact (bare_member (motive := fun bare => bare.isAssignable = true)
      (fun _ _ _ _ => rfl) fun _ _ _ => rfl).1 _ _ _
  | case3 => exact (bare_member (motive := fun bare => bare.isAssignable = true)
      (fun _ _ _ _ => rfl) fun _ _ _ => rfl).2 _ _
  | case5 expr notIdentifier notField notItem notParen =>
    cases expr with
    | identifier => exact absurd rfl (notIdentifier _ _)
    | field => exact absurd rfl (notField _ _ _ _)
    | item => exact absurd rfl (notItem _ _ _)
    | paren => exact absurd rfl (notParen _ _)
    | _ => rfl

@[simp]
theorem isCommand_bare (callee : Expr) (arguments : List Expr) :
    Print.isCommand callee.bare (bareAll arguments) = Print.isCommand callee arguments := by
  cases arguments with
  | nil => rfl
  | cons first rest =>
    change Print.isCommand callee.bare (first.bare :: bareAll rest) = _
    rw [bareAll_eq_map]
    simp [Print.isCommand, List.all_map, Function.comp_def]

theorem isTight_all_bare (exprs : List Expr) : (bareAll exprs).all isTight = exprs.all isTight := by
  rw [bareAll_eq_map]
  simp [List.all_map, Function.comp_def]

end

/-- Whether a call is printed as a command or a pipe where they may stand. -/
def isSpread : Expr → Bool
  | call callee arguments isPiped _ => isPiped || Print.isCommand callee arguments
  | _ => false

@[simp]
theorem isSpread_bare (expr : Expr) : expr.bare.isSpread = expr.isSpread := by
  cases expr with
  | field => exact (bare_member (motive := fun bare => bare.isSpread = false)
      (fun _ _ _ _ => rfl) fun _ _ _ => rfl).1 _ _ _
  | item => exact (bare_member (motive := fun bare => bare.isSpread = false)
      (fun _ _ _ _ => rfl) fun _ _ _ => rfl).2 _ _
  | call callee arguments isPiped note =>
    exact congrArg (isPiped || ·) (isCommand_bare callee arguments)
  | _ => rfl

/-! ## Keys -/

/-- A bare expression that is no member comes from an expression of the same form. -/
theorem not_member_of_bare {expr whole : Expr} (same : expr.bare = whole)
    (notField : ∀ object key keySpan note, whole ≠ field object key keySpan note)
    (notItem : ∀ object key note, whole ≠ item object key note) :
    (∀ object key keySpan note, expr ≠ field object key keySpan note) ∧
      ∀ object key note, expr ≠ item object key note := by
  subst same
  constructor
  · rintro object key keySpan note rfl
    exact (bare_member (motive := fun bare => bare ≠ (field object key keySpan note).bare)
      (fun _ _ _ _ => (notField _ _ _ _).symm) fun _ _ _ => (notItem _ _ _).symm).1 _ _ _ rfl
  · rintro object key note rfl
    exact (bare_member (motive := fun bare => bare ≠ (item object key note).bare)
      (fun _ _ _ _ => (notField _ _ _ _).symm) fun _ _ _ => (notItem _ _ _).symm).2 _ _ rfl

theorem bare_eq_number {expr : Expr} {x : Number} {note : Note}
    (same : expr.bare = number x note) : ∃ note', expr = number x note' := by
  obtain ⟨notField, notItem⟩ := not_member_of_bare same (by simp) (by simp)
  cases expr with
  | number y note' =>
    obtain ⟨rfl, -⟩ := number.inj same
    exact ⟨note', rfl⟩
  | field => exact absurd rfl (notField _ _ _ _)
  | item => exact absurd rfl (notItem _ _ _)
  | _ => exact Expr.noConfusion same

theorem bare_eq_text {expr : Expr} {value : String} {quote : Quote} {note : Note}
    (same : expr.bare = text value quote note) : ∃ note', expr = text value quote note' := by
  obtain ⟨notField, notItem⟩ := not_member_of_bare same (by simp) (by simp)
  cases expr with
  | text value' quote' note' =>
    obtain ⟨rfl, rfl, -⟩ := text.inj same
    exact ⟨note', rfl⟩
  | field => exact absurd rfl (notField _ _ _ _)
  | item => exact absurd rfl (notItem _ _ _)
  | _ => exact Expr.noConfusion same

/-- A call is read as one. -/
theorem bare_eq_call {expr callee : Expr} {arguments : List Expr} {isPiped : Bool} {note : Note}
    (same : expr.bare = call callee arguments isPiped note) :
    ∃ callee' arguments' note', expr = call callee' arguments' isPiped note' := by
  obtain ⟨notField, notItem⟩ := not_member_of_bare same (by simp) (by simp)
  cases expr with
  | call callee' arguments' isPiped' note' =>
    obtain ⟨-, -, rfl, -⟩ := call.inj same
    exact ⟨callee', arguments', note', rfl⟩
  | field => exact absurd rfl (notField _ _ _ _)
  | item => exact absurd rfl (notItem _ _ _)
  | _ => exact Expr.noConfusion same

theorem isBare_iff_length {note : Note} : note.isBare = true ↔ (note.around []).length = 0 := by
  simp [Note.isBare, Note.around]

theorem isBare_eq_of_length {first second : Note}
    (same : (first.around []).length = (second.around []).length) :
    first.isBare = second.isBare := by
  rw [Bool.eq_iff_iff, isBare_iff_length, isBare_iff_length, same]

/-- Whether a key can stand after a dot depends on the bare key and on whether it has
comments. -/
theorem fixedKey?_eq {first second : Expr} (same : first.bare = second.bare)
    (comments : first.comments.length = second.comments.length) :
    fixedKey? first = fixedKey? second := by
  cases second with
  | number x note =>
    obtain ⟨note', rfl⟩ := bare_eq_number same
    simp only [Expr.comments] at comments
    simp only [fixedKey?, isBare_eq_of_length comments]
  | text value quote note =>
    obtain ⟨note', rfl⟩ := bare_eq_text same
    simp only [Expr.comments] at comments
    simp only [fixedKey?, isBare_eq_of_length comments]
  | _ =>
    cases first with
    | number x note =>
      obtain ⟨note', isNumber⟩ := bare_eq_number same.symm
      simp at isNumber
    | text value quote note =>
      obtain ⟨note', isText⟩ := bare_eq_text same.symm
      simp at isText
    | _ => rfl

end Expr

end TemplateLang
