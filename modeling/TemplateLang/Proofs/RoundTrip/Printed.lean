import TemplateLang.Grammar.Expression
import TemplateLang.Proofs.RoundTrip.Bare
import TemplateLang.Proofs.RoundTrip.Comments

/-!
# The characters of printed expressions

The text of an expression as a list of characters, one equation for each form.  `core` is
the text without the comments of the expression's own note.
-/

namespace TemplateLang

namespace Print

/-- The characters of a printed expression. -/
def chars (top : Bool) (expr : Expr) : List Char :=
  (expression top expr).toList

/-- The characters of an expression without the comments around it. -/
def core (top : Bool) (expr : Expr) : List Char :=
  chars top (expr.withNote .blank)

/-- Expressions with commas between. -/
def listed : List Expr → List Char
  | [] => []
  | [expr] => chars false expr
  | expr :: rest => chars false expr ++ ',' :: ' ' :: listed rest

theorem listed_cons {exprs : List Expr} (expr : Expr) (others : exprs ≠ []) :
    listed (expr :: exprs) = chars false expr ++ ',' :: ' ' :: listed exprs := by
  cases exprs with
  | nil => exact absurd rfl others
  | cons => rw [listed]; exact List.cons_ne_nil _ _

/-- Expressions with a blank before each. -/
def spread (exprs : List Expr) : List Char :=
  exprs.flatMap fun expr => ' ' :: chars false expr

theorem expressions_eq_map (exprs : List Expr) :
    expressions exprs = exprs.map (expression false) := by
  induction exprs with
  | nil => rfl
  | cons expr rest ih => exact congrArg (expression false expr :: ·) ih

theorem toList_listed (exprs : List Expr) :
    (", ".intercalate (expressions exprs)).toList = listed exprs := by
  rw [expressions_eq_map]
  induction exprs with
  | nil => rfl
  | cons expr rest ih =>
    cases rest with
    | nil => simp [listed, chars]
    | cons second rest =>
      rw [List.map_cons, String.intercalate_cons_of_ne_nil (by simp), String.toList_append,
        String.toList_append, ih, listed_cons expr (List.cons_ne_nil second rest)]
      simp [chars]

theorem toList_spread (exprs : List Expr) :
    (String.join ((expressions exprs).map (" " ++ ·))).toList = spread exprs := by
  rw [expressions_eq_map]
  induction exprs with
  | nil => rfl
  | cons expr rest ih =>
    rw [List.map_cons, List.map_cons, String.join_cons, String.toList_append, ih]
    simp [spread, chars]

variable {top : Bool}

/-- The text of an expression is that of its form, with the comments of its note around. -/
theorem exists_form (top : Bool) (expr : Expr) :
    ∃ text, ∀ note, expression top (expr.withNote note) = withComments note text := by
  cases expr with
  | update op place argument => cases place <;> exact ⟨_, fun _ => rfl⟩
  | call callee arguments => cases arguments <;> exact ⟨_, fun _ => rfl⟩
  | _ => exact ⟨_, fun _ => rfl⟩

/-- The comments of an expression stand around its core. -/
theorem chars_eq (top : Bool) (expr : Expr) :
    chars top expr = leading expr.note.leading ++ core top expr ++ trailing expr.note.trailing := by
  obtain ⟨text, form⟩ := exists_form top expr
  have own := form expr.note
  rw [Expr.withNote_note] at own
  rw [core, chars, chars, own, form, toList_withComments, toList_withComments]
  simp [Note.blank, Note.at]

theorem chars_of_bare (expr : Expr) (bare : expr.note.isBare = true) :
    chars top expr = core top expr := by
  obtain ⟨noLeading, noTrailing⟩ : expr.note.leading = [] ∧ expr.note.trailing = [] := by
    simpa [Note.isBare] using bare
  rw [chars_eq, noLeading, noTrailing]
  simp

@[simp]
theorem core_withNote (note : Note) (expr : Expr) :
    core top (expr.withNote note) = core top expr := by
  unfold core
  congr 1
  cases expr <;> rfl

theorem chars_withNote (note : Note) (expr : Expr) :
    chars top (expr.withNote note) =
      leading note.leading ++ core top expr ++ trailing note.trailing := by
  rw [chars_eq, core_withNote, Expr.note_withNote]

theorem toList_blank (text : String) : (withComments .blank text).toList = text.toList := by
  rw [toList_withComments]
  simp [Note.blank, Note.at]

/-! ## One equation for each form -/

section

variable {note : Note}

theorem core_number (value : Number) :
    core top (.number value note) = (number value).toList :=
  toList_blank _

theorem core_text (value : String) (quote : Quote) :
    core top (.text value quote note) = (string value quote).toList :=
  toList_blank _

theorem core_identifier (name : String) : core top (.identifier name note) = name.toList :=
  toList_blank _

theorem core_array (items : List Expr) :
    core top (.array items note) = '[' :: (listed items ++ [']']) := by
  refine (toList_blank _).trans ?_
  rw [String.toList_append, String.toList_append, toList_listed]
  rfl

theorem core_field (object : Expr) (key : FieldKey) (keySpan : Span) :
    core top (.field object key keySpan note) = chars false object ++ (fieldKey key).toList :=
  (toList_blank _).trans String.toList_append

theorem core_item_eq (object key : Expr) :
    core top (.item object key note) = chars false object ++
      (match dotKey? key with
        | some key => "." ++ key
        | none => "[" ++ expression true key ++ "]").toList :=
  (toList_blank _).trans String.toList_append

/-- A key that can stand after a dot is printed there. -/
theorem core_item_fixed (object : Expr) {key : Expr} {fixed : FieldKey}
    (isFixed : fixedKey? key = some fixed) :
    core top (.item object key note) = chars false object ++ '.' :: fixed.text.toList := by
  rw [core_item_eq, dotKey?_eq, isFixed]
  simp

theorem core_item (object : Expr) {key : Expr} (notFixed : fixedKey? key = none) :
    core top (.item object key note) = chars false object ++ '[' :: (chars true key ++ [']']) := by
  rw [core_item_eq, dotKey?_eq, notFixed]
  simp [chars]

/-- A call with its arguments in parentheses. -/
def enclosed (callee : Expr) (arguments : List Expr) : List Char :=
  chars false callee ++ '(' :: (listed arguments ++ [')'])

/-- A call with its arguments after blanks. -/
def applied (callee : Expr) (arguments : List Expr) : List Char :=
  chars false callee ++ spread arguments

theorem toList_parenCall (callee : Expr) (arguments : List Expr) :
    (parenCall (expression false callee) (expressions arguments)).toList =
      enclosed callee arguments := by
  unfold parenCall enclosed
  rw [String.toList_append, String.toList_append, String.toList_append, toList_listed,
    List.append_assoc, List.append_assoc]
  rfl

theorem toList_commandCall (callee : Expr) (arguments : List Expr) :
    (commandCall (expression false callee) (expressions arguments)).toList =
      applied callee arguments := by
  simp only [commandCall, applied, String.toList_append, toList_spread, chars]

/-- A call that is no pipe, in one of its two forms. -/
theorem core_call {callee : Expr} {arguments : List Expr} {isPiped : Bool}
    (notPiped : (isPiped && top) = false) :
    core top (.call callee arguments isPiped note) =
      if top && isCommand callee arguments then applied callee arguments
      else enclosed callee arguments := by
  have form : core top (.call callee arguments isPiped note) =
      (if top && isCommand callee arguments then
        commandCall (expression false callee) (expressions arguments)
      else parenCall (expression false callee) (expressions arguments)).toList := by
    cases arguments with
    | nil =>
      refine (toList_blank _).trans ?_
      rw [notPiped]
      rfl
    | cons =>
      refine (toList_blank _).trans ?_
      rw [notPiped]
      rfl
  rw [form]
  split
  · exact toList_commandCall callee arguments
  · exact toList_parenCall callee arguments

theorem core_call_enclosed {callee : Expr} {arguments : List Expr} {isPiped : Bool}
    (notSpread : (top && (isPiped || isCommand callee arguments)) = false) :
    core top (.call callee arguments isPiped note) = enclosed callee arguments := by
  have notPiped : (isPiped && top) = false := by
    cases top <;> cases isPiped <;> simp_all
  have notCommand : (top && isCommand callee arguments) = false := by
    cases top <;> cases isPiped <;> simp_all
  rw [core_call notPiped, notCommand]
  rfl

theorem core_call_applied {callee : Expr} {arguments : List Expr}
    (command : isCommand callee arguments = true) :
    core true (.call callee arguments false note) = applied callee arguments := by
  rw [core_call rfl, command]
  rfl

/-- A pipe: the value, and a segment with its other arguments in one of the two forms. -/
theorem core_call_piped (callee value : Expr) (extra : List Expr) :
    core true (.call callee (value :: extra) true note) =
      chars true value ++ ' ' :: '|' :: ' ' ::
        (if isSimpleCallee callee && extra.all isTight then applied callee extra
          else enclosed callee extra) := by
  have form : core true (.call callee (value :: extra) true note) =
      (expression true value ++ " | " ++
        if isSimpleCallee callee && extra.all isTight then
          commandCall (expression false callee) (expressions extra)
        else parenCall (expression false callee) (expressions extra)).toList :=
    toList_blank _
  rw [form, String.toList_append, String.toList_append]
  split
  · rw [toList_commandCall]
    simp [chars]
  · rw [toList_parenCall]
    simp [chars]

theorem core_unary (op : UnaryOp) (argument : Expr) :
    core top (.unary op argument note) = (unary op (expression false argument)).toList :=
  toList_blank _

theorem core_update_before (op : UpdateOp) (target : Expr) :
    core top (.update op .before target note) = op.symbol.toList ++ chars false target :=
  (toList_blank _).trans String.toList_append

theorem core_update_after (op : UpdateOp) (target : Expr) :
    core top (.update op .after target note) = chars false target ++ op.symbol.toList :=
  (toList_blank _).trans String.toList_append

theorem core_conditional (test consequent alternate : Expr) :
    core top (.conditional test consequent alternate note) =
      chars false test ++ ' ' :: '?' :: ' ' :: (chars false consequent ++
        ' ' :: ':' :: ' ' :: chars false alternate) := by
  refine (toList_blank _).trans ?_
  simp [chars]

theorem core_paren (inner : Expr) :
    core top (.paren inner note) = '(' :: (chars true inner ++ [')']) := by
  refine (toList_blank _).trans ?_
  simp [chars]

end

/-- Only a call looks at whether a pipe or a command may stand. -/
theorem core_top {expr : Expr} (notSpread : expr.isSpread = false) :
    core true expr = core false expr := by
  cases expr with
  | update op place argument note => cases place <;> rfl
  | call callee arguments isPiped note =>
    have enclosed (top : Bool) :
        core top (.call callee arguments isPiped note) = enclosed callee arguments := by
      refine core_call_enclosed ?_
      simp only [Expr.isSpread] at notSpread
      rw [notSpread, Bool.and_false]
    rw [enclosed, enclosed]
  | _ => rfl

theorem chars_top {expr : Expr} (notSpread : expr.isSpread = false) :
    chars true expr = chars false expr := by
  rw [chars_eq, chars_eq false, core_top notSpread]

end Print

namespace Grammar

/-- Two operands joined by an operator, with a note. -/
def InfixOp.node (op : InfixOp) (left right : Expr) (note : Note) : Expr :=
  match op with
  | binary op => .binary op left right note
  | logical op => .logical op left right note

theorem InfixOp.join_eq (op : InfixOp) (left right : Expr) :
    op.join left right = op.node left right (Note.at (left.span.union right.span)) := by
  cases op <;> rfl

theorem core_node (top : Bool) (op : InfixOp) (left right : Expr) (note : Note) :
    Print.core top (op.node left right note) =
      Print.chars false left ++
        ' ' :: (op.symbol.toList ++ ' ' :: Print.chars false right) := by
  cases op with
  | binary op =>
    refine (Print.toList_blank _).trans ?_
    simp [Print.chars, InfixOp.symbol]
  | logical op =>
    refine (Print.toList_blank _).trans ?_
    simp [Print.chars, InfixOp.symbol]

end Grammar

end TemplateLang
