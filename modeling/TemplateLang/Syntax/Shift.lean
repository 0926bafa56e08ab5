import TemplateLang.Syntax.Template

/-!
# Trees at another place

The tree of a text that stands further on in a longer one is the tree of the text, but for
its spans, which are all moved by the same number of bytes.  Moving a tree changes neither
what can be called or assigned in it nor how its calls take their arguments.
-/

namespace TemplateLang

/-! ## Spans -/

namespace Span

@[simp]
theorem start_shift (span : Span) (distance : Nat) :
    (span.shift distance).start = span.start + distance :=
  rfl

@[simp]
theorem stop_shift (span : Span) (distance : Nat) :
    (span.shift distance).stop = span.stop + distance :=
  rfl

@[simp]
theorem shift_zero (span : Span) : span.shift 0 = span :=
  rfl

theorem between_shift (start stop distance : Nat) :
    between (start + distance) (stop + distance) = (between start stop).shift distance := by
  simp only [between, shift, Nat.add_max_add_right]

theorem union_shift (first second : Span) (distance : Nat) :
    (first.shift distance).union (second.shift distance) =
      (first.union second).shift distance := by
  simp only [union, shift, Nat.add_max_add_right, Nat.add_min_add_right]

end Span

/-! ## Expressions -/

/-- A comment moved right by a number of bytes. -/
def Comment.shift (distance : Nat) (comment : Comment) : Comment :=
  { comment with span := comment.span.shift distance }

@[simp]
theorem Comment.shift_zero (comment : Comment) : comment.shift 0 = comment :=
  rfl

/-- The note of an expression that is moved. -/
def Note.shift (distance : Nat) (note : Note) : Note :=
  ⟨note.span.shift distance, note.leading.map (·.shift distance),
    note.trailing.map (·.shift distance)⟩

@[simp]
theorem Note.shift_at (distance : Nat) (span : Span) :
    (Note.at span).shift distance = Note.at (span.shift distance) :=
  rfl

@[simp]
theorem Note.shift_zero (note : Note) : note.shift 0 = note := by
  simp [shift]

@[simp]
theorem Note.isBare_shift (distance : Nat) (note : Note) :
    (note.shift distance).isBare = note.isBare := by
  simp [isBare, shift]

mutual

/-- An expression moved right by a number of bytes. -/
def Expr.shift (distance : Nat) : Expr → Expr
  | .null note => .null (note.shift distance)
  | .undefined note => .undefined (note.shift distance)
  | .boolean value note => .boolean value (note.shift distance)
  | .number value note => .number value (note.shift distance)
  | .text value quote note => .text value quote (note.shift distance)
  | .identifier name note => .identifier name (note.shift distance)
  | .array items note => .array (shiftAll distance items) (note.shift distance)
  | .field object key keySpan note =>
    .field (object.shift distance) key (keySpan.shift distance) (note.shift distance)
  | .item object key note =>
    .item (object.shift distance) (key.shift distance) (note.shift distance)
  | .call callee arguments isPiped note =>
    .call (callee.shift distance) (shiftAll distance arguments) isPiped (note.shift distance)
  | .unary op argument note => .unary op (argument.shift distance) (note.shift distance)
  | .update op place argument note =>
    .update op place (argument.shift distance) (note.shift distance)
  | .binary op left right note =>
    .binary op (left.shift distance) (right.shift distance) (note.shift distance)
  | .logical op left right note =>
    .logical op (left.shift distance) (right.shift distance) (note.shift distance)
  | .conditional test consequent alternate note =>
    .conditional (test.shift distance) (consequent.shift distance) (alternate.shift distance)
      (note.shift distance)
  | .paren inner note => .paren (inner.shift distance) (note.shift distance)

/-- Several expressions moved together. -/
def shiftAll (distance : Nat) : List Expr → List Expr
  | [] => []
  | first :: rest => first.shift distance :: shiftAll distance rest

end

theorem shiftAll_eq_map (distance : Nat) (exprs : List Expr) :
    shiftAll distance exprs = exprs.map (·.shift distance) := by
  induction exprs with
  | nil => rfl
  | cons first rest ih => rw [shiftAll, ih, List.map_cons]

mutual

/-- Moving by nothing leaves everything where it is. -/
@[simp]
theorem Expr.shift_zero : ∀ expr : Expr, expr.shift 0 = expr
  | .null _ | .undefined _ | .boolean _ _ | .number _ _ | .text _ _ _ | .identifier _ _ => by
    simp only [Expr.shift, Note.shift_zero]
  | .array items _ => by rw [Expr.shift, shiftAll_zero items, Note.shift_zero]
  | .field object _ _ _ => by
    rw [Expr.shift, Expr.shift_zero object, Span.shift_zero, Note.shift_zero]
  | .item object key _ => by
    rw [Expr.shift, Expr.shift_zero object, Expr.shift_zero key, Note.shift_zero]
  | .call callee arguments _ _ => by
    rw [Expr.shift, Expr.shift_zero callee, shiftAll_zero arguments, Note.shift_zero]
  | .unary _ argument _ | .update _ _ argument _ => by
    rw [Expr.shift, Expr.shift_zero argument, Note.shift_zero]
  | .binary _ left right _ | .logical _ left right _ => by
    rw [Expr.shift, Expr.shift_zero left, Expr.shift_zero right, Note.shift_zero]
  | .conditional test consequent alternate _ => by
    rw [Expr.shift, Expr.shift_zero test, Expr.shift_zero consequent, Expr.shift_zero alternate,
      Note.shift_zero]
  | .paren inner _ => by rw [Expr.shift, Expr.shift_zero inner, Note.shift_zero]

theorem shiftAll_zero : ∀ exprs : List Expr, shiftAll 0 exprs = exprs
  | [] => rfl
  | first :: rest => by rw [shiftAll, Expr.shift_zero first, shiftAll_zero rest]

end

namespace Expr

variable (distance : Nat)

@[simp]
theorem note_shift (expr : Expr) : (expr.shift distance).note = expr.note.shift distance := by
  cases expr <;> rfl

@[simp]
theorem span_shift (expr : Expr) : (expr.shift distance).span = expr.span.shift distance := by
  rw [span, note_shift]
  rfl

theorem shift_withNote (note : Note) (expr : Expr) :
    (expr.withNote note).shift distance =
      (expr.shift distance).withNote (note.shift distance) := by
  cases expr <;> rfl

theorem shift_addLeading (comments : List Comment) (expr : Expr) :
    (expr.addLeading comments).shift distance =
      (expr.shift distance).addLeading (comments.map (·.shift distance)) := by
  rw [addLeading, addLeading, shift_withNote, note_shift]
  simp only [Note.shift, List.map_append]

theorem shift_addTrailing (comments : List Comment) (expr : Expr) :
    (expr.addTrailing comments).shift distance =
      (expr.shift distance).addTrailing (comments.map (·.shift distance)) := by
  rw [addTrailing, addTrailing, shift_withNote, note_shift]
  simp only [Note.shift, List.map_append]

@[simp]
theorem isAssignable_shift : ∀ expr : Expr, (expr.shift distance).isAssignable = expr.isAssignable
  | .paren inner _ => isAssignable_shift inner
  | .null _ | .undefined _ | .boolean _ _ | .number _ _ | .text _ _ _ | .identifier _ _
  | .array _ _ | .field _ _ _ _ | .item _ _ _ | .call _ _ _ _ | .unary _ _ _ | .update _ _ _ _
  | .binary _ _ _ _ | .logical _ _ _ _ | .conditional _ _ _ _ => rfl

@[simp]
theorem isCallable_shift (expr : Expr) :
    (expr.shift distance).isCallable = expr.isCallable := by
  cases expr with
  | call callee arguments isPiped => cases isPiped <;> rfl
  | _ => rfl

theorem shift_spanWith (start last : Expr) (extra : List Expr) :
    spanWith (start.shift distance) (last.shift distance) (extra.map (·.shift distance)) =
      (spanWith start last extra).shift distance := by
  have lastSpan : ((extra.map (·.shift distance)).getLast?.getD (last.shift distance)).span.stop =
      ((extra.getLast?.getD last).span.stop) + distance := by
    rw [List.getLast?_map]
    cases extra.getLast? <;> simp
  rw [spanWith, spanWith, lastSpan, span_shift, Span.start_shift, Span.between_shift]

/-- A moved callee takes the moved arguments as the callee takes the arguments. -/
theorem shift_applyTo (callee : Expr) (first extra : List Expr) (isPiped : Bool) (span : Span) :
    (callee.applyTo first extra isPiped span).shift distance =
      (callee.shift distance).applyTo (first.map (·.shift distance))
        (extra.map (·.shift distance)) isPiped (span.shift distance) := by
  cases callee with
  | call inner arguments wasPiped note =>
    cases wasPiped with
    | true => simp [applyTo, shift, shiftAll_eq_map]
    | false =>
      unfold applyTo
      simp only [shift, Note.isBare_shift]
      split <;> simp [shift, shiftAll_eq_map]
  | _ => simp [applyTo, shift, shiftAll_eq_map]

theorem shift_command (head : Expr) (extra : List Expr) :
    (head.command extra).shift distance =
      (head.shift distance).command (extra.map (·.shift distance)) := by
  rw [command, command, shift_applyTo, shift_spanWith, List.map_nil]

theorem shift_pipeInto (value segment : Expr) (extra : List Expr) :
    (value.pipeInto segment extra).shift distance =
      (value.shift distance).pipeInto (segment.shift distance)
        (extra.map (·.shift distance)) := by
  rw [pipeInto, pipeInto, shift_applyTo, shift_spanWith, List.map_cons, List.map_nil]

end Expr

/-! ## Templates -/

/-- The end of a tag that is moved. -/
def Tag.shift (distance : Nat) (tag : Tag) : Tag :=
  { tag with
    comments := tag.comments.map (·.shift distance), span := tag.span.shift distance }

@[simp]
theorem Tag.shift_zero (tag : Tag) : tag.shift 0 = tag := by
  simp [shift]

/-- A bound name that is moved. -/
def Identifier.shift (distance : Nat) (name : Identifier) : Identifier :=
  { name with span := name.span.shift distance }

@[simp]
theorem Identifier.shift_zero (name : Identifier) : name.shift 0 = name :=
  rfl

mutual

/-- Elements moved right by a number of bytes. -/
def shiftIn (distance : Nat) : List Element → List Element
  | [] => []
  | element :: others => element.shift distance :: shiftIn distance others

/-- An element that is moved. -/
def Element.shift (distance : Nat) : Element → Element
  | .raw text span => .raw text (span.shift distance)
  | .tag opening statement closing span =>
    .tag (opening.shift distance) (statement.shift distance) (closing.shift distance)
      (span.shift distance)

/-- A statement that is moved. -/
def Statement.shift (distance : Nat) : Statement → Statement
  | .empty => .empty
  | .expression expr => .expression (expr.shift distance)
  | .assign target value span =>
    .assign (target.shift distance) (value.shift distance) (span.shift distance)
  | .branch branch => .branch (branch.shift distance)
  | .loop value index iterable closing body endOpening span =>
    .loop (value.shift distance) (index.map (·.shift distance)) (iterable.shift distance)
      (closing.shift distance) (shiftIn distance body) (endOpening.shift distance)
      (span.shift distance)
  | .breakLoop span => .breakLoop (span.shift distance)
  | .continueLoop span => .continueLoop (span.shift distance)

/-- A condition that is moved. -/
def Branch.shift (distance : Nat) : Branch → Branch
  | .mk test closing body alternate span =>
    .mk (test.shift distance) (closing.shift distance) (shiftIn distance body)
      (alternate.shift distance) (span.shift distance)

/-- The rest of a condition that is moved. -/
def Alternate.shift (distance : Nat) : Alternate → Alternate
  | .done endOpening => .done (endOpening.shift distance)
  | .otherwise elseOpening elseClosing body endOpening =>
    .otherwise (elseOpening.shift distance) (elseClosing.shift distance) (shiftIn distance body)
      (endOpening.shift distance)
  | .chain elseOpening next => .chain (elseOpening.shift distance) (next.shift distance)

end

mutual

@[simp]
theorem shiftIn_zero : ∀ elements : List Element, shiftIn 0 elements = elements
  | [] => rfl
  | .raw _ _ :: others => by rw [shiftIn, shiftIn_zero others, Element.shift, Span.shift_zero]
  | .tag _ content _ _ :: others => by
    rw [shiftIn, shiftIn_zero others, Element.shift, Statement.shift_zero content, Tag.shift_zero,
      Tag.shift_zero, Span.shift_zero]

theorem Statement.shift_zero : ∀ content : Statement, content.shift 0 = content
  | .empty | .breakLoop _ | .continueLoop _ => rfl
  | .expression expr => by rw [Statement.shift, Expr.shift_zero]
  | .assign _ _ _ => by
    rw [Statement.shift, Expr.shift_zero, Identifier.shift_zero, Span.shift_zero]
  | .branch branch => by rw [Statement.shift, Branch.shift_zero branch]
  | .loop _ _ _ _ body _ _ => by
    rw [Statement.shift, shiftIn_zero body]
    simp

theorem Branch.shift_zero : ∀ branch : Branch, branch.shift 0 = branch
  | .mk _ _ body alternate _ => by
    rw [Branch.shift, shiftIn_zero body, Alternate.shift_zero alternate, Expr.shift_zero,
      Tag.shift_zero, Span.shift_zero]

theorem Alternate.shift_zero : ∀ alternate : Alternate, alternate.shift 0 = alternate
  | .done _ => by rw [Alternate.shift, Tag.shift_zero]
  | .otherwise _ _ body _ => by
    rw [Alternate.shift, shiftIn_zero body]
    simp
  | .chain _ next => by rw [Alternate.shift, Branch.shift_zero next, Tag.shift_zero]

end

theorem shiftIn_eq_map (distance : Nat) (elements : List Element) :
    shiftIn distance elements = elements.map (·.shift distance) := by
  induction elements with
  | nil => rfl
  | cons element others ih => rw [shiftIn, ih, List.map_cons]

end TemplateLang
