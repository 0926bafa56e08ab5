import TemplateLang.Syntax.Parts

/-!
# Names in trees

The names that an expression mentions as variables or calls as helpers, the variables that it
changes by `++` and `--`, and the names that a template mentions, calls and binds in any of
its tags.  A key after a dot is not a name of this kind.
-/

namespace TemplateLang

namespace Expr

/-! ## Parts as a list -/

mutual

/-- An expression and all that stand in it. -/
def parts : Expr → List Expr
  | array items note => array items note :: partsIn items
  | field object key keySpan note => field object key keySpan note :: object.parts
  | item object key note => item object key note :: (object.parts ++ key.parts)
  | call callee arguments isPiped note =>
    call callee arguments isPiped note :: (callee.parts ++ partsIn arguments)
  | unary op argument note => unary op argument note :: argument.parts
  | update op place argument note => update op place argument note :: argument.parts
  | binary op left right note => binary op left right note :: (left.parts ++ right.parts)
  | logical op left right note => logical op left right note :: (left.parts ++ right.parts)
  | conditional test consequent alternate note =>
    conditional test consequent alternate note ::
      (test.parts ++ consequent.parts ++ alternate.parts)
  | paren inner note => paren inner note :: inner.parts
  | leaf => [leaf]

/-- Expressions and all that stand in them. -/
def partsIn : List Expr → List Expr
  | [] => []
  | expr :: others => expr.parts ++ partsIn others

end

theorem partsIn_eq_flatMap (exprs : List Expr) : partsIn exprs = exprs.flatMap parts := by
  induction exprs with
  | nil => rw [partsIn, List.flatMap_nil]
  | cons expr others ih => rw [partsIn, List.flatMap_cons, ih]

theorem parts_eq (expr : Expr) : expr.parts = expr :: expr.children.flatMap parts := by
  cases expr <;> simp [parts, children, partsIn_eq_flatMap]

theorem sizeOf_lt_of_mem_children {expr child : Expr} (isChild : child ∈ expr.children) :
    sizeOf child < sizeOf expr := by
  cases expr with
  | array items note =>
    have below : sizeOf child < sizeOf items := List.sizeOf_lt_of_mem isChild
    rw [array.sizeOf_spec]
    omega
  | call callee arguments isPiped note =>
    rw [call.sizeOf_spec]
    rcases List.mem_cons.mp isChild with rfl | isArgument
    · omega
    · have below := List.sizeOf_lt_of_mem isArgument
      omega
  | _ => grind [children]

/-- Only parts of an expression are listed. -/
theorem part_of_mem_parts {part : Expr} :
    ∀ expr : Expr, part ∈ expr.parts → expr.Part part := by
  intro expr isListed
  rw [parts_eq, List.mem_cons, List.mem_flatMap] at isListed
  obtain rfl | ⟨child, isChild, inChild⟩ := isListed
  · exact .whole part
  · have below := sizeOf_lt_of_mem_children isChild
    exact .inside isChild (part_of_mem_parts child inChild)
termination_by expr => sizeOf expr

/-- Every part of an expression is listed. -/
theorem Part.mem_parts {expr part : Expr} (isPart : expr.Part part) : part ∈ expr.parts := by
  induction isPart with
  | whole expr => simp [parts_eq expr]
  | @inside expr child part isChild _ ih =>
    rw [parts_eq expr]
    exact List.mem_cons_of_mem _ (List.mem_flatMap.mpr ⟨child, isChild, ih⟩)

/-! ## Names in expressions -/

/-- The name that an expression is. -/
def name? : Expr → Option String
  | identifier name _ => some name
  | _ => none

/-- The name that an expression calls. -/
def calleeName? : Expr → Option String
  | call (identifier name _) _ _ _ => some name
  | _ => none

/-- The variable that a target starts from, if it starts from one. -/
def root? : Expr → Option String
  | identifier name _ => some name
  | field object _ _ _ | item object _ _ => object.root?
  | paren inner _ => inner.root?
  | _ => none

/-- The variable that an expression changes by `++` or `--`. -/
def updatedName? : Expr → Option String
  | update _ _ target _ => target.root?
  | _ => none

/-- The names that stand in an expression. -/
def identifiers (expr : Expr) : List String :=
  expr.parts.filterMap name?

/-- The names that are called in an expression. -/
def callees (expr : Expr) : List String :=
  expr.parts.filterMap calleeName?

/-- The variables that are changed by `++` and `--` in an expression. -/
def updated (expr : Expr) : List String :=
  expr.parts.filterMap updatedName?

variable {expr : Expr} {name : String}

theorem Part.mem_identifiers {note : Note} (isPart : expr.Part (identifier name note)) :
    name ∈ expr.identifiers :=
  List.mem_filterMap.mpr ⟨_, isPart.mem_parts, rfl⟩

theorem Part.mem_callees {calleeNote note : Note} {arguments : List Expr} {isPiped : Bool}
    (isPart : expr.Part (call (identifier name calleeNote) arguments isPiped note)) :
    name ∈ expr.callees :=
  List.mem_filterMap.mpr ⟨_, isPart.mem_parts, rfl⟩

theorem Part.mem_updated {op : UpdateOp} {place : UpdatePlace} {target : Expr} {note : Note}
    (isPart : expr.Part (update op place target note)) (rooted : target.root? = some name) :
    name ∈ expr.updated :=
  List.mem_filterMap.mpr ⟨_, isPart.mem_parts, rooted⟩

/-- The variable that a target starts from stands in it. -/
theorem part_of_root? {target : Expr} (rooted : target.root? = some name) :
    ∃ note, target.Part (identifier name note) := by
  fun_induction root? target with
  | case1 root note =>
    obtain rfl := Option.some.inj rooted
    exact ⟨note, .whole _⟩
  | case2 object _ _ _ ih | case3 object _ _ ih | case4 inner _ ih =>
    obtain ⟨note, isPart⟩ := ih rooted
    exact ⟨note, .inside (by simp [children]) isPart⟩
  | case5 => simp at rooted

/-- What an expression changes by `++` or `--` stands in it. -/
theorem updated_subset_identifiers (expr : Expr) : expr.updated ⊆ expr.identifiers := by
  intro name isUpdated
  obtain ⟨part, isListed, isName⟩ := List.mem_filterMap.mp isUpdated
  have isPart := part_of_mem_parts expr isListed
  cases part with
  | update op place target note =>
    obtain ⟨rootNote, isRoot⟩ := part_of_root? isName
    have inside : (update op place target note).Part (identifier name rootNote) :=
      .inside (by simp [children]) isRoot
    exact (isPart.trans inside).mem_identifiers
  | _ => exact nomatch isName

end Expr

/-! ## Names in templates -/

mutual

/-- The statements of elements, and those in their bodies. -/
def statementsIn : List Element → List Statement
  | [] => []
  | .raw _ _ :: others => statementsIn others
  | .tag _ statement _ _ :: others => statement :: (statement.inner ++ statementsIn others)

/-- The statements in the bodies of a statement. -/
def Statement.inner : Statement → List Statement
  | .branch branch => branch.inner
  | .loop _ _ _ _ body _ _ => statementsIn body
  | .empty | .expression _ | .assign _ _ _ | .breakLoop _ | .continueLoop _ => []

/-- The statements in the bodies of a conditional block. -/
def Branch.inner : Branch → List Statement
  | .mk _ _ body alternate _ => statementsIn body ++ alternate.inner

/-- The statements in the bodies of the rest of a conditional block. -/
def Alternate.inner : Alternate → List Statement
  | .done _ => []
  | .otherwise _ _ body _ => statementsIn body
  | .chain _ next => next.inner

end

namespace Template

/-- All statements of a template. -/
def statements (template : Template) : List Statement :=
  statementsIn template.elements

/-- The names that stand in the expressions of a template. -/
def identifiers (template : Template) : List String :=
  template.statements.flatMap fun statement => statement.heads.flatMap Expr.identifiers

/-- The names that are called in a template. -/
def callees (template : Template) : List String :=
  template.statements.flatMap fun statement => statement.heads.flatMap Expr.callees

/-- The names that a template declares, and those that its loops bind. -/
def boundNames (template : Template) : List String :=
  template.statements.flatMap fun statement => statement.names.map Identifier.name

end Template

end TemplateLang
