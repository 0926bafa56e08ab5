import TemplateLang.Syntax.Template

/-!
# Parts of trees

The expressions that stand in an expression, and the tags that stand in a template, at
any depth.  The heads of a statement are the expressions written in its own tags: those
of `if` and of every `else if` after it belong to one statement.
-/

namespace TemplateLang

namespace Expr

/-- The expressions that stand directly in an expression. -/
def children : Expr → List Expr
  | null _ | undefined _ | boolean _ _ | number _ _ | text _ _ _ | identifier _ _ => []
  | array items _ => items
  | field object _ _ _ => [object]
  | item object key _ => [object, key]
  | call callee arguments _ _ => callee :: arguments
  | unary _ argument _ | update _ _ argument _ => [argument]
  | binary _ left right _ | logical _ left right _ => [left, right]
  | conditional test consequent alternate _ => [test, consequent, alternate]
  | paren inner _ => [inner]

@[simp]
theorem children_withNote (note : Note) (expr : Expr) :
    (expr.withNote note).children = expr.children := by
  cases expr <;> rfl

/-- The second expression is the first one or stands in it. -/
inductive Part : Expr → Expr → Prop where
  | whole (expr : Expr) : expr.Part expr
  | inside {expr child part : Expr} (isChild : child ∈ expr.children)
      (deeper : child.Part part) : expr.Part part

theorem Part.trans {expr middle part : Expr} (outer : expr.Part middle) (inner : middle.Part part) :
    expr.Part part := by
  induction outer with
  | whole => exact inner
  | inside isChild _ ih => exact .inside isChild (ih inner)

/-- A property of an expression and of all that stand in it. -/
def Everywhere (holds : Expr → Prop) (expr : Expr) : Prop :=
  ∀ part, expr.Part part → holds part

variable {holds : Expr → Prop} {expr : Expr}

theorem everywhere_iff :
    expr.Everywhere holds ↔ holds expr ∧ ∀ child ∈ expr.children, child.Everywhere holds := by
  constructor
  · intro everywhere
    constructor
    · exact everywhere expr (.whole expr)
    · intro child isChild part isPart
      exact everywhere part (.inside isChild isPart)
  · rintro ⟨here, below⟩ part isPart
    cases isPart with
    | whole => exact here
    | inside isChild deeper => exact below _ isChild part deeper

theorem Everywhere.here (everywhere : expr.Everywhere holds) : holds expr :=
  everywhere expr (.whole expr)

theorem Everywhere.child (everywhere : expr.Everywhere holds) {child : Expr}
    (isChild : child ∈ expr.children) : child.Everywhere holds :=
  (everywhere_iff.mp everywhere).2 child isChild

end Expr

/-! ## Tags of a template -/

mutual

/-- The expressions that decide in a conditional block. -/
def Branch.heads : Branch → List Expr
  | .mk test _ _ alternate _ => test :: alternate.heads

/-- The expressions that decide in the rest of a conditional block. -/
def Alternate.heads : Alternate → List Expr
  | .done _ | .otherwise _ _ _ _ => []
  | .chain _ next => next.heads

end

mutual

/-- The bodies of a conditional block. -/
def Branch.bodies : Branch → List (List Element)
  | .mk _ _ body alternate _ => body :: alternate.bodies

/-- The bodies in the rest of a conditional block. -/
def Alternate.bodies : Alternate → List (List Element)
  | .done _ => []
  | .otherwise _ _ body _ => [body]
  | .chain _ next => next.bodies

end

namespace Statement

/-- The expressions of a statement, outside of its bodies. -/
def heads : Statement → List Expr
  | empty | breakLoop _ | continueLoop _ => []
  | expression expr | assign _ expr _ | loop _ _ expr _ _ _ _ => [expr]
  | branch block => block.heads

/-- The names that a statement declares or binds. -/
def names : Statement → List Identifier
  | assign target _ _ => [target]
  | loop value index _ _ _ _ _ => value :: index.toList
  | empty | expression _ | branch _ | breakLoop _ | continueLoop _ => []

/-- The bodies of a statement. -/
def bodies : Statement → List (List Element)
  | branch block => block.bodies
  | loop _ _ _ _ body _ _ => [body]
  | empty | expression _ | assign _ _ _ | breakLoop _ | continueLoop _ => []

end Statement

/-- A tag with a statement and a span stands among elements or in their bodies. -/
inductive HasTag : List Element → Statement → Span → Prop where
  | here {elements : List Element} {opening closing : Tag} {statement : Statement} {span : Span}
      (among : .tag opening statement closing span ∈ elements) : HasTag elements statement span
  | inside {elements body : List Element} {opening closing : Tag} {outer statement : Statement}
      {outerSpan span : Span} (among : .tag opening outer closing outerSpan ∈ elements)
      (isBody : body ∈ outer.bodies) (deeper : HasTag body statement span) :
      HasTag elements statement span

namespace HasTag

variable {statement : Statement} {span : Span}

theorem not_nil : ¬HasTag [] statement span := by
  intro has
  cases has with
  | here among => simp at among
  | inside among => simp at among

/-- Raw text holds no tags. -/
theorem of_raw {text : String} {place : Span} {others : List Element}
    (has : HasTag (.raw text place :: others) statement span) : HasTag others statement span := by
  cases has with
  | here among => exact .here (by simpa using among)
  | inside among isBody deeper => exact .inside (by simpa using among) isBody deeper

/-- A tag is the first one, stands in a body of it, or comes later. -/
theorem of_tag {opening closing : Tag} {first : Statement} {place : Span} {others : List Element}
    (has : HasTag (.tag opening first closing place :: others) statement span) :
    (statement = first ∧ span = place) ∨ (∃ body ∈ first.bodies, HasTag body statement span) ∨
      HasTag others statement span := by
  cases has with
  | here among =>
    rcases List.mem_cons.mp among with same | among
    · cases same
      exact .inl ⟨rfl, rfl⟩
    · exact .inr (.inr (.here among))
  | inside among isBody deeper =>
    rcases List.mem_cons.mp among with same | among
    · cases same
      exact .inr (.inl ⟨_, isBody, deeper⟩)
    · exact .inr (.inr (.inside among isBody deeper))

end HasTag

/-- The bodies of an element. -/
def Element.bodies : Element → List (List Element)
  | .raw _ _ => []
  | .tag _ statement _ _ => statement.bodies

/-- An element stands among elements or in their bodies. -/
inductive HasElement : List Element → Element → Prop where
  | here {elements : List Element} {element : Element} (among : element ∈ elements) :
      HasElement elements element
  | inside {elements body : List Element} {outer element : Element} (among : outer ∈ elements)
      (isBody : body ∈ outer.bodies) (deeper : HasElement body element) :
      HasElement elements element

namespace HasElement

variable {element : Element} {elements : List Element}

theorem of_others {first : Element} (has : HasElement elements element) :
    HasElement (first :: elements) element := by
  cases has with
  | here among => exact .here (List.mem_cons_of_mem _ among)
  | inside among isBody deeper => exact .inside (List.mem_cons_of_mem _ among) isBody deeper

/-- Without bodies there is nothing but the elements themselves. -/
theorem mem_of_flat (has : HasElement elements element)
    (flat : ∀ outer ∈ elements, outer.bodies = []) : element ∈ elements := by
  cases has with
  | here among => exact among
  | inside among isBody =>
    rw [flat _ among] at isBody
    exact absurd isBody List.not_mem_nil

end HasElement

/-- A tag with a statement and a span stands in a template. -/
def Template.HasTag (template : Template) (statement : Statement) (span : Span) : Prop :=
  TemplateLang.HasTag template.elements statement span

/-- An element stands in a template, at any depth. -/
def Template.HasElement (template : Template) (element : Element) : Prop :=
  TemplateLang.HasElement template.elements element

end TemplateLang
