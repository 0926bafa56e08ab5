import TemplateLang.Eval.Template
import TemplateLang.Proofs.Essence.Expression

/-!
# What the output of a template depends on

As for expressions, two templates with the same essence write the same text and the same
variables, or fail with the same fault.  So comments do not matter once a template is read.
-/

namespace TemplateLang

/-- The end of a tag without its span and comments. -/
def Tag.essence (tag : Tag) : Tag :=
  { tag with comments := [], span := default }

/-- A bound name without its span. -/
def Identifier.essence (name : Identifier) : Identifier :=
  { name with span := default }

mutual

/-- Elements without spans and comments. -/
def essenceIn : List Element → List Element
  | [] => []
  | .raw text _ :: others => .raw text default :: essenceIn others
  | .tag opening statement closing _ :: others =>
    .tag opening.essence statement.essence closing.essence default :: essenceIn others

/-- A statement without spans and comments. -/
def Statement.essence : Statement → Statement
  | .empty => .empty
  | .expression expr => .expression expr.essence
  | .assign target value _ => .assign target.essence value.essence default
  | .branch branch => .branch branch.essence
  | .loop value index iterable closing body endOpening _ =>
    .loop value.essence (index.map Identifier.essence) iterable.essence closing.essence
      (essenceIn body) endOpening.essence default
  | .breakLoop _ => .breakLoop default
  | .continueLoop _ => .continueLoop default

/-- A condition without spans and comments. -/
def Branch.essence : Branch → Branch
  | .mk test closing body alternate _ =>
    .mk test.essence closing.essence (essenceIn body) alternate.essence default

/-- The rest of a condition without spans and comments. -/
def Alternate.essence : Alternate → Alternate
  | .done endOpening => .done endOpening.essence
  | .otherwise elseOpening elseClosing body endOpening =>
    .otherwise elseOpening.essence elseClosing.essence (essenceIn body) endOpening.essence
  | .chain elseOpening next => .chain elseOpening.essence next.essence

end

/-- A template without spans and comments. -/
def Template.essence (template : Template) : Template :=
  ⟨essenceIn template.elements⟩

open TemplateLang.Action

variable {helpers : Callables}

theorem loopFrame_essence (value : Identifier) (index : Option Identifier) :
    loopFrame value.essence (index.map Identifier.essence) = loopFrame value index := by
  cases index <;> rfl

theorem Alternate.trims_bodyEnd_essence (alternate : Alternate) :
    alternate.essence.bodyEnd.trims = alternate.bodyEnd.trims := by
  cases alternate <;> rfl

theorem agrees_enclosed {render render' : Output → Action EvalError (Output × Flow)}
    (agrees : ∀ output, (render output).Agrees Eq (render' output)) (trimsStart trimsEnd : Bool) :
    (enclosed trimsStart trimsEnd render).Agrees Eq (enclosed trimsStart trimsEnd render') :=
  (agrees _).bind_eq fun _ => agrees_pure rfl

/-- Loops end alike if their rounds do. -/
theorem agrees_rounds {round round' : Value → Nat → Action EvalError Written}
    (agrees : ∀ item position, (round item position).Agrees Eq (round' item position))
    (items : List Value) (position : Nat) :
    (rounds round items position).Agrees Eq (rounds round' items position) := by
  induction items generalizing position with
  | nil => exact agrees_pure rfl
  | cons item others ih =>
    refine (agrees item position).bind_eq fun written => ?_
    split
    · exact agrees_pure rfl
    · exact (ih (position + 1)).bind_eq fun _ => agrees_pure rfl

mutual

theorem agrees_essenceIn : ∀ (elements : List Element) (output : Output),
    (renderElements helpers elements output).Agrees Eq
      (renderElements helpers (essenceIn elements) output)
  | [], output => by
    rw [essenceIn, renderElements]
    exact agrees_pure rfl
  | .raw _ _ :: others, output => by
    rw [essenceIn, renderElements, renderElements]
    exact agrees_essenceIn others _
  | .tag _ statement _ _ :: others, output => by
    rw [essenceIn, renderElements, renderElements]
    refine (agrees_essence_statement statement).bind_eq fun written => ?_
    dsimp only [Tag.essence]
    split
    · exact agrees_essenceIn others _
    · exact agrees_pure rfl

theorem agrees_essence_statement : ∀ statement : Statement,
    (renderStatement helpers statement).Agrees Eq (renderStatement helpers statement.essence)
  | .empty | .breakLoop _ | .continueLoop _ => by
    simp only [Statement.essence, renderStatement]
    exact agrees_pure rfl
  | .expression expr => by
    rw [Statement.essence, renderStatement, renderStatement]
    exact (Expr.agrees_essence expr).value.bind_eq fun _ => agrees_pure rfl
  | .assign _ expr _ => by
    rw [Statement.essence, renderStatement, renderStatement]
    refine (Expr.agrees_essence expr).value.bind_eq fun _ => ?_
    exact (Agrees.refl _).bind_eq fun _ => agrees_pure rfl
  | .branch branch => by
    rw [Statement.essence, renderStatement, renderStatement]
    exact agrees_essence_branch branch
  | .loop value index iterable closing body endOpening _ => by
    rw [Statement.essence, renderStatement, renderStatement, loopFrame_essence]
    refine (Expr.agrees_essence iterable).value.bind_eq fun _ => ?_
    refine (agrees_checkedAt _).bind_eq fun items => ?_
    refine Agrees.bind_eq ?_ fun _ => agrees_pure rfl
    refine agrees_rounds (fun item position => ?_) items 0
    exact (agrees_enclosed (agrees_essenceIn body) _ _).inFrame _

theorem agrees_essence_branch : ∀ branch : Branch,
    (renderBranch helpers branch).Agrees Eq (renderBranch helpers branch.essence)
  | .mk test closing body alternate _ => by
    rw [Branch.essence, renderBranch, renderBranch]
    refine (Expr.agrees_essence test).value.bind_eq fun _ => ?_
    split
    · rw [alternate.trims_bodyEnd_essence]
      exact agrees_enclosed (agrees_essenceIn body) _ _
    · exact agrees_essence_alternate alternate

theorem agrees_essence_alternate : ∀ alternate : Alternate,
    (renderAlternate helpers alternate).Agrees Eq (renderAlternate helpers alternate.essence)
  | .done _ => by
    rw [Alternate.essence, renderAlternate, renderAlternate]
    exact agrees_pure rfl
  | .otherwise _ _ body _ => by
    rw [Alternate.essence, renderAlternate, renderAlternate]
    exact agrees_enclosed (agrees_essenceIn body) _ _
  | .chain _ next => by
    rw [Alternate.essence, renderAlternate, renderAlternate]
    exact agrees_essence_branch next

end

/-- Templates with the same essence write the same, or fail with the same fault, and leave
the same variables. -/
theorem Template.agrees_of_essence {template template' : Template}
    (same : template.essence = template'.essence) :
    (template.evaluate helpers).Agrees Eq (template'.evaluate helpers) := by
  have agrees (template : Template) :
      (template.evaluate helpers).Agrees Eq (template.essence.evaluate helpers) :=
    (agrees_enclosed (agrees_essenceIn template.elements) _ _).bind_eq fun _ => agrees_pure rfl
  have first := agrees template
  rw [same] at first
  exact first.trans (agrees template').symm

end TemplateLang
