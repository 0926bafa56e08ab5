import TemplateLang.Proofs.Essence.Template
import TemplateLang.Syntax.Shift

/-!
# The essence of moved trees

The essence of a tree has no spans, and so moving a tree leaves its essence as it is.  A
template that is moved writes what it wrote before, and only the places of its errors differ.
-/

namespace TemplateLang

/-! ## Expressions -/

mutual

/-- A moved expression has the same essence. -/
theorem Expr.essence_shift (distance : Nat) :
    ∀ expr : Expr, (expr.shift distance).essence = expr.essence
  | .null _ | .undefined _ | .boolean _ _ | .number _ _ | .text _ _ _ | .identifier _ _ => rfl
  | .array items _ => by
    rw [Expr.shift, Expr.essence, Expr.essence, essenceAll_shiftAll distance items]
  | .field object (.name _) _ _ | .field object (.position _) _ _ => by
    rw [Expr.shift, Expr.essence, Expr.essence, Expr.essence_shift distance object]
  | .item object key _ => by
    rw [Expr.shift, Expr.essence, Expr.essence, Expr.essence_shift distance object,
      Expr.essence_shift distance key]
  | .call callee arguments _ _ => by
    rw [Expr.shift, Expr.essence, Expr.essence, Expr.essence_shift distance callee,
      essenceAll_shiftAll distance arguments]
  | .unary _ argument _ | .update _ _ argument _ => by
    rw [Expr.shift, Expr.essence, Expr.essence, Expr.essence_shift distance argument]
  | .binary _ left right _ | .logical _ left right _ => by
    rw [Expr.shift, Expr.essence, Expr.essence, Expr.essence_shift distance left,
      Expr.essence_shift distance right]
  | .conditional test consequent alternate _ => by
    rw [Expr.shift, Expr.essence, Expr.essence, Expr.essence_shift distance test,
      Expr.essence_shift distance consequent, Expr.essence_shift distance alternate]
  | .paren inner _ => by
    rw [Expr.shift, Expr.essence, Expr.essence, Expr.essence_shift distance inner]

theorem essenceAll_shiftAll (distance : Nat) :
    ∀ exprs : List Expr, essenceAll (shiftAll distance exprs) = essenceAll exprs
  | [] => rfl
  | first :: rest => by
    rw [shiftAll, essenceAll, essenceAll, Expr.essence_shift distance first,
      essenceAll_shiftAll distance rest]

end

/-! ## Templates -/

@[simp]
theorem Tag.essence_shift (distance : Nat) (tag : Tag) :
    (tag.shift distance).essence = tag.essence :=
  rfl

@[simp]
theorem Identifier.essence_shift (distance : Nat) (name : Identifier) :
    (name.shift distance).essence = name.essence :=
  rfl

mutual

/-- Moved elements have the same essence. -/
theorem essenceIn_shiftIn (distance : Nat) :
    ∀ elements : List Element, essenceIn (shiftIn distance elements) = essenceIn elements
  | [] => rfl
  | .raw _ _ :: others => by
    rw [shiftIn, Element.shift, essenceIn, essenceIn, essenceIn_shiftIn distance others]
  | .tag _ content _ _ :: others => by
    rw [shiftIn, Element.shift, essenceIn, essenceIn, essenceIn_shiftIn distance others,
      Statement.essence_shift distance content, Tag.essence_shift, Tag.essence_shift]

theorem Statement.essence_shift (distance : Nat) :
    ∀ content : Statement, (content.shift distance).essence = content.essence
  | .empty | .breakLoop _ | .continueLoop _ => rfl
  | .expression expr => by
    rw [Statement.shift, Statement.essence, Statement.essence, Expr.essence_shift]
  | .assign _ _ _ => by
    rw [Statement.shift, Statement.essence, Statement.essence, Expr.essence_shift,
      Identifier.essence_shift]
  | .branch branch => by
    rw [Statement.shift, Statement.essence, Statement.essence,
      Branch.essence_shift distance branch]
  | .loop _ index _ _ body _ _ => by
    rw [Statement.shift, Statement.essence, Statement.essence, essenceIn_shiftIn distance body,
      Expr.essence_shift]
    cases index <;> rfl

theorem Branch.essence_shift (distance : Nat) :
    ∀ branch : Branch, (branch.shift distance).essence = branch.essence
  | .mk _ _ body alternate _ => by
    rw [Branch.shift, Branch.essence, Branch.essence, essenceIn_shiftIn distance body,
      Alternate.essence_shift distance alternate, Expr.essence_shift, Tag.essence_shift]

theorem Alternate.essence_shift (distance : Nat) :
    ∀ alternate : Alternate, (alternate.shift distance).essence = alternate.essence
  | .done _ => rfl
  | .otherwise _ _ body _ => by
    rw [Alternate.shift, Alternate.essence, Alternate.essence, essenceIn_shiftIn distance body]
    rfl
  | .chain _ next => by
    rw [Alternate.shift, Alternate.essence, Alternate.essence, Branch.essence_shift distance next]
    rfl

end

end TemplateLang
