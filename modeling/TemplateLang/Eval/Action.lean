import TemplateLang.Eval.Scopes

/-!
# Actions on scopes

Evaluation reads and writes variables and may fail.  What was written before a
failure stays written.
-/

namespace TemplateLang

/-- A computation on scopes that gives a value or fails. -/
abbrev Action (ε α : Type) : Type :=
  ExceptT ε (StateM Scopes) α

namespace Action

variable {ε ε' α : Type}

/-- Run an action: what it gives, and the scopes afterwards. -/
def on (action : Action ε α) (scopes : Scopes) : Except ε α × Scopes :=
  (ExceptT.run action).run scopes

/-- The action of a function on scopes. -/
def ofFunction (f : Scopes → Except ε α × Scopes) : Action ε α :=
  ExceptT.mk (fun scopes => f scopes)

@[simp]
theorem on_ofFunction (f : Scopes → Except ε α × Scopes) (scopes : Scopes) :
    (ofFunction f).on scopes = f scopes :=
  rfl

/-- An action that leaves the scopes alone. -/
def ofExcept (result : Except ε α) : Action ε α :=
  ofFunction fun scopes => (result, scopes)

/-- The variable of a name. -/
def lookup (name : String) : Action ε (Option Value) :=
  ofFunction fun scopes => (.ok (scopes.get? name), scopes)

/-- Write a variable. -/
def declare (name : String) (value : Value) : Action ε Unit :=
  ofFunction fun scopes => (.ok (), scopes.declare name value)

/-- An action with its failures told in other words. -/
def mapFailure (f : ε → ε') (action : Action ε α) : Action ε' α :=
  ofFunction fun scopes =>
    match action.on scopes with
    | (.ok value, after) => (.ok value, after)
    | (.error failure, after) => (.error (f failure), after)

/-- Run an action inside one more frame, and leave the frame however it ends. -/
def inFrame (frame : Table Value) (action : Action ε α) : Action ε α :=
  ofFunction fun scopes =>
    let (result, after) := action.on (scopes.push frame)
    (result, after.pop)

/-! ## What each action does -/

@[simp]
theorem on_pure (value : α) (scopes : Scopes) :
    (pure value : Action ε α).on scopes = (.ok value, scopes) :=
  rfl

@[simp]
theorem on_throw (failure : ε) (scopes : Scopes) :
    (throw failure : Action ε α).on scopes = (.error failure, scopes) :=
  rfl

/-- A failure ends a sequence, with the scopes as the first part left them. -/
theorem on_bind {β : Type} (action : Action ε α) (next : α → Action ε β) (scopes : Scopes) :
    (action >>= next).on scopes =
      match action.on scopes with
      | (.ok value, after) => (next value).on after
      | (.error failure, after) => (.error failure, after) := by
  simp only [on, ExceptT.run_bind, StateT.run_bind]
  rcases (ExceptT.run action).run scopes with ⟨_ | _, _⟩ <;> rfl

@[simp]
theorem on_ofExcept (result : Except ε α) (scopes : Scopes) :
    (ofExcept result).on scopes = (result, scopes) :=
  rfl

@[simp]
theorem on_lookup (name : String) (scopes : Scopes) :
    (lookup name : Action ε (Option Value)).on scopes = (.ok (scopes.get? name), scopes) :=
  rfl

@[simp]
theorem on_declare (name : String) (value : Value) (scopes : Scopes) :
    (declare name value : Action ε Unit).on scopes = (.ok (), scopes.declare name value) :=
  rfl

@[simp]
theorem on_inFrame (frame : Table Value) (action : Action ε α) (scopes : Scopes) :
    (inFrame frame action).on scopes =
      ((action.on (scopes.push frame)).1, (action.on (scopes.push frame)).2.pop) :=
  rfl

end Action

end TemplateLang
