import TemplateLang.Eval.Scopes
import TemplateLang.Proofs.Tables

/-!
# What evaluation keeps of the scopes

A name can be bound in several frames, and the innermost binding hides the others.
Evaluation may write variables, and it may enter and leave frames; what it leaves has the
same frames with the same names, a root that has lost no name, and the hidden bindings as
they were.  `Keeps` says so of the scopes before and after, and it is kept by a write, by
one step after another, and by what happens inside a frame that is left again.
-/

namespace TemplateLang

namespace Scopes

/-! ## The bindings of a name -/

/-- What tables bind a name to, in their order. -/
def bindingsIn (name : String) (tables : List (Table Value)) : List (Option Value) :=
  tables.map (Table.get? · name)

/-- The bindings of a name in all frames, the innermost first and the root last. -/
def bindings (scopes : Scopes) (name : String) : List (Option Value) :=
  bindingsIn name (scopes.frames ++ [scopes.root])

/-- The bindings after the first one. -/
def afterFirst : List (Option Value) → List (Option Value)
  | [] => []
  | some _ :: outer => outer
  | none :: outer => afterFirst outer

/-- The bindings of a name that the innermost one hides. -/
def hidden (scopes : Scopes) (name : String) : List (Option Value) :=
  afterFirst (scopes.bindings name)

/-- The value of a name is its first binding. -/
theorem lookupIn_eq (frames : List (Table Value)) (name : String) :
    lookupIn frames name = (bindingsIn name frames).findSome? id := by
  induction frames with
  | nil => rfl
  | cons frame outer ih =>
    simp only [lookupIn, bindingsIn, List.map_cons, List.findSome?_cons, id_eq]
    cases Table.get? frame name with
    | some value => rfl
    | none => simpa [bindingsIn] using ih

theorem get?_eq_findSome? (scopes : Scopes) (name : String) :
    scopes.get? name = (scopes.bindings name).findSome? id := by
  unfold get? bindings
  rw [lookupIn_eq, bindingsIn, bindingsIn, List.map_append, List.findSome?_append]
  cases List.findSome? id (List.map (fun table => Table.get? table name) scopes.frames) with
  | some value => rfl
  | none => cases atRoot : Table.get? scopes.root name <;> simp [atRoot]

/-- Names with the same bindings have the same value. -/
theorem get?_congr {first second : Scopes} {name : String}
    (same : first.bindings name = second.bindings name) : first.get? name = second.get? name := by
  rw [get?_eq_findSome?, get?_eq_findSome?, same]

/-! ## Writes -/

/-- A write in frames keeps the names of each. -/
theorem names_of_assignIn {name : String} {value : Value} {frames written : List (Table Value)}
    (wrote : assignIn name value frames = some written) :
    written.map Table.names = frames.map Table.names := by
  induction frames generalizing written with
  | nil => simp [assignIn] at wrote
  | cons frame outer ih =>
    unfold assignIn at wrote
    split at wrote
    · rename_i bound
      obtain rfl := Option.some.inj wrote
      simp [Table.names_insert_of_binds bound value]
    · obtain ⟨others, wroteOthers, rfl⟩ := Option.map_eq_some_iff.mp wrote
      simp [ih wroteOthers]

/-- A write in frames changes no other name. -/
theorem bindingsIn_of_assignIn {name other : String} {value : Value}
    {frames written : List (Table Value)} (wrote : assignIn name value frames = some written)
    (differ : name ≠ other) : bindingsIn other written = bindingsIn other frames := by
  induction frames generalizing written with
  | nil => simp [assignIn] at wrote
  | cons frame outer ih =>
    unfold assignIn at wrote
    split at wrote
    · obtain rfl := Option.some.inj wrote
      simp [bindingsIn, differ]
    · obtain ⟨others, wroteOthers, rfl⟩ := Option.map_eq_some_iff.mp wrote
      have othersEq := ih wroteOthers
      simp only [bindingsIn, List.map_cons] at othersEq ⊢
      rw [othersEq]

/-- A write in frames changes the first binding alone. -/
theorem afterFirst_of_assignIn {name : String} {value : Value}
    {frames written : List (Table Value)} (wrote : assignIn name value frames = some written)
    (root : Table Value) :
    afterFirst (bindingsIn name (written ++ [root])) =
      afterFirst (bindingsIn name (frames ++ [root])) := by
  induction frames generalizing written with
  | nil => simp [assignIn] at wrote
  | cons frame outer ih =>
    unfold assignIn at wrote
    split at wrote
    · rename_i bound
      obtain rfl := Option.some.inj wrote
      obtain ⟨old, isOld⟩ := Option.isSome_iff_exists.mp bound
      simp [bindingsIn, afterFirst, isOld]
    · rename_i unbound
      obtain ⟨others, wroteOthers, rfl⟩ := Option.map_eq_some_iff.mp wrote
      have isNone : Table.get? frame name = none := by
        simpa [Table.binds] using unbound
      have othersEq := ih wroteOthers
      simpa [bindingsIn, afterFirst, isNone] using othersEq

/-- A name that no frame binds has its only binding in the root. -/
theorem afterFirst_of_unbound {name : String} {frames : List (Table Value)}
    (unbound : lookupIn frames name = none) (root : Table Value) :
    afterFirst (bindingsIn name (frames ++ [root])) = [] := by
  induction frames with
  | nil =>
    simp only [bindingsIn, List.nil_append, List.map_cons, List.map_nil]
    cases Table.get? root name <;> rfl
  | cons frame outer ih =>
    unfold lookupIn at unbound
    split at unbound
    · simp at unbound
    · rename_i isNone
      simpa [bindingsIn, afterFirst, isNone] using ih unbound

/-! ## What is kept -/

/-- Scopes that are left as evaluation found them, but for the values of names that can
be seen and for new names in the root. -/
structure Keeps (before after : Scopes) : Prop where
  frames : after.frames.map Table.names = before.frames.map Table.names
  root : before.root.names <+: after.root.names
  hidden : ∀ name, after.hidden name = before.hidden name

theorem Keeps.refl (scopes : Scopes) : scopes.Keeps scopes :=
  ⟨rfl, List.prefix_rfl, fun _ => rfl⟩

theorem Keeps.trans {before middle after : Scopes} (first : before.Keeps middle)
    (second : middle.Keeps after) : before.Keeps after where
  frames := second.frames.trans first.frames
  root := first.root.trans second.root
  hidden name := (second.hidden name).trans (first.hidden name)

/-- A write keeps the scopes. -/
theorem keeps_declare (scopes : Scopes) (name : String) (value : Value) :
    scopes.Keeps (scopes.declare name value) := by
  unfold declare
  split
  · rename_i frames wrote
    refine ⟨names_of_assignIn wrote, List.prefix_rfl, fun other => ?_⟩
    by_cases same : name = other
    · subst same
      exact afterFirst_of_assignIn wrote scopes.root
    · have framesEq := bindingsIn_of_assignIn wrote same
      simp only [bindingsIn] at framesEq
      simp [hidden, bindings, bindingsIn, framesEq]
  · rename_i none
    refine ⟨rfl, Table.names_prefix_insert _ _ _, fun other => ?_⟩
    by_cases same : name = other
    · subst same
      have unbound := lookupIn_of_assignIn_eq_none none
      exact (afterFirst_of_unbound unbound _).trans (afterFirst_of_unbound unbound _).symm
    · simp [hidden, bindings, bindingsIn, same]

/-- The bindings hidden inside a frame are those outside if the frame binds the name, and
otherwise those hidden outside. -/
theorem hidden_push (scopes : Scopes) (frame : Table Value) (name : String) :
    (scopes.push frame).hidden name =
      if (Table.get? frame name).isSome then scopes.bindings name else scopes.hidden name := by
  simp only [hidden, bindings, push, bindingsIn, List.cons_append, List.map_cons]
  cases Table.get? frame name <;> rfl

/-- What is kept inside a frame has that frame on top, perhaps with other values. -/
theorem Keeps.exists_push {scopes after : Scopes} {frame : Table Value}
    (kept : (scopes.push frame).Keeps after) :
    ∃ top, top.names = frame.names ∧ after = after.pop.push top := by
  obtain ⟨root, frames⟩ := after
  have shape := kept.frames
  cases frames with
  | nil => simp [push] at shape
  | cons top outer =>
    simp only [push, List.map_cons, List.cons.injEq] at shape
    exact ⟨top, shape.1, rfl⟩

/-- What happens inside a frame keeps the scopes outside once the frame is left. -/
theorem Keeps.pop {scopes after : Scopes} {frame : Table Value}
    (kept : (scopes.push frame).Keeps after) : scopes.Keeps after.pop := by
  obtain ⟨top, namesEq, afterEq⟩ := kept.exists_push
  rw [afterEq] at kept
  refine ⟨?_, kept.root, fun name => ?_⟩
  · have shape := kept.frames
    simpa [push] using (List.cons.inj shape).2
  · have hiddenEq := kept.hidden name
    rw [hidden_push, hidden_push, Table.isSome_get?_congr namesEq] at hiddenEq
    split at hiddenEq
    · exact congrArg afterFirst hiddenEq
    · exact hiddenEq

/-- What happens inside a frame changes no outer binding of a name that the frame
binds. -/
theorem Keeps.bindings_pop {scopes after : Scopes} {frame : Table Value}
    (kept : (scopes.push frame).Keeps after) {name : String}
    (bound : (Table.get? frame name).isSome = true) :
    after.pop.bindings name = scopes.bindings name := by
  obtain ⟨top, namesEq, afterEq⟩ := kept.exists_push
  have hiddenEq := kept.hidden name
  rw [afterEq] at hiddenEq
  rwa [hidden_push, hidden_push, Table.isSome_get?_congr namesEq, bound, if_pos rfl,
    if_pos rfl] at hiddenEq

end Scopes

end TemplateLang
