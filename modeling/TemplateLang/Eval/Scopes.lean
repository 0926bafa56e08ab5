import TemplateLang.Value.Basic

/-!
# Scopes

The variables of a template live in frames.  The root frame holds those that
outlive the template; each round of a loop adds a frame with its own variables.
Names are looked up from the innermost frame outward.
-/

namespace TemplateLang

/-- The root frame, and the frames of the enclosing loops, innermost first. -/
structure Scopes where
  root : Table Value
  frames : List (Table Value)

namespace Scopes

/-- Scopes outside of any loop. -/
def ofRoot (root : Table Value) : Scopes :=
  ⟨root, []⟩

/-- Look a name up in frames, first to last. -/
def lookupIn : List (Table Value) → String → Option Value
  | [], _ => none
  | frame :: outer, name =>
    match Table.get? frame name with
    | some value => some value
    | none => lookupIn outer name

/-- The value of a name. -/
def get? (scopes : Scopes) (name : String) : Option Value :=
  match lookupIn scopes.frames name with
  | some value => some value
  | none => Table.get? scopes.root name

/-- Write a name in the innermost of some frames that binds it; `none` if no one
does. -/
def assignIn (name : String) (value : Value) : List (Table Value) → Option (List (Table Value))
  | [] => none
  | frame :: outer =>
    if Table.binds frame name then some (Table.insert frame name value :: outer)
    else (assignIn name value outer).map (frame :: ·)

/-- Write a name in the innermost frame that binds it, or else in the root. -/
def declare (scopes : Scopes) (name : String) (value : Value) : Scopes :=
  match assignIn name value scopes.frames with
  | some frames => { scopes with frames := frames }
  | none => { scopes with root := Table.insert scopes.root name value }

/-- Enter a frame. -/
def push (scopes : Scopes) (frame : Table Value) : Scopes :=
  { scopes with frames := frame :: scopes.frames }

/-- Leave the innermost frame. -/
def pop (scopes : Scopes) : Scopes :=
  { scopes with frames := scopes.frames.drop 1 }

/-- All variables in one table, from the root inward, the inner values over the
outer ones. -/
def flatten (scopes : Scopes) : Table Value :=
  scopes.frames.foldr (fun frame table => Table.overlay table frame) (Table.ofEntries scopes.root)

/-! ## What reading sees -/

/-- A write in frames finds no place only for a name that no frame binds. -/
theorem lookupIn_of_assignIn_eq_none {name : String} {value : Value} {frames : List (Table Value)}
    (unbound : assignIn name value frames = none) : lookupIn frames name = none := by
  induction frames with
  | nil => rfl
  | cons frame outer ih =>
    unfold assignIn at unbound
    split at unbound
    · simp at unbound
    · rename_i notHere
      simp only [Table.binds, Bool.not_eq_true, Option.isSome_eq_false_iff,
        Option.isNone_iff_eq_none] at notHere
      rw [lookupIn, notHere, ih (by simpa using unbound)]

/-- A write in frames changes the name that is written and no other. -/
theorem lookupIn_of_assignIn_eq_some {name : String} {value : Value}
    {frames written : List (Table Value)} (wrote : assignIn name value frames = some written)
    (other : String) :
    lookupIn written other = if name = other then some value else lookupIn frames other := by
  induction frames generalizing written with
  | nil => simp [assignIn] at wrote
  | cons frame outer ih =>
    unfold assignIn at wrote
    split at wrote
    · obtain rfl := Option.some.inj wrote
      by_cases same : name = other <;> simp [lookupIn, same]
    · rename_i notHere
      obtain ⟨rest, wroteRest, rfl⟩ := Option.map_eq_some_iff.1 wrote
      simp only [Table.binds, Bool.not_eq_true, Option.isSome_eq_false_iff,
        Option.isNone_iff_eq_none] at notHere
      rw [lookupIn, lookupIn, ih wroteRest]
      by_cases same : name = other
      · subst same
        simp [notHere]
      · simp [same]

/-- A written name has the written value and every other name keeps its own. -/
theorem get?_declare (scopes : Scopes) (name other : String) (value : Value) :
    (scopes.declare name value).get? other =
      if name = other then some value else scopes.get? other := by
  unfold declare
  split
  · rename_i frames wrote
    rw [get?, get?, lookupIn_of_assignIn_eq_some wrote]
    by_cases same : name = other <;> simp [same]
  · rename_i unbound
    rw [get?, get?, Table.get?_insert]
    by_cases same : name = other
    · subst same
      simp [lookupIn_of_assignIn_eq_none unbound]
    · simp [same]

/-- The names of an entered frame come before all others. -/
theorem get?_push (scopes : Scopes) (frame : Table Value) (name : String) :
    (scopes.push frame).get? name = (Table.get? frame name).or (scopes.get? name) := by
  simp only [get?, push, lookupIn]
  cases Table.get? frame name <;> rfl

@[simp]
theorem pop_push (scopes : Scopes) (frame : Table Value) : (scopes.push frame).pop = scopes :=
  rfl

end Scopes

end TemplateLang
