import Mathlib.Data.Set.Insert
import TemplateLang.Proofs.Jumps
import TemplateLang.Proofs.Scoping.Balance

/-!
# What an action reads and writes

An action is confined to the names that it reads and those that it writes: run on scopes that
agree on what it reads, it ends alike and the scopes go on to agree wherever they did, and it
leaves all bindings of every name that it does not write.  The frames of the scopes do not
matter, since names are only looked up; but a frame that is left gives way to what it hid,
and so confined actions are steady.

Sequences and frames make confined actions from confined ones.
-/

namespace TemplateLang

namespace Scopes

/-! ## Scopes that agree -/

/-- Scopes in which each of some names has the same value, or none in both. -/
def AgreeOn (names : Set String) (first second : Scopes) : Prop :=
  ∀ name ∈ names, first.get? name = second.get? name

variable {names : Set String} {first second : Scopes}

theorem AgreeOn.declare (agree : first.AgreeOn names second) (name : String) (value : Value) :
    (first.declare name value).AgreeOn names (second.declare name value) := by
  intro other isIn
  rw [get?_declare, get?_declare, agree other isIn]

theorem AgreeOn.push (agree : first.AgreeOn names second) (frame : Table Value) :
    (first.push frame).AgreeOn names (second.push frame) := by
  intro name isIn
  rw [get?_push, get?_push, agree name isIn]

/-- A name that a frame does not bind has the same value inside the frame and outside. -/
theorem Keeps.get?_pop {scopes after : Scopes} {frame : Table Value} {name : String}
    (kept : (scopes.push frame).Keeps after) (unbound : Table.get? frame name = none) :
    after.pop.get? name = after.get? name := by
  obtain ⟨top, namesEq, afterEq⟩ := kept.exists_push
  have unboundTop : Table.get? top name = none := by
    have same := Table.isSome_get?_congr namesEq name
    rw [unbound] at same
    simpa using same
  rw [afterEq, pop_push, get?_push, unboundTop, Option.none_or]

/-- What agrees inside a frame, and agreed before it was entered, agrees when it is left. -/
theorem AgreeOn.pop {after after' : Scopes} {frame : Table Value}
    (outside : first.AgreeOn names second) (kept : (first.push frame).Keeps after)
    (kept' : (second.push frame).Keeps after') (inside : after.AgreeOn names after') :
    after.pop.AgreeOn names after'.pop := by
  intro name isIn
  cases inFrame : Table.get? frame name with
  | none => rw [kept.get?_pop inFrame, kept'.get?_pop inFrame, inside name isIn]
  | some value =>
    have bound : (Table.get? frame name).isSome = true := by rw [inFrame, Option.isSome_some]
    rw [get?_congr (kept.bindings_pop bound), get?_congr (kept'.bindings_pop bound),
      outside name isIn]

/-! ## Scopes that are left alone -/

/-- No table of the scopes binds a name twice. -/
structure Distinct (scopes : Scopes) : Prop where
  root : scopes.root.Distinct
  frames : ∀ frame ∈ scopes.frames, frame.Distinct

/-- Scopes that are kept, with all bindings of the names outside of a set. -/
structure KeepsOutside (writes : Set String) (before after : Scopes) : Prop where
  keeps : before.Keeps after
  root : before.root.Distinct → after.root.Distinct
  outside : ∀ name ∉ writes, before.SameBindings name after

variable {writes writes' : Set String} {before middle after : Scopes}

theorem KeepsOutside.refl (writes : Set String) (scopes : Scopes) :
    scopes.KeepsOutside writes scopes :=
  ⟨.refl scopes, id, fun _ _ => rfl⟩

theorem KeepsOutside.trans (first : before.KeepsOutside writes middle)
    (second : middle.KeepsOutside writes after) : before.KeepsOutside writes after where
  keeps := first.keeps.trans second.keeps
  root := second.root ∘ first.root
  outside name isOutside := (second.outside name isOutside).trans (first.outside name isOutside)

theorem KeepsOutside.mono (kept : before.KeepsOutside writes after) (more : writes ⊆ writes') :
    before.KeepsOutside writes' after where
  keeps := kept.keeps
  root := kept.root
  outside name isOutside := kept.outside name fun isIn => isOutside (more isIn)

/-- Names that are distinct stay so. -/
theorem KeepsOutside.distinct (kept : before.KeepsOutside writes after)
    (distinct : before.Distinct) : after.Distinct where
  root := kept.root distinct.root
  frames frame isFrame := by
    have isNames : frame.names ∈ before.frames.map Table.names := by
      rw [← kept.keeps.frames]
      exact List.mem_map_of_mem isFrame
    obtain ⟨frame', isFrame', same⟩ := List.mem_map.mp isNames
    have distinct' : frame'.names.Nodup := distinct.frames frame' isFrame'
    rwa [same] at distinct'

/-- A write leaves the bindings of all other names. -/
theorem sameBindings_declare (scopes : Scopes) {name other : String} (differ : name ≠ other)
    (value : Value) : scopes.SameBindings other (scopes.declare name value) := by
  unfold SameBindings declare bindings
  split
  · rename_i frames wrote
    have framesEq := bindingsIn_of_assignIn wrote differ
    simp only [bindingsIn, List.map_append] at framesEq ⊢
    rw [framesEq]
  · simp [bindingsIn, differ]

theorem keepsOutside_declare (scopes : Scopes) {name : String} (isIn : name ∈ writes)
    (value : Value) : scopes.KeepsOutside writes (scopes.declare name value) where
  keeps := scopes.keeps_declare name value
  root distinct := by
    unfold declare
    split
    · exact distinct
    · exact distinct.insert name value
  outside other isOutside := by
    apply scopes.sameBindings_declare
    rintro rfl
    exact isOutside isIn

/-- What happens inside a frame keeps the scopes outside once the frame is left. -/
theorem KeepsOutside.pop {scopes : Scopes} {frame : Table Value}
    (kept : (scopes.push frame).KeepsOutside writes after) :
    scopes.KeepsOutside writes after.pop where
  keeps := kept.keeps.pop
  root := kept.root
  outside name isOutside := by
    obtain ⟨top, -, afterEq⟩ := kept.keeps.exists_push
    have same : after.bindings name = (scopes.push frame).bindings name :=
      kept.outside name isOutside
    rw [afterEq] at same
    exact (List.cons.inj same).2

end Scopes

/-! ## Confined actions -/

namespace Action

variable {ε ε' α β : Type} {reads reads' writes writes' : Set String}

/-- An action that reads only some names and writes only some names. -/
structure Confined (reads writes : Set String) (action : Action ε α) : Prop where
  along : action.Along (Scopes.KeepsOutside writes)
  alike : ∀ {names : Set String}, reads ⊆ names → ∀ {first second : Scopes},
    first.AgreeOn names second →
      (action.on first).1 = (action.on second).1 ∧
        (action.on first).2.AgreeOn names (action.on second).2

variable {action : Action ε α}

theorem Confined.mono (confined : action.Confined reads writes) (moreReads : reads ⊆ reads')
    (moreWrites : writes ⊆ writes') : action.Confined reads' writes' where
  along scopes := (confined.along scopes).mono moreWrites
  alike isIn _ _ agree := confined.alike (moreReads.trans isIn) agree

/-- An action that leaves the scopes alone, and does not look at them. -/
theorem confined_of_still {result : Except ε α}
    (still : ∀ scopes, action.on scopes = (result, scopes)) : action.Confined reads writes where
  along scopes := by
    rw [still]
    exact .refl writes scopes
  alike _ first second agree := by
    rw [still, still]
    exact ⟨rfl, agree⟩

theorem confined_pure (value : α) : (pure value : Action ε α).Confined reads writes :=
  confined_of_still (on_pure value)

theorem confined_throw (failure : ε) : (throw failure : Action ε α).Confined reads writes :=
  confined_of_still (on_throw failure)

theorem confined_ofExcept (result : Except ε α) : (ofExcept result).Confined reads writes :=
  confined_of_still (on_ofExcept result)

theorem confined_lookup {name : String} (isRead : name ∈ reads) :
    (lookup name : Action ε (Option Value)).Confined reads writes where
  along scopes := .refl writes scopes
  alike isIn first second agree := by
    rw [on_lookup, on_lookup, agree name (isIn isRead)]
    exact ⟨rfl, agree⟩

theorem confined_declare {name : String} (isWritten : name ∈ writes) (value : Value) :
    (declare name value : Action ε Unit).Confined reads writes where
  along scopes := scopes.keepsOutside_declare isWritten value
  alike _ _ _ agree := ⟨rfl, agree.declare name value⟩

/-- A sequence is confined as its parts are, where the second one may depend on a value that
the first one gives. -/
theorem Confined.bind_gives {next : α → Action ε β} (first : action.Confined reads writes)
    (second : ∀ value scopes after, action.Gives scopes value after →
      (next value).Confined reads writes) : (action >>= next).Confined reads writes where
  along scopes := by
    have one := first.along scopes
    rw [on_bind]
    cases ran : action.on scopes with
    | mk result middle =>
      rw [ran] at one
      cases result with
      | error failure => exact one
      | ok value => exact one.trans ((second value scopes middle ran).along middle)
  alike isIn scopes scopes' agree := by
    have one := first.alike isIn agree
    rw [on_bind, on_bind]
    cases ran : action.on scopes with
    | mk result middle =>
      rw [ran] at one
      generalize action.on scopes' = ran' at one ⊢
      rcases ran' with ⟨result', middle'⟩
      obtain ⟨rfl, agreeMiddle⟩ := one
      cases result with
      | error failure => exact ⟨rfl, agreeMiddle⟩
      | ok value => exact (second value scopes middle ran).alike isIn agreeMiddle

theorem Confined.bind {next : α → Action ε β} (first : action.Confined reads writes)
    (second : ∀ value, (next value).Confined reads writes) :
    (action >>= next).Confined reads writes :=
  first.bind_gives fun value _ _ _ => second value

theorem Confined.mapFailure (confined : action.Confined reads writes) (f : ε → ε') :
    (action.mapFailure f).Confined reads writes where
  along scopes := by
    have kept := confined.along scopes
    simp only [Action.mapFailure, on_ofFunction]
    generalize action.on scopes = ran at kept ⊢
    rcases ran with ⟨failure | value, after⟩
    · exact kept
    · exact kept
  alike isIn first second agree := by
    have same := confined.alike isIn agree
    simp only [Action.mapFailure, on_ofFunction]
    generalize action.on first = ran at same ⊢
    generalize action.on second = ran' at same ⊢
    rcases ran with ⟨result, after⟩
    rcases ran' with ⟨result', after'⟩
    obtain ⟨rfl, agreeAfter⟩ := same
    cases result with
    | error failure => exact ⟨rfl, agreeAfter⟩
    | ok value => exact ⟨rfl, agreeAfter⟩

/-- What is confined inside a frame is confined outside of it. -/
theorem Confined.inFrame (confined : action.Confined reads writes) (frame : Table Value) :
    (Action.inFrame frame action).Confined reads writes where
  along scopes := by
    rw [on_inFrame]
    exact (confined.along (scopes.push frame)).pop
  alike isIn _ _ agree := by
    rw [on_inFrame, on_inFrame]
    have inside := confined.alike isIn (agree.push frame)
    exact ⟨inside.1, agree.pop (confined.along _).keeps (confined.along _).keeps inside.2⟩

end Action

end TemplateLang
