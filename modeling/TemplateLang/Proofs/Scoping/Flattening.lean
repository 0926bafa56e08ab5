import TemplateLang.Proofs.Scoping.Confinement

/-!
# Flattening the frames

The variables of a context in one table, the inner ones over the outer ones, give every name
the value that it has in the frames.  A template only looks names up, and where its writes go
is seen by what it looks up later; so it cannot tell the frames from the one table, and leaves
scopes in which every name has the same value again.

No table of a context binds a name twice: contexts are made that way, and extending them and
rendering in them keeps it so.
-/

namespace TemplateLang

namespace Scopes

variable {scopes : Scopes}

theorem distinct_ofRoot {root : Table Value} (distinct : root.Distinct) :
    (ofRoot root).Distinct :=
  ⟨distinct, fun _ isFrame => nomatch isFrame⟩

theorem Distinct.push (distinct : scopes.Distinct) {frame : Table Value}
    (distinctFrame : frame.Distinct) : (scopes.push frame).Distinct :=
  ⟨distinct.root, List.forall_mem_cons.mpr ⟨distinctFrame, distinct.frames⟩⟩

theorem distinct_loopFrame (value : Identifier) (index : Option Identifier) (item : Value)
    (position : Nat) : (loopFrame value index item position).Distinct := by
  unfold loopFrame
  cases index with
  | none => exact Table.distinct_nil.insert value.name item
  | some index => exact (Table.distinct_nil.insert value.name item).insert index.name _

theorem distinct_flatten (scopes : Scopes) : scopes.flatten.Distinct := by
  unfold flatten
  induction scopes.frames with
  | nil => exact Table.distinct_ofEntries scopes.root
  | cons frame outer ih => exact ih.overlay frame

/-- A name has the same value in the flattened scopes. -/
theorem get?_flatten (distinct : scopes.Distinct) (name : String) :
    scopes.flatten.get? name = scopes.get? name := by
  obtain ⟨root, frames⟩ := scopes
  obtain ⟨distinctRoot, distinctFrames⟩ := distinct
  unfold flatten get?
  dsimp only at distinctRoot distinctFrames ⊢
  induction frames with
  | nil =>
    rw [List.foldr_nil, lookupIn, Table.ofEntries, Table.get?_overlay distinctRoot]
    simp
  | cons frame outer ih =>
    rw [List.forall_mem_cons] at distinctFrames
    rw [List.foldr_cons, Table.get?_overlay distinctFrames.1, ih distinctFrames.2, lookupIn]
    cases Table.get? frame name <;> rfl

end Scopes

namespace Context

/-- A context is made with variables of distinct names. -/
theorem distinct_create (directory : String) (options : Options) :
    (create directory options).scopes.Distinct :=
  Scopes.distinct_ofRoot (Table.distinct_ofEntries options.bindings)

theorem distinct_extend (context : Context) (options : Options) :
    (context.extend options).scopes.Distinct :=
  Scopes.distinct_ofRoot (context.scopes.distinct_flatten.overlay options.bindings)

/-- With the helpers of the language, a template reads the variables of a context by their
names only. -/
theorem confined_evaluate {context : Context} (builtin : context.helpers = Helpers.builtin)
    (world : World) (template : Template) :
    (template.evaluate (context.callables world)).Confined Set.univ Set.univ := by
  rw [callables, builtin]
  exact Template.confined_evaluate (Helpers.confined_builtin_univ Helpers.maxDepth)
    fun statement _ => statement.within_univ

/-- Templates keep the names of the variables distinct. -/
theorem distinct_render {context : Context} (builtin : context.helpers = Helpers.builtin)
    (distinct : context.scopes.Distinct) (world : World) (template : Template) :
    (context.render world template).2.scopes.Distinct :=
  ((confined_evaluate builtin world template).along context.scopes).distinct distinct

/-- A context extended by nothing has its variables in one table, and all else as before. -/
theorem extend_none (context : Context) :
    context.extend .none = { context with scopes := .ofRoot context.bindings } :=
  rfl

end Context

/-- With the helpers of the language, a template writes the same or fails with the same error
in a context with any frames and in the one that is extended by nothing, in which all variables
stand in the root.  Afterwards every name has the same value in both.  The variables of the
context, each listed once, have the values that their names are found to have. -/
theorem render_extend_none {context : Context} (builtin : context.helpers = Helpers.builtin)
    (distinct : context.scopes.Distinct) (world : World) (template : Template) :
    (context.render world template).1 = ((context.extend .none).render world template).1 ∧
      (∀ name, (context.render world template).2.scopes.get? name =
        ((context.extend .none).render world template).2.scopes.get? name) ∧
      context.bindings.Distinct ∧
      ∀ name, context.bindings.get? name = context.scopes.get? name := by
  have flat (name : String) : context.bindings.get? name = context.scopes.get? name :=
    Scopes.get?_flatten distinct name
  have agree : context.scopes.AgreeOn Set.univ (.ofRoot context.bindings) :=
    fun name _ => (flat name).symm
  have alike := (Context.confined_evaluate builtin world template).alike subset_rfl agree
  rw [Context.extend_none]
  exact ⟨alike.1, fun name => alike.2 name trivial, context.scopes.distinct_flatten, flat⟩

/-- A template that writes a name bound in the frames of two loops, in the second round of the
inner one. -/
theorem render_extend_none_loops :
    let loops : Scopes := ((Context.create "" ⟨none, none, [("x", .null)], []⟩).scopes.push
      (loopFrame ⟨"x", default⟩ none (.text "outer") 0)).push
        (loopFrame ⟨"y", default⟩ (some ⟨"x", default⟩) (.text "inner") 1)
    let context : Context := ⟨"", .standard, Helpers.builtin, loops⟩
    let mark : Tag := ⟨.opening, "", false, [], default⟩
    let template : Template := ⟨[.tag mark (.assign ⟨"x", default⟩
      (.identifier "y" (.at default)) default) mark default]⟩
    let world : World := ⟨⟨[], [], []⟩, ⟨0, 0, 0⟩⟩
    context.bindings.get? "x" = some (.ofNat 1) ∧
      (context.render world template).2.scopes.get? "x" =
        ((context.extend .none).render world template).2.scopes.get? "x" ∧
      (context.render world template).2.scopes.get? "x" = some (.text "inner") := by
  intro loops context mark template world
  have distinct : context.scopes.Distinct :=
    ((Context.distinct_create "" _).push (Scopes.distinct_loopFrame _ _ _ _)).push
      (Scopes.distinct_loopFrame _ _ _ _)
  obtain ⟨-, sameValues, -, flat⟩ := @render_extend_none context rfl distinct world template
  exact ⟨flat "x", sameValues "x", rfl⟩

end TemplateLang
