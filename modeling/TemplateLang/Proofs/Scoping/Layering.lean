import TemplateLang.Proofs.Scoping.Flattening

/-!
# Layers of options

A context that is extended twice is the context extended once, by the second options over the
first.  Directory and delimiters are replaced where they are given, helpers and variables are
written over those that are there, and all of it keeps the order in which names were first
written.  The frames of the context are flattened by the first layer, and a context with a root
alone is flattened to itself.
-/

namespace TemplateLang

namespace Scopes

/-- A root of distinct names is flattened to itself. -/
theorem flatten_ofRoot {root : Table Value} (distinct : root.Distinct) :
    (ofRoot root).flatten = root :=
  Table.ofEntries_of_distinct distinct

end Scopes

namespace Context

/-- No name is given twice among the variables, and none among the helpers. -/
structure Options.Distinct (options : Options) : Prop where
  bindings : options.bindings.Distinct
  helpers : options.helpers.Distinct

variable {first second : Options}

/-- Options over others are options again. -/
theorem Options.Distinct.andThen (distinct : first.Distinct) (second : Options) :
    (first.andThen second).Distinct :=
  ⟨distinct.bindings.overlay second.bindings, distinct.helpers.overlay second.helpers⟩

theorem getD_orElse {α : Type} (earlier later : Option α) (otherwise : α) :
    (later.orElse fun _ => earlier).getD otherwise = later.getD (earlier.getD otherwise) := by
  cases later <;> rfl

/-- The variables of an extended context are those it was given over those it had. -/
theorem bindings_extend (context : Context) (options : Options) :
    (context.extend options).bindings = context.bindings.overlay options.bindings :=
  Scopes.flatten_ofRoot (context.scopes.distinct_flatten.overlay options.bindings)

/-- Two layers of options are one. -/
theorem extend_extend (context : Context) (distinct : first.Distinct) (second : Options) :
    (context.extend first).extend second = context.extend (first.andThen second) := by
  have directories := getD_orElse first.directory second.directory context.directory
  have marks := getD_orElse first.tags second.tags context.tags
  have callables : (context.helpers.overlay first.helpers).overlay second.helpers =
      context.helpers.overlay (first.helpers.overlay second.helpers) :=
    Table.overlay_overlay distinct.helpers _ _
  have root : (context.extend first).bindings.overlay second.bindings =
      context.bindings.overlay (first.bindings.overlay second.bindings) := by
    rw [bindings_extend, Table.overlay_overlay distinct.bindings]
  calc (context.extend first).extend second
      = ⟨second.directory.getD (first.directory.getD context.directory),
          second.tags.getD (first.tags.getD context.tags),
          (context.helpers.overlay first.helpers).overlay second.helpers,
          .ofRoot ((context.extend first).bindings.overlay second.bindings)⟩ := rfl
    _ = context.extend (first.andThen second) := by
      rw [← directories, ← marks, callables, root]
      rfl

/-- An option's variable hides that of the context. -/
theorem get?_extend {context : Context} {options : Options}
    (distinctScopes : context.scopes.Distinct) (distinct : options.Distinct) (name : String) :
    (context.extend options).scopes.get? name =
      (options.bindings.get? name).or (context.scopes.get? name) := by
  rw [← Scopes.get?_flatten (distinct_extend context options), ← Scopes.get?_flatten distinctScopes,
    ← Table.get?_overlay distinct.bindings]
  exact congrArg (Table.get? · name) (bindings_extend context options)

end Context

open Context

/-- A context extended by some options and then by others is the context extended by the others
over the first: the directory, the delimiters, the helpers and the variables are the same, in the
same order.  A name has the value of the second options if these give one, else that of the
first, else the one that it is found to have in the context, and a helper likewise. -/
theorem extend_andThen {context : Context} {first second : Options}
    (distinctScopes : context.scopes.Distinct) (distinctFirst : first.Distinct)
    (distinctSecond : second.Distinct) :
    (context.extend first).extend second = context.extend (first.andThen second) ∧
      (∀ name, (context.extend (first.andThen second)).scopes.get? name =
        (second.bindings.get? name).or
          ((first.bindings.get? name).or (context.scopes.get? name))) ∧
      ∀ name, (context.extend (first.andThen second)).helpers.get? name =
        (second.helpers.get? name).or
          ((first.helpers.get? name).or (context.helpers.get? name)) := by
  refine ⟨extend_extend context distinctFirst second, fun name => ?_, fun name => ?_⟩
  · rw [← extend_extend context distinctFirst, get?_extend (distinct_extend context first)
      distinctSecond, get?_extend distinctScopes distinctFirst]
  · rw [← extend_extend context distinctFirst]
    exact (Table.get?_overlay distinctSecond.helpers _ name).trans
      (congrArg _ (Table.get?_overlay distinctFirst.helpers _ name))

/-- A variable of a loop is written by the first options and a new one by both, and a helper of
the language is replaced by the second ones. -/
theorem extend_andThen_loop :
    let loop : Scopes := (Context.create "" ⟨none, none, [("x", .null), ("y", .null)], []⟩).scopes.push
      (loopFrame ⟨"y", default⟩ none (.text "inner") 0)
    let context : Context := ⟨"a", .standard, Helpers.builtin, loop⟩
    let first : Options := ⟨none, some ⟨"<", ">"⟩, [("z", .null), ("y", .bool true)], []⟩
    let second : Options := ⟨some "b", none, [("x", .bool false), ("z", .text "last")],
      [("join", ⟨.host fun _ => pure .null, false⟩)]⟩
    context.scopes.Distinct ∧ first.Distinct ∧ second.Distinct ∧
      (context.extend first).extend second = context.extend (first.andThen second) ∧
      (context.extend (first.andThen second)).scopes =
        .ofRoot [("x", .bool false), ("y", .bool true), ("z", .text "last")] := by
  intro loop context first second
  have distinctScopes : context.scopes.Distinct :=
    (distinct_create "" _).push (Scopes.distinct_loopFrame _ _ _ _)
  have distinctFirst : first.Distinct := ⟨by unfold Table.Distinct; decide, List.nodup_nil⟩
  have distinctSecond : second.Distinct :=
    ⟨by unfold Table.Distinct; decide, List.pairwise_singleton _ _⟩
  exact ⟨distinctScopes, distinctFirst, distinctSecond,
    (extend_andThen distinctScopes distinctFirst distinctSecond).1, rfl⟩

end TemplateLang
