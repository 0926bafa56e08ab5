import TemplateLang.Proofs.Scoping.Confinement

/-!
# Variables that a template does not mention

A template sees the variables whose names stand in it, and no others, unless it evaluates
texts or defines variables by name.  So a variable that it does not mention has no say in what
it writes or how it fails, and is left as it was, in whichever frame it is bound.
-/

namespace TemplateLang

/-- The statements of a template do nothing to a name that the template does not mention. -/
theorem Template.within_of_unmentioned {template : Template} {name : String}
    (noEval : "eval" ∉ template.callees) (noDefine : "define" ∉ template.callees)
    (unread : name ∉ template.identifiers) (unbound : name ∉ template.boundNames)
    {statement : Statement} (isStatement : statement ∈ template.statements) :
    statement.Within {name}ᶜ {name}ᶜ {"eval", "define"}ᶜ where
  heads head isHead := by
    have notIdentifier (other : String) (isIdentifier : other ∈ head.identifiers) :
        other ∈ ({name}ᶜ : Set String) := by
      rintro rfl
      apply unread
      exact List.mem_flatMap.mpr ⟨_, isStatement, List.mem_flatMap.mpr ⟨_, isHead, isIdentifier⟩⟩
    have isCallee {other : String} (isCalled : other ∈ head.callees) : other ∈ template.callees :=
      List.mem_flatMap.mpr ⟨_, isStatement, List.mem_flatMap.mpr ⟨_, isHead, isCalled⟩⟩
    refine Expr.within_of_names notIdentifier ?_ ?_
    · intro other isUpdated
      exact notIdentifier other (head.updated_subset_identifiers isUpdated)
    · rintro other isCalled (rfl | rfl)
      · exact noEval (isCallee isCalled)
      · exact noDefine (isCallee isCalled)
  names other isName := by
    intro same
    apply unbound
    refine List.mem_flatMap.mpr ⟨_, isStatement, List.mem_map.mpr ⟨other, isName, ?_⟩⟩
    exact same

/-- A template that calls neither `eval` nor `define`, in two contexts with the helpers of the
language that differ in a variable that it does not mention: it writes the same or fails with
the same error, the contexts differ in that variable alone afterwards, and each binds it, in
every frame, as before. -/
theorem render_unmentioned {template : Template} {name : String}
    (noEval : "eval" ∉ template.callees) (noDefine : "define" ∉ template.callees)
    (unread : name ∉ template.identifiers) (unbound : name ∉ template.boundNames)
    {first second : Context} (builtin : first.helpers = Helpers.builtin)
    (builtin' : second.helpers = Helpers.builtin)
    (sameDirectory : first.directory = second.directory)
    (agree : ∀ other, other ≠ name → first.scopes.get? other = second.scopes.get? other)
    (world : World) :
    (first.render world template).1 = (second.render world template).1 ∧
      (∀ other, other ≠ name →
        (first.render world template).2.scopes.get? other =
          (second.render world template).2.scopes.get? other) ∧
      ∀ context ∈ [first, second],
        (context.render world template).2.scopes.bindings name = context.scopes.bindings name ∧
          (context.render world template).2.scopes.get? name = context.scopes.get? name := by
  have confined (directory : String) :
      (template.evaluate (Helpers.builtin.callables world directory)).Confined {name}ᶜ {name}ᶜ :=
    Template.confined_evaluate (Helpers.confined_builtin Helpers.maxDepth) fun _ isStatement =>
      Template.within_of_unmentioned noEval noDefine unread unbound isStatement
  have callablesEq : second.callables world = first.callables world := by
    rw [Context.callables, Context.callables, builtin, builtin', sameDirectory]
  have alike := (confined first.directory).alike subset_rfl agree
  have leaves (context : Context) (isBuiltin : context.helpers = Helpers.builtin) :
      (context.render world template).2.scopes.bindings name = context.scopes.bindings name := by
    have isOutside : name ∉ ({name}ᶜ : Set String) := fun isOther => isOther rfl
    have outside := ((confined context.directory).along context.scopes).outside name isOutside
    rw [← isBuiltin] at outside
    exact outside
  rw [← builtin] at alike
  refine ⟨?_, ?_, ?_⟩
  · simp only [Context.render, Context.run, callablesEq]
    exact alike.1
  · simp only [Context.render, Context.run, callablesEq]
    exact alike.2
  · intro context isContext
    have isBuiltin : context.helpers = Helpers.builtin := by
      rcases List.mem_cons.mp isContext with rfl | isSecond
      · exact builtin
      · rw [List.mem_singleton.mp isSecond]
        exact builtin'
    exact ⟨leaves context isBuiltin, Scopes.get?_congr (leaves context isBuiltin)⟩

/-- A loop that counts its rounds, in a context that binds an unmentioned `n` in a frame and in
one that binds it to something else in the root. -/
theorem render_unmentioned_loop :
    let mark : Tag := ⟨.opening, "", false, [], default⟩
    let count : Expr := .update .increment .after (.identifier "i" (.at default)) (.at default)
    let template : Template := ⟨[.tag mark (.loop ⟨"v", default⟩ none
      (.identifier "xs" (.at default)) mark [.tag mark (.expression count) mark default] mark
      default) mark default]⟩
    let items : Value := .array [.null, .null]
    let first : Context := ⟨"", .standard, Helpers.builtin,
      ⟨[("xs", items), ("i", .ofNat 0), ("n", .null)], []⟩⟩
    let second : Context := ⟨"", .standard, Helpers.builtin,
      ⟨[("xs", items)], [[("n", .text "inner")], [("i", .ofNat 0)]]⟩⟩
    let world : World := ⟨⟨[], [], []⟩, ⟨0, 0, 0⟩⟩
    (first.render world template).1 = (second.render world template).1 ∧
      (first.render world template).2.scopes.get? "i" =
        (second.render world template).2.scopes.get? "i" ∧
      (second.render world template).2.scopes.get? "n" = some (.text "inner") := by
  intro mark count template items first second world
  have agree : ∀ other, other ≠ "n" → first.scopes.get? other = second.scopes.get? other := by
    intro other differ
    have differ' : ¬"n" = other := fun same => differ same.symm
    by_cases isItems : "xs" = other
    · subst isItems
      rfl
    · by_cases isCount : "i" = other
      · subst isCount
        rfl
      · simp [first, second, Scopes.get?, Scopes.lookupIn, isItems, isCount, differ']
  obtain ⟨sameResult, sameOthers, kept⟩ := @render_unmentioned template "n" (by decide)
    (by decide) (by decide) (by decide) first second rfl rfl rfl agree world
  exact ⟨sameResult, sameOthers "i" (by decide), (kept second (by simp)).2⟩

end TemplateLang
