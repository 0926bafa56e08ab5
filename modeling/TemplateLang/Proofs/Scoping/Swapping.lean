import TemplateLang.Proofs.Scoping.Agreement

/-!
# Actions in either order

Two actions of which neither writes a name that the other one reads or writes can be run in
either order: each gives what it gave, and every frame binds every name alike afterwards.
-/

namespace TemplateLang

namespace Scopes

/-! ## Scopes with the same bindings -/

/-- After the first of some bindings there are fewer of them. -/
theorem length_afterFirst_lt {bindings : List (Option Value)} {first : Value}
    (found : bindings.findSome? id = some first) :
    (afterFirst bindings).length < bindings.length := by
  induction bindings with
  | nil => exact nomatch found
  | cons binding outer ih =>
    cases binding with
    | none => exact Nat.lt_succ_of_lt (ih found)
    | some value => exact Nat.lt_succ_self _

/-- Bindings are told by their number, the first one, and those after it. -/
theorem bindings_ext {bindings bindings' : List (Option Value)}
    (sameLength : bindings.length = bindings'.length)
    (sameFirst : bindings.findSome? id = bindings'.findSome? id)
    (sameAfter : afterFirst bindings = afterFirst bindings') : bindings = bindings' := by
  induction bindings generalizing bindings' with
  | nil => exact (List.length_eq_zero_iff.mp sameLength.symm).symm
  | cons binding outer ih =>
    cases bindings' with
    | nil => exact absurd sameLength (Nat.succ_ne_zero _)
    | cons binding' outer' =>
      have sameOuter : outer.length = outer'.length := Nat.succ.inj sameLength
      -- a first binding here on one side alone would leave fewer after it on the other side
      cases binding with
      | none =>
        cases binding' with
        | none => rw [ih sameOuter sameFirst sameAfter]
        | some value' =>
          have found : outer.findSome? id = some value' := sameFirst
          have fewer := length_afterFirst_lt found
          rw [afterFirst, afterFirst] at sameAfter
          rw [sameAfter, sameOuter] at fewer
          exact absurd fewer (Nat.lt_irrefl _)
      | some value =>
        cases binding' with
        | none =>
          have found : outer'.findSome? id = some value := sameFirst.symm
          have fewer := length_afterFirst_lt found
          rw [afterFirst, afterFirst] at sameAfter
          rw [← sameAfter, sameOuter] at fewer
          exact absurd fewer (Nat.lt_irrefl _)
        | some value' =>
          obtain rfl : value = value' := Option.some.inj sameFirst
          obtain rfl : outer = outer' := sameAfter
          rfl

/-- Scopes in which every frame binds every name alike. -/
def Matches (first second : Scopes) : Prop :=
  ∀ name, first.SameBindings name second

variable {first second third : Scopes}

theorem Matches.refl (scopes : Scopes) : scopes.Matches scopes :=
  fun _ => rfl

theorem Matches.trans (start : first.Matches second) (next : second.Matches third) :
    first.Matches third :=
  fun name => (next name).trans (start name)

theorem Matches.get?_eq (same : first.Matches second) (name : String) :
    second.get? name = first.get? name :=
  get?_congr (same name)

theorem Matches.length_eq (same : first.Matches second) :
    second.frames.length = first.frames.length := by
  have sameLength := congrArg List.length (same "")
  simpa [bindings, bindingsIn] using sameLength

/-- Scopes match if they have as many frames, and the same visible and hidden bindings. -/
theorem matches_of (sameLength : second.frames.length = first.frames.length)
    (sameVisible : ∀ name, second.get? name = first.get? name)
    (sameHidden : ∀ name, second.hidden name = first.hidden name) : first.Matches second := by
  intro name
  apply bindings_ext
  · simp [bindings, bindingsIn, sameLength]
  · rw [← get?_eq_findSome?, ← get?_eq_findSome?, sameVisible]
  · exact sameHidden name

theorem Keeps.length_eq (kept : first.Keeps second) :
    second.frames.length = first.frames.length := by
  simpa using congrArg List.length kept.frames

/-- Scopes that match still match after the same write. -/
theorem Matches.declare (same : first.Matches second) (name : String) (value : Value) :
    (first.declare name value).Matches (second.declare name value) := by
  have kept := first.keeps_declare name value
  have kept' := second.keeps_declare name value
  apply matches_of
  · rw [kept.length_eq, kept'.length_eq, same.length_eq]
  · intro other
    rw [get?_declare, get?_declare, same.get?_eq]
  · intro other
    rw [kept.hidden, kept'.hidden, hidden, hidden, same other]

end Scopes

namespace Action

variable {ε α β : Type} {reads writes reads' writes' : Set String}

/-- Of two actions in a row, neither of which writes what the other one reads or writes, the
second one may come first. -/
theorem Confined.swap {action : Action ε α} {action' : Action ε β}
    (confined : action.Confined reads writes) (confined' : action'.Confined reads' writes')
    (unread : ∀ name ∈ writes, name ∉ reads') (unread' : ∀ name ∈ writes', name ∉ reads)
    (unwritten : ∀ name ∈ writes, name ∉ writes') {scopes middle after : Scopes} {given : α}
    {given' : β} (ran : action.Gives scopes given middle)
    (ran' : action'.Gives middle given' after) :
    ∃ between last, action'.Gives scopes given' between ∧ action.Gives between given last ∧
      after.Matches last := by
  have keeps : scopes.KeepsOutside writes middle := by
    have along := confined.along scopes
    rwa [ran] at along
  have keeps' : middle.KeepsOutside writes' after := by
    have along := confined'.along middle
    rwa [ran'] at along
  -- the second action comes first: what the first one writes, it does not see
  have agree : middle.AgreeOn writesᶜ scopes :=
    fun name isOutside => Scopes.get?_congr (keeps.outside name isOutside)
  have outsideReads : reads' ⊆ writesᶜ := fun name isRead isWritten => unread name isWritten isRead
  obtain ⟨result', agreeAfter⟩ := confined'.alike outsideReads agree
  have along' := confined'.along scopes
  generalize ranBefore : action'.on scopes = before at result' agreeAfter along'
  rcases before with ⟨_, between⟩
  rw [ran'] at result' agreeAfter
  obtain rfl := result'
  -- the first action comes second
  have agree' : scopes.AgreeOn writes'ᶜ between :=
    fun name isOutside => (Scopes.get?_congr (along'.outside name isOutside)).symm
  have outsideReads' : reads ⊆ writes'ᶜ :=
    fun name isRead isWritten => unread' name isWritten isRead
  obtain ⟨result, agreeLast⟩ := confined.alike outsideReads' agree'
  have along := confined.along between
  generalize ranLast : action.on between = last at result agreeLast along
  rcases last with ⟨_, last⟩
  rw [ran] at result agreeLast
  obtain rfl := result
  refine ⟨between, last, ranBefore, ranLast, Scopes.matches_of ?_ ?_ ?_⟩
  · rw [along.keeps.length_eq, along'.keeps.length_eq, keeps'.keeps.length_eq,
      keeps.keeps.length_eq]
  · intro name
    by_cases isWritten : name ∈ writes
    · have kept : after.get? name = middle.get? name :=
        Scopes.get?_congr (keeps'.outside name (unwritten name isWritten))
      rw [kept, agreeLast name (unwritten name isWritten)]
    · have kept : last.get? name = between.get? name :=
        Scopes.get?_congr (along.outside name isWritten)
      rw [kept, agreeAfter name isWritten]
  · intro name
    rw [along.keeps.hidden, along'.keeps.hidden, keeps'.keeps.hidden, keeps.keeps.hidden]

end Action

end TemplateLang
