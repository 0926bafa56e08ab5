import TemplateLang.Engine.Context

/-!
# Trim markers only remove blanks

A template and the one without its trim markers are rendered side by side.  They read and
write the same variables and fail together with the same error, since no expression sees
the output.  All the while the trimmed output is the other one with some blanks left out:
a marker takes blanks off an end of a text, and what was left out before stays left out.
-/

namespace TemplateLang

/-! ## Texts with blanks left out -/

namespace Text

/-- The first text is the second one with some of its blanks left out. -/
inductive Thins : List Char → List Char → Prop where
  | nil : Thins [] []
  | keep (char : Char) {thin whole : List Char} (rest : Thins thin whole) :
    Thins (char :: thin) (char :: whole)
  | drop {blank : Char} {thin whole : List Char} (isBlank : Unicode.isBlank blank)
    (rest : Thins thin whole) : Thins thin (blank :: whole)

namespace Thins

variable {thin whole thin' whole' : List Char}

theorem refl (text : List Char) : Thins text text := by
  induction text with
  | nil => exact .nil
  | cons char rest ih => exact .keep char ih

theorem append (front : Thins thin whole) (back : Thins thin' whole') :
    Thins (thin ++ thin') (whole ++ whole') := by
  induction front with
  | nil => exact back
  | keep char _ ih => exact .keep char ih
  | drop isBlank _ ih => exact .drop isBlank ih

theorem reverse (thins : Thins thin whole) : Thins thin.reverse whole.reverse := by
  induction thins with
  | nil => exact .nil
  | keep char _ ih =>
    rw [List.reverse_cons, List.reverse_cons]
    exact ih.append (.refl [char])
  | drop isBlank _ ih =>
    rw [List.reverse_cons, ← List.append_nil (List.reverse _)]
    exact ih.append (.drop isBlank .nil)

/-- Blanks taken off the start of the thinner text are blanks of the other one. -/
theorem dropLeading (thins : Thins thin whole) : Thins (dropLeading thin) whole := by
  induction thins with
  | nil => exact .nil
  | @keep char thin whole rest ih =>
    by_cases isBlank : Unicode.isBlank char
    · rw [Text.dropLeading, List.dropWhile_cons_of_pos isBlank]
      exact .drop isBlank ih
    · rw [Text.dropLeading, List.dropWhile_cons_of_neg isBlank]
      exact .keep char rest
  | drop isBlank _ ih => exact .drop isBlank ih

theorem dropTrailing (thins : Thins thin whole) : Thins (dropTrailing thin) whole := by
  have turned : Thins (Text.dropLeading thin.reverse).reverse whole.reverse.reverse :=
    thins.reverse.dropLeading.reverse
  rw [List.reverse_reverse] at turned
  exact turned

/-- Texts that differ in blanks only have the same other characters. -/
theorem filter_eq (thins : Thins thin whole) :
    thin.filter (fun char => !Unicode.isBlank char) =
      whole.filter (fun char => !Unicode.isBlank char) := by
  induction thins with
  | nil => rfl
  | keep char _ ih => rw [List.filter_cons, List.filter_cons, ih]
  | drop isBlank _ ih => rw [ih, List.filter_cons_of_neg (by simpa using isBlank)]

end Thins

end Text

/-- What was written with and without trim markers, where the latter trims nothing
later. -/
structure Output.Thins (trimmed plain : Output) : Prop where
  text : Text.Thins trimmed.text.toList plain.text.toList
  plain : plain.trimsNext = false

/-- Bodies that end alike, of which the first wrote fewer blanks. -/
structure Written.Thins (trimmed plain : Written) : Prop where
  text : Text.Thins trimmed.text.toList plain.text.toList
  flow : trimmed.flow = plain.flow

theorem Written.Thins.refl (written : Written) : written.Thins written :=
  ⟨.refl _, rfl⟩

namespace Output

variable {trimmed plain : Output}

theorem thins_start (trimsNext : Bool) : (start trimsNext).Thins (start false) :=
  ⟨.nil, rfl⟩

/-- Trimming the end of an output takes only blanks from it. -/
theorem Thins.settle (thins : trimmed.Thins plain) (trims : Bool) :
    Text.Thins (trimmed.settle trims).toList (plain.settle false).toList := by
  cases trims with
  | false => exact thins.text
  | true =>
    rw [Output.settle, if_pos rfl, Text.trimEnd, String.toList_ofList]
    exact thins.text.dropTrailing

/-- One more piece, with any trim markers around it on the one side. -/
theorem Thins.push {piece piece' : String} (thins : trimmed.Thins plain)
    (pieces : Text.Thins piece.toList piece'.toList) (trimsBefore trimsAfter : Bool) :
    (trimmed.push piece trimsBefore trimsAfter).Thins (plain.push piece' false false) where
  text := by
    simp only [Output.push, thins.plain, Bool.false_eq_true, if_false, String.toList_append]
    apply (thins.settle trimsBefore).append
    split
    · rw [Text.trimStart, String.toList_ofList]
      exact pieces.dropLeading
    · exact pieces
  plain := rfl

end Output

/-! ## Side by side -/

namespace Action

variable {ε α β γ δ : Type} {related : α → β → Prop}

/-- Two results that are related values or one failure. -/
inductive Together (related : α → β → Prop) : Except ε α → Except ε β → Prop where
  | ok {first : α} {second : β} (values : related first second) :
    Together related (.ok first) (.ok second)
  | error (failure : ε) : Together related (.error failure) (.error failure)

theorem Together.cases {result : Except ε α} {result' : Except ε β}
    (together : Together related result result') :
    (∃ first second, result = .ok first ∧ result' = .ok second ∧ related first second) ∨
      ∃ failure, result = .error failure ∧ result' = .error failure := by
  cases together with
  | ok values => exact .inl ⟨_, _, rfl, rfl, values⟩
  | error failure => exact .inr ⟨failure, rfl, rfl⟩

/-- Two actions that change all scopes alike and end together. -/
structure Beside (related : α → β → Prop) (first : Action ε α) (second : Action ε β) : Prop where
  results : ∀ scopes, Together related (first.on scopes).1 (second.on scopes).1
  scopes : ∀ scopes, (first.on scopes).2 = (second.on scopes).2

theorem beside_self (action : Action ε α) : action.Beside Eq action where
  results scopes := by
    cases (action.on scopes).1 with
    | ok value => exact .ok rfl
    | error failure => exact .error failure
  scopes _ := rfl

theorem beside_pure {first : α} {second : β} (values : related first second) :
    (pure first : Action ε α).Beside related (pure second) :=
  ⟨fun _ => .ok values, fun _ => rfl⟩

theorem Beside.bind {related' : γ → δ → Prop} {first : Action ε α} {second : Action ε β}
    {next : α → Action ε γ} {next' : β → Action ε δ} (start : first.Beside related second)
    (goesOn : ∀ value value', related value value' → (next value).Beside related' (next' value')) :
    (first >>= next).Beside related' (second >>= next') := by
  have step (scopes : Scopes) :
      Together related' ((first >>= next).on scopes).1 ((second >>= next').on scopes).1 ∧
        ((first >>= next).on scopes).2 = ((second >>= next').on scopes).2 := by
    have results := start.results scopes
    have left := start.scopes scopes
    rw [on_bind, on_bind]
    generalize first.on scopes = ran at results left ⊢
    generalize second.on scopes = ran' at results left ⊢
    rcases ran with ⟨result, after⟩
    rcases ran' with ⟨result', _⟩
    subst left
    cases results with
    | ok values => exact ⟨(goesOn _ _ values).results after, (goesOn _ _ values).scopes after⟩
    | error failure => exact ⟨.error failure, rfl⟩
  exact ⟨fun scopes => (step scopes).1, fun scopes => (step scopes).2⟩

/-- Two sequences with one beginning. -/
theorem beside_bind_self {related' : γ → δ → Prop} (action : Action ε α)
    {next : α → Action ε γ} {next' : α → Action ε δ}
    (goesOn : ∀ value, (next value).Beside related' (next' value)) :
    (action >>= next).Beside related' (action >>= next') := by
  apply (beside_self action).bind
  rintro value _ rfl
  exact goesOn value

theorem Beside.inFrame {first : Action ε α} {second : Action ε β}
    (beside : first.Beside related second) (frame : Table Value) :
    (Action.inFrame frame first).Beside related (Action.inFrame frame second) where
  results scopes := beside.results (scopes.push frame)
  scopes scopes := congrArg Scopes.pop (beside.scopes (scopes.push frame))

end Action

/-! ## Templates without trim markers -/

/-- An end of a tag without its trim marker. -/
def Tag.untrimmed (tag : Tag) : Tag :=
  { tag with trims := false }

mutual

/-- Elements without trim markers. -/
def untrimmedIn : List Element → List Element
  | [] => []
  | .raw text span :: others => .raw text span :: untrimmedIn others
  | .tag opening statement closing span :: others =>
    .tag opening.untrimmed statement.untrimmed closing.untrimmed span :: untrimmedIn others

/-- A statement without trim markers. -/
def Statement.untrimmed : Statement → Statement
  | .empty => .empty
  | .expression expr => .expression expr
  | .assign target value span => .assign target value span
  | .branch branch => .branch branch.untrimmed
  | .loop value index iterable closing body endOpening span =>
    .loop value index iterable closing.untrimmed (untrimmedIn body) endOpening.untrimmed span
  | .breakLoop span => .breakLoop span
  | .continueLoop span => .continueLoop span

/-- A condition without trim markers. -/
def Branch.untrimmed : Branch → Branch
  | .mk test closing body alternate span =>
    .mk test closing.untrimmed (untrimmedIn body) alternate.untrimmed span

/-- The rest of a condition without trim markers. -/
def Alternate.untrimmed : Alternate → Alternate
  | .done endOpening => .done endOpening.untrimmed
  | .otherwise elseOpening elseClosing body endOpening =>
    .otherwise elseOpening.untrimmed elseClosing.untrimmed (untrimmedIn body)
      endOpening.untrimmed
  | .chain elseOpening next => .chain elseOpening.untrimmed next.untrimmed

end

/-- A template without trim markers. -/
def Template.untrimmed (template : Template) : Template :=
  ⟨untrimmedIn template.elements⟩

theorem Alternate.trims_bodyEnd_untrimmed (alternate : Alternate) :
    alternate.untrimmed.bodyEnd.trims = false := by
  cases alternate <;> rfl

/-! ## Rendering -/

open TemplateLang.Action

variable {helpers : Callables}

/-- Outputs with and without trim markers, of bodies that end alike. -/
def Output.Ends (trimmed plain : Output × Flow) : Prop :=
  trimmed.1.Thins plain.1 ∧ trimmed.2 = plain.2

theorem thins_enclosed {render render' : Output → Action EvalError (Output × Flow)}
    (beside : ∀ output output', output.Thins output' →
      (render output).Beside Output.Ends (render' output'))
    (trimsStart trimsEnd : Bool) :
    (enclosed trimsStart trimsEnd render).Beside Written.Thins (enclosed false false render') := by
  apply (beside _ _ (Output.thins_start trimsStart)).bind
  rintro ⟨output, flow⟩ ⟨output', flow'⟩ ⟨thins, sameFlow⟩
  exact beside_pure ⟨thins.settle trimsEnd, sameFlow⟩

/-- The texts of all rounds are thinner if that of each round is. -/
theorem thins_rounds {round round' : Value → Nat → Action EvalError Written}
    (beside : ∀ item position, (round item position).Beside Written.Thins (round' item position))
    (items : List Value) (position : Nat) :
    (rounds round items position).Beside (fun text text' => Text.Thins text.toList text'.toList)
      (rounds round' items position) := by
  induction items generalizing position with
  | nil => exact beside_pure .nil
  | cons item others ih =>
    apply (beside item position).bind
    intro written written' thins
    rw [thins.flow]
    split
    · exact beside_pure thins.text
    · apply (ih (position + 1)).bind
      intro rest rest' restThins
      apply beside_pure
      rw [String.toList_append, String.toList_append]
      exact thins.text.append restThins

mutual

theorem thins_renderElements : ∀ (elements : List Element) (output output' : Output),
    output.Thins output' → (renderElements helpers elements output).Beside Output.Ends
      (renderElements helpers (untrimmedIn elements) output')
  | [], output, output', thins => by
    rw [untrimmedIn, renderElements, renderElements]
    exact beside_pure ⟨thins, rfl⟩
  | .raw text _ :: others, output, output', thins => by
    rw [untrimmedIn, renderElements, renderElements]
    exact thins_renderElements others _ _ (thins.push (.refl text.toList) false false)
  | .tag opening statement closing _ :: others, output, output', thins => by
    rw [untrimmedIn, renderElements, renderElements]
    apply (thins_renderStatement statement).bind
    intro written written' writtenThins
    have pushed := thins.push writtenThins.text opening.trims closing.trims
    dsimp only [Tag.untrimmed]
    rw [writtenThins.flow]
    -- a body that was left early has nothing more to write on either side
    split
    · exact thins_renderElements others _ _ pushed
    · exact beside_pure ⟨pushed, rfl⟩

theorem thins_renderStatement : ∀ statement : Statement,
    (renderStatement helpers statement).Beside Written.Thins
      (renderStatement helpers statement.untrimmed)
  | .empty | .breakLoop _ | .continueLoop _ => by
    simp only [Statement.untrimmed, renderStatement]
    exact beside_pure (.refl _)
  | .expression _ => by
    rw [Statement.untrimmed, renderStatement]
    exact beside_bind_self _ fun _ => beside_pure (.refl _)
  | .assign _ _ _ => by
    rw [Statement.untrimmed, renderStatement]
    apply beside_bind_self
    intro value
    exact beside_bind_self _ fun _ => beside_pure (.refl _)
  | .branch branch => by
    rw [Statement.untrimmed, renderStatement, renderStatement]
    exact thins_renderBranch branch
  | .loop value index iterable closing body endOpening _ => by
    rw [Statement.untrimmed, renderStatement, renderStatement]
    apply beside_bind_self
    intro iterated
    apply beside_bind_self
    intro items
    apply (thins_rounds (fun item position => ?_) items 0).bind
    · intro text text' thins
      exact beside_pure ⟨thins, rfl⟩
    · exact (thins_enclosed (thins_renderElements body) _ _).inFrame _

theorem thins_renderBranch : ∀ branch : Branch,
    (renderBranch helpers branch).Beside Written.Thins (renderBranch helpers branch.untrimmed)
  | .mk test closing body alternate _ => by
    rw [Branch.untrimmed, renderBranch, renderBranch]
    apply beside_bind_self
    intro decided
    split
    · rw [alternate.trims_bodyEnd_untrimmed]
      exact thins_enclosed (thins_renderElements body) _ _
    · exact thins_renderAlternate alternate

theorem thins_renderAlternate : ∀ alternate : Alternate,
    (renderAlternate helpers alternate).Beside Written.Thins
      (renderAlternate helpers alternate.untrimmed)
  | .done _ => by
    rw [Alternate.untrimmed, renderAlternate, renderAlternate]
    exact beside_pure (.refl _)
  | .otherwise _ _ body _ => by
    rw [Alternate.untrimmed, renderAlternate, renderAlternate]
    exact thins_enclosed (thins_renderElements body) _ _
  | .chain _ next => by
    rw [Alternate.untrimmed, renderAlternate, renderAlternate]
    exact thins_renderBranch next

end

theorem thins_evaluate (template : Template) :
    (template.evaluate helpers).Beside (fun text text' => Text.Thins text.toList text'.toList)
      (template.untrimmed.evaluate helpers) := by
  apply (thins_enclosed (thins_renderElements template.elements) false false).bind
  intro written written' thins
  exact beside_pure thins.text

/-- A template leaves the same context with and without its trim markers.  Either both
fail with the same error, or both write a text and the trimmed one is the other one with
some of its blanks left out. -/
theorem render_untrimmed (context : Context) (world : World) (template : Template) :
    (context.render world template).2 = (context.render world template.untrimmed).2 ∧
      ((∃ error, (context.render world template).1 = .error error ∧
          (context.render world template.untrimmed).1 = .error error) ∨
        ∃ text whole, (context.render world template).1 = .ok text ∧
          (context.render world template.untrimmed).1 = .ok whole ∧
          Text.Thins text.toList whole.toList ∧
          text.toList.filter (fun char => !Unicode.isBlank char) =
            whole.toList.filter (fun char => !Unicode.isBlank char)) := by
  have beside : (template.evaluate (context.callables world)).Beside _ _ := thins_evaluate template
  constructor
  · simp only [Context.render, Context.run, beside.scopes]
  · rcases (beside.results context.scopes).cases with ⟨text, whole, isText, isWhole, thins⟩ | failed
    · exact .inr ⟨text, whole, isText, isWhole, thins, thins.filter_eq⟩
    · exact .inl failed

end TemplateLang
