import TemplateLang.Engine.Source
import TemplateLang.Proofs.Concatenation.Seam
import TemplateLang.Proofs.Essence.Shift
import TemplateLang.Proofs.Jumps

/-!
# Rendering two templates in a row

A template is rendered element after element, and so what two templates in a row write is
what the first one writes, followed by what the second one writes in the variables that the
first one leaves.  Only trim markers reach over the seam: one that opens a tag of the second
template takes blanks off what the first one wrote, and one that closes the last tag of the
first template takes blanks off what the second one writes.
-/

namespace TemplateLang

open TemplateLang.Action

/-! ## Trim markers at the seam -/

/-- Whether an element takes blanks off what was written before it. -/
def Element.trimsBefore : Element → Bool
  | .raw _ _ => false
  | .tag opening _ _ _ => opening.trims

/-- Whether an element takes blanks off what is written after it. -/
def Element.trimsAfter : Element → Bool
  | .raw _ _ => false
  | .tag _ _ closing _ => closing.trims

@[simp]
theorem Element.trimsBefore_shift (distance : Nat) (element : Element) :
    (element.shift distance).trimsBefore = element.trimsBefore := by
  cases element <;> rfl

namespace Output

variable {output : Output}

/-- Output with a text before it. -/
def after (front : String) (output : Output) : Output :=
  { output with text := front ++ output.text }

/-- What does not trim the end of the output does not see what comes before it. -/
theorem push_after (front piece : String) (trimsAfter : Bool) :
    (output.after front).push piece false trimsAfter =
      (output.push piece false trimsAfter).after front := by
  rw [push, push, after, after, settle, settle, if_neg Bool.false_ne_true,
    if_neg Bool.false_ne_true, String.append_assoc]

/-- Two pieces are written as one, where no blanks are pending to be taken off. -/
theorem push_append (plain : output.trimsNext = false) (piece piece' : String) :
    output.push (piece ++ piece') false false =
      (output.push piece false false).push piece' false false := by
  simp only [push, settle, plain, Bool.false_eq_true, if_false, String.append_assoc]

end Output

/-! ## Elements in a row -/

section

variable {helpers : Callables}

/-- Elements are rendered after those before them, unless these end their body. -/
theorem renderElements_append (front back : List Element) (output : Output) :
    renderElements helpers (front ++ back) output =
      (renderElements helpers front output >>= fun written =>
        if written.2 = .normal then renderElements helpers back written.1 else pure written) := by
  induction front generalizing output with
  | nil => simp [renderElements]
  | cons element others ih =>
    cases element with
    | raw text span =>
      rw [List.cons_append, renderElements, renderElements, ih]
    | tag opening statement closing span =>
      rw [List.cons_append, renderElements, renderElements, bind_assoc]
      apply bind_congr
      intro written
      split
      · exact ih _
      · rename_i notNormal
        simp [notNormal]

/-- Joining raw text across the seam changes nothing, if no blanks are pending there. -/
theorem renderElements_joinElements {front back : List Element} {output : Output}
    (noneAfter : ∀ element ∈ front, element.trimsAfter = false)
    (plain : output.trimsNext = false) :
    renderElements helpers (joinElements front back) output =
      renderElements helpers (front ++ back) output := by
  fun_induction joinElements front back generalizing output with
  | case1 => rfl
  | case2 text span text' span' others =>
    rw [List.cons_append, List.nil_append, renderElements, renderElements, renderElements,
      Output.push_append plain]
  | case3 element pieces back _ ih =>
    rw [List.forall_mem_cons] at noneAfter
    cases element with
    | raw text span =>
      rw [List.cons_append, renderElements, renderElements]
      exact ih noneAfter.2 rfl
    | tag opening statement closing span =>
      rw [List.cons_append, renderElements, renderElements]
      apply bind_congr
      intro written
      dsimp only
      rw [ih noneAfter.2]
      exact noneAfter.1

/-- Elements that do not trim what was written before them write the same after any text. -/
theorem renderElements_after {elements : List Element} {output : Output} (front : String)
    (noneBefore : ∀ element ∈ elements, element.trimsBefore = false) :
    renderElements helpers elements (output.after front) =
      (renderElements helpers elements output >>= fun written =>
        pure (written.1.after front, written.2)) := by
  induction elements generalizing output with
  | nil => simp [renderElements]
  | cons element others ih =>
    rw [List.forall_mem_cons] at noneBefore
    cases element with
    | raw text span =>
      rw [renderElements, renderElements, Output.push_after, ih noneBefore.2]
    | tag opening statement closing span =>
      have noneHere : opening.trims = false := noneBefore.1
      rw [renderElements, renderElements, bind_assoc]
      apply bind_congr
      intro written
      rw [noneHere, Output.push_after]
      split
      · exact ih noneBefore.2
      · rw [pure_bind]

/-- Elements that trim nothing after them leave no blanks to be taken off. -/
theorem plain_of_gives {elements : List Element} {output written : Output} {flow : Flow}
    {scopes after : Scopes} (noneAfter : ∀ element ∈ elements, element.trimsAfter = false)
    (plain : output.trimsNext = false)
    (ran : (renderElements helpers elements output).Gives scopes (written, flow) after) :
    written.trimsNext = false := by
  induction elements generalizing output scopes with
  | nil =>
    rw [renderElements, gives_pure, Prod.mk.injEq] at ran
    rw [ran.1.1, plain]
  | cons element others ih =>
    rw [List.forall_mem_cons] at noneAfter
    cases element with
    | raw text span =>
      rw [renderElements] at ran
      exact ih noneAfter.2 rfl ran
    | tag opening statement closing span =>
      rcases gives_renderTag.mp ran with ⟨piece, middle, -, goesOn⟩
      split at goesOn
      · exact ih noneAfter.2 noneAfter.1 goesOn
      · rw [goesOn.1]
        exact noneAfter.1

end

/-! ## Templates in a row -/

section

variable {helpers : Callables}

/-- What a template writes is the text of its output. -/
theorem Template.evaluate_eq (template : Template) :
    template.evaluate helpers =
      (renderElements helpers template.elements (Output.start false) >>= fun written =>
        pure written.1.text) := by
  rw [Template.evaluate, enclosed, bind_assoc]
  apply bind_congr
  intro written
  rw [pure_bind]
  rfl

/-- Joined elements write what the first ones write and then what the others write, if no jump
ends the first ones and no trim marker reaches over the seam. -/
theorem evaluate_joinElements {front back : List Element} (noneLoose : looseIn front = false)
    (noneAfter : ∀ element ∈ front, element.trimsAfter = false)
    (noneBefore : ∀ element ∈ back, element.trimsBefore = false) (scopes : Scopes) :
    (Template.evaluate helpers ⟨joinElements front back⟩).on scopes =
      (Template.evaluate helpers ⟨front⟩ >>= fun text =>
        Template.evaluate helpers ⟨back⟩ >>= fun text' => pure (text ++ text')).on scopes := by
  rw [Template.evaluate_eq, Template.evaluate_eq, Template.evaluate_eq,
    renderElements_joinElements noneAfter rfl, renderElements_append, bind_assoc, bind_assoc,
    on_bind, on_bind]
  cases ended : (renderElements helpers front (Output.start false)).on scopes with
  | mk result middle =>
    cases result with
    | error failure => rfl
    | ok written =>
      rcases written with ⟨output, flow⟩
      have ran : (renderElements helpers front (Output.start false)).Gives scopes (output, flow)
        middle := ended
      have normal : flow = .normal := by
        apply Decidable.byContradiction
        intro notNormal
        have loose := (jumpsOut_of_gives notNormal front ran).loose
        rw [noneLoose] at loose
        exact Bool.noConfusion loose
      have plain : output.trimsNext = false := plain_of_gives noneAfter rfl ran
      have outputEq : (Output.start false).after output.text = output := by
        rw [Output.after, Output.start, String.append_empty, ← plain]
      have goesOn : renderElements helpers back output = _ :=
        outputEq ▸ renderElements_after output.text noneBefore
      dsimp only
      rw [if_pos normal, pure_bind, goesOn, bind_assoc, bind_assoc]
      simp only [pure_bind]
      rfl

/-- The same for elements that were moved to their place behind the first ones: only the places
of errors tell them from those at their own place. -/
theorem agrees_joinElements (helpers : Callables) {front back : List Element} (distance : Nat)
    (noneLoose : looseIn front = false)
    (noneAfter : ∀ element ∈ front, element.trimsAfter = false)
    (noneBefore : ∀ element ∈ back, element.trimsBefore = false) :
    (Template.evaluate helpers ⟨joinElements front (shiftIn distance back)⟩).Agrees Eq
      (Template.evaluate helpers ⟨front⟩ >>= fun text =>
        Template.evaluate helpers ⟨back⟩ >>= fun text' => pure (text ++ text')) := by
  have noneBefore' : ∀ element ∈ shiftIn distance back, element.trimsBefore = false := by
    intro element isIn
    rw [shiftIn_eq_map] at isIn
    rcases List.mem_map.mp isIn with ⟨element', isIn', rfl⟩
    rw [Element.trimsBefore_shift, noneBefore element' isIn']
  have moved : (Template.evaluate helpers ⟨shiftIn distance back⟩).Agrees Eq
      (Template.evaluate helpers ⟨back⟩) := by
    apply Template.agrees_of_essence
    rw [Template.essence, Template.essence, essenceIn_shiftIn]
  intro scopes
  rw [evaluate_joinElements noneLoose noneAfter noneBefore']
  exact (Agrees.refl _).bind_eq (fun _ => moved.bind_eq fun _ => agrees_pure rfl) scopes

end

/-! ## Sources in a row -/

/-- An error has the classes of another one and says the same. -/
def TemplateError.Repeats (error other : TemplateError) : Prop :=
  error.diagnostics.map (fun diagnostic => (diagnostic.code, diagnostic.message)) =
    other.diagnostics.map fun diagnostic => (diagnostic.code, diagnostic.message)

theorem TemplateError.repeats_of_fault {error other : EvalError} {source source' : List Char}
    (same : error.fault = other.fault) : (failed error source).Repeats (failed other source') := by
  simp only [Repeats, diagnostics, EvalError.diagnostic, same, List.map_cons, List.map_nil]

section

variable {context after : Context} {world : World} {source : String} {template : Template}
  (read : parse context.tags source.toList = .ok template)

include read

/-- A source that is read writes what its template writes. -/
theorem Context.renderSource_eq_ok {text : String} :
    context.renderSource world source = (.ok text, after) ↔
      ∃ scopes,
        (template.evaluate (context.callables world)).on context.scopes = (.ok text, scopes) ∧
          after = { context with scopes := scopes } := by
  rw [Context.renderSource, readTemplate, read]
  simp only [Context.render, Context.run]
  rcases (template.evaluate (context.callables world)).on context.scopes with
    ⟨failure | text', scopes⟩
  · simp [locate, Except.mapError]
  · simp [locate, Except.mapError, eq_comm]

/-- A source that is read fails as its template does. -/
theorem Context.renderSource_eq_error {error : TemplateError} :
    context.renderSource world source = (.error error, after) ↔
      ∃ failure scopes,
        (template.evaluate (context.callables world)).on context.scopes =
            (.error failure, scopes) ∧
          error = .failed failure source.toList ∧ after = { context with scopes := scopes } := by
  rw [Context.renderSource, readTemplate, read]
  simp only [Context.render, Context.run]
  rcases (template.evaluate (context.callables world)).on context.scopes with
    ⟨failure | text', scopes⟩
  · simp [locate, Except.mapError, eq_comm]
  · simp [locate, Except.mapError]

/-- A source whose template ends like a failure fails with an error that repeats it. -/
theorem Context.renderSource_repeats {failure : EvalError} {scopes : Scopes}
    (agree : Agree Eq ((template.evaluate (context.callables world)).on context.scopes)
      (.error failure, scopes)) (other : List Char) :
    ∃ error, context.renderSource world source =
        (.error error, { context with scopes := scopes }) ∧
      error.Repeats (.failed failure other) := by
  rcases agree.eq_error with ⟨failure', ended, same⟩
  exact ⟨_, (Context.renderSource_eq_error read).mpr ⟨_, _, ended, rfl, rfl⟩,
    TemplateError.repeats_of_fault same⟩

end

/-- Two sources that are templates are one template in a row, if no opening mark stands at
their seam, no tag of the first one trims what comes after it and no tag of the second one
what comes before it.  In every context it writes what the first one writes and then what the
second one writes in the context that the first one leaves, and it fails as the first one
does, or as the second one does after it. -/
theorem renderSource_append {source source' : String} {template template' : Template}
    (read : parse Delimiters.standard source.toList = .ok template)
    (read' : parse Delimiters.standard source'.toList = .ok template')
    (apart : ¬ (source.toList.getLast? = some '\x7b' ∧ source'.toList.head? = some '\x7b'))
    (noneAfter : ∀ element ∈ template.elements, element.trimsAfter = false)
    (noneBefore : ∀ element ∈ template'.elements, element.trimsBefore = false) :
    (∃ whole, parse Delimiters.standard (source ++ source').toList = .ok whole) ∧
    ∀ (context : Context) (world : World), context.tags = Delimiters.standard →
      (∀ error after, context.renderSource world source = (.error error, after) →
        ∃ error', context.renderSource world (source ++ source') = (.error error', after) ∧
          error'.Repeats error) ∧
      ∀ text middle, context.renderSource world source = (.ok text, middle) →
        (∀ error after, middle.renderSource world source' = (.error error, after) →
          ∃ error', context.renderSource world (source ++ source') = (.error error', after) ∧
            error'.Repeats error) ∧
        ∀ text' after, middle.renderSource world source' = (.ok text', after) →
          context.renderSource world (source ++ source') = (.ok (text ++ text'), after) := by
  have readWhole := parse_append read read' apart
  rw [← String.toList_append] at readWhole
  refine ⟨⟨_, readWhole⟩, ?_⟩
  intro context world standard
  have agree := agrees_joinElements (context.callables world) (byteLength source.toList)
    (looseIn_of_parse read) noneAfter noneBefore context.scopes
  rw [on_bind] at agree
  rw [← standard] at read read' readWhole
  constructor
  · intro error after failed
    rcases (Context.renderSource_eq_error read).mp failed with ⟨failure, scopes, ended, rfl, rfl⟩
    rw [ended] at agree
    exact Context.renderSource_repeats readWhole agree source.toList
  · intro text middle ran
    rcases (Context.renderSource_eq_ok read).mp ran with ⟨between, ended, rfl⟩
    rw [ended] at agree
    dsimp only at agree
    rw [on_bind] at agree
    have readMiddle : parse { context with scopes := between }.tags source'.toList =
      .ok template' := read'
    constructor
    · intro error after failed
      rcases (Context.renderSource_eq_error readMiddle).mp failed with
        ⟨failure, scopes, ended', rfl, rfl⟩
      have ended'' : (template'.evaluate (context.callables world)).on between = _ := ended'
      rw [ended''] at agree
      exact Context.renderSource_repeats readWhole agree source'.toList
    · intro text' after ran'
      rcases (Context.renderSource_eq_ok readMiddle).mp ran' with ⟨scopes, ended', rfl⟩
      have ended'' : (template'.evaluate (context.callables world)).on between = _ := ended'
      rw [ended''] at agree
      exact (Context.renderSource_eq_ok readWhole).mpr ⟨_, agree.eq_ok, rfl⟩

/-- A name that the first source declares is read in the second one. -/
theorem renderSource_append_declared :
    let context : Context := ⟨"", Delimiters.standard, Helpers.builtin, Scopes.ofRoot []⟩
    let world : World := ⟨⟨[], [], []⟩, ⟨0, 0, 0⟩⟩
    ∃ after, context.renderSource world
      ("a\x7b\x7b x := 'b' \x7d\x7d" ++ "\x7b\x7b x \x7d\x7dc") =
        (.ok ("a" ++ "bc"), after) := by
  intro context world
  have written {ran : Except TemplateError String × Context} {text : String}
      (given : ran.1.toOption = some text) : ran = (.ok text, ran.2) := by
    rcases ran with ⟨failed | written, after⟩
    · cases given
    · cases given
      rfl
  have first : parse Delimiters.standard "a\x7b\x7b x := 'b' \x7d\x7d".toList = .ok _ := rfl
  have second : parse Delimiters.standard "\x7b\x7b x \x7d\x7dc".toList = .ok _ := rfl
  have composed := (renderSource_append first second (by decide) (by decide) (by decide)).2
    context world rfl
  have declares : (context.renderSource world
      "a\x7b\x7b x := 'b' \x7d\x7d").1.toOption = some "a" := by decide +kernel
  have reads : ((context.renderSource world "a\x7b\x7b x := 'b' \x7d\x7d").2.renderSource world
      "\x7b\x7b x \x7d\x7dc").1.toOption = some "bc" := by decide +kernel
  exact ⟨_, (composed.2 _ _ (written declares)).2 _ _ (written reads)⟩

end TemplateLang
