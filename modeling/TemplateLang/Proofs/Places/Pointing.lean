import TemplateLang.Proofs.Places.Evaluation
import TemplateLang.Proofs.Places.Report
import TemplateLang.Proofs.Places.Tokens

/-!
# Everything points into the source

What is read from a source has its spans on that source, one within the other, and whatever
is reported of it, by the tokenizer, by the grammar or by an evaluation, can be shown with
the lines that it points at.
-/

namespace TemplateLang

/-- The spans of a template are on a source: those of its tags, and within them those of
their expressions, each with the spans of all that stands in it. -/
def Template.Placed (source : List Char) (template : Template) : Prop :=
  ∀ statement span, template.HasTag statement span → span.On source ∧
    ∀ expr ∈ statement.heads, ∀ part, expr.Part part →
      part.span.On source ∧ part.span.Within span ∧
        (∀ inner, part.Part inner → inner.span.Within part.span) ∧
        ∀ key ∈ part.keySpan?, key.On source ∧ key.Within part.span

/-- A diagnostic has a code, points into a source, and is reported without a cut of the
source that is out of range or inside of a character. -/
structure Diagnostic.Shown (source : List Char) (diagnostic : Diagnostic) : Prop extends
    diagnostic.Located source where
  report : diagnostic.report? source = some (diagnostic.report source)

variable {source : List Char}

theorem Diagnostic.Located.shown {diagnostic : Diagnostic} (located : diagnostic.Located source) :
    diagnostic.Shown source where
  toLocated := located
  report := by
    apply report?_eq
    rcases located.label with ⟨label, isPrimary, on⟩
    rw [isPrimary]
    rintro _ ⟨⟩
    exact on.endsOn

theorem EvalError.located_diagnostic {error : EvalError} (on : error.span.On source) :
    error.diagnostic.Located source :=
  ⟨rfl, _, rfl, on⟩

theorem placed_of_parse {tags : Delimiters} {template : Template}
    (read : parse tags source = .ok template) : template.Placed source := by
  intro statement span has
  rcases sits_of_parse read has with ⟨on, sits⟩
  apply And.intro on
  intro expr isHead part isPart
  have whole := sits expr isHead
  have here := whole.placed part isPart
  have below : part.Everywhere (Expr.Placed source) :=
    fun inner isInner => whole.placed inner (isPart.trans isInner)
  refine ⟨here.on, ?_, ?_, here.key⟩
  · exact (Expr.within_of_part whole.placed isPart).trans ⟨whole.start, whole.stop⟩
  · exact fun inner isInner => Expr.within_of_part below isInner

/-- Every template that is read is placed on its source, and every diagnostic of a source,
of its tokens, of its grammar or of its rendering in any context, is shown on it. -/
theorem pointing_into_source (tags : Delimiters) (source : List Char) :
    (∀ template, parse tags source = .ok template → template.Placed source ∧
      ∀ (context : Context) (world : World) (error : EvalError),
        (context.render world template).1 = .error error → error.diagnostic.Shown source) ∧
      (∀ diagnostic, parse tags source = .error diagnostic → diagnostic.Shown source) ∧
      ∀ diagnostics, tokenize tags source = .error diagnostics →
        ∀ diagnostic ∈ diagnostics, diagnostic.Shown source := by
  refine ⟨?_, ?_, ?_⟩
  · intro template read
    apply And.intro (placed_of_parse read)
    intro context world error failed
    exact (EvalError.located_diagnostic (on_of_render read failed)).shown
  · exact fun diagnostic refused => (located_of_parse refused).shown
  · exact fun diagnostics refused diagnostic isReported =>
      (located_of_tokenize refused diagnostic isReported).shown

/-- A name that is not bound, after a letter of two bytes, and the same source without the
end of its tag. -/
theorem pointing_into_source_unbound :
    let context : Context := ⟨"", Delimiters.standard, Helpers.builtin, Scopes.ofRoot []⟩
    let world : World := ⟨⟨[], [], []⟩, ⟨0, 0, 0⟩⟩
    (∃ template error, parse Delimiters.standard "é\n\x7b\x7b x \x7d\x7d".toList = .ok template ∧
      template.Placed "é\n\x7b\x7b x \x7d\x7d".toList ∧
      (context.render world template).1 = .error error ∧
      error.diagnostic.Shown "é\n\x7b\x7b x \x7d\x7d".toList) ∧
    (∃ diagnostic, parse Delimiters.standard "é\n\x7b\x7b x".toList = .error diagnostic ∧
      diagnostic.Shown "é\n\x7b\x7b x".toList) ∧
    ∃ diagnostics, tokenize Delimiters.standard "é\n\x7b\x7b x".toList = .error diagnostics ∧
      ∀ diagnostic ∈ diagnostics, diagnostic.Shown "é\n\x7b\x7b x".toList := by
  intro context world
  rcases pointing_into_source Delimiters.standard "é\n\x7b\x7b x \x7d\x7d".toList with
    ⟨accepted, -, -⟩
  rcases pointing_into_source Delimiters.standard "é\n\x7b\x7b x".toList with
    ⟨-, refused, reported⟩
  refine ⟨⟨_, _, rfl, (accepted _ rfl).1, rfl, (accepted _ rfl).2 context world _ rfl⟩, ?_, ?_⟩
  · exact ⟨_, rfl, refused _ rfl⟩
  · exact ⟨_, rfl, reported _ rfl⟩

end TemplateLang
