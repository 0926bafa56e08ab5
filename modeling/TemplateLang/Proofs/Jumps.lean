import TemplateLang.Eval.Template
import TemplateLang.Proofs.Grammar.Blocks

/-!
# Jumps out of loops

`break` and `continue` are read only where a loop encloses them, so that a template has no
jump that no loop takes up.  A body ends early exactly when it comes to a jump that stands
in it or in a chosen body of a condition in it, and what was written up to there is its
text.  A loop is made of rounds; a jump ends the round it stands in, and `break` the loop
as well, and what comes after the loop goes on.
-/

namespace TemplateLang

namespace Action

variable {ε α β : Type}

/-- An action succeeds on scopes, with a value and scopes afterwards. -/
def Gives (action : Action ε α) (scopes : Scopes) (value : α) (after : Scopes) : Prop :=
  action.on scopes = (.ok value, after)

theorem gives_pure {value given : α} {scopes after : Scopes} :
    (pure value : Action ε α).Gives scopes given after ↔ given = value ∧ after = scopes := by
  simp [Gives, eq_comm]

/-- A sequence succeeds if its parts do, one after the other. -/
theorem gives_bind {action : Action ε α} {next : α → Action ε β} {given : β}
    {scopes after : Scopes} :
    (action >>= next).Gives scopes given after ↔
      ∃ value middle, action.Gives scopes value middle ∧ (next value).Gives middle given after := by
  unfold Gives
  rw [on_bind]
  rcases action.on scopes with ⟨failure | value, middle⟩
  · simp
  · simp only [Prod.mk.injEq, Except.ok.injEq]
    constructor
    · exact fun goesOn => ⟨value, middle, ⟨rfl, rfl⟩, goesOn⟩
    · rintro ⟨_, _, ⟨rfl, rfl⟩, goesOn⟩
      exact goesOn

theorem gives_inFrame {frame : Table Value} {action : Action ε α} {given : α}
    {scopes after : Scopes} :
    (inFrame frame action).Gives scopes given after ↔
      ∃ inner, action.Gives (scopes.push frame) given inner ∧ after = inner.pop := by
  unfold Gives
  rw [on_inFrame]
  rcases action.on (scopes.push frame) with ⟨result, inner⟩
  simp only [Prod.mk.injEq]
  constructor
  · rintro ⟨rfl, rfl⟩
    exact ⟨inner, ⟨rfl, rfl⟩, rfl⟩
  · rintro ⟨_, ⟨rfl, rfl⟩, rfl⟩
    exact ⟨rfl, rfl⟩

end Action

open TemplateLang.Action

/-- A result that is checked at a place is given if it is there. -/
theorem Meaning.gives_checkedAt {α : Type} {place : Span} {result : Except EvalFault α}
    {given : α} {scopes after : Scopes} :
    (checkedAt place result).Gives scopes given after ↔
      result = .ok given ∧ after = scopes := by
  unfold checkedAt Gives
  rw [on_ofExcept]
  cases result with
  | ok value =>
    change ((Except.ok value : Except EvalError α), scopes) = (.ok given, after) ↔ _
    simp [eq_comm]
  | error fault =>
    change ((Except.error ⟨fault, place⟩ : Except EvalError α), scopes) = (.ok given, after) ↔ _
    simp

/-! ## Jumps that no loop takes up -/

mutual

/-- Whether a jump stands in elements outside of all their loops. -/
def looseIn : List Element → Bool
  | [] => false
  | .raw _ _ :: others => looseIn others
  | .tag _ statement _ _ :: others => statement.loose || looseIn others

/-- Whether a statement is a jump or has one outside of all its loops. -/
def Statement.loose : Statement → Bool
  | .empty | .expression _ | .assign _ _ _ | .loop _ _ _ _ _ _ _ => false
  | .branch branch => branch.loose
  | .breakLoop _ | .continueLoop _ => true

/-- Whether a jump stands in a condition outside of all its loops. -/
def Branch.loose : Branch → Bool
  | .mk _ _ body alternate _ => looseIn body || alternate.loose

/-- Whether a jump stands in the rest of a condition outside of all its loops. -/
def Alternate.loose : Alternate → Bool
  | .done _ => false
  | .otherwise _ _ body _ => looseIn body
  | .chain _ next => next.loose

end

namespace Grammar

/-- Whether what is derived has a jump outside of all its loops. -/
def BlockGoal.loose : BlockGoal → Bool
  | .elements _ pieces => looseIn pieces
  | .statement whole => whole.loose
  | .branch whole => whole.loose
  | .alternate whole => whole.loose

/-- A loose jump is read only inside of a loop. -/
theorem DerivesBlock.inLoop_of_loose {setting : Setting} {goal : BlockGoal}
    {cursor next : Cursor} (derived : DerivesBlock setting goal cursor next)
    (loose : goal.loose = true) : setting.inLoop = true := by
  induction derived with
  | elementsEnd => simp [BlockGoal.loose, looseIn] at loose
  | raw _ _ _ ihOthers =>
    exact ihOthers (by simpa [BlockGoal.loose, Grammar.raw, looseIn] using loose)
  | tag _ _ _ _ _ ihContent ihOthers =>
    simp only [BlockGoal.loose, looseIn, Bool.or_eq_true] at loose
    exact loose.elim ihContent ihOthers
  | empty | assign | expression | loop | done =>
    simp [BlockGoal.loose, Statement.loose, Alternate.loose] at loose
  | branchStatement _ _ _ _ ihContent =>
    exact ihContent (by simpa [BlockGoal.loose, Statement.loose] using loose)
  | breakLoop _ _ _ inLoop => exact inLoop
  | continueLoop _ _ _ inLoop => exact inLoop
  | branch _ _ _ _ _ ihContent ihOthers =>
    simp only [BlockGoal.loose, Branch.loose, Bool.or_eq_true] at loose
    exact loose.elim ihContent ihOthers
  | chain _ _ _ _ ihContent =>
    exact ihContent (by simpa [BlockGoal.loose, Alternate.loose] using loose)
  | otherwise _ _ _ _ _ _ _ ihContent =>
    exact ihContent (by simpa [BlockGoal.loose, Alternate.loose] using loose)

end Grammar

/-- A template that is read has every jump inside of a loop. -/
theorem looseIn_of_parse {tags : Delimiters} {source : List Char} {template : Template}
    (read : parse tags source = .ok template) : looseIn template.elements = false := by
  obtain ⟨next, derived⟩ := derivesBlock_of_parse read
  have notInLoop : ¬ (Setting.initial tags).inLoop = true := by simp [Setting.initial]
  rw [Bool.eq_false_iff]
  exact fun loose => notInLoop (derived.inLoop_of_loose loose)

/-! ## Bodies that end early -/

/-- The elements between two tags, and whether the tags trim their ends. -/
structure Body where
  trimsStart : Bool
  elements : List Element
  trimsEnd : Bool

/-- A condition comes to one of its bodies, with the scopes after its tests. -/
inductive Chooses (helpers : Callables) : Branch → Scopes → Body → Scopes → Prop where
  | first {test : Expr} {closing : Tag} {body : List Element} {alternate : Alternate}
      {span : Span} {scopes after : Scopes} {decided : Value}
      (tested : (test.evaluate helpers).Gives scopes decided after)
      (holds : decided.isTruthy = true) :
      Chooses helpers (.mk test closing body alternate span) scopes
        ⟨closing.trims, body, alternate.bodyEnd.trims⟩ after
  | otherwise {test : Expr} {closing : Tag} {body : List Element}
      {elseOpening elseClosing : Tag} {elseBody : List Element} {endOpening : Tag}
      {span : Span} {scopes after : Scopes} {decided : Value}
      (tested : (test.evaluate helpers).Gives scopes decided after)
      (fails : decided.isTruthy = false) :
      Chooses helpers
        (.mk test closing body (.otherwise elseOpening elseClosing elseBody endOpening) span)
        scopes ⟨elseClosing.trims, elseBody, endOpening.trims⟩ after
  | chain {test : Expr} {closing : Tag} {body : List Element} {elseOpening : Tag}
      {next : Branch} {span : Span} {scopes middle after : Scopes} {decided : Value}
      {chosen : Body} (tested : (test.evaluate helpers).Gives scopes decided middle)
      (fails : decided.isTruthy = false) (others : Chooses helpers next middle chosen after) :
      Chooses helpers (.mk test closing body (.chain elseOpening next) span) scopes chosen after

/-- Elements run up to a jump.  The elements before it are done in full, and their output
is that of the whole but for what the tags with the jump trim of it. -/
inductive JumpsOut (helpers : Callables) :
    Flow → List Element → Output → Scopes → Output → Scopes → Prop where
  | breaks {front back : List Element} {opening closing : Tag} {place span : Span}
      {output middle : Output} {scopes after : Scopes}
      (before : (renderElements helpers front output).Gives scopes (middle, .normal) after) :
      JumpsOut helpers .breaking (front ++ .tag opening (.breakLoop place) closing span :: back)
        output scopes ⟨middle.settle opening.trims, closing.trims⟩ after
  | continues {front back : List Element} {opening closing : Tag} {place span : Span}
      {output middle : Output} {scopes after : Scopes}
      (before : (renderElements helpers front output).Gives scopes (middle, .normal) after) :
      JumpsOut helpers .continuing
        (front ++ .tag opening (.continueLoop place) closing span :: back) output scopes
        ⟨middle.settle opening.trims, closing.trims⟩ after
  | inside {flow : Flow} {front back : List Element} {opening closing : Tag} {branch : Branch}
      {span : Span} {chosen : Body} {output middle inner : Output}
      {scopes atBranch atBody after : Scopes}
      (before : (renderElements helpers front output).Gives scopes (middle, .normal) atBranch)
      (chooses : Chooses helpers branch atBranch chosen atBody)
      (jumps : JumpsOut helpers flow chosen.elements (Output.start chosen.trimsStart) atBody
        inner after) :
      JumpsOut helpers flow (front ++ .tag opening (.branch branch) closing span :: back)
        output scopes
        (middle.push (inner.settle chosen.trimsEnd) opening.trims closing.trims) after

section

variable {helpers : Callables}

/-- No elements write nothing. -/
theorem gives_renderNone (output : Output) (scopes : Scopes) :
    (renderElements helpers [] output).Gives scopes (output, .normal) scopes := by
  rw [renderElements, gives_pure]
  exact ⟨rfl, rfl⟩

/-- A tag writes its text, and its elements go on if the statement ends normally. -/
theorem gives_renderTag {opening closing : Tag} {statement : Statement} {span : Span}
    {others : List Element} {output written : Output} {flow : Flow} {scopes after : Scopes} :
    (renderElements helpers (.tag opening statement closing span :: others) output).Gives scopes
        (written, flow) after ↔
      ∃ piece middle, (renderStatement helpers statement).Gives scopes piece middle ∧
        if piece.flow = .normal then
          (renderElements helpers others
            (output.push piece.text opening.trims closing.trims)).Gives middle (written, flow) after
        else written = output.push piece.text opening.trims closing.trims ∧ flow = piece.flow ∧
          after = middle := by
  rw [renderElements, gives_bind]
  refine exists_congr fun piece => exists_congr fun middle => and_congr_right fun _ => ?_
  dsimp only
  split
  · exact Iff.rfl
  · rw [gives_pure, Prod.mk.injEq, and_assoc]

/-- Elements that go through go on with those after them. -/
theorem gives_renderElements_append_of_normal {front back : List Element}
    {output middle : Output} {scopes between after : Scopes} {result : Output × Flow}
    (before : (renderElements helpers front output).Gives scopes (middle, .normal) between) :
    (renderElements helpers (front ++ back) output).Gives scopes result after ↔
      (renderElements helpers back middle).Gives between result after := by
  obtain ⟨written, flow⟩ := result
  induction front generalizing output scopes with
  | nil =>
    rw [renderElements, gives_pure, Prod.mk.injEq] at before
    obtain ⟨⟨rfl, -⟩, rfl⟩ := before
    rfl
  | cons element others ih =>
    cases element with
    | raw text span =>
      rw [renderElements] at before
      rw [List.cons_append, renderElements]
      exact ih before
    | tag opening statement closing span =>
      rw [gives_renderTag] at before
      obtain ⟨piece, next, ran, before⟩ := before
      split at before
      · rename_i normal
        rw [List.cons_append, gives_renderTag]
        constructor
        · rintro ⟨piece', next', ran', goesOn⟩
          obtain ⟨rfl, rfl⟩ : piece' = piece ∧ next' = next := by
            simpa [Gives] using ran'.symm.trans ran
          rw [if_pos normal] at goesOn
          exact (ih before).mp goesOn
        · intro goesOn
          exact ⟨piece, next, ran, by rw [if_pos normal]; exact (ih before).mpr goesOn⟩
      · rename_i notNormal
        exact absurd before.2.1.symm notNormal

/-- Elements that go through go through up to every place between them. -/
theorem exists_between_of_normal {front back : List Element} {output written : Output}
    {scopes after : Scopes}
    (whole : (renderElements helpers (front ++ back) output).Gives scopes (written, .normal)
      after) :
    ∃ middle between,
      (renderElements helpers front output).Gives scopes (middle, .normal) between ∧
        (renderElements helpers back middle).Gives between (written, .normal) after := by
  induction front generalizing output scopes with
  | nil => exact ⟨output, scopes, gives_renderNone output scopes, whole⟩
  | cons element others ih =>
    cases element with
    | raw text span =>
      rw [List.cons_append, renderElements] at whole
      rw [renderElements]
      exact ih whole
    | tag opening statement closing span =>
      rw [List.cons_append, gives_renderTag] at whole
      obtain ⟨piece, next, ran, whole⟩ := whole
      split at whole
      · rename_i normal
        obtain ⟨middle, between, before, rest⟩ := ih whole
        refine ⟨middle, between, ?_, rest⟩
        rw [gives_renderTag]
        exact ⟨piece, next, ran, by rw [if_pos normal]; exact before⟩
      · rename_i notNormal
        exact absurd whole.2.1.symm notNormal

/-- A jump after one more element that goes through. -/
theorem JumpsOut.cons {flow : Flow} {element : Element} {others : List Element}
    {output middle written : Output} {scopes between after : Scopes}
    (first : (renderElements helpers [element] output).Gives scopes (middle, .normal) between)
    (jumps : JumpsOut helpers flow others middle between written after) :
    JumpsOut helpers flow (element :: others) output scopes written after := by
  have joined : ∀ {front : List Element} {middle' : Output} {between' : Scopes},
      (renderElements helpers front middle).Gives between (middle', .normal) between' →
      (renderElements helpers (element :: front) output).Gives scopes (middle', .normal)
        between' :=
    fun before => (gives_renderElements_append_of_normal first).mpr before
  cases jumps with
  | breaks before => exact .breaks (joined before)
  | continues before => exact .continues (joined before)
  | inside before chooses jumps => exact .inside (joined before) chooses jumps

/-- Running the bodies that a condition comes to is running the condition. -/
theorem gives_renderBranch_of_chooses {branch : Branch} {chosen : Body} {piece : Written}
    {scopes atBody after : Scopes} (chooses : Chooses helpers branch scopes chosen atBody)
    (ran : (enclosed chosen.trimsStart chosen.trimsEnd
      (renderElements helpers chosen.elements)).Gives atBody piece after) :
    (renderBranch helpers branch).Gives scopes piece after := by
  induction chooses with
  | first tested holds =>
    rw [renderBranch, gives_bind]
    exact ⟨_, _, tested, by rw [if_pos holds]; exact ran⟩
  | otherwise tested fails =>
    rw [renderBranch, gives_bind]
    exact ⟨_, _, tested, by rw [if_neg (Bool.eq_false_iff.mp fails), renderAlternate]; exact ran⟩
  | chain tested fails _ ih =>
    rw [renderBranch, gives_bind]
    exact ⟨_, _, tested,
      by rw [if_neg (Bool.eq_false_iff.mp fails), renderAlternate]; exact ih ran⟩

/-- A body between tags runs as its elements do. -/
theorem gives_enclosed {trimsStart trimsEnd : Bool} {elements : List Element} {piece : Written}
    {scopes after : Scopes} :
    (enclosed trimsStart trimsEnd (renderElements helpers elements)).Gives scopes piece after ↔
      ∃ inner, (renderElements helpers elements (Output.start trimsStart)).Gives scopes
        (inner, piece.flow) after ∧ piece.text = inner.settle trimsEnd := by
  obtain ⟨text, flow⟩ := piece
  rw [enclosed, gives_bind]
  constructor
  · rintro ⟨⟨inner, _⟩, middle, ran, ends⟩
    rw [gives_pure] at ends
    simp only [Written.mk.injEq] at ends
    obtain ⟨⟨rfl, rfl⟩, rfl⟩ := ends
    exact ⟨inner, ran, rfl⟩
  · rintro ⟨inner, ran, rfl⟩
    exact ⟨(inner, flow), after, ran, gives_pure.mpr ⟨rfl, rfl⟩⟩

/-- Nothing is written by an empty piece but what its tag trims. -/
theorem push_empty (output : Output) (trimsBefore trimsAfter : Bool) :
    output.push "" trimsBefore trimsAfter = ⟨output.settle trimsBefore, trimsAfter⟩ := by
  have noText : Text.trimStart "" = "" := by decide
  simp [Output.push, noText]

mutual

/-- Elements that end early have come to a jump. -/
theorem jumpsOut_of_gives {flow : Flow} (notNormal : flow ≠ .normal) :
    ∀ (elements : List Element) {output written : Output} {scopes after : Scopes},
      (renderElements helpers elements output).Gives scopes (written, flow) after →
        JumpsOut helpers flow elements output scopes written after
  | [], _, _, _, _, ran => by
    rw [renderElements, gives_pure, Prod.mk.injEq] at ran
    exact absurd ran.1.2 notNormal
  | .raw text span :: others, output, _, scopes, _, ran => by
    have first : (renderElements helpers [.raw text span] output).Gives scopes
        (output.push text false false, .normal) scopes := by
      rw [renderElements]
      exact gives_renderNone _ scopes
    rw [renderElements] at ran
    exact (jumpsOut_of_gives notNormal others ran).cons first
  | .tag opening statement closing span :: others, output, _, scopes, _, ran => by
    rw [gives_renderTag] at ran
    obtain ⟨piece, middle, ranPiece, ran⟩ := ran
    split at ran
    · rename_i normal
      have first : (renderElements helpers [.tag opening statement closing span] output).Gives
          scopes (output.push piece.text opening.trims closing.trims, .normal) middle := by
        rw [gives_renderTag]
        refine ⟨piece, middle, ranPiece, ?_⟩
        rw [if_pos normal]
        exact gives_renderNone _ middle
      exact (jumpsOut_of_gives notNormal others ran).cons first
    · obtain ⟨rfl, rfl, rfl⟩ := ran
      exact jumpsOut_of_statement notNormal statement ranPiece
/-- A statement that ends its body early is a jump or a condition with one. -/
theorem jumpsOut_of_statement {opening closing : Tag} {span : Span} {others : List Element}
    {output : Output} {scopes after : Scopes} {piece : Written} (notNormal : piece.flow ≠ .normal) :
    ∀ statement : Statement, (renderStatement helpers statement).Gives scopes piece after →
      JumpsOut helpers piece.flow (.tag opening statement closing span :: others) output scopes
        (output.push piece.text opening.trims closing.trims) after
  | .empty, ran => by
    rw [renderStatement, gives_pure] at ran
    rw [ran.1] at notNormal
    exact absurd rfl notNormal
  | .expression _, ran => by
    rw [renderStatement, gives_bind] at ran
    obtain ⟨_, _, -, ran⟩ := ran
    rw [gives_pure] at ran
    rw [ran.1] at notNormal
    exact absurd rfl notNormal
  | .assign _ _ _, ran => by
    rw [renderStatement, gives_bind] at ran
    obtain ⟨_, _, -, ran⟩ := ran
    rw [gives_bind] at ran
    obtain ⟨_, _, -, ran⟩ := ran
    rw [gives_pure] at ran
    rw [ran.1] at notNormal
    exact absurd rfl notNormal
  | .loop _ _ _ _ _ _ _, ran => by
    rw [renderStatement, gives_bind] at ran
    obtain ⟨_, _, -, ran⟩ := ran
    rw [gives_bind] at ran
    obtain ⟨_, _, -, ran⟩ := ran
    rw [gives_bind] at ran
    obtain ⟨_, _, -, ran⟩ := ran
    rw [gives_pure] at ran
    rw [ran.1] at notNormal
    exact absurd rfl notNormal
  | .breakLoop place, ran => by
    rw [renderStatement, gives_pure] at ran
    obtain ⟨rfl, rfl⟩ := ran
    rw [push_empty]
    exact .breaks (gives_renderNone output _)
  | .continueLoop place, ran => by
    rw [renderStatement, gives_pure] at ran
    obtain ⟨rfl, rfl⟩ := ran
    rw [push_empty]
    exact .continues (gives_renderNone output _)
  | .branch branch, ran => by
    rw [renderStatement] at ran
    obtain ⟨chosen, atBody, inner, chooses, jumps, textEq⟩ :=
      jumpsOut_of_branch notNormal branch ran
    rw [textEq]
    exact .inside (gives_renderNone output scopes) chooses jumps

/-- A condition that ends early has come to a jump in one of its bodies. -/
theorem jumpsOut_of_branch {piece : Written} (notNormal : piece.flow ≠ .normal) :
    ∀ (branch : Branch) {scopes after : Scopes},
      (renderBranch helpers branch).Gives scopes piece after →
        ∃ chosen atBody inner, Chooses helpers branch scopes chosen atBody ∧
          JumpsOut helpers piece.flow chosen.elements (Output.start chosen.trimsStart) atBody
            inner after ∧ piece.text = inner.settle chosen.trimsEnd
  | .mk test closing body alternate span, scopes, after, ran => by
    rw [renderBranch, gives_bind] at ran
    obtain ⟨decided, middle, tested, ran⟩ := ran
    split at ran
    · rename_i holds
      obtain ⟨inner, ran, textEq⟩ := gives_enclosed.mp ran
      exact ⟨_, middle, inner, .first tested holds, jumpsOut_of_gives notNormal body ran, textEq⟩
    · rename_i fails
      rw [Bool.not_eq_true] at fails
      match alternate, ran with
      | .done _, ran =>
        rw [renderAlternate, gives_pure] at ran
        rw [ran.1] at notNormal
        exact absurd rfl notNormal
      | .otherwise _ _ elseBody _, ran =>
        rw [renderAlternate] at ran
        obtain ⟨inner, ran, textEq⟩ := gives_enclosed.mp ran
        exact ⟨_, middle, inner, .otherwise tested fails,
          jumpsOut_of_gives notNormal elseBody ran, textEq⟩
      | .chain _ next, ran =>
        rw [renderAlternate] at ran
        obtain ⟨chosen, atBody, inner, chooses, jumps, textEq⟩ :=
          jumpsOut_of_branch notNormal next ran
        exact ⟨chosen, atBody, inner, .chain tested fails chooses, jumps, textEq⟩

end

/-- Elements that come to a jump end early. -/
theorem JumpsOut.gives {flow : Flow} {elements : List Element} {output written : Output}
    {scopes after : Scopes} (jumps : JumpsOut helpers flow elements output scopes written after) :
    (renderElements helpers elements output).Gives scopes (written, flow) after ∧
      flow ≠ .normal := by
  induction jumps with
  | breaks before =>
    refine ⟨(gives_renderElements_append_of_normal before).mpr ?_, by decide⟩
    rw [gives_renderTag]
    refine ⟨⟨"", .breaking⟩, _, by rw [renderStatement, gives_pure]; exact ⟨rfl, rfl⟩, ?_⟩
    rw [if_neg (by decide), push_empty]
    exact ⟨rfl, rfl, rfl⟩
  | continues before =>
    refine ⟨(gives_renderElements_append_of_normal before).mpr ?_, by decide⟩
    rw [gives_renderTag]
    refine ⟨⟨"", .continuing⟩, _, by rw [renderStatement, gives_pure]; exact ⟨rfl, rfl⟩, ?_⟩
    rw [if_neg (by decide), push_empty]
    exact ⟨rfl, rfl, rfl⟩
  | @inside flow _ _ _ _ _ _ chosen _ _ inner _ _ _ after before chooses _ ih =>
    obtain ⟨ran, notNormal⟩ := ih
    refine ⟨(gives_renderElements_append_of_normal before).mpr ?_, notNormal⟩
    rw [gives_renderTag]
    refine ⟨⟨inner.settle chosen.trimsEnd, flow⟩, after, ?_, ?_⟩
    · rw [renderStatement]
      exact gives_renderBranch_of_chooses chooses (gives_enclosed.mpr ⟨inner, ran, rfl⟩)
    · rw [if_neg notNormal]
      exact ⟨rfl, rfl, rfl⟩

theorem looseIn_append (front back : List Element) :
    looseIn (front ++ back) = (looseIn front || looseIn back) := by
  induction front with
  | nil => simp [looseIn]
  | cons element others ih => cases element <;> simp [looseIn, ih, Bool.or_assoc]

/-- The bodies that a condition comes to are its own. -/
theorem Chooses.loose {branch : Branch} {scopes after : Scopes} {chosen : Body}
    (chooses : Chooses helpers branch scopes chosen after)
    (loose : looseIn chosen.elements = true) : branch.loose = true := by
  induction chooses with
  | first => simp [Branch.loose, loose]
  | otherwise => simp [Branch.loose, Alternate.loose, loose]
  | chain _ _ _ ih => simp [Branch.loose, Alternate.loose, ih loose]

/-- Elements with no loose jump come to none. -/
theorem JumpsOut.loose {flow : Flow} {elements : List Element} {output written : Output}
    {scopes after : Scopes} (jumps : JumpsOut helpers flow elements output scopes written after) :
    looseIn elements = true := by
  induction jumps with
  | breaks | continues => simp [looseIn_append, looseIn, Statement.loose]
  | inside _ chooses _ ih => simp [looseIn_append, looseIn, Statement.loose, chooses.loose ih]

end

/-! ## Rounds -/

/-- The rounds of a loop over items.  A round is a body in a frame of its own; it goes
through, or it jumps, and then it ends with what it has written, and with `break` the loop
does too. -/
inductive Rounds (helpers : Callables) (frame : Value → Nat → Table Value) (body : Body) :
    List Value → Nat → Scopes → String → Scopes → Prop where
  | none {position : Nat} {scopes : Scopes} :
      Rounds helpers frame body [] position scopes "" scopes
  | whole {item : Value} {others : List Value} {position : Nat} {output : Output}
      {text : String} {scopes inner after : Scopes}
      (ran : (renderElements helpers body.elements (Output.start body.trimsStart)).Gives
        (scopes.push (frame item position)) (output, .normal) inner)
      (goesOn : Rounds helpers frame body others (position + 1) inner.pop text after) :
      Rounds helpers frame body (item :: others) position scopes
        (output.settle body.trimsEnd ++ text) after
  | skipped {item : Value} {others : List Value} {position : Nat} {output : Output}
      {text : String} {scopes inner after : Scopes}
      (jumps : JumpsOut helpers .continuing body.elements (Output.start body.trimsStart)
        (scopes.push (frame item position)) output inner)
      (goesOn : Rounds helpers frame body others (position + 1) inner.pop text after) :
      Rounds helpers frame body (item :: others) position scopes
        (output.settle body.trimsEnd ++ text) after
  | ended {item : Value} {others : List Value} {position : Nat} {output : Output}
      {scopes inner : Scopes}
      (jumps : JumpsOut helpers .breaking body.elements (Output.start body.trimsStart)
        (scopes.push (frame item position)) output inner) :
      Rounds helpers frame body (item :: others) position scopes
        (output.settle body.trimsEnd) inner.pop

section

variable {helpers : Callables} {frame : Value → Nat → Table Value} {body : Body}

/-- The rounds of a loop are those that it is made of. -/
theorem gives_rounds {items : List Value} {position : Nat} {text : String}
    {scopes after : Scopes} :
    (rounds (fun item position => inFrame (frame item position)
        (enclosed body.trimsStart body.trimsEnd (renderElements helpers body.elements)))
      items position).Gives scopes text after ↔
      Rounds helpers frame body items position scopes text after := by
  constructor
  · intro ran
    induction items generalizing position text scopes with
    | nil =>
      rw [rounds, gives_pure] at ran
      obtain ⟨rfl, rfl⟩ := ran
      exact .none
    | cons item others ih =>
      rw [rounds, gives_bind] at ran
      obtain ⟨⟨front, flow⟩, middle, round, ran⟩ := ran
      rw [gives_inFrame] at round
      obtain ⟨inner, round, rfl⟩ := round
      obtain ⟨output, round, rfl⟩ := gives_enclosed.mp round
      dsimp only at round ran
      cases flow with
      | breaking =>
        rw [if_pos rfl, gives_pure] at ran
        obtain ⟨rfl, rfl⟩ := ran
        exact .ended (jumpsOut_of_gives (by decide) body.elements round)
      | normal =>
        rw [if_neg (by decide), gives_bind] at ran
        obtain ⟨back, between, ran, ends⟩ := ran
        rw [gives_pure] at ends
        obtain ⟨rfl, rfl⟩ := ends
        exact .whole round (ih ran)
      | continuing =>
        rw [if_neg (by decide), gives_bind] at ran
        obtain ⟨back, between, ran, ends⟩ := ran
        rw [gives_pure] at ends
        obtain ⟨rfl, rfl⟩ := ends
        exact .skipped (jumpsOut_of_gives (by decide) body.elements round) (ih ran)
  · intro made
    induction made with
    | none =>
      rw [rounds, gives_pure]
      exact ⟨rfl, rfl⟩
    | @whole item others position output text scopes inner after ran _ ih =>
      rw [rounds, gives_bind]
      refine ⟨⟨output.settle body.trimsEnd, .normal⟩, inner.pop, ?_, ?_⟩
      · exact gives_inFrame.mpr ⟨inner, gives_enclosed.mpr ⟨output, ran, rfl⟩, rfl⟩
      · rw [if_neg (by simp), gives_bind]
        exact ⟨_, _, ih, gives_pure.mpr ⟨rfl, rfl⟩⟩
    | @skipped item others position output text scopes inner after jumps _ ih =>
      rw [rounds, gives_bind]
      refine ⟨⟨output.settle body.trimsEnd, .continuing⟩, inner.pop, ?_, ?_⟩
      · exact gives_inFrame.mpr ⟨inner, gives_enclosed.mpr ⟨output, jumps.gives.1, rfl⟩, rfl⟩
      · rw [if_neg (by simp), gives_bind]
        exact ⟨_, _, ih, gives_pure.mpr ⟨rfl, rfl⟩⟩
    | @ended item others position output scopes inner jumps =>
      rw [rounds, gives_bind]
      refine ⟨⟨output.settle body.trimsEnd, .breaking⟩, inner.pop, ?_, ?_⟩
      · exact gives_inFrame.mpr ⟨inner, gives_enclosed.mpr ⟨output, jumps.gives.1, rfl⟩, rfl⟩
      · rw [if_pos rfl, gives_pure]
        exact ⟨rfl, rfl⟩

/-- A loop goes through its rounds and then ends normally. -/
theorem gives_renderLoop {value : Identifier} {index : Option Identifier} {iterable : Expr}
    {closing : Tag} {elements : List Element} {endOpening : Tag} {span : Span}
    {written : Written} {scopes after : Scopes} :
    (renderStatement helpers
        (.loop value index iterable closing elements endOpening span)).Gives scopes written after ↔
      written.flow = .normal ∧
      ∃ iterated items middle, (iterable.evaluate helpers).Gives scopes iterated middle ∧
        itemsOf iterated = .ok items ∧
          Rounds helpers (loopFrame value index) ⟨closing.trims, elements, endOpening.trims⟩
            items 0 middle written.text after := by
  obtain ⟨text, flow⟩ := written
  rw [renderStatement, gives_bind]
  constructor
  · rintro ⟨iterated, middle, evaluated, ran⟩
    rw [gives_bind] at ran
    obtain ⟨items, _, checked, ran⟩ := ran
    obtain ⟨isItems, rfl⟩ := Meaning.gives_checkedAt.mp checked
    rw [gives_bind] at ran
    obtain ⟨all, _, ran, ends⟩ := ran
    rw [gives_pure] at ends
    obtain ⟨same, rfl⟩ := ends
    obtain ⟨rfl, rfl⟩ := Written.mk.inj same
    exact ⟨rfl, iterated, items, _, evaluated, isItems, gives_rounds.mp ran⟩
  · rintro ⟨rfl, iterated, items, middle, evaluated, isItems, made⟩
    refine ⟨iterated, middle, evaluated, ?_⟩
    rw [gives_bind]
    refine ⟨items, middle, Meaning.gives_checkedAt.mpr ⟨isItems, rfl⟩, ?_⟩
    rw [gives_bind]
    exact ⟨text, after, gives_rounds.mpr made, gives_pure.mpr ⟨rfl, rfl⟩⟩

end

/-- Every jump of a template that is read stands in a loop.  So the template, where it
succeeds, goes through all of its elements; and its loops are made of rounds, of which a
jump ends the one it stands in, and `break` the loop, with the text that is written. -/
theorem jumps_within_loops {tags : Delimiters} {source : List Char} {template : Template}
    (read : parse tags source = .ok template) (helpers : Callables) :
    looseIn template.elements = false ∧
    (∀ output scopes written flow after,
      (renderElements helpers template.elements output).Gives scopes (written, flow) after →
        flow = .normal ∧ ∀ front back, template.elements = front ++ back →
          ∃ middle between,
            (renderElements helpers front output).Gives scopes (middle, .normal) between ∧
              (renderElements helpers back middle).Gives between (written, .normal) after) ∧
    ∀ value index iterable closing body endOpening span scopes written after,
      (renderStatement helpers
          (.loop value index iterable closing body endOpening span)).Gives scopes written after ↔
        written.flow = .normal ∧
        ∃ iterated items middle, (iterable.evaluate helpers).Gives scopes iterated middle ∧
          itemsOf iterated = .ok items ∧
            Rounds helpers (loopFrame value index) ⟨closing.trims, body, endOpening.trims⟩
              items 0 middle written.text after := by
  have noneLoose := looseIn_of_parse read
  refine ⟨noneLoose, ?_, ?_⟩
  · intro output scopes written flow after ran
    have normal : flow = .normal := by
      refine Decidable.byContradiction fun notNormal => ?_
      have loose := (jumpsOut_of_gives notNormal template.elements ran).loose
      rw [noneLoose] at loose
      cases loose
    subst normal
    refine ⟨rfl, fun front back whole => ?_⟩
    rw [whole] at ran
    exact exists_between_of_normal ran
  · intro value index iterable closing body endOpening span scopes written after
    exact gives_renderLoop

/-- A jump in a condition in a loop. -/
theorem jumps_within_loops_break :
    ∃ template,
      parse ⟨"<%", "%>"⟩ "<% for x in y %>a<% if x %>b<% break %><% end %><% end %>c".toList =
          .ok template ∧
        looseIn template.elements = false := by
  have accepted :
      (parse ⟨"<%", "%>"⟩
        "<% for x in y %>a<% if x %>b<% break %><% end %><% end %>c".toList).isOk = true := by
    decide
  cases read : parse ⟨"<%", "%>"⟩
      "<% for x in y %>a<% if x %>b<% break %><% end %><% end %>c".toList with
  | error diagnostic =>
    rw [read] at accepted
    cases accepted
  | ok template => exact ⟨template, rfl, (jumps_within_loops read fun _ => none).1⟩

end TemplateLang
