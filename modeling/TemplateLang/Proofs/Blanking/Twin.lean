import TemplateLang.Proofs.Blanking.Scanning
import TemplateLang.Proofs.Outline.Grammar

/-!
# A comment replaced by a blank

A gap is a comment of a source.  Two places are twins if one lies in the source and the other
in the text where a blank stands for that comment, with the same text up to the comment or
after it.  As long as the comment is ahead, a skim leads to it.  So it lies in no string and in
no other comment, and whatever is passed without it is passed in both texts alike.
-/

namespace TemplateLang

open Cursor

/-- A comment and the places around it. -/
structure Gap where
  start : Cursor
  comment : Comment
  stop : Cursor
  found : Literal.comment start = .found comment stop

namespace Gap

variable (gap : Gap)

theorem starts : ∃ rest, gap.start.rest = '/' :: '*' :: rest := by
  rcases Literal.comment_eq_found.mp gap.found with ⟨body, after, restEq, -⟩
  exact ⟨body ++ after, restEq⟩

theorem skimStep_start : skimStep true gap.start = some ([gap.comment.token], true, gap.stop) := by
  rcases gap.starts with ⟨rest, restEq⟩
  have noClosing : closes gap.start.rest = false := by
    rw [Bool.eq_false_iff, Ne, closes_iff, restEq]
    simp
  simp [skimStep, skimInside, noClosing, gap.found]

end Gap

/-- A place of a source, and the same place of the text with a blank for a comment. -/
inductive Twin (gap : Gap) (inside : Bool) (cursor cursor' : Cursor) : Prop where
  | before {text : List Char} {tokens : List Token}
      (restEq : cursor.rest = text ++ gap.start.rest)
      (restEq' : cursor'.rest = text ++ ' ' :: gap.stop.rest)
      (ahead : Skims inside cursor tokens true gap.start)
  | behind (same : cursor'.rest = cursor.rest)

/-- Of two skims from one place, one goes on from the end of the other. -/
theorem Skims.meet {inside inside' inside'' : Bool} {cursor next next' : Cursor}
    {first second : List Token} (one : Skims inside cursor first inside' next)
    (other : Skims inside cursor second inside'' next') :
    (∃ more, Skims inside' next more inside'' next') ∨
      ∃ more, first = second ++ more ∧ Skims inside'' next' more inside' next := by
  induction one generalizing second with
  | done => exact .inl ⟨second, other⟩
  | @step _ _ _ _ _ _ found tokens taken others ih =>
    cases other with
    | done => exact .inr ⟨found ++ tokens, rfl, .step taken others⟩
    | step taken' others' =>
      rw [taken] at taken'
      simp only [Option.some.injEq, Prod.mk.injEq] at taken'
      rcases taken' with ⟨rfl, rfl, rfl⟩
      rcases ih others' with ⟨more, goesOn⟩ | ⟨more, rfl, goesOn⟩
      · exact .inl ⟨more, goesOn⟩
      · exact .inr ⟨more, (List.append_assoc ..).symm, goesOn⟩

variable {gap : Gap} {inside inside' : Bool} {cursor cursor' next : Cursor}
  {tokens front : List Token}

/-- A place that is reached without the comment lies before it. -/
theorem Skims.toGap (ahead : Skims inside cursor front true gap.start)
    (skimmed : Skims inside cursor tokens inside' next) (apart : gap.comment.token ∉ tokens) :
    ∃ more, Skims inside' next more true gap.start := by
  rcases skimmed.meet ahead with later | ⟨more, rfl, beyond⟩
  · exact later
  · cases beyond with
    | done => exact ⟨[], .done⟩
    | step taken others =>
      rw [gap.skimStep_start] at taken
      simp only [Option.some.injEq, Prod.mk.injEq] at taken
      rcases taken with ⟨rfl, rfl, rfl⟩
      exact absurd (by simp) apart

namespace Twin

theorem blanked (twin : Twin gap inside cursor cursor') : Blanked cursor.rest cursor'.rest := by
  cases twin with
  | before restEq restEq' =>
    rcases gap.starts with ⟨rest, startEq⟩
    rw [restEq, restEq', startEq]
    exact .append _ _ _
  | behind same =>
    rw [same]
    exact .same _

/-- What is passed without the comment is passed in both texts. -/
theorem passed (twin : Twin gap inside cursor cursor') {count : Nat}
    (skimmed : Skims inside cursor tokens inside' (cursor.skip count))
    (apart : gap.comment.token ∉ tokens) :
    cursor'.rest.take count = cursor.rest.take count ∧
      Twin gap inside' (cursor.skip count) (cursor'.skip count) := by
  cases twin with
  | @before text _ restEq restEq' ahead =>
    rcases ahead.toGap skimmed apart with ⟨more, later⟩
    rcases later.ordered.1.exists_passed with ⟨left, leftEq, -⟩
    have short : count ≤ text.length := by
      rcases gap.starts with ⟨rest, startEq⟩
      have lengths := congrArg List.length leftEq
      rw [rest_skip, restEq, startEq] at lengths
      simp only [List.length_drop, List.length_append, List.length_cons] at lengths
      omega
    have textEq : left = text.drop count := by
      rw [rest_skip, restEq, List.drop_append_of_le_length short] at leftEq
      exact (List.append_cancel_right leftEq).symm
    constructor
    · rw [restEq, restEq', List.take_append_of_le_length short,
        List.take_append_of_le_length short]
    · refine .before leftEq ?_ later
      rw [rest_skip, restEq', List.drop_append_of_le_length short, textEq]
  | behind same => exact ⟨by rw [same], .behind (by rw [rest_skip, rest_skip, same])⟩

theorem skip (twin : Twin gap true cursor cursor') {count : Nat}
    (silent : Silent cursor (cursor.skip count)) :
    Twin gap true (cursor.skip count) (cursor'.skip count) :=
  (twin.passed silent (by simp)).2

/-- A text without the comment is crossed in both texts. -/
theorem crosses (twin : Twin gap inside cursor cursor') {text : List Char}
    (crosses : cursor.Crosses text next) (skimmed : Skims inside cursor tokens inside' next)
    (apart : gap.comment.token ∉ tokens) :
    ∃ next', cursor'.Crosses text next' ∧ Twin gap inside' next next' := by
  rcases crosses with ⟨restEq, rfl⟩
  rcases twin.passed skimmed apart with ⟨same, twin'⟩
  refine ⟨cursor'.skip text.length, ⟨?_, rfl⟩, twin'⟩
  rw [restEq, List.take_left] at same
  rw [rest_skip]
  conv_lhs => rw [← List.take_append_drop text.length cursor'.rest, same]

/-! ## Characters and words -/

/-- A character that begins no comment is passed in both texts. -/
theorem isAt (twin : Twin gap true cursor cursor') {c : Char} (isAt : cursor.isAt [c] = true)
    (calm : isCalm c = true) :
    cursor'.isAt [c] = true ∧ Twin gap true (cursor.skip 1) (cursor'.skip 1) := by
  rcases isAt_singleton_iff.mp isAt with ⟨rest, restEq⟩
  have crosses : cursor.Crosses [c] (cursor.skip 1) := crosses_of_rest restEq
  rcases twin.crosses crosses (silent_calm restEq calm) (by simp) with ⟨next', crosses', twin'⟩
  exact ⟨isAt_singleton_iff.mpr ⟨_, crosses'.1⟩, crosses'.2 ▸ twin'⟩

theorem skipWord (twin : Twin gap true cursor cursor') :
    Twin gap true cursor.skipWord cursor'.skipWord := by
  have moved := twin.skip (silent_skipWord cursor)
  rw [Cursor.skipWord, Cursor.skipWord, word_blanked twin.blanked]
  exact moved

end Twin

/-! ## Blanks and comments -/

theorem Literal.start_of_comment {comment : Comment}
    (found : Literal.comment cursor = .found comment next) :
    comment.span.start = cursor.offset := by
  rcases comment_eq_found.mp found with ⟨body, after, -, -, -, rfl⟩
  rfl

/-- Blanks before a place lie before its twin. -/
theorem Twin.between_skipBlanks (twin : Twin gap true cursor cursor') :
    ∃ start', Between cursor' [] start' ∧ Twin gap true cursor.skipBlanks start' := by
  rcases twin.passed (silent_skipBlanks cursor) (by simp) with ⟨same, moved⟩
  refine ⟨_, between_blanks fun c isIn => ?_, moved⟩
  rw [same, ← List.prefix_iff_eq_take.mp (List.takeWhile_prefix _)] at isIn
  exact List.all_eq_true.mp List.all_takeWhile c isIn

/-- The comment of a gap is found where it starts. -/
theorem Gap.start_of_token {comment : Comment} (ahead : Skims true cursor front true gap.start)
    (found : Literal.comment cursor = .found comment next)
    (same : gap.comment.token = comment.token) : cursor = gap.start := by
  have offsets : gap.start.offset = cursor.offset := by
    rw [← Literal.start_of_comment found, ← Literal.start_of_comment gap.found]
    exact congrArg (fun token => token.span.start) same
  rcases ahead.ordered.1 with ⟨count, stopEq⟩
  have none : byteLength (cursor.rest.take count) = 0 := by
    rw [← stopEq, offset_skip] at offsets
    omega
  rw [byteLength_eq_zero_iff, List.take_eq_nil_iff] at none
  rcases none with rfl | atEnd
  · exact (skip_zero cursor).symm.trans stopEq
  · exact absurd atEnd (Literal.passes_of_comment found).1

/-- A comment is passed with its twin, or it is the gap, and then a blank stands for it. -/
theorem Twin.comment (twin : Twin gap true cursor cursor') {comment : Comment}
    (found : Literal.comment cursor = .found comment next) :
    ∃ comments' next', Between cursor' comments' next' ∧ Twin gap true next next' ∧
      (gap.comment = comment ∨ comments'.length = 1) := by
  rcases Literal.comment_found_again found with ⟨text, crosses, again⟩
  have passed {next' : Cursor} (crosses' : cursor'.Crosses text next')
      (twin' : Twin gap true next next') :
      ∃ comments' next', Between cursor' comments' next' ∧ Twin gap true next next' ∧
        (gap.comment = comment ∨ comments'.length = 1) := by
    exact ⟨[_], next', .comment (again crosses') (.here next'), twin', .inr rfl⟩
  by_cases isGap : gap.comment.token = comment.token
  · cases twin with
    | @before text _ restEq restEq' ahead =>
      rcases Gap.start_of_token ahead found isGap with rfl
      rcases Scan.found.inj (gap.found.symm.trans found) with ⟨same, rfl⟩
      rcases List.append_cancel_right (restEq.symm.trans (List.nil_append _).symm) with rfl
      exact ⟨[], cursor'.skip 1, .blank restEq' (by decide) (.here _),
        .behind (by rw [rest_skip, restEq']; rfl), .inl same⟩
    | behind same =>
      have crosses' := crosses_of_rest (same.trans crosses.1)
      refine passed crosses' (.behind ?_)
      exact List.append_cancel_left (crosses'.1.symm.trans (same.trans crosses.1))
  · have apart : gap.comment.token ∉ [comment.token] := by simpa using isGap
    rcases twin.crosses crosses (finds_comment found) apart with ⟨next', crosses', twin'⟩
    exact passed crosses' twin'

/-- Comments of which none is missing but perhaps the gap. -/
def Misses (gap : Gap) (comments comments' : List Comment) : Prop :=
  gap.comment ∈ comments ∨ comments'.length = comments.length

theorem Misses.append {before before' after after' : List Comment}
    (first : Misses gap before before') (second : Misses gap after after') :
    Misses gap (before ++ after) (before' ++ after') := by
  rcases first with isIn | first
  · exact .inl (List.mem_append_left after isIn)
  · rcases second with isIn | second
    · exact .inl (List.mem_append_right before isIn)
    · exact .inr (by rw [List.length_append, List.length_append, first, second])

/-- Blanks and comments are passed with their twins. -/
theorem Twin.trivia (twin : Twin gap true cursor cursor') {comments : List Comment}
    (read : TemplateLang.trivia cursor = .ok (comments, next)) :
    ∃ comments' next', TemplateLang.trivia cursor' = .ok (comments', next') ∧
      Twin gap true next next' ∧ Misses gap comments comments' := by
  have general := Reading.loop_induction
    (motive := fun before cursor all next =>
      ∀ cursor', Twin gap true cursor cursor' → next.Settled ∧
        ∃ comments comments' next', all = before ++ comments ∧
          Between cursor' comments' next' ∧ Twin gap true next next' ∧
          Misses gap comments comments') ?_ ?_ read
  · rcases general cursor' twin with ⟨settled, _, comments', next', rfl, between, twin', counts⟩
    exact ⟨comments', next', between.trivia (settled.blanked twin'.blanked), twin', counts⟩
  · intro before cursor all next step cursor' twin
    rcases triviaRound_eq_done.mp step with ⟨noComment, rfl, rfl⟩
    rcases twin.between_skipBlanks with ⟨next', between, twin'⟩
    exact ⟨settled_skipBlanks noComment, [], [], next', by simp, between, twin', .inr rfl⟩
  · intro before cursor before' middle all next step later cursor' twin
    rcases triviaRound_eq_again.mp step with ⟨comment, found, rfl⟩
    rcases twin.between_skipBlanks with ⟨start', blanks, twin⟩
    rcases twin.comment found with ⟨first, middle', between, twin, isGap⟩
    rcases later middle' twin with ⟨settled, others, others', next', rfl, rest, twin, counts⟩
    refine ⟨settled, comment :: others, first ++ others', next', by simp,
      blanks.trans (between.trans rest), twin, ?_⟩
    rcases isGap with same | one
    · exact .inl (same ▸ List.mem_cons_self)
    · rcases counts with isIn | counts
      · exact .inl (List.mem_cons_of_mem comment isIn)
      · right
        rw [List.length_append, List.length_cons, one, counts, Nat.add_comm]

/-- Two places after which twins follow, once blanks and comments are passed. -/
def Aligned (gap : Gap) (cursor cursor' : Cursor) : Prop :=
  ∀ {comments start}, TemplateLang.trivia cursor = .ok (comments, start) →
    ∃ comments' start', TemplateLang.trivia cursor' = .ok (comments', start') ∧
      Twin gap true start start' ∧ Misses gap comments comments'

theorem Twin.aligned (twin : Twin gap true cursor cursor') : Aligned gap cursor cursor' :=
  twin.trivia

/-- A blank for the gap may be passed with the blanks before it. -/
theorem Twin.aligned_skipBlanks (twin : Twin gap true cursor cursor') :
    Aligned gap cursor.skipBlanks cursor'.skipBlanks := by
  intro comments start read
  rcases twin.trivia (trivia_skipBlanks.mp read) with ⟨comments', start', read', twin', misses⟩
  exact ⟨comments', start', trivia_skipBlanks.mpr read', twin', misses⟩

/-- Twins stay twins after blanks if no comment follows these. -/
theorem Twin.skipBlanks (twin : Twin gap true cursor cursor')
    (settled : cursor.skipBlanks.Settled) : Twin gap true cursor.skipBlanks cursor'.skipBlanks := by
  rcases twin.between_skipBlanks with ⟨start', between, twin'⟩
  rw [← between.eq_skipBlanks (settled.blanked twin'.blanked)]
  exact twin'

end TemplateLang
