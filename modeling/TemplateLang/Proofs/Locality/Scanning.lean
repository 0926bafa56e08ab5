import TemplateLang.Proofs.Locality.Around

/-!
# Scanning in a longer text

Comments, strings and numbers are found in a longer text as they are in the text alone, if
what comes after the text is not seen from where they end.
-/

namespace TemplateLang

open Cursor

variable {around : Around} {cursor next : Cursor}

/-! ## Searching -/

/-- The first place of a mark is the first one in the longer text too. -/
theorem cutBefore?_append {mark text before after : List Char}
    (cut : cutBefore? mark text = some (before, after)) (more : List Char) :
    cutBefore? mark (text ++ more) = some (before, after ++ more) := by
  rcases cutBefore?_eq_some_iff.mp cut with ⟨rfl, starts, first⟩
  rw [cutBefore?_eq_some_iff]
  refine ⟨(List.append_assoc ..).symm, starts.trans (List.prefix_append _ _), ?_⟩
  intro front back split someBack earlier
  apply first front back split someBack
  rw [← List.append_assoc] at earlier
  apply List.prefix_of_prefix_length_le earlier (List.prefix_append _ _)
  rw [List.length_append]
  exact Nat.le_trans starts.length_le (Nat.le_add_left _ _)

namespace Literal

/-! ## Comments and strings -/

theorem comment_inside {comment : Comment}
    (found : Literal.comment cursor = .found comment next) :
    Literal.comment (cursor.inside around) =
      .found (comment.shift around.distance) (next.inside around) := by
  rcases comment_eq_found.mp found with ⟨body, after, restEq, cut, rfl, rfl⟩
  have within : 2 + (body.length + 2) ≤ cursor.rest.length := by
    have closes := (cutBefore?_eq_some_iff.mp cut).2.1.length_le
    rw [restEq]
    simp only [List.length_append, commentOpening, commentClosing, List.length_cons,
      List.length_nil] at closes ⊢
    omega
  rw [comment_eq_found]
  refine ⟨body, after ++ around.after, ?_, ?_, (skip_inside within).symm, ?_⟩
  · rw [rest_inside, restEq, List.append_assoc]
  · rw [← List.append_assoc]
    exact cutBefore?_append cut around.after
  · rw [spanTo_inside]
    rfl

theorem string_inside {value : String × Quote} (found : string cursor = .found value next) :
    string (cursor.inside around) = .found value (next.inside around) := by
  rcases string_found_again found with ⟨text, crosses, again⟩
  exact again crosses.inside

/-! ## Numbers -/

/-- A leading zero and the letter that announces a base are passed in the longer text. -/
theorem skip_announced_inside (isAnnounced : announced cursor.rest ≠ none) :
    (cursor.inside around).skip 2 = (cursor.skip 2).inside around := by
  rcases Option.ne_none_iff_exists'.mp isAnnounced with ⟨base, isBase⟩
  rcases announced_eq_some.mp isBase with ⟨letter, rest, restEq, -⟩
  apply skip_inside
  rw [restEq]
  exact Nat.le_add_left 2 _

theorem unseen_announced (isAnnounced : announced cursor.rest ≠ none)
    (unseen : around.Unseen cursor.rest) : around.Unseen (cursor.skip 2).rest := by
  rcases Option.ne_none_iff_exists'.mp isAnnounced with ⟨base, isBase⟩
  rcases announced_eq_some.mp isBase with ⟨letter, rest, restEq, isRadix⟩
  rw [restEq] at unseen
  rw [rest_skip, restEq]
  apply (unseen.tail (by decide)).tail
  rintro rfl
  exact nomatch isRadix

/-- Numbers do not see what comes after the end of a tag. -/
theorem looksAlike_inside (around : Around) :
    LooksAlike fun cursor cursor' =>
      cursor' = cursor.inside around ∧ around.Unseen cursor.rest where
  run := by
    rintro cursor _ ⟨rfl, unseen⟩ p run
    have ends : p '\x7d' = false := by rcases run with rfl | rfl <;> decide
    rw [rest_skipWhile]
    exact ⟨unseen.takeWhile_eq ends, skipWhile_unseen unseen ends, unseen.dropWhile ends⟩
  mark := by
    rintro cursor _ ⟨rfl, unseen⟩ c isMark
    rw [rest_inside, unseen.head?_eq]
    refine ⟨Iff.rfl, fun starts => ?_⟩
    rcases List.head?_eq_some_iff.mp starts with ⟨rest, restEq⟩
    refine ⟨skip_one_inside (by simp [restEq]), ?_⟩
    rw [rest_skip, restEq]
    rw [restEq] at unseen
    apply unseen.tail
    rintro rfl
    exact absurd isMark (by decide)
  announced_eq := by
    rintro cursor _ ⟨rfl, unseen⟩
    exact ⟨unseen.announced_eq,
      fun isAnnounced => ⟨skip_announced_inside isAnnounced, unseen_announced isAnnounced unseen⟩⟩
  startsDecimal_eq := by
    rintro cursor _ ⟨rfl, unseen⟩
    exact unseen.startsDecimal_eq

/-- A number is found as it is in the text alone. -/
theorem number_inside {value : Number} (found : number cursor = .found value next)
    (unseen : around.Unseen cursor.rest) :
    number (cursor.inside around) = .found value (next.inside around) := by
  rcases (looksAlike_inside around).number_eq_found ⟨rfl, unseen⟩ found with
    ⟨next', found', rfl, -⟩
  exact found'

end Literal

/-! ## Blanks and comments -/

/-- Comments between two places are those between the same places of the text alone. -/
theorem Cursor.Between.inside {comments : List Comment} (between : Between cursor comments next) :
    Between (cursor.inside around) (comments.map (·.shift around.distance))
      (next.inside around) := by
  induction between with
  | here => exact .here _
  | @blank cursor _ _ c rest starts isBlank _ ih =>
    have starts' : (cursor.inside around).rest = c :: (rest ++ around.after) := by
      rw [rest_inside, starts, List.cons_append]
    apply Between.blank starts' isBlank
    rw [skip_one_inside (by simp [starts])]
    exact ih
  | comment found _ ih => exact .comment (Literal.comment_inside found) ih

theorem trivia_inside {comments : List Comment}
    (read : trivia cursor = .ok (comments, next)) (unseen : around.Unseen next.rest) :
    trivia (cursor.inside around) =
      .ok (comments.map (·.shift around.distance), next.inside around) := by
  rcases trivia_eq_ok.mp read with ⟨between, settled⟩
  exact trivia_eq_ok.mpr ⟨between.inside, settled.inside unseen.overlooks⟩

end TemplateLang
