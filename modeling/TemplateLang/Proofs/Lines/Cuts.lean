import TemplateLang.Proofs.Lines.Positions
import TemplateLang.Source.Lines

/-!
# Texts around a line

The lines before a line, that line and the lines after it are the lines of a text, so that a cut
around a line loses nothing else.  A line that is counted to from the end is cut around like the
same line counted to from the start, and an offset moves the cut line by line, up to either end
of the text.
-/

namespace TemplateLang

/-! ## Lines of texts -/

/-- A line goes on to its newline. -/
theorem splitLines_append {line : List Char} (noNewline : '\n' ∉ line) (rest : List Char) :
    splitLines (line ++ '\n' :: rest) = line :: splitLines rest := by
  induction line with
  | nil => rfl
  | cons c line ih =>
    obtain ⟨ordinary, others⟩ := not_or.mp (mt List.mem_cons.mpr noNewline)
    rw [List.cons_append, splitLines_cons (Ne.symm ordinary) (ih others)]

theorem splitLines_of_notMem {line : List Char} (noNewline : '\n' ∉ line) :
    splitLines line = [line] := by
  induction line with
  | nil => rfl
  | cons c line ih =>
    obtain ⟨ordinary, others⟩ := not_or.mp (mt List.mem_cons.mpr noNewline)
    rw [splitLines_cons (Ne.symm ordinary) (ih others)]

/-- Lines with newlines between are the lines of that text. -/
theorem splitLines_intercalate {lines : List (List Char)} (noNewline : ∀ line ∈ lines, '\n' ∉ line)
    (some' : lines ≠ []) : splitLines (['\n'].intercalate lines) = lines := by
  induction lines with
  | nil => exact absurd rfl some'
  | cons line rest ih =>
    obtain ⟨here, later⟩ := List.forall_mem_cons.mp noNewline
    cases rest with
    | nil => simpa using splitLines_of_notMem here
    | cons next others =>
      have joined : ['\n'].intercalate (line :: next :: others) =
          line ++ '\n' :: ['\n'].intercalate (next :: others) := rfl
      rw [joined, splitLines_append here, ih later (List.cons_ne_nil _ _)]

namespace Helper

open Number

theorem splitFrom_newline (part text : List Char) :
    splitFrom ['\n'] part 0 text = (splitLines text).modifyHead (part.reverse ++ ·) := by
  induction text generalizing part with
  | nil => simp [splitFrom]
  | cons c rest ih =>
    have isPrefix : ['\n'].isPrefixOf (c :: rest) = true ↔ c = '\n' := by
      rw [List.isPrefixOf, List.isPrefixOf, Bool.and_true, beq_iff_eq]
      exact eq_comm
    rcases List.exists_cons_of_ne_nil (splitLines_ne_nil rest) with ⟨line, others, lines⟩
    rw [splitFrom]
    by_cases newline : c = '\n'
    · rw [if_pos (isPrefix.mpr newline)]
      simp [newline, ih, lines]
    · rw [if_neg (mt isPrefix.mp newline), splitLines_cons newline lines, ih, lines]
      simp

/-- The lines that a text is cut into are the parts between its newlines. -/
theorem linesOf_eq (text : String) : linesOf text = splitLines text.toList := by
  rcases List.exists_cons_of_ne_nil (splitLines_ne_nil text.toList) with ⟨line, others, lines⟩
  have split := splitFrom_newline [] text.toList
  rw [lines] at split ⊢
  simpa [linesOf, splitText] using split

/-- The lines of a text that is made of lines of another one are these. -/
theorem linesOf_unlines {text : List Char} {part : List (List Char)}
    (isPart : part ⊆ splitLines text) (some' : part ≠ []) : linesOf (unlines part) = part := by
  rw [linesOf_eq, unlines, String.toList_ofList]
  exact splitLines_intercalate
    (fun line isIn => newline_not_mem_of_mem_splitLines (isPart isIn)) some'

/-! ## Cuts around a line -/

section

variable (content : Value) (n : Number) (more : List Value)

/-- What a cut around a line with a number depends on. -/
theorem cutAround_number (helper : String) (place : Nat → Number)
    (keep : Nat → List (List Char) → List (List Char)) :
    cutAround helper place keep (content :: .number n :: more) =
      (optionalNumber? helper (content :: .number n :: more) 2).map fun offset =>
        .text (match lineOfNumber? (linesOf content.render).length n with
          | some position => unlines (keep (cutPosition (linesOf content.render).length
              (place position) (numberOr (.zero false) offset)) (linesOf content.render))
          | none => "") := by
  have text : textArgument (content :: .number n :: more) 0 = content.render := rfl
  have line (lines : List (List Char)) : findLine helper (content :: .number n :: more) lines =
      .ok (lineOfNumber? lines.length n) := rfl
  unfold cutAround
  rw [text]
  simp only [line]
  cases optionalNumber? helper (content :: .number n :: more) 2 with
  | error => rfl
  | ok offset => cases lineOfNumber? (linesOf content.render).length n <;> rfl

end

section

variable {content : Value} {more : List Value} {k o : Int} {offset : Option Number}

/-- An offset moves the end of the lines before a line by as many lines. -/
theorem before_line (few : (linesOf content.render).length ≤ 2 ^ 53) (first : 1 ≤ k)
    (last : k ≤ (linesOf content.render).length)
    (given : optionalNumber? "before" (content :: .number (.ofInt k) :: more) 2 = .ok offset)
    (isOffset : (numberOr (.zero false) offset).toInt? = some o) :
    before (content :: .number (.ofInt k) :: more) =
      .ok (.text (unlines ((linesOf content.render).take
        (min (k - 1 + o).toNat (linesOf content.render).length)))) := by
  have place : (Number.ofInt (k - 1).toNat).toInt? = some ((k - 1).toNat : Int) :=
    toInt?_ofInt_of_le (by omega)
  have cut := clampTo_add few place isOffset
  rw [before, cutAround_number, given, lineOfNumber?_ofInt first (by omega)]
  dsimp only [Except.map]
  rw [cutPosition, cut, Int.toNat_of_nonneg (by omega)]

/-- An offset moves the start of the lines after a line by as many lines. -/
theorem after_line (few : (linesOf content.render).length ≤ 2 ^ 53) (first : 1 ≤ k)
    (last : k ≤ (linesOf content.render).length)
    (given : optionalNumber? "after" (content :: .number (.ofInt k) :: more) 2 = .ok offset)
    (isOffset : (numberOr (.zero false) offset).toInt? = some o) :
    after (content :: .number (.ofInt k) :: more) =
      .ok (.text (unlines ((linesOf content.render).drop
        (min (k + o).toNat (linesOf content.render).length)))) := by
  have isOne : (Number.ofInt 1).toInt? = some 1 := toInt?_ofInt_of_le (by decide)
  have isPosition : (Number.ofInt (k - 1).toNat).toInt? = some ((k - 1).toNat : Int) :=
    toInt?_ofInt_of_le (by omega)
  have place : (Number.ofInt (k - 1).toNat + Number.ofInt 1).toInt? =
      some ((k - 1).toNat + 1 : Int) :=
    toInt?_add isPosition isOne (by omega)
  have cut := clampTo_add few place isOffset
  have next : ((k - 1).toNat + 1 : Int) = k := by omega
  rw [after, cutAround_number, given, lineOfNumber?_ofInt first (by omega)]
  dsimp only [Except.map]
  rw [cutPosition, cut, next]

/-- A line is cut around alike when it is counted to from the end. -/
theorem cutAround_neg (few : (linesOf content.render).length ≤ 2 ^ 53) (first : 1 ≤ k)
    (last : k ≤ (linesOf content.render).length) (helper : String) (place : Nat → Number)
    (keep : Nat → List (List Char) → List (List Char)) :
    cutAround helper place keep (content :: .number (.ofInt (-k)) :: more) =
      cutAround helper place keep
        (content :: .number (.ofInt ((linesOf content.render).length + 1 - k)) :: more) := by
  have same : ((linesOf content.render).length - k).toNat =
      ((linesOf content.render).length + 1 - k - 1 : Int).toNat := by omega
  rw [cutAround_number, cutAround_number, lineOfNumber?_neg few first last,
    lineOfNumber?_ofInt (by omega) (by omega), same]
  rfl

end

/-! ## Slices -/

/-- Up to `2 ^ 53` lines every cut in doubles is a slice of the lines. -/
theorem cutAround?_eq {arguments : List Value}
    (few : (linesOf (textArgument arguments 0)).length ≤ 2 ^ 53) (helper : String)
    (place : Nat → Number) (keep : Nat → List (List Char) → List (List Char)) :
    cutAround? helper place keep arguments = some (cutAround helper place keep arguments) := by
  have line : findLine? helper arguments (linesOf (textArgument arguments 0)) =
      some (findLine helper arguments (linesOf (textArgument arguments 0))) := by
    unfold findLine? findLine
    cases argument arguments 1 with
    | number n =>
      dsimp only
      rw [locate?_eq few, Option.map_some]
    | _ => rfl
  unfold cutAround? cutAround
  dsimp only
  cases optionalNumber? helper arguments 2 with
  | error => rfl
  | ok offset =>
    dsimp only
    rw [line]
    simp only [Option.bind_eq_bind, Option.bind_some]
    cases findLine helper arguments (linesOf (textArgument arguments 0)) with
    | error => rfl
    | ok found =>
      cases found with
      | none => rfl
      | some position =>
        dsimp only
        rw [cut?_eq few]
        rfl

/-! ## Cuts lose nothing -/

/-- The lines of a text are those before a line, the line itself and those after it. -/
theorem exists_cut {content : Value} {k : Int}
    (few : (linesOf content.render).length ≤ 2 ^ 53) (first : 1 ≤ k)
    (last : k ≤ (linesOf content.render).length) :
    ∃ front line back, linesOf content.render = front ++ line :: back ∧
      (front.length : Int) = k - 1 ∧
      before [content, .number (.ofInt k)] = .ok (.text (unlines front)) ∧
      after [content, .number (.ofInt k)] = .ok (.text (unlines back)) := by
  have isZero : (numberOr (.zero false) none).toInt? = some 0 := toInt?_zero
  have found : (k - 1).toNat < (linesOf content.render).length := by omega
  have within : k.toNat ≤ (linesOf content.render).length := by omega
  have next : k.toNat = (k - 1).toNat + 1 := by omega
  have isBefore : before [content, .number (.ofInt k)] = .ok (.text (unlines
      ((linesOf content.render).take
        (min (k - 1 + 0).toNat (linesOf content.render).length)))) :=
    before_line few first last rfl isZero
  have isAfter : after [content, .number (.ofInt k)] = .ok (.text (unlines
      ((linesOf content.render).drop (min (k + 0).toNat (linesOf content.render).length)))) :=
    after_line few first last rfl isZero
  rw [Int.add_zero, Nat.min_eq_left (Nat.le_of_lt found)] at isBefore
  rw [Int.add_zero, Nat.min_eq_left within] at isAfter
  refine ⟨_, (linesOf content.render)[(k - 1).toNat], _, ?_, ?_, isBefore, isAfter⟩
  · rw [next, List.getElem_cons_drop, List.take_append_drop]
  · rw [List.length_take]
    omega

/-- A text of at most `2 ^ 53` lines, which doubles count exactly, is cut around each of its
lines: what comes before and after are the texts of the lines there, from either end the same,
and an offset moves either cut.  No number and no offset makes a slice that is out of range. -/
theorem lines_around {content : Value} (few : (splitLines content.render.toList).length ≤ 2 ^ 53) :
    let lines := splitLines content.render.toList
    (∀ k : Int, 1 ≤ k → k ≤ lines.length →
      (∃ front line back, lines = front ++ line :: back ∧ (front.length : Int) = k - 1 ∧
        before [content, .number (.ofInt k)] = .ok (.text (unlines front)) ∧
        after [content, .number (.ofInt k)] = .ok (.text (unlines back)) ∧
        (front ≠ [] → linesOf (unlines front) = front) ∧
        (back ≠ [] → linesOf (unlines back) = back)) ∧
      (∀ more, before (content :: .number (.ofInt (-k)) :: more) =
          before (content :: .number (.ofInt (lines.length + 1 - k)) :: more) ∧
        after (content :: .number (.ofInt (-k)) :: more) =
          after (content :: .number (.ofInt (lines.length + 1 - k)) :: more)) ∧
      ∀ (x : Number) (o : Int), x.toInt? = some o →
        before [content, .number (.ofInt k), .number x] =
          .ok (.text (unlines (lines.take (max 0 (min (k - 1 + o) lines.length)).toNat))) ∧
        after [content, .number (.ofInt k), .number x] =
          .ok (.text (unlines (lines.drop (max 0 (min (k + o) lines.length)).toNat)))) ∧
    ∀ arguments, textArgument arguments 0 = content.render →
      before? arguments = some (before arguments) ∧ after? arguments = some (after arguments) := by
  intro lines
  have linesEq : linesOf content.render = lines := linesOf_eq content.render
  have few : (linesOf content.render).length ≤ 2 ^ 53 := by rwa [linesEq]
  have clamped (n : Int) : min n.toNat lines.length = (max 0 (min n lines.length)).toNat := by
    omega
  apply And.intro
  · intro k first last
    have isLine : k ≤ (linesOf content.render).length := by rwa [linesEq]
    refine ⟨?_, ?_, ?_⟩
    · rcases exists_cut few first isLine with
        ⟨front, line, back, isCut, isPlace, isBefore, isAfter⟩
      rw [linesEq] at isCut
      have ofFront : front ⊆ lines := by
        rw [isCut]
        exact List.subset_append_left _ _
      have ofBack : back ⊆ lines := by
        rw [isCut]
        exact List.Subset.trans (List.subset_cons_self _ _) (List.subset_append_right _ _)
      exact ⟨front, line, back, isCut, isPlace, isBefore, isAfter, linesOf_unlines ofFront,
        linesOf_unlines ofBack⟩
    · intro more
      rw [← linesEq]
      exact ⟨cutAround_neg few first isLine "before" _ _,
        cutAround_neg few first isLine "after" _ _⟩
    · intro x o isOffset
      rw [← clamped, ← clamped, ← linesEq]
      exact ⟨before_line few first isLine rfl isOffset, after_line few first isLine rfl isOffset⟩
  · intro arguments isContent
    rw [← isContent] at few
    exact ⟨cutAround?_eq few "before" _ _, cutAround?_eq few "after" _ _⟩

/-- The second of three lines, of which the last is empty, with the cut moved by one line. -/
theorem lines_around_second :
    let content := Value.text "a\nb\n"
    splitLines content.render.toList = [['a'], ['b'], []] ∧
      (1 : Int) ≤ 2 ∧ (2 : Int) ≤ ([['a'], ['b'], []] : List (List Char)).length ∧
      (Number.ofInt 1).toInt? = some 1 ∧
      before [content, .number (.ofInt 2), .number (.ofInt 1)] = .ok (.text "a\nb") ∧
      after [content, .number (.ofInt 2), .number (.ofInt 1)] = .ok (.text "") ∧
      before [content, .number (.ofInt (-2)), .number (.ofInt 1)] =
        before [content, .number (.ofInt 2), .number (.ofInt 1)] ∧
      before? [content, .number (.ofInt (-2))] =
        some (before [content, .number (.ofInt (-2))]) := by
  intro content
  have linesEq : splitLines content.render.toList = [['a'], ['b'], []] := by decide
  have last : (2 : Int) ≤ ([['a'], ['b'], []] : List (List Char)).length := by decide
  have isOne : (Number.ofInt 1).toInt? = some 1 := by decide
  have few : (splitLines content.render.toList).length ≤ 2 ^ 53 := by
    rw [linesEq]
    decide
  have around := lines_around few
  rw [linesEq] at around
  rcases around with ⟨cuts, slices⟩
  rcases cuts 2 (by decide) last with ⟨-, fromEnd, moved⟩
  rcases moved (Number.ofInt 1) 1 isOne with ⟨isBefore, isAfter⟩
  exact ⟨linesEq, by decide, last, isOne, isBefore, isAfter, (fromEnd _).1, (slices _ rfl).1⟩

end Helper

end TemplateLang
