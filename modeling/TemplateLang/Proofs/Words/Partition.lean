import TemplateLang.Proofs.Words.Lowering
import TemplateLang.Text.Words

/-!
# The words of a text are a partition

A step of the splitting puts a letter or numeral into the word that was begun, and may complete
that word before.  So the words hold all letters and numerals of the text in their order, and a
place among these is a place in the words.  Two neighbours of the text stand in one word unless
one of them is neither letter nor numeral, or the second is a capital that begins a word.

The word that was begun ends with the character before.  So the pass by places, which looks that
character up in the text, is never refused and finds the same words.
-/

namespace TemplateLang.Words

open Unicode

variable {word text rest letters : List Char} {words : List (List Char)} {first second : Char}

/-! ## Steps and runs of the splitting -/

/-- A letter or numeral goes into the word that was begun, or completes it and begins another. -/
theorem splitFrom_letter {c : Char} (isLetter : isAlphanumeric c = true)
    (word rest : List Char) :
    ∃ complete next, splitFrom word (c :: rest) = complete ++ splitFrom (c :: next) rest ∧
      complete.flatten ++ next.reverse = word.reverse := by
  cases word with
  | nil =>
    refine ⟨[], [], ?_, rfl⟩
    rw [splitFrom, if_pos isLetter, List.nil_append]
  | cons before word =>
    by_cases boundary : isBoundary before c rest.head? = true
    · refine ⟨[(before :: word).reverse], [], ?_, by simp⟩
      rw [splitFrom, isLetter, if_pos boundary]
      rfl
    · refine ⟨[], before :: word, ?_, rfl⟩
      rw [splitFrom, isLetter, if_neg boundary]
      rfl

/-- What is neither completes the word that was begun, if there is one. -/
theorem splitFrom_gap {c : Char} (noLetter : isAlphanumeric c = false) (word rest : List Char) :
    ∃ complete, splitFrom word (c :: rest) = complete ++ splitFrom [] rest ∧
      complete.flatten = word.reverse := by
  by_cases none : word = []
  · subst none
    refine ⟨[], ?_, rfl⟩
    rw [splitFrom, if_neg (by simp [noLetter]), List.nil_append]
  · exact ⟨[word.reverse], splitFrom_separator noLetter none rest, by simp⟩

/-- A step of the splitting: some words get complete, and another one is begun.  A character that
is a letter or numeral is in them, behind the word that was begun before. -/
theorem splitFrom_cons (word : List Char) (c : Char) (rest : List Char) :
    ∃ complete next, splitFrom word (c :: rest) = complete ++ splitFrom next rest ∧
      complete.flatten ++ next.reverse = word.reverse ++ [c].filter isAlphanumeric := by
  by_cases isLetter : isAlphanumeric c = true
  · rcases splitFrom_letter isLetter word rest with ⟨complete, next, step, letters⟩
    refine ⟨complete, c :: next, step, ?_⟩
    rw [List.reverse_cons, ← List.append_assoc, letters, List.filter_cons_of_pos isLetter,
      List.filter_nil]
  · rcases splitFrom_gap (Bool.eq_false_iff.mpr isLetter) word rest with ⟨complete, step, letters⟩
    refine ⟨complete, [], step, ?_⟩
    rw [letters, List.filter_cons_of_neg isLetter, List.filter_nil, List.reverse_nil]

/-- A run of the splitting over a text. -/
theorem splitFrom_append (word front rest : List Char) :
    ∃ complete next, splitFrom word (front ++ rest) = complete ++ splitFrom next rest ∧
      complete.flatten ++ next.reverse = word.reverse ++ front.filter isAlphanumeric := by
  induction front generalizing word with
  | nil => exact ⟨[], word, rfl, by simp⟩
  | cons c front ih =>
    rcases splitFrom_cons word c (front ++ rest) with ⟨complete, next, step, letters⟩
    rcases ih next with ⟨later, last, run, laterLetters⟩
    refine ⟨complete ++ later, last, ?_, ?_⟩
    · rw [List.cons_append, step, run, List.append_assoc]
    · calc (complete ++ later).flatten ++ last.reverse
          = complete.flatten ++ (later.flatten ++ last.reverse) := by
            rw [List.flatten_append, List.append_assoc]
        _ = word.reverse ++ [c].filter isAlphanumeric ++ front.filter isAlphanumeric := by
            rw [laterLetters, ← List.append_assoc, letters]
        _ = word.reverse ++ (c :: front).filter isAlphanumeric := by
            rw [List.append_assoc, ← List.filter_append, List.singleton_append]

/-- The words one after the other are the letters and numerals of the text. -/
theorem flatten_split (text : List Char) :
    (split text).flatten = text.filter isAlphanumeric := by
  rcases splitFrom_append [] text [] with ⟨complete, last, run, runLetters⟩
  have ended : (splitFrom last []).flatten = last.reverse := by
    cases last with
    | nil => rfl
    | cons before last => simp [splitFrom]
  rw [List.append_nil] at run
  rw [split, run, List.flatten_append, ended, runLetters]
  rfl

/-- The word that was begun is the beginning of the next word. -/
theorem splitFrom_begun (some' : word ≠ []) (text : List Char) :
    ∃ tail later, splitFrom word text = (word.reverse ++ tail) :: later := by
  induction text generalizing word with
  | nil => exact ⟨[], [], by rw [splitFrom_nil some', List.append_nil]⟩
  | cons c rest ih =>
    rcases List.exists_cons_of_ne_nil some' with ⟨before, word, rfl⟩
    rw [splitFrom]
    split
    · exact ⟨[], _, by rw [List.append_nil]⟩
    split
    · exact ⟨[], _, by rw [List.append_nil]⟩
    · rcases ih (List.cons_ne_nil c (before :: word)) with ⟨tail, later, begun⟩
      exact ⟨c :: tail, later, by rw [begun, List.reverse_cons, List.append_assoc]; rfl⟩

/-! ## Neighbours in a word -/

/-- Two characters follow each other in one of some words.  `letters` are all that stands before
them in this word and in the words before it. -/
def Adjoin (words : List (List Char)) (letters : List Char) (first second : Char) : Prop :=
  ∃ earlier head tail later,
    words = earlier ++ (head ++ first :: second :: tail) :: later ∧
      earlier.flatten ++ head = letters

/-- A word all of whose characters stand before them is not the word that they are in. -/
theorem adjoin_cons :
    Adjoin (word :: words) (word ++ letters) first second ↔ Adjoin words letters first second := by
  constructor
  · rintro ⟨earlier, head, tail, later, found, before⟩
    cases earlier with
    | nil =>
      -- More characters would be before them than their word has.
      rcases List.cons.inj found with ⟨rfl, -⟩
      have lengths := congrArg List.length before
      simp only [List.flatten_nil, List.length_append, List.length_nil, List.length_cons]
        at lengths
      omega
    | cons other earlier =>
      rcases List.cons.inj found with ⟨rfl, others⟩
      rw [List.flatten_cons, List.append_assoc] at before
      exact ⟨earlier, head, tail, later, others, List.append_cancel_left before⟩
  · rintro ⟨earlier, head, tail, later, rfl, rfl⟩
    exact ⟨word :: earlier, head, tail, later, rfl, by simp⟩

theorem adjoin_append (complete : List (List Char)) :
    Adjoin (complete ++ words) (complete.flatten ++ letters) first second ↔
      Adjoin words letters first second := by
  induction complete with
  | nil => rfl
  | cons word complete ih =>
    rw [List.cons_append, List.flatten_cons, List.append_assoc, adjoin_cons, ih]

/-- The last character of a word has no neighbour behind it in the word. -/
theorem not_adjoin_last : ¬ Adjoin ((letters ++ [first]) :: words) letters first second := by
  rintro ⟨earlier, head, tail, later, found, before⟩
  have lengths := congrArg List.length before
  cases earlier with
  | nil =>
    have sameLength := congrArg List.length (List.cons.inj found).1
    simp only [List.flatten_nil, List.length_append, List.length_nil, List.length_cons]
      at lengths sameLength
    omega
  | cons other earlier =>
    rcases List.cons.inj found with ⟨rfl, -⟩
    simp only [List.flatten_cons, List.length_append, List.length_cons] at lengths
    omega

/-- What two neighbours of one word have in common: each is a letter or numeral. -/
theorem letters_of_adjoin (adjoin : Adjoin (split text) letters first second) :
    isAlphanumeric first = true ∧ isAlphanumeric second = true := by
  rcases adjoin with ⟨earlier, head, tail, later, found, -⟩
  have isWord : head ++ first :: second :: tail ∈ split text := by
    rw [found]
    exact List.mem_append_right _ List.mem_cons_self
  have inWord := (split_words (fun c => isAlphanumeric c = true) (fun _ _ => id) _ isWord).2
  exact ⟨inWord first (by simp), inWord second (by simp)⟩

/-- Two letters or numerals behind the word that was begun stand in one word unless there is a
boundary between them. -/
theorem adjoin_splitFrom (isFirst : isAlphanumeric first = true)
    (isSecond : isAlphanumeric second = true) (word rest : List Char) :
    Adjoin (splitFrom word (first :: second :: rest)) word.reverse first second ↔
      isBoundary first second rest.head? = false := by
  rcases splitFrom_letter isFirst word (second :: rest) with ⟨complete, next, step, stepLetters⟩
  rw [step, ← stepLetters, adjoin_append, splitFrom, isSecond]
  by_cases boundary : isBoundary first second rest.head? = true
  · rw [if_pos boundary, List.reverse_cons]
    exact iff_of_false not_adjoin_last (by simp [boundary])
  · rw [if_neg boundary]
    rcases splitFrom_begun (List.cons_ne_nil second (first :: next)) rest with ⟨tail, later, begun⟩
    apply iff_of_true
    · refine ⟨[], next.reverse, tail, later, ?_, rfl⟩
      rw [if_neg (by simp), begun]
      simp
    · simpa using boundary

theorem isBoundary_eq_true_iff {after : Option Char} :
    isBoundary first second after = true ↔
      isUppercase second = true ∧ (isLowercase first = true ∨ first.isDigit = true ∨
        isUppercase first = true ∧ ∃ next ∈ after, isLowercase next = true) := by
  cases after <;> simp [isBoundary, or_assoc]

/-! ## The pass by places -/

/-- The character before a place of a text, where a word was begun, is the last of that word. -/
def EndsWord (before : List Char) (progress : Progress) : Prop :=
  ∀ c ∈ progress.word.head?, before.getLast? = some c

theorem charBefore?_length (before rest : List Char) :
    charBefore? (before ++ rest) before.length = before.getLast? := by
  rw [List.getLast?_eq_getElem?]
  cases length : before.length with
  | zero => rw [List.eq_nil_of_length_eq_zero length, charBefore?, List.getElem?_nil]
  | succ place => rw [charBefore?, List.getElem?_append_left (by omega), Nat.add_sub_cancel]

theorem getElem?_after (before rest : List Char) (c : Char) :
    (before ++ c :: rest)[before.length + 1]? = rest.head? := by
  rw [List.getElem?_append_right (Nat.le_add_right _ 1), Nat.add_sub_cancel_left,
    List.getElem?_cons_succ, List.head?_eq_getElem?]

/-- Passing a character keeps the words that are still to be found. -/
theorem pass?_eq_some {before : List Char} {progress : Progress} (c : Char) (rest : List Char)
    (endsWord : EndsWord before progress) :
    ∃ next, pass? (before ++ c :: rest) progress (c, before.length) = some next ∧
      next.complete ++ splitFrom next.word rest =
        progress.complete ++ splitFrom progress.word (c :: rest) ∧
      EndsWord (before ++ [c]) next := by
  have endsEmpty (complete : List (List Char)) : EndsWord (before ++ [c]) ⟨complete, []⟩ := nofun
  have endsPushed (progress : Progress) : EndsWord (before ++ [c]) (progress.push c) := by
    rintro _ ⟨⟩
    exact List.getLast?_concat
  rcases progress with ⟨complete, word⟩
  cases word with
  | nil =>
    by_cases isLetter : isAlphanumeric c = true
    · refine ⟨_, ?_, ?_, endsPushed ⟨complete, []⟩⟩
      · simp [pass?, isLetter]
      · rw [splitFrom, if_pos isLetter]
        rfl
    · refine ⟨_, ?_, ?_, endsEmpty complete⟩
      · simp [pass?, isLetter, Progress.close]
      · rw [splitFrom, if_neg isLetter]
  | cons last word =>
    -- In a word the place is not the first one, so that the character before it is there.
    have isLast : charBefore? (before ++ c :: rest) before.length = some last :=
      (charBefore?_length before (c :: rest)).trans (endsWord last rfl)
    by_cases isLetter : isAlphanumeric c = true
    · by_cases boundary : isBoundary last c rest.head? = true
      · have isCapital := (isBoundary_eq_true_iff.mp boundary).1
        refine ⟨_, ?_, ?_, endsPushed ⟨complete ++ [(last :: word).reverse], []⟩⟩
        · simp [pass?, isLetter, isCapital, isLast, getElem?_after, boundary, Progress.close]
        · rw [splitFrom, isLetter, if_pos boundary]
          simp [Progress.push]
      · refine ⟨_, ?_, ?_, endsPushed ⟨complete, last :: word⟩⟩
        · simp [pass?, isLetter, isLast, getElem?_after, boundary]
        · rw [splitFrom, isLetter, if_neg boundary]
          rfl
    · refine ⟨_, ?_, ?_, endsEmpty (complete ++ [(last :: word).reverse])⟩
      · simp [pass?, isLetter, Progress.close]
      · rw [splitFrom, if_pos (by simpa using isLetter)]
        simp

theorem complete_close (progress : Progress) :
    progress.close.complete = progress.complete ++ splitFrom progress.word [] := by
  rcases progress with ⟨complete, word⟩
  cases word with
  | nil => exact (List.append_nil complete).symm
  | cons last word => rfl

theorem foldlM_pass? {before : List Char} {progress : Progress} (rest : List Char)
    (endsWord : EndsWord before progress) :
    ∃ last, (rest.zipIdx before.length).foldlM (pass? (before ++ rest)) progress = some last ∧
      last.close.complete = progress.complete ++ splitFrom progress.word rest := by
  induction rest generalizing before progress with
  | nil => exact ⟨progress, rfl, complete_close progress⟩
  | cons c rest ih =>
    rcases pass?_eq_some c rest endsWord with ⟨next, passes, kept, endsNext⟩
    rcases ih endsNext with ⟨last, run, found⟩
    refine ⟨last, ?_, found.trans kept⟩
    rw [List.zipIdx_cons, List.foldlM_cons, passes]
    rw [List.length_append, List.append_assoc] at run
    exact run

/-- The pass by places is never refused, and finds the words. -/
theorem splitByPlaces?_eq (text : List Char) : splitByPlaces? text = some (split text) := by
  have atStart : EndsWord [] ⟨[], []⟩ := nofun
  rcases foldlM_pass? text atStart with ⟨last, run, found⟩
  rw [List.nil_append, List.length_nil] at run
  rw [splitByPlaces?, run]
  exact congrArg some found

/-! ## The partition -/

/-- The words of a text are not empty, and together they are its letters and numerals in order.
Two neighbours of the text, with `front` before them, stand in one word unless one of them is
neither letter nor numeral, or the second is a capital behind a small letter, a digit, or another
capital while a small letter follows it.  The pass by places finds the same words. -/
theorem split_partitions (text : List Char) :
    (∀ word ∈ split text, word ≠ []) ∧
      (split text).flatten = text.filter isAlphanumeric ∧
      (∀ front first second rest, text = front ++ first :: second :: rest →
        (Adjoin (split text) (front.filter isAlphanumeric) first second ↔
          isAlphanumeric first = true ∧ isAlphanumeric second = true ∧
            ¬ (isUppercase second = true ∧ (isLowercase first = true ∨ first.isDigit = true ∨
              isUppercase first = true ∧ ∃ next ∈ rest.head?, isLowercase next = true)))) ∧
      splitByPlaces? text = some (split text) := by
  refine ⟨?_, flatten_split text, ?_, splitByPlaces?_eq text⟩
  · exact fun word isWord => (split_words (fun _ => True) (fun _ _ _ => trivial) word isWord).1
  · rintro front first second rest rfl
    rw [← isBoundary_eq_true_iff, Bool.not_eq_true]
    by_cases areLetters : isAlphanumeric first = true ∧ isAlphanumeric second = true
    · rcases splitFrom_append [] front (first :: second :: rest) with
        ⟨complete, word, run, runLetters⟩
      rw [List.reverse_nil, List.nil_append] at runLetters
      rw [split, run, ← runLetters, adjoin_append,
        adjoin_splitFrom areLetters.1 areLetters.2]
      constructor
      · intro apart
        exact ⟨areLetters.1, areLetters.2, apart⟩
      · rintro ⟨-, -, apart⟩
        exact apart
    · apply iff_of_false
      · exact fun adjoin => areLetters (letters_of_adjoin adjoin)
      · rintro ⟨isFirst, isSecond, -⟩
        exact areLetters ⟨isFirst, isSecond⟩

/-- In an acronym the last capital goes with the small letter behind it. -/
theorem split_partitions_acronym :
    let text := "v2HTTPApi".toList
    (split text).flatten = text ∧
      text = "v2HTT".toList ++ 'P' :: 'A' :: "pi".toList ∧
      ¬ Adjoin (split text) "v2HTT".toList 'P' 'A' ∧
      text = "v2HTTP".toList ++ 'A' :: 'p' :: "i".toList ∧
      Adjoin (split text) "v2HTTP".toList 'A' 'p' ∧
      splitByPlaces? text = some ["v2".toList, "HTTP".toList, "Api".toList] := by
  intro text
  rcases split_partitions text with ⟨-, letters, neighbours, places⟩
  have before := neighbours "v2HTT".toList 'P' 'A' "pi".toList rfl
  have after := neighbours "v2HTTP".toList 'A' 'p' "i".toList rfl
  refine ⟨letters.trans (by decide), rfl, ?_, rfl, ?_, places.trans (by decide)⟩
  · intro together
    rcases before.mp together with ⟨-, -, apart⟩
    exact apart ⟨by decide, .inr (.inr ⟨by decide, 'p', rfl, by decide⟩)⟩
  · exact after.mpr ⟨by decide, by decide, fun boundary => absurd boundary.1 (by decide)⟩

end TemplateLang.Words
