import TemplateLang.Text.Words

/-!
# Words in small letters

In snake and kebab case the words of a text stand in small letters with a separator between.
Splitting looks for capitals and for characters that are neither letters nor numerals.  Small
letters and digits are none of these, and a separator is: so such words are found again, and a
second conversion meets the same words.

This is shown for ASCII texts.  Elsewhere the small form of a letter may hold marks, which
separate words.
-/

namespace TemplateLang.Words

open Unicode

variable {word text : List Char}

/-! ## The words of a text -/

/-- Words are not empty, and their letters and numerals are those of the text. -/
theorem splitFrom_words (Holds : Char → Prop) (inWord : ∀ c ∈ word, Holds c)
    (inText : ∀ c ∈ text, isAlphanumeric c = true → Holds c) :
    ∀ found ∈ splitFrom word text, found ≠ [] ∧ ∀ c ∈ found, Holds c := by
  have finished {before : Char} {word : List Char} (inWord : ∀ c ∈ before :: word, Holds c) :
      (before :: word).reverse ≠ [] ∧ ∀ c ∈ (before :: word).reverse, Holds c :=
    ⟨by simp, by simpa [or_comm] using inWord⟩
  fun_induction splitFrom word text with
  | case1 => exact nofun
  | case2 word isWord =>
    obtain ⟨before, word, rfl⟩ := List.exists_cons_of_ne_nil isWord
    simpa using finished inWord
  | case3 c rest isLetter ih =>
    obtain ⟨here, later⟩ := List.forall_mem_cons.mp inText
    exact ih (by simpa using here isLetter) later
  | case4 c rest _ ih => exact ih inWord (List.forall_mem_cons.mp inText).2
  | case5 before word c rest _ ih =>
    exact List.forall_mem_cons.mpr
      ⟨finished inWord, ih nofun (List.forall_mem_cons.mp inText).2⟩
  | case6 before word c rest isLetter _ ih =>
    obtain ⟨here, later⟩ := List.forall_mem_cons.mp inText
    exact List.forall_mem_cons.mpr
      ⟨finished inWord, ih (by simpa using here (by simpa using isLetter)) later⟩
  | case7 before word c rest isLetter _ ih =>
    obtain ⟨here, later⟩ := List.forall_mem_cons.mp inText
    exact ih (List.forall_mem_cons.mpr ⟨here (by simpa using isLetter), inWord⟩) later

theorem split_words (Holds : Char → Prop)
    (inText : ∀ c ∈ text, isAlphanumeric c = true → Holds c) :
    ∀ found ∈ split text, found ≠ [] ∧ ∀ c ∈ found, Holds c :=
  splitFrom_words Holds nofun inText

/-! ## Plain words with separators between -/

/-- Letters that are no capitals, and numerals: no word ends before one of them. -/
def IsPlain (c : Char) : Prop :=
  isAlphanumeric c = true ∧ isUppercase c = false

instance (c : Char) : Decidable (IsPlain c) :=
  inferInstanceAs (Decidable (_ ∧ _))

/-- A plain character goes on with the word, or begins one. -/
theorem splitFrom_plain {c : Char} (isPlain : IsPlain c) (word rest : List Char) :
    splitFrom word (c :: rest) = splitFrom (c :: word) rest := by
  cases word with
  | nil => rw [splitFrom, if_pos isPlain.1]
  | cons before word =>
    have noBoundary : isBoundary before c rest.head? = false := by
      rw [isBoundary, isPlain.2, Bool.false_and]
    rw [splitFrom, isPlain.1, noBoundary]
    rfl

theorem splitFrom_plains {plain : List Char} (isPlain : ∀ c ∈ plain, IsPlain c)
    (word rest : List Char) :
    splitFrom word (plain ++ rest) = splitFrom (plain.reverse ++ word) rest := by
  induction plain generalizing word with
  | nil => rfl
  | cons c plain ih =>
    obtain ⟨here, later⟩ := List.forall_mem_cons.mp isPlain
    rw [List.cons_append, splitFrom_plain here, ih later, List.reverse_cons, List.append_assoc,
      List.singleton_append]

/-- What is neither a letter nor a numeral ends a word. -/
theorem splitFrom_separator {separator : Char} (separates : isAlphanumeric separator = false)
    (some' : word ≠ []) (rest : List Char) :
    splitFrom word (separator :: rest) = word.reverse :: split rest := by
  obtain ⟨before, word, rfl⟩ := List.exists_cons_of_ne_nil some'
  rw [splitFrom, separates]
  rfl

theorem splitFrom_nil (some' : word ≠ []) : splitFrom word [] = [word.reverse] := by
  obtain ⟨before, word, rfl⟩ := List.exists_cons_of_ne_nil some'
  rfl

/-- Plain words with a separator between are the words of that text. -/
theorem split_intercalate {separator : Char} (separates : isAlphanumeric separator = false)
    {words : List (List Char)} (plain : ∀ word ∈ words, word ≠ [] ∧ ∀ c ∈ word, IsPlain c) :
    split ([separator].intercalate words) = words := by
  induction words with
  | nil => rfl
  | cons word rest ih =>
    obtain ⟨⟨some', isPlain⟩, later⟩ := List.forall_mem_cons.mp plain
    have reversed : word.reverse ≠ [] := by simpa using some'
    cases rest with
    | nil =>
      calc split ([separator].intercalate [word]) = splitFrom [] (word ++ []) := by
            simp [split]
        _ = splitFrom word.reverse [] := by rw [splitFrom_plains isPlain, List.append_nil]
        _ = [word] := by rw [splitFrom_nil reversed, List.reverse_reverse]
    | cons next others =>
      calc split ([separator].intercalate (word :: next :: others))
          = splitFrom [] (word ++ separator :: [separator].intercalate (next :: others)) := rfl
        _ = splitFrom word.reverse (separator :: [separator].intercalate (next :: others)) := by
            rw [splitFrom_plains isPlain, List.append_nil]
        _ = word :: split ([separator].intercalate (next :: others)) := by
            rw [splitFrom_separator separates reversed, List.reverse_reverse]
        _ = word :: next :: others := by rw [ih later]

/-! ## Small letters of ASCII -/

/-- An ASCII character. -/
def IsAscii (c : Char) : Prop :=
  c.toNat < 128

instance (c : Char) : Decidable (IsAscii c) :=
  inferInstanceAs (Decidable (_ < _))

/-- What holds of the first 128 code points holds of every ASCII character. -/
theorem of_isAscii (Holds : Char → Prop) (onCodes : ∀ code, code < 128 → Holds (Char.ofNat code))
    {c : Char} (isAscii : IsAscii c) : Holds c := by
  have holds := onCodes c.toNat isAscii
  rwa [Char.ofNat_toNat] at holds

/-- The small form of a letter or numeral is plain, and its own small form. -/
theorem toLower_plain {c : Char} (isAscii : IsAscii c) (isLetter : isAlphanumeric c = true) :
    IsAscii c.toLower ∧ IsPlain c.toLower ∧ c.toLower.toLower = c.toLower :=
  of_isAscii (fun c => isAlphanumeric c = true →
      IsAscii c.toLower ∧ IsPlain c.toLower ∧ c.toLower.toLower = c.toLower)
    (by decide) isAscii isLetter

theorem lowerAfter_ascii (before : List Char) (ascii : ∀ c ∈ text, IsAscii c) :
    lowerAfter before text = text.map Char.toLower := by
  induction text generalizing before with
  | nil => rfl
  | cons c rest ih =>
    obtain ⟨here, later⟩ := List.forall_mem_cons.mp ascii
    have notSigma : c ≠ 'Σ' := by
      rintro rfl
      exact absurd here (by decide)
    have small : toLower c = [c.toLower] := if_pos here
    rw [lowerAfter, if_neg notSigma, small, ih _ later]
    rfl

/-- An ASCII text is made small character by character. -/
theorem lowerText_ascii (ascii : ∀ c ∈ text, IsAscii c) : lowerText text = text.map Char.toLower :=
  lowerAfter_ascii [] ascii

/-! ## Snake and kebab case -/

section

variable (ascii : ∀ c ∈ text, IsAscii c)

include ascii

/-- The small forms of the words of an ASCII text are plain words, and their own small forms. -/
theorem lowerText_word (found : List Char) (isWord : found ∈ split text) :
    (lowerText found ≠ [] ∧ ∀ c ∈ lowerText found, IsPlain c) ∧
      lowerText (lowerText found) = lowerText found := by
  obtain ⟨some', letters⟩ := split_words (fun c => IsAscii c ∧ isAlphanumeric c = true)
    (fun c isIn isLetter => ⟨ascii c isIn, isLetter⟩) found isWord
  have small := lowerText_ascii fun c isIn => (letters c isIn).1
  have smaller : ∀ c ∈ lowerText found, IsAscii c ∧ IsPlain c ∧ c.toLower = c := by
    rw [small]
    intro c isIn
    obtain ⟨origin, isOrigin, rfl⟩ := List.mem_map.mp isIn
    obtain ⟨isAscii, isLetter⟩ := letters origin isOrigin
    exact toLower_plain isAscii isLetter
  refine ⟨⟨by simpa [small] using some', fun c isIn => (smaller c isIn).2.1⟩, ?_⟩
  rw [lowerText_ascii fun c isIn => (smaller c isIn).1]
  exact (List.map_congr_left fun c isIn => (smaller c isIn).2.2).trans (List.map_id _)

/-- The words of an ASCII text in small letters with a separator between are found again. -/
theorem split_joinWith {separator : Char} (separates : isAlphanumeric separator = false) :
    split (joinWith [separator] lowerText text) = (split text).map lowerText := by
  apply split_intercalate separates
  intro word isWord
  obtain ⟨found, isFound, rfl⟩ := List.mem_map.mp isWord
  exact (lowerText_word ascii found isFound).1

/-- So a text with the same words in small letters is converted alike. -/
theorem joinWith_of_split {lowered : List Char}
    (sameWords : split lowered = (split text).map lowerText) (separator : List Char) :
    joinWith separator lowerText lowered = joinWith separator lowerText text := by
  have smaller : (split text).map (lowerText ∘ lowerText) = (split text).map lowerText :=
    List.map_congr_left fun found isWord => (lowerText_word ascii found isWord).2
  rw [joinWith, joinWith, sameWords, List.map_map, smaller]

/-- Snake and kebab case of an ASCII text have its words in small letters.  So neither changes
when it is converted again, to the same case, and each is the same from a text in the other. -/
theorem words_of_snake_kebab :
    split (snake text) = (split text).map lowerText ∧
      split (kebab text) = (split text).map lowerText ∧
      snake (snake text) = snake text ∧ kebab (kebab text) = kebab text ∧
      snake (kebab text) = snake text ∧ kebab (snake text) = kebab text := by
  have inSnake : split (snake text) = (split text).map lowerText :=
    split_joinWith ascii (by decide)
  have inKebab : split (kebab text) = (split text).map lowerText :=
    split_joinWith ascii (by decide)
  exact ⟨inSnake, inKebab, joinWith_of_split ascii inSnake _, joinWith_of_split ascii inKebab _,
    joinWith_of_split ascii inKebab _, joinWith_of_split ascii inSnake _⟩

end

/-- A text with an acronym, a digit before a capital and separators at both ends. -/
theorem words_of_snake_kebab_acronym :
    let text := "-getHTTPResponse2Xx_ ".toList
    (∀ c ∈ text, IsAscii c) ∧
      snake text = "get_http_response2_xx".toList ∧
      split (snake text) = ["get".toList, "http".toList, "response2".toList, "xx".toList] ∧
      kebab (snake text) = "get-http-response2-xx".toList := by
  intro text
  have ascii : ∀ c ∈ text, IsAscii c := by simp [text, IsAscii]
  obtain ⟨inSnake, -, -, -, -, fromSnake⟩ := words_of_snake_kebab ascii
  refine ⟨ascii, by decide, ?_, ?_⟩
  · rw [inSnake]
    decide
  · rw [fromSnake]
    decide

end TemplateLang.Words
