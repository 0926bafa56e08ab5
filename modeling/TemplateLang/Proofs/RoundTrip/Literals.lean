import TemplateLang.Grammar.Expression
import TemplateLang.Proofs.Number.Digits
import TemplateLang.Proofs.RoundTrip.Strings

/-!
# Printed words and numbers

A word is read up to the first character that cannot continue it, and so is a number, but
a number that is printed in digits alone must not be followed by a point either.
-/

namespace TemplateLang

open Cursor

variable {start stop : Cursor}

/-! ## Words -/

/-- What follows a word or a number does not continue it. -/
def Cursor.Apart (cursor : Cursor) : Prop :=
  ∀ c rest, cursor.rest = c :: rest → isWordChar c = false

theorem isDigit_iff {c : Char} : c.isDigit = true ↔ 48 ≤ c.toNat ∧ c.toNat ≤ 57 := by
  simp [Char.isDigit, UInt32.le_iff_toNat_le]

theorem isWordStart_iff {c : Char} :
    isWordStart c = true ↔ (65 ≤ c.toNat ∧ c.toNat ≤ 90) ∨ (97 ≤ c.toNat ∧ c.toNat ≤ 122) ∨
      c = '_' ∨ c = '$' := by
  delta isWordStart Char.isAlpha Char.isUpper Char.isLower
  simp [UInt32.le_iff_toNat_le, or_assoc]

theorem isWordChar_iff {c : Char} :
    isWordChar c = true ↔ isWordStart c = true ∨ c.isDigit = true := by
  simp only [isWordChar, isWordStart, Char.isAlphanum, Bool.or_eq_true]
  constructor
  · rintro (((alpha | digit) | underscore) | dollar)
    · exact .inl (.inl (.inl alpha))
    · exact .inr digit
    · exact .inl (.inl (.inr underscore))
    · exact .inl (.inr dollar)
  · rintro (((alpha | underscore) | dollar) | digit)
    · exact .inl (.inl (.inl alpha))
    · exact .inl (.inr underscore)
    · exact .inr dollar
    · exact .inl (.inl (.inr digit))

/-- A digit does not begin a word. -/
theorem isWordStart_of_isDigit {c : Char} (digit : c.isDigit = true) : isWordStart c = false := by
  rw [Bool.eq_false_iff]
  intro starts
  rw [isDigit_iff] at digit
  rcases isWordStart_iff.mp starts with upper | lower | rfl | rfl
  · omega
  · omega
  · exact absurd digit (by decide)
  · exact absurd digit (by decide)

/-- A word is the word at its place. -/
theorem word_reads {word : List Char} (shaped : Print.isWordShaped word = true)
    (crosses : start.Crosses word stop) (apart : stop.Apart) :
    start.peekWord? = some (String.ofList word) ∧ start.skipWord = stop := by
  cases word with
  | nil => simp [Print.isWordShaped] at shaped
  | cons c rest =>
    simp only [Print.isWordShaped, Bool.and_eq_true, List.all_eq_true] at shaped
    obtain ⟨starts, continues⟩ := shaped
    have all : ∀ d ∈ c :: rest, isWordChar d = true := by
      intro d isIn
      rcases List.mem_cons.mp isIn with rfl | isIn
      · exact isWordChar_iff.mpr (.inl starts)
      · exact continues d isIn
    have atWord : start.word = c :: rest := by
      unfold Cursor.word
      rw [crosses.1]
      dsimp only [List.cons_append]
      rw [if_pos starts]
      exact takeWhile_append all apart
    constructor
    · simp [peekWord?, atWord]
    · rw [skipWord, atWord, crosses.2]

/-! ## Numbers -/

/-- A number that is printed in digits alone, so that a point after it would be read as
part of it. -/
def Number.isWhole (x : Number) : Bool :=
  (Print.number x).toList.all Char.isDigit

/-- What is printed of a number reads back as it. -/
structure Number.Rereads (x : Number) : Prop where
  /-- It begins with a digit. -/
  starts : ∃ c rest, (Print.number x).toList = c :: rest ∧ c.isDigit = true
  /-- It is read up to what does not continue it. -/
  reads : ∀ {start stop : Cursor}, start.Crosses (Print.number x).toList stop → stop.Apart →
    (x.isWhole = true → stop.isAt ['.'] = false) → Literal.number start = .found x stop

/-- A letter that announces a base is no digit. -/
theorem isWordStart_of_radix? {c : Char} {base : Nat × String}
    (radix : Literal.radix? c = some base) : isWordStart c = true := by
  have all : ∀ entry ∈ Literal.radixLetters, isWordStart entry.1 = true := by decide
  exact all _ (Literal.radix?_eq_some.mp radix)

theorem radix?_eq_none {c : Char} (noLetter : isWordStart c = false) :
    Literal.radix? c = none := by
  rw [Option.eq_none_iff_forall_ne_some]
  intro base radix
  rw [isWordStart_of_radix? radix] at noLetter
  exact Bool.noConfusion noLetter

theorem Cursor.Apart.no_digit (apart : stop.Apart) :
    ∀ c rest, stop.rest = c :: rest → c.isDigit = false := by
  intro c rest restEq
  rw [Bool.eq_false_iff]
  intro digit
  have continues := isWordChar_iff.mpr (.inr digit)
  rw [apart c rest restEq] at continues
  exact Bool.false_ne_true continues

/-- No base is announced in a text whose second character is no letter. -/
theorem announced_eq_none {c : Char} {rest : List Char} (crosses : start.Crosses (c :: rest) stop)
    (apart : stop.Apart) (noLetter : ∀ d rest', rest = d :: rest' → isWordStart d = false) :
    Literal.announced start.rest = none := by
  rw [crosses.1, Option.eq_none_iff_forall_ne_some]
  intro base isAnnounced
  rcases Literal.announced_eq_some.mp isAnnounced with ⟨letter, after, starts, radix⟩
  have second := (List.cons.inj starts).2
  have isLetter := isWordStart_of_radix? radix
  cases rest with
  | nil =>
    have continues := isWordChar_iff.mpr (.inl isLetter)
    rw [apart letter after second] at continues
    exact Bool.false_ne_true continues
  | cons d rest =>
    rcases List.cons.inj second with ⟨rfl, -⟩
    rw [noLetter d rest rfl] at isLetter
    exact Bool.false_ne_true isLetter

/-- Nothing is read of an exponent where no word goes on. -/
theorem Cursor.Apart.exponentPart (apart : stop.Apart) :
    Literal.exponentPart start stop = .found 0 stop := by
  unfold Literal.exponentPart
  split
  · rename_i starts
    obtain ⟨rest, restEq⟩ := List.head?_eq_some_iff.mp starts
    exact absurd (apart 'e' rest restEq) (by decide)
  · rename_i starts
    obtain ⟨rest, restEq⟩ := List.head?_eq_some_iff.mp starts
    exact absurd (apart 'E' rest restEq) (by decide)
  · rfl

/-- The digits at a place up to what is none. -/
theorem decimalDigits_reads {digits : List Char} (all : ∀ c ∈ digits, c.isDigit = true)
    (crosses : start.Crosses digits stop)
    (ends : ∀ c rest, stop.rest = c :: rest → c.isDigit = false) :
    Literal.decimalDigits start = digits := by
  unfold Literal.decimalDigits
  rw [crosses.1]
  exact takeWhile_append all ends

/-- A text that begins with a digit and announces no base is a decimal literal. -/
theorem number_eq_decimal {c : Char} {rest : List Char} (starts : start.rest = c :: rest)
    (isDigit : c.isDigit = true) (noBase : Literal.announced start.rest = none) :
    Literal.number start = Literal.decimal start := by
  have decimal : Literal.startsDecimal start.rest = true := by
    rw [starts]
    unfold Literal.startsDecimal
    split
    · rename_i same
      obtain ⟨rfl, -⟩ := List.cons.inj same
      exact absurd isDigit (by decide)
    · rename_i same
      obtain ⟨rfl, -⟩ := List.cons.inj same
      exact isDigit
    · rename_i same
      simp at same
  rw [Literal.number_eq, noBase]
  dsimp only
  rw [if_pos decimal]

/-- Decimal digits that neither a word nor a point follows are a number. -/
theorem number_of_digits {digits : List Char} (someDigits : digits ≠ [])
    (all : ∀ c ∈ digits, c.isDigit = true) (crosses : start.Crosses digits stop)
    (apart : stop.Apart) (noPoint : stop.isAt ['.'] = false) :
    Literal.number start =
      .found (Number.ofDecimal false ⟨naturalOfDigits 10 digits, 0⟩) stop := by
  obtain ⟨c, rest, rfl⟩ := List.exists_cons_of_ne_nil someDigits
  have noBase : Literal.announced start.rest = none := by
    refine announced_eq_none crosses apart ?_
    rintro d rest' rfl
    exact isWordStart_of_isDigit (all d (by simp))
  have noFraction : Literal.fractionPart stop = ([], stop) := by
    unfold Literal.fractionPart
    split
    · rename_i starts
      rw [isAt_singleton_iff.mpr ⟨_, starts⟩] at noPoint
      exact absurd noPoint (by decide)
    · rfl
  rw [number_eq_decimal crosses.1 (all c List.mem_cons_self) noBase, Literal.decimal_eq]
  dsimp only
  rw [decimalDigits_reads all crosses apart.no_digit, ← crosses.2, noFraction]
  dsimp only
  rw [apart.exponentPart, List.append_nil]
  rfl

theorem Print.number_eq_text {x : Number} {n : Int} (isInt : x.toInt? = some n) :
    Print.number x = x.text := by
  cases x with
  | infinite => simp [Number.toInt?, Number.isIntegral] at isInt
  | _ => rfl

/-- A natural number that can stand after a dot is printed in its digits. -/
theorem Print.number_ofInt {n : Nat} (small : n < 10 ^ 15) :
    (Print.number (Number.ofInt n)).toList = Nat.toDigits 10 n := by
  have fits : n < 2 ^ 53 := Nat.lt_of_lt_of_le small (by decide)
  rw [Print.number_eq_text (Number.toInt?_ofInt fits), Number.text_ofInt small]

/-- A natural number that can stand after a dot reads back. -/
theorem Number.rereads_ofInt {n : Nat} (small : n < 10 ^ 15) : (Number.ofInt n).Rereads := by
  have printed := Print.number_ofInt small
  have all : ∀ c ∈ Nat.toDigits 10 n, c.isDigit = true := fun c isIn =>
    isDigit_of_mem_toDigits isIn
  constructor
  · obtain ⟨c, rest, digits⟩ := List.exists_cons_of_ne_nil (Nat.toDigits_ne_nil (n := n) (b := 10))
    exact ⟨c, rest, printed.trans digits, all c (by simp [digits])⟩
  · intro start stop crosses apart noPoint
    rw [printed] at crosses
    have isWhole : (Number.ofInt n).isWhole = true := by
      rw [Number.isWhole, printed, List.all_eq_true]
      exact all
    rw [number_of_digits Nat.toDigits_ne_nil all crosses apart (noPoint isWhole),
      naturalOfDigits_toDigits, Number.ofDecimal_natural]

/-! ## Keys after a dot -/

theorem fieldKey_name {word : List Char} (shaped : Print.isWordShaped word = true)
    (crosses : start.Crosses word stop) (apart : stop.Apart) :
    Grammar.fieldKey start = .ok (.name (String.ofList word), stop) := by
  obtain ⟨atWord, after⟩ := word_reads shaped crosses apart
  rw [Grammar.fieldKey, atWord, after]

theorem fieldKey_position {n : Nat} (crosses : start.Crosses (Nat.toDigits 10 n) stop)
    (apart : stop.Apart) :
    Grammar.fieldKey start = .ok (.position (Number.ofInt n), stop) := by
  have all : ∀ c ∈ Nat.toDigits 10 n, c.isDigit = true := fun c isIn =>
    isDigit_of_mem_toDigits isIn
  have noWord : start.peekWord? = none := by
    obtain ⟨c, rest, digits⟩ := List.exists_cons_of_ne_nil (Nat.toDigits_ne_nil (n := n) (b := 10))
    have isDigit : c.isDigit = true := all c (by simp [digits])
    have restEq : start.rest = c :: (rest ++ stop.rest) := by
      rw [crosses.1, digits, List.cons_append]
    simp [peekWord?, Cursor.word, restEq, isWordStart_of_isDigit isDigit]
  unfold Grammar.fieldKey
  rw [noWord, decimalDigits_reads all crosses apart.no_digit]
  dsimp only
  rw [if_neg (by simp [Nat.toDigits_ne_nil]), ← crosses.2, naturalOfDigits_toDigits,
    Number.ofDecimal_natural]

end TemplateLang
