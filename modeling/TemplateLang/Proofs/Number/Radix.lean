import Mathlib.Data.Nat.Digits.Lemmas
import TemplateLang.Proofs.Number.Integers
import TemplateLang.Proofs.RoundTrip.Crossing

/-!
# Numbers of an announced base

A letter behind a leading zero announces a base.  All word characters that follow belong to the
literal, so that one of them that is no digit of the base breaks it, and it is not read as the
zero before the letter.

Its value is found in doubles, digit by digit.  What the digits so far write is not more than what
all of them write, so that below `2 ^ 53` every sum on the way is exact, and so is the value.
-/

namespace TemplateLang

namespace Literal

open Number

variable {base : Nat} {digits : List Char}

/-! ## The number that digits write -/

/-- Digits write the sum of their values, each times the power of the base for its place. -/
theorem foldl_digits (base total : Nat) (digits : List Char) :
    digits.foldl (fun total c => total * base + digitOf c) total =
      total * base ^ digits.length + Nat.ofDigits base (digits.reverse.map digitOf) := by
  induction digits generalizing total with
  | nil => simp
  | cons c digits ih =>
    rw [List.foldl_cons, ih, List.reverse_cons, List.map_append, Nat.ofDigits_append,
      List.length_map, List.length_reverse, List.map_singleton, Nat.ofDigits_singleton,
      List.length_cons, pow_succ]
    ring

/-- The number that digits write, in the notation of the library. -/
theorem naturalOfDigits_eq_ofDigits (base : Nat) (digits : List Char) :
    naturalOfDigits base digits = Nat.ofDigits base (digits.reverse.map digitOf) := by
  have horner := foldl_digits base 0 digits
  rw [Nat.zero_mul, Nat.zero_add] at horner
  exact horner

/-! ## The same in doubles -/

theorem toInt?_digitNumber (c : Char) : (digitNumber c).toInt? = some (digitOf c : Int) :=
  toInt?_ofInt (Nat.lt_trans (digitOf_lt c) (by decide))

section

variable (positive : 0 < base) (few : base < 2 ^ 53)

include positive few

/-- From an exact total on every total is exact, if the last one is below `2 ^ 53`. -/
theorem toInt?_foldl {total : Nat} {x : Number} (isTotal : x.toInt? = some (total : Int))
    (small : digits.foldl (fun total c => total * base + digitOf c) total < 2 ^ 53) :
    (digits.foldl (fun x c => x * ofInt base + digitNumber c) x).toInt? =
      some ((digits.foldl (fun total c => total * base + digitOf c) total : Nat) : Int) := by
  induction digits generalizing total x with
  | nil => exact isTotal
  | cons c digits ih =>
    have next := le_foldl_digits positive (total * base + digitOf c) digits
    rw [List.foldl_cons] at small ⊢
    have product := toInt?_mul isTotal (toInt?_ofInt few) (by rw [← Int.natCast_mul]; omega)
    have sum := toInt?_add product (toInt?_digitNumber c) (by omega)
    exact ih (by exact_mod_cast sum) small

/-- Below `2 ^ 53` the value that is found is the number that the digits write. -/
theorem radixValue_eq (small : naturalOfDigits base digits < 2 ^ 53) :
    radixValue base digits = ofInt (naturalOfDigits base digits) := by
  have isZero : (zero false).toInt? = some ((0 : Nat) : Int) := toInt?_zero
  rcases eq_ofInt_of_toInt? (toInt?_foldl positive few isZero small) with same | ⟨negative, -⟩
  · exact same
  · have unsigned := unsigned_radixValue positive.ne' few digits
    rw [radixValue, negative] at unsigned
    exact nomatch unsigned

end

/-! ## The literal -/

variable {letter : Char} {name : String} {cursor : Cursor} {run rest : List Char}

theorem number_eq_radixDigits (announces : (letter, base, name) ∈ radixLetters)
    (starts : cursor.rest = '0' :: letter :: rest) :
    number cursor = radixDigits cursor (cursor.skip 2) base name := by
  have isAnnounced : announced cursor.rest = some (base, name) :=
    announced_eq_some.mpr ⟨letter, rest, starts, radix?_eq_some.mpr announces⟩
  rw [number_eq, isAnnounced]

/-- Digits are read up to the end of the run of word characters. -/
theorem radixDigits_eq_of_run {start : Cursor} (restEq : cursor.rest = run ++ rest)
    (wordChars : ∀ c ∈ run, isWordChar c = true)
    (ends : ∀ c ∈ rest.head?, isWordChar c = false) :
    radixDigits start cursor base name =
      if run.isEmpty || !run.all (isDigitOf base) then
        .broken (.invalidRadix name) (start.spanTo (cursor.skip run.length))
          (cursor.skip run.length)
      else .found (radixValue base run) (cursor.skip run.length) := by
  have isRun : (run ++ rest).takeWhile isWordChar = run := by
    apply Cursor.takeWhile_append wordChars
    rintro c others rfl
    exact ends c rfl
  unfold radixDigits
  rw [restEq, isRun]

/-- A zero and the letter of a base announce a number of that base.  The literal is these two and
the run of word characters behind them, whatever stands behind the run.

Digits of the base that write less than `2 ^ 53` give the number that they write.  A run that is
empty or has a character that is no digit breaks the literal, and no other reader is tried. -/
theorem number_radix (announces : (letter, base, name) ∈ radixLetters)
    (starts : cursor.rest = '0' :: letter :: (run ++ rest))
    (wordChars : ∀ c ∈ run, isWordChar c = true)
    (ends : ∀ c ∈ rest.head?, isWordChar c = false) :
    ∃ stop, cursor.Crosses ('0' :: letter :: run) stop ∧
      stop.rest = rest ∧
      (run ≠ [] → (∀ c ∈ run, isDigitOf base c = true) →
        let value := Nat.ofDigits base (run.reverse.map digitOf)
        value < 2 ^ 53 →
        number cursor = .found (ofInt value) stop ∧ (ofInt value).toInt? = some (value : Int)) ∧
      (run = [] ∨ (∃ c ∈ run, isDigitOf base c = false) →
        number cursor = .broken (.invalidRadix name) (cursor.spanTo stop) stop ∧
        (Fault.invalidRadix name).code.text = "E102" ∧
        ∀ other, (number cursor).orElse other = number cursor) := by
  rcases base_of_radix? (radix?_eq_some.mpr announces) with ⟨positive, atMost⟩
  have few : base < 2 ^ 53 := Nat.lt_of_le_of_lt atMost (by decide)
  have crosses : cursor.Crosses ('0' :: letter :: run) (cursor.skip (2 + run.length)) := by
    rw [Nat.add_comm]
    exact Cursor.crosses_of_rest starts
  have past : (cursor.skip 2).rest = run ++ rest := by
    rw [Cursor.rest_skip, starts]
    rfl
  have read := number_eq_radixDigits announces starts
  rw [radixDigits_eq_of_run past wordChars ends, Cursor.skip_skip] at read
  refine ⟨_, crosses, ?_, ?_, ?_⟩
  · rw [← Cursor.skip_skip, Cursor.rest_skip, past, List.drop_left]
  · intro someDigits areDigits value small
    have isValue : value = naturalOfDigits base run := (naturalOfDigits_eq_ofDigits base run).symm
    constructor
    · rw [read, if_neg (by simpa [someDigits] using areDigits), isValue,
        radixValue_eq positive few (isValue ▸ small)]
    · exact toInt?_ofInt small
  · intro wrong
    have broken : (run.isEmpty || !run.all (isDigitOf base)) = true := by
      simpa using wrong
    rw [if_pos broken] at read
    rw [read]
    exact ⟨rfl, rfl, fun _ => rfl⟩

/-- Leading zeros and digits of both cases before an operator, and a digit that is none of the
base. -/
theorem number_radix_zeros :
    let good := Cursor.ofSource "0X00Ff+1".toList
    let bad := Cursor.ofSource "0b12 ".toList
    (∃ stop, good.Crosses "0X00Ff".toList stop ∧ stop.rest = "+1".toList ∧
        number good = .found (ofInt 255) stop ∧ (ofInt 255).toInt? = some 255) ∧
      ∃ stop, bad.Crosses "0b12".toList stop ∧
        number bad = .broken (.invalidRadix "binary") (bad.spanTo stop) stop := by
  intro good bad
  constructor
  · have announces : ('X', 16, "hexadecimal") ∈ radixLetters := by decide
    have starts : good.rest = '0' :: 'X' :: ("00Ff".toList ++ "+1".toList) := rfl
    have wordChars : ∀ c ∈ "00Ff".toList, isWordChar c = true := List.all_eq_true.mp (by decide)
    have ends : ∀ c ∈ "+1".toList.head?, isWordChar c = false := by
      intro c isNext
      rw [← show '+' = c from Option.some.inj isNext]
      decide
    rcases number_radix announces starts wordChars ends with ⟨stop, crosses, restEq, found, -⟩
    have areDigits : ∀ c ∈ "00Ff".toList, isDigitOf 16 c = true := List.all_eq_true.mp (by decide)
    have value : Nat.ofDigits 16 ("00Ff".toList.reverse.map digitOf) = 255 := by decide
    rcases found (by decide) areDigits (by rw [value]; decide) with ⟨isFound, isInt⟩
    rw [value] at isFound isInt
    exact ⟨stop, crosses, restEq, isFound, isInt⟩
  · have announces : ('b', 2, "binary") ∈ radixLetters := by decide
    have starts : bad.rest = '0' :: 'b' :: ("12".toList ++ " ".toList) := rfl
    have wordChars : ∀ c ∈ "12".toList, isWordChar c = true := List.all_eq_true.mp (by decide)
    have ends : ∀ c ∈ " ".toList.head?, isWordChar c = false := by
      intro c isNext
      rw [← show ' ' = c from Option.some.inj isNext]
      decide
    rcases number_radix announces starts wordChars ends with ⟨stop, crosses, -, -, refused⟩
    exact ⟨stop, crosses, (refused (.inr ⟨'2', by decide, by decide⟩)).1⟩

end Literal

end TemplateLang
