import Mathlib.Algebra.Group.Nat.Defs
import TemplateLang.Number.Decimal

/-!
# Natural numbers as numbers and as digits

Natural numbers below `2 ^ 53` are numbers without rounding, so that they are written in
full and what is written reads back.
-/

namespace TemplateLang

/-! ## Digits -/

theorem digitValue?_of_isDigit {c : Char} (digit : c.isDigit = true) :
    digitValue? c = some (c.toNat - '0'.toNat) := by
  have inRange : '0' ≤ c ∧ c ≤ '9' := by
    simpa [Char.isDigit, Char.le_def] using digit
  rw [digitValue?, if_pos inRange]

/-- The value of a digit.  Other characters count as zero. -/
def digitOf (c : Char) : Nat :=
  (digitValue? c).getD 0

theorem sub_le_of_range {first last c : Char} (inRange : first ≤ c ∧ c ≤ last) :
    c.toNat - first.toNat ≤ last.toNat - first.toNat :=
  Nat.sub_le_sub_right inRange.2 _

theorem digitOf_lt (c : Char) : digitOf c < 16 := by
  unfold digitOf digitValue?
  split
  · exact Nat.lt_of_le_of_lt (sub_le_of_range ‹_›) (by decide)
  · split
    · exact Nat.lt_of_le_of_lt (Nat.add_le_add_right (sub_le_of_range ‹_›) 10) (by decide)
    · split
      · exact Nat.lt_of_le_of_lt (Nat.add_le_add_right (sub_le_of_range ‹_›) 10) (by decide)
      · decide

/-- More digits do not write less. -/
theorem le_foldl_digits {base : Nat} (positive : 0 < base) (total : Nat) (digits : List Char) :
    total ≤ digits.foldl (fun total c => total * base + digitOf c) total := by
  induction digits generalizing total with
  | nil => exact Nat.le_refl _
  | cons c digits ih =>
    have next : total ≤ total * base + digitOf c :=
      Nat.le_add_right_of_le (Nat.le_mul_of_pos_right total positive)
    exact Nat.le_trans next (ih _)

theorem isDigit_of_mem_toDigits {n : Nat} {c : Char} (isIn : c ∈ Nat.toDigits 10 n) :
    c.isDigit = true :=
  Nat.isDigit_of_mem_toDigits (by decide) (by decide) isIn

/-- Digits write the number that the library reads from them. -/
theorem naturalOfDigits_eq {digits : List Char} (all : ∀ c ∈ digits, c.isDigit = true) :
    naturalOfDigits 10 digits = Nat.ofDigitChars 10 digits 0 := by
  have go (total : Nat) :
      digits.foldl (fun total c => total * 10 + (digitValue? c).getD 0) total =
        digits.foldl (fun total c => 10 * total + (c.toNat - '0'.toNat)) total := by
    induction digits generalizing total with
    | nil => rfl
    | cons c digits ih =>
      have first := digitValue?_of_isDigit (all c List.mem_cons_self)
      rw [List.foldl_cons, List.foldl_cons, first, Option.getD_some, Nat.mul_comm]
      exact ih (fun d isIn => all d (List.mem_cons_of_mem c isIn)) _
  rw [Nat.ofDigitChars_eq_foldl]
  exact go 0

/-- The decimal digits of a number write it. -/
@[simp]
theorem naturalOfDigits_toDigits (n : Nat) : naturalOfDigits 10 (Nat.toDigits 10 n) = n := by
  rw [naturalOfDigits_eq fun c isIn => isDigit_of_mem_toDigits isIn]
  exact Nat.ofDigitChars_ten_toDigits

namespace Number

/-! ## Finite numbers -/

/-- What is cut to an integer is finite. -/
theorem eq_finite_of_truncate? {x : Number} {n : Int} (cutTo : x.truncate? = some n) :
    ∃ isNegative mantissa exponent canonical,
      x = finite isNegative mantissa exponent canonical := by
  cases x with
  | nan => exact nomatch cutTo
  | infinite => exact nomatch cutTo
  | finite => exact ⟨_, _, _, _, rfl⟩

theorem truncate?_of_toInt? {x : Number} {n : Int} (isInt : x.toInt? = some n) :
    x.truncate? = some n := by
  rw [toInt?, Option.ite_none_right_eq_some] at isInt
  exact isInt.2

theorem eq_finite_of_toInt? {x : Number} {n : Int} (isInt : x.toInt? = some n) :
    ∃ isNegative mantissa exponent canonical, x = finite isNegative mantissa exponent canonical :=
  eq_finite_of_truncate? (truncate?_of_toInt? isInt)

/-! ## Exact integers -/

/-- A natural number below `2 ^ 53` is kept with all its bits. -/
theorem ofInt_eq_finite {n : Nat} (positive : n ≠ 0) (small : n < 2 ^ 53) :
    ∃ canonical, ofInt n =
      .finite false (n * 2 ^ (52 - n.log2)) ((n.log2 : Int) - 52) canonical := by
  have bits : n.log2 < 53 := (Nat.log2_lt positive).mpr small
  have low : 2 ^ n.log2 ≤ n := Nat.log2_self_le positive
  have high : n < 2 ^ (n.log2 + 1) := Nat.lt_log2_self
  have least : 2 ^ 52 ≤ n * 2 ^ (52 - n.log2) := by
    calc 2 ^ 52 = 2 ^ n.log2 * 2 ^ (52 - n.log2) := by rw [← Nat.pow_add]; congr 1; omega
      _ ≤ n * 2 ^ (52 - n.log2) := Nat.mul_le_mul_right _ low
  have most : n * 2 ^ (52 - n.log2) < 2 ^ 53 := by
    calc n * 2 ^ (52 - n.log2) < 2 ^ (n.log2 + 1) * 2 ^ (52 - n.log2) :=
          Nat.mul_lt_mul_of_pos_right high (Nat.two_pow_pos _)
      _ = 2 ^ 53 := by rw [← Nat.pow_add]; congr 1; omega
  have canonical : Canonical (n * 2 ^ (52 - n.log2)) ((n.log2 : Int) - 52) := by
    refine ⟨most, ?_, ?_, .inl least⟩ <;> omega
  have drop : excess n 0 = (n.log2 : Int) - 52 := by
    unfold excess
    omega
  have kept : shiftNearest n ((n.log2 : Int) - 52) = n * 2 ^ (52 - n.log2) := by
    unfold shiftNearest
    rw [if_pos (by omega)]
    congr 2
    omega
  have notFull : n * 2 ^ (52 - n.log2) ≠ Nat.pow 2 53 := Nat.ne_of_lt most
  refine ⟨canonical, ?_⟩
  unfold ofInt round
  rw [Int.natAbs_natCast, if_neg positive]
  dsimp only
  rw [drop, kept, if_neg notFull, Int.zero_add]
  unfold pack
  rw [dif_pos canonical]
  simp

/-- A mantissa that is a multiple of its unit's denominator is an integer. -/
theorem toInt?_finite {n mantissa : Nat} {exponent : Int}
    {canonical : Canonical mantissa exponent} (notLarge : exponent ≤ 0)
    (isMultiple : mantissa = n * 2 ^ (-exponent).toNat) :
    (finite false mantissa exponent canonical).toInt? = some (n : Int) := by
  have positive := Nat.two_pow_pos (-exponent).toNat
  have integral : (finite false mantissa exponent canonical).isIntegral = true := by
    unfold isIntegral
    rw [Bool.or_eq_true, decide_eq_true_eq, decide_eq_true_eq, isMultiple]
    exact .inr (Nat.mul_mod_left _ _)
  unfold toInt? truncate?
  rw [if_pos integral]
  dsimp only
  by_cases atUnit : 0 ≤ exponent
  · obtain rfl : exponent = 0 := by omega
    rw [if_pos atUnit, isMultiple]
    simp [signed]
  · rw [if_neg atUnit, isMultiple]
    simp [signed, Nat.mul_div_cancel _ positive]

/-- A natural number below `2 ^ 53` is found again. -/
theorem toInt?_ofInt {n : Nat} (small : n < 2 ^ 53) : (ofInt n).toInt? = some (n : Int) := by
  by_cases positive : n = 0
  · subst positive
    exact toInt?_finite (by decide) (Nat.zero_mul _).symm
  · obtain ⟨canonical, finite⟩ := ofInt_eq_finite positive small
    have bits : n.log2 < 53 := (Nat.log2_lt positive).mpr small
    rw [finite]
    refine toInt?_finite (by omega) ?_
    congr 2
    omega

/-- A natural number that can stand after a dot is printed in its digits. -/
theorem text_ofInt {n : Nat} (small : n < 10 ^ 15) :
    (ofInt n).text.toList = Nat.toDigits 10 n := by
  have fits : n < 2 ^ 53 := Nat.lt_of_lt_of_le small (by decide)
  have found := toInt?_ofInt fits
  have below : (n : Int).natAbs < Nat.pow 10 21 := by
    rw [Int.natAbs_natCast]
    exact Nat.lt_of_lt_of_le small (by decide)
  rcases eq_finite_of_toInt? found with ⟨_, _, _, _, isFinite⟩
  rw [isFinite] at found ⊢
  unfold text
  dsimp only
  rw [found]
  dsimp only
  rw [if_pos below, ← Nat.toList_repr]
  rfl

theorem ofDecimal_natural (n : Nat) : ofDecimal false ⟨n, 0⟩ = ofInt n := by
  unfold ofDecimal
  by_cases none : n = 0
  · subst none
    rfl
  · have notNegative : ¬ (n : Int) < 0 := by omega
    simp [none, ofInt, notNegative]

end Number

end TemplateLang
