import Mathlib.Algebra.Group.Int.Defs
import Mathlib.Tactic.Ring
import TemplateLang.Proofs.RoundTrip.Numbers

/-!
# Numbers that are integers

A number that is an integer is the one that this integer is rounded to, but for the sign of
zero.  The opposite number has the opposite integer.

Rounding looks at the amount alone and not at the unit that it is counted in.  So the sum of two
numbers that are integers is the number nearest to the sum of these integers, and up to `2 ^ 53`
it is that integer.
-/

namespace TemplateLang

namespace Number

/-! ## The sign of a number -/

/-- A number, with zero for the negative zero. -/
def positiveZero (x : Number) : Number :=
  if x.isZero then zero false else x

theorem neg_pack (isNegative : Bool) (mantissa : Nat) (exponent : Int) :
    -pack isNegative mantissa exponent = pack (!isNegative) mantissa exponent := by
  unfold pack
  split <;> rfl

/-- Rounding does not look at the sign. -/
theorem neg_round (isNegative : Bool) (mantissa : Nat) (exponent : Int) :
    -round isNegative mantissa exponent = round (!isNegative) mantissa exponent := by
  unfold round
  dsimp only
  split
  · rfl
  · split <;> exact neg_pack _ _ _

theorem neg_ofInt {n : Nat} (positive : n ≠ 0) : -ofInt n = ofInt (-n) := by
  have notNegative : ¬ (n : Int) < 0 := by omega
  have isNegative : (-n : Int) < 0 := by omega
  unfold ofInt
  rw [neg_round, decide_eq_false notNegative, decide_eq_true isNegative, Int.natAbs_neg]
  rfl

theorem signed_not (isNegative : Bool) (magnitude : Nat) :
    signed (!isNegative) magnitude = -signed isNegative magnitude := by
  cases isNegative <;> simp [signed]

/-- The integer of the opposite number is the opposite integer. -/
theorem toInt?_neg (isNegative : Bool) {mantissa : Nat} {exponent : Int}
    (canonical : Canonical mantissa exponent) :
    (finite (!isNegative) mantissa exponent canonical).toInt? =
      (finite isNegative mantissa exponent canonical).toInt?.map (- ·) := by
  unfold toInt? isIntegral truncate?
  dsimp only
  split
  · rw [signed_not, Option.map_some]
  · rfl

/-- Away from zero, a number is the one that its integer is rounded to. -/
theorem eq_ofInt_of_toInt? {x : Number} {n : Int} (isInt : x.toInt? = some n) :
    x = ofInt n ∨ x = zero true ∧ n = 0 := by
  rcases eq_finite_of_toInt? isInt with ⟨isNegative, mantissa, exponent, canonical, rfl⟩
  cases isNegative with
  | false =>
    obtain ⟨value, rfl, same⟩ := eq_ofDecimal_of_toInt? .finite isInt
    exact .inl (same.symm.trans (ofDecimal_natural value))
  | true =>
    have opposite : (finite false mantissa exponent canonical).toInt? = some (-n) := by
      rw [← Bool.not_true, toInt?_neg, isInt, Option.map_some]
    obtain ⟨value, valueEq, same⟩ := eq_ofDecimal_of_toInt? .finite opposite
    rw [ofDecimal_natural] at same
    obtain rfl : n = -value := by omega
    have restored : finite true mantissa exponent canonical = -ofInt value := by
      rw [same]
      rfl
    rw [restored]
    by_cases positive : value = 0
    · subst positive
      exact .inr ⟨rfl, rfl⟩
    · exact .inl (neg_ofInt positive)

/-- Only the negative zero has another zero in its place. -/
theorem positiveZero_eq_self {x : Number} (other : x ≠ zero true) : x.positiveZero = x := by
  unfold positiveZero
  split
  · rename_i isZero
    unfold Number.isZero at isZero
    split at isZero
    · rename_i isNegative exponent canonical
      obtain rfl : exponent = -1074 := canonical.2.2.2.resolve_left (by decide)
      cases isNegative with
      | false => rfl
      | true => exact absurd rfl other
    · simp at isZero
  · rfl

theorem toInt?_of_isZero {x : Number} (isZero : x.isZero = true) : x.toInt? = some 0 := by
  unfold Number.isZero at isZero
  split at isZero
  · rename_i isNegative exponent canonical
    cases isNegative with
    | false => exact toInt?_zero
    | true => rw [← Bool.not_false, toInt?_neg, toInt?_zero, Option.map_some, Int.neg_zero]
  · simp at isZero

/-- But for the sign of zero, a number is the one that its integer is rounded to. -/
theorem positiveZero_eq_ofInt {x : Number} {n : Int} (isInt : x.toInt? = some n) :
    x.positiveZero = ofInt n := by
  unfold positiveZero
  by_cases isZero : x.isZero = true
  · obtain rfl : n = 0 := Option.some.inj (isInt.symm.trans (toInt?_of_isZero isZero))
    rw [if_pos isZero]
    rfl
  · rw [if_neg isZero]
    refine (eq_ofInt_of_toInt? isInt).resolve_right fun ⟨same, _⟩ => ?_
    rw [same] at isZero
    exact isZero rfl

/-- The two zeros are equal, and so is a number that is an integer to itself. -/
theorem equals_positiveZero {x : Number} {n : Int} (isInt : x.toInt? = some n) :
    x.equals x.positiveZero = true := by
  rw [positiveZero_eq_ofInt isInt]
  rcases eq_ofInt_of_toInt? isInt with rfl | ⟨rfl, rfl⟩
  · rcases eq_finite_of_toInt? isInt with ⟨_, _, _, _, same⟩
    rw [same]
    simp [equals, compare?]
  · decide

/-! ## Rounding in another unit -/

theorem divideNearest_mul_right {factor : Nat} (positive : 0 < factor)
    (numerator denominator : Nat) :
    divideNearest (numerator * factor) (denominator * factor) =
      divideNearest numerator denominator := by
  have quotient := Nat.mul_div_mul_right numerator denominator positive
  have twice : 2 * (numerator * factor % (denominator * factor)) =
      2 * (numerator % denominator) * factor := by
    rw [Nat.mul_mod_mul_right, Nat.mul_assoc]
  unfold divideNearest
  dsimp only
  rw [quotient, twice]
  simp only [gt_iff_lt, Nat.mul_lt_mul_right positive, Nat.mul_left_inj (Nat.ne_of_gt positive)]

theorem divideNearest_mul_left {denominator : Nat} (positive : 0 < denominator) (quotient : Nat) :
    divideNearest (quotient * denominator) denominator = quotient := by
  unfold divideNearest
  dsimp only
  rw [Nat.mul_mod_left, Nat.mul_div_cancel _ positive, if_neg (by omega)]

theorem shiftNearest_mul (mantissa count : Nat) (drop : Int) :
    shiftNearest (mantissa * 2 ^ count) (drop + count) = shiftNearest mantissa drop := by
  unfold shiftNearest
  by_cases widens : drop + count ≤ 0
  · rw [if_pos widens, if_pos (by omega), Nat.mul_assoc]
    congr 1
    calc 2 ^ count * 2 ^ (-(drop + count)).toNat = 2 ^ (count + (-(drop + count)).toNat) :=
          (Nat.pow_add 2 _ _).symm
      _ = 2 ^ (-drop).toNat := by congr 1; omega
  · rw [if_neg widens]
    by_cases exact' : drop ≤ 0
    · have split : 2 ^ count = 2 ^ (-drop).toNat * 2 ^ (drop + count).toNat := by
        rw [← Nat.pow_add]
        congr 1
        omega
      rw [if_pos exact', split, ← Nat.mul_assoc]
      exact divideNearest_mul_left (Nat.two_pow_pos _) _
    · have split : (drop + count).toNat = drop.toNat + count := by omega
      rw [if_neg exact', split]
      change divideNearest _ (2 ^ (drop.toNat + count)) = _
      rw [Nat.pow_add]
      exact divideNearest_mul_right (Nat.two_pow_pos _) _ _

theorem log2_mul_two_pow {mantissa : Nat} (positive : mantissa ≠ 0) (count : Nat) :
    (mantissa * 2 ^ count).log2 = mantissa.log2 + count := by
  have some' : mantissa * 2 ^ count ≠ 0 :=
    Nat.mul_ne_zero positive (Nat.ne_of_gt (Nat.two_pow_pos count))
  apply Nat.le_antisymm
  · rw [← Nat.lt_succ_iff, Nat.log2_lt some']
    calc mantissa * 2 ^ count < 2 ^ (mantissa.log2 + 1) * 2 ^ count :=
          Nat.mul_lt_mul_of_pos_right Nat.lt_log2_self (Nat.two_pow_pos count)
      _ = 2 ^ (mantissa.log2 + count).succ := by rw [← Nat.pow_add]; congr 1; omega
  · rw [Nat.le_log2 some', Nat.pow_add]
    exact Nat.mul_le_mul_right _ (Nat.log2_self_le positive)

/-- An amount is rounded alike in units that are smaller by a power of two. -/
theorem round_mul (isNegative : Bool) (mantissa count : Nat) (exponent : Int) :
    round isNegative (mantissa * 2 ^ count) exponent =
      round isNegative mantissa (exponent + count) := by
  unfold round
  by_cases none : mantissa = 0
  · subst none
    rw [Nat.zero_mul, if_pos rfl, if_pos rfl]
  · have some' : mantissa * 2 ^ count ≠ 0 :=
      Nat.mul_ne_zero none (Nat.ne_of_gt (Nat.two_pow_pos count))
    have drop : excess (mantissa * 2 ^ count) exponent =
        excess mantissa (exponent + count) + count := by
      unfold excess
      rw [log2_mul_two_pow none]
      omega
    have place : exponent + (excess mantissa (exponent + count) + count) =
        exponent + count + excess mantissa (exponent + count) := by omega
    rw [if_neg some', if_neg none]
    dsimp only
    rw [drop, shiftNearest_mul, place]

/-! ## Integers in smaller units -/

theorem signed_mul (isNegative : Bool) (magnitude factor : Nat) :
    signed isNegative (magnitude * factor) = signed isNegative magnitude * factor := by
  cases isNegative <;> simp [signed]

/-- A number that is an integer is that many wholes, in units of one or less. -/
theorem inUnits_of_toInt? {isNegative : Bool} {mantissa : Nat} {exponent unit n : Int}
    {canonical : Canonical mantissa exponent}
    (isInt : (finite isNegative mantissa exponent canonical).toInt? = some n)
    (below : unit ≤ exponent) :
    inUnits isNegative mantissa exponent unit * 2 ^ unit.toNat = n * 2 ^ (-unit).toNat := by
  simp only [toInt?, Option.ite_none_right_eq_some, truncate?, Option.some.injEq] at isInt
  rcases isInt with ⟨integral, rfl⟩
  unfold inUnits
  by_cases whole : 0 ≤ exponent
  · rw [if_pos whole, signed_mul, signed_mul, mul_assoc, mul_assoc]
    congr 1
    change (2 : ℤ) ^ _ * 2 ^ _ = 2 ^ _ * 2 ^ _
    rw [← pow_add, ← pow_add]
    congr 1
    omega
  · have divides : 2 ^ (-exponent).toNat ∣ mantissa := by
      apply Nat.dvd_of_mod_eq_zero
      simpa [isIntegral, whole] using integral
    rcases divides with ⟨quotient, rfl⟩
    have restored : 2 ^ (-exponent).toNat * quotient / Nat.pow 2 (-exponent).toNat = quotient :=
      Nat.mul_div_cancel_left _ (Nat.two_pow_pos _)
    have small : unit.toNat = 0 := by omega
    rw [if_neg whole, restored, small, pow_zero, mul_one, Nat.mul_comm _ quotient,
      Nat.mul_assoc, signed_mul]
    congr 1
    push_cast
    change (2 : ℤ) ^ _ * 2 ^ _ = 2 ^ _
    rw [← pow_add]
    congr 1
    omega

/-- The same for an amount with a sign. -/
theorem round_mul_of_int (amount : Int) (count : Nat) (exponent : Int) :
    round (amount * 2 ^ count < 0) (amount * 2 ^ count).natAbs exponent =
      round (amount < 0) amount.natAbs (exponent + count) := by
  have sign : amount * 2 ^ count < 0 ↔ amount < 0 := by
    constructor
    · intro negative
      by_contra notNegative
      have power : (0 : Int) ≤ 2 ^ count := Int.le_of_lt (Int.pow_pos (by decide))
      have := Int.mul_nonneg (Int.not_lt.mp notNegative) power
      omega
    · exact fun negative => Int.mul_neg_of_neg_of_pos negative (Int.pow_pos (by decide))
  have magnitude : (amount * 2 ^ count).natAbs = amount.natAbs * 2 ^ count := by
    rw [Int.natAbs_mul, Int.natAbs_pow]
    rfl
  rw [decide_eq_decide.mpr sign, magnitude, round_mul]

/-- An amount of units that comes to `n` wholes is rounded as `n` is. -/
theorem round_eq_ofInt {amount n unit : Int}
    (wholes : amount * 2 ^ unit.toNat = n * 2 ^ (-unit).toNat) :
    round (amount < 0) amount.natAbs unit = ofInt n := by
  by_cases large : 0 ≤ unit
  · have none : (-unit).toNat = 0 := by omega
    have scaled := round_mul_of_int amount unit.toNat 0
    rw [none, pow_zero, mul_one] at wholes
    rw [wholes, Int.zero_add, Int.toNat_of_nonneg large] at scaled
    exact scaled.symm
  · have none : unit.toNat = 0 := by omega
    have place : unit + (-unit).toNat = 0 := by omega
    have scaled := round_mul_of_int n (-unit).toNat unit
    rw [none, pow_zero, mul_one] at wholes
    rw [← wholes, place] at scaled
    exact scaled

/-! ## Sums -/

/-- The sum of two integers is the number nearest to their sum, but for the sign of zero. -/
theorem add_of_toInt? {x y : Number} {a b : Int} (isFirst : x.toInt? = some a)
    (isSecond : y.toInt? = some b) : x + y = ofInt (a + b) ∨ x + y = zero true ∧ a + b = 0 := by
  rcases eq_finite_of_toInt? isFirst with ⟨s, m, e, _, rfl⟩
  rcases eq_finite_of_toInt? isSecond with ⟨t, n, f, _, rfl⟩
  have wholes : (inUnits s m e (min e f) + inUnits t n f (min e f)) * 2 ^ (min e f).toNat =
      (a + b) * 2 ^ (-min e f).toNat := by
    rw [Int.add_mul, Int.add_mul, inUnits_of_toInt? isFirst (Int.min_le_left e f),
      inUnits_of_toInt? isSecond (Int.min_le_right e f)]
  have powers (count : Nat) : (2 : Int) ^ count ≠ 0 := Int.ne_of_gt (Int.pow_pos (by decide))
  change Number.add _ _ = _ ∨ Number.add _ _ = _ ∧ _
  unfold Number.add
  dsimp only
  by_cases none : inUnits s m e (min e f) + inUnits t n f (min e f) = 0
  · rw [none, Int.zero_mul] at wholes
    rw [if_pos none, (Int.mul_eq_zero.mp wholes.symm).resolve_right (powers _)]
    cases s && t with
    | false => exact .inl rfl
    | true => exact .inr ⟨rfl, rfl⟩
  · rw [if_neg none, round_eq_ofInt wholes]
    exact .inl rfl

/-! ## The range of exact integers -/

theorem toInt?_neg_of {x : Number} {n : Int} (isInt : x.toInt? = some n) :
    (-x).toInt? = some (-n) := by
  rcases eq_finite_of_toInt? isInt with ⟨s, m, e, canonical, rfl⟩
  change (finite (!s) m e canonical).toInt? = _
  rw [toInt?_neg, isInt]
  rfl

/-- An integer up to `2 ^ 53` is kept. -/
theorem toInt?_ofInt_of_le {n : Int} (small : n.natAbs ≤ 2 ^ 53) : (ofInt n).toInt? = some n := by
  have natural {n : Nat} (small : n ≤ 2 ^ 53) : (ofInt n).toInt? = some (n : Int) := by
    rcases Nat.lt_or_eq_of_le small with less | rfl
    · exact toInt?_ofInt less
    · decide
  rcases Int.natAbs_eq n with positive | negative
  · rw [positive]
    exact natural small
  · by_cases zero : n.natAbs = 0
    · rw [Int.natAbs_eq_zero.mp zero]
      exact natural (Nat.zero_le _)
    · rw [negative, ← neg_ofInt zero]
      exact toInt?_neg_of (natural small)

/-- A sum of integers that is within `2 ^ 53` is exact. -/
theorem toInt?_add {x y : Number} {a b : Int} (isFirst : x.toInt? = some a)
    (isSecond : y.toInt? = some b) (small : (a + b).natAbs ≤ 2 ^ 53) :
    (x + y).toInt? = some (a + b) := by
  rcases add_of_toInt? isFirst isSecond with sum | ⟨sum, isZero⟩
  · rw [sum]
    exact toInt?_ofInt_of_le small
  · rw [sum, isZero]
    exact toInt?_of_isZero rfl

/-! ## Products -/

/-- Amounts in two units that come to `a` and `b` wholes have a product that comes to `a * b`
wholes. -/
theorem mul_wholes {m n a b e f : Int} (first : m * 2 ^ e.toNat = a * 2 ^ (-e).toNat)
    (second : n * 2 ^ f.toNat = b * 2 ^ (-f).toNat) :
    m * n * 2 ^ (e + f).toNat = a * b * 2 ^ (-(e + f)).toNat := by
  have positive : (2 : Int) ^ (e.toNat + f.toNat) ≠ 0 :=
    Int.ne_of_gt (Int.pow_pos (by decide))
  have exponents : (-e).toNat + (-f).toNat + (e + f).toNat =
      (-(e + f)).toNat + (e.toNat + f.toNat) := by
    omega
  apply mul_right_cancel₀ positive
  calc m * n * 2 ^ (e + f).toNat * 2 ^ (e.toNat + f.toNat)
      = m * 2 ^ e.toNat * (n * 2 ^ f.toNat) * 2 ^ (e + f).toNat := by
        rw [pow_add]
        ring
    _ = a * b * 2 ^ ((-e).toNat + (-f).toNat + (e + f).toNat) := by
        rw [first, second, pow_add, pow_add]
        ring
    _ = a * b * 2 ^ (-(e + f)).toNat * 2 ^ (e.toNat + f.toNat) := by
        rw [exponents, pow_add]
        ring

theorem wholes_of_toInt? {isNegative : Bool} {mantissa : Nat} {exponent n : Int}
    {canonical : Canonical mantissa exponent}
    (isInt : (finite isNegative mantissa exponent canonical).toInt? = some n) :
    signed isNegative mantissa * 2 ^ exponent.toNat = n * 2 ^ (-exponent).toNat := by
  have inOwn := inUnits_of_toInt? isInt (Int.le_refl exponent)
  rwa [inUnits, Int.sub_self, Int.toNat_zero, Nat.pow_eq, Nat.pow_zero, Nat.mul_one] at inOwn

theorem signed_mul_signed (s t : Bool) (m n : Nat) :
    signed s m * signed t n = signed (s ^^ t) (m * n) := by
  cases s <;> cases t <;> simp [signed]

theorem natAbs_signed (isNegative : Bool) (magnitude : Nat) :
    (signed isNegative magnitude).natAbs = magnitude := by
  cases isNegative <;> simp [signed]

theorem decide_signed_lt_zero {isNegative : Bool} {magnitude : Nat} (some' : magnitude ≠ 0) :
    decide (signed isNegative magnitude < 0) = isNegative := by
  cases isNegative with
  | false => simp [signed]
  | true => simp [signed, Nat.pos_of_ne_zero some']

/-- The product of two integers is the number nearest to their product, but for the sign of
zero. -/
theorem mul_of_toInt? {x y : Number} {a b : Int} (isFirst : x.toInt? = some a)
    (isSecond : y.toInt? = some b) : x * y = ofInt (a * b) ∨ x * y = zero true ∧ a * b = 0 := by
  rcases eq_finite_of_toInt? isFirst with ⟨s, m, e, _, rfl⟩
  rcases eq_finite_of_toInt? isSecond with ⟨t, n, f, _, rfl⟩
  have wholes := mul_wholes (wholes_of_toInt? isFirst) (wholes_of_toInt? isSecond)
  rw [signed_mul_signed] at wholes
  change round (s ^^ t) (m * n) (e + f) = _ ∨ round (s ^^ t) (m * n) (e + f) = _ ∧ _
  by_cases none : m * n = 0
  · have power : (2 : Int) ^ (-(e + f)).toNat ≠ 0 := Int.ne_of_gt (Int.pow_pos (by decide))
    have noAmount : signed (s ^^ t) 0 = 0 := by cases s ^^ t <;> rfl
    rw [none, noAmount, Int.zero_mul] at wholes
    have isZero : a * b = 0 := (Int.mul_eq_zero.mp wholes.symm).resolve_right power
    rw [isZero, none, round, if_pos rfl]
    cases s ^^ t with
    | false => exact .inl rfl
    | true => exact .inr ⟨rfl, rfl⟩
  · left
    rw [← round_eq_ofInt wholes, natAbs_signed, decide_signed_lt_zero none]

/-- A product of integers that is within `2 ^ 53` is exact. -/
theorem toInt?_mul {x y : Number} {a b : Int} (isFirst : x.toInt? = some a)
    (isSecond : y.toInt? = some b) (small : (a * b).natAbs ≤ 2 ^ 53) :
    (x * y).toInt? = some (a * b) := by
  rcases mul_of_toInt? isFirst isSecond with product | ⟨product, isZero⟩
  · rw [product]
    exact toInt?_ofInt_of_le small
  · rw [product, isZero]
    exact toInt?_of_isZero rfl

theorem toInt?_pack (mantissa : Nat) {exponent : Int} (whole : 0 ≤ exponent) :
    pack false mantissa exponent = infinite false ∨
      (pack false mantissa exponent).toInt? =
        some ((mantissa * 2 ^ exponent.toNat : Nat) : Int) := by
  unfold pack
  by_cases canonical : Canonical mantissa exponent
  · right
    rw [dif_pos canonical]
    simp [toInt?, isIntegral, truncate?, whole, signed]
  · exact .inl (dif_neg canonical)

/-- A quotient is rounded to itself or up. -/
theorem div_le_divideNearest (numerator denominator : Nat) :
    numerator / denominator ≤ divideNearest numerator denominator := by
  unfold divideNearest
  dsimp only
  split <;> omega

/-- An integer from `2 ^ 53` on is rounded to such an integer, or beyond all of them. -/
theorem ofInt_of_large {n : Nat} (large : 2 ^ 53 ≤ n) :
    ofInt n = infinite false ∨ ∃ m : Int, (ofInt n).toInt? = some m ∧ 2 ^ 53 ≤ m := by
  have positive : n ≠ 0 := by omega
  have notNegative : ¬ (n : Int) < 0 := by omega
  have bits : 53 ≤ n.log2 := (Nat.le_log2 positive).mpr large
  have drop : excess n 0 = ((n.log2 - 52 : Nat) : Int) := by
    unfold excess
    omega
  have kept : 2 ^ 52 ≤ shiftNearest n ((n.log2 - 52 : Nat) : Int) := by
    have full : 2 ^ 52 * 2 ^ (n.log2 - 52) ≤ n := by
      rw [← Nat.pow_add, Nat.add_sub_cancel' (by omega)]
      exact Nat.log2_self_le positive
    unfold shiftNearest
    rw [if_neg (by omega)]
    exact Nat.le_trans ((Nat.le_div_iff_mul_le (Nat.two_pow_pos _)).mpr full)
      (div_le_divideNearest _ _)
  have reaches {mantissa count : Nat} (full : 2 ^ 52 ≤ mantissa) (some' : 1 ≤ count) :
      pack false mantissa (count : Int) = infinite false ∨
        ∃ m : Int, (pack false mantissa (count : Int)).toInt? = some m ∧ 2 ^ 53 ≤ m := by
    have least : 2 ^ 53 ≤ mantissa * 2 ^ count := by
      calc 2 ^ 53 = 2 ^ 52 * 2 ^ 1 := by decide
        _ ≤ mantissa * 2 ^ count := Nat.mul_le_mul full (Nat.pow_le_pow_right (by decide) some')
    rcases toInt?_pack mantissa (Int.natCast_nonneg count) with beyond | isInt
    · exact .inl beyond
    · exact .inr ⟨_, isInt, by exact_mod_cast least⟩
  unfold ofInt round
  rw [decide_eq_false notNegative, Int.natAbs_natCast, if_neg positive]
  dsimp only
  rw [drop, Int.zero_add]
  split
  · exact reaches (Nat.le_refl _) (Nat.le_add_left 1 _)
  · exact reaches kept (by omega)

/-- A number stands for an integer: it is that integer, or both are beyond `2 ^ 53` on one
side. -/
inductive StandsFor : Number → Int → Prop where
  | same {x : Number} {n : Int} (isInt : x.toInt? = some n) : StandsFor x n
  | above {x : Number} {n m : Int} (isInt : x.toInt? = some m) (large : 2 ^ 53 ≤ m)
      (isAbove : 2 ^ 53 ≤ n) : StandsFor x n
  | below {x : Number} {n m : Int} (isInt : x.toInt? = some m) (large : m ≤ -2 ^ 53)
      (isBelow : n ≤ -2 ^ 53) : StandsFor x n
  | infinite {n : Int} (isAbove : 2 ^ 53 ≤ n) : StandsFor (.infinite false) n
  | negativeInfinite {n : Int} (isBelow : n ≤ -2 ^ 53) : StandsFor (.infinite true) n

/-- The number nearest to an integer stands for it. -/
theorem standsFor_ofInt (n : Int) : (ofInt n).StandsFor n := by
  by_cases small : n.natAbs ≤ 2 ^ 53
  · exact .same (toInt?_ofInt_of_le small)
  · have large : 2 ^ 53 ≤ n.natAbs := by omega
    rcases Int.natAbs_eq n with positive | negative
    · have isAbove : 2 ^ 53 ≤ n := by omega
      rw [positive] at isAbove ⊢
      rcases ofInt_of_large large with beyond | ⟨m, isInt, reaches⟩
      · rw [beyond]
        exact .infinite isAbove
      · exact .above isInt reaches isAbove
    · have isBelow : n ≤ -2 ^ 53 := by omega
      have opposite : ofInt n = -ofInt n.natAbs := by
        rw [neg_ofInt (by omega), ← negative]
      rw [opposite]
      rcases ofInt_of_large large with beyond | ⟨m, isInt, reaches⟩
      · rw [beyond]
        exact .negativeInfinite isBelow
      · exact .below (toInt?_neg_of isInt) (by omega) isBelow

/-- A number that stands for an integer has no fraction. -/
theorem StandsFor.toInt?_of_truncate? {x : Number} {n m : Int} (stands : x.StandsFor n)
    (cutTo : x.truncate? = some m) : x.toInt? = some m := by
  cases stands with
  | same isInt | above isInt | below isInt =>
    rw [isInt, ← truncate?_of_toInt? isInt, cutTo]
  | infinite | negativeInfinite => exact nomatch cutTo

/-- Nor has a sum of integers. -/
theorem toInt?_of_truncate?_add {x y : Number} {a b m : Int} (isFirst : x.toInt? = some a)
    (isSecond : y.toInt? = some b) (cutTo : (x + y).truncate? = some m) :
    (x + y).toInt? = some m := by
  rcases add_of_toInt? isFirst isSecond with sum | ⟨sum, -⟩
  · rw [sum] at cutTo ⊢
    exact (standsFor_ofInt (a + b)).toInt?_of_truncate? cutTo
  · rw [sum] at cutTo ⊢
    exact (StandsFor.same (toInt?_of_isZero rfl)).toInt?_of_truncate? cutTo

end Number

end TemplateLang
