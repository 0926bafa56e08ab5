import Mathlib.Algebra.Order.Field.Rat
import Mathlib.Algebra.Order.Field.Power
import Mathlib.Tactic.FieldSimp
import Mathlib.Tactic.Linarith
import Mathlib.Tactic.Ring
import TemplateLang.Number.Decimal

/-!
# Rounding to the nearest number

The values that lie in the interval of a number are those that round to it.  Values are
rational numbers here, so that amounts of different units can be compared.
-/

namespace TemplateLang

namespace Number

/-! ## Rounding to natural numbers -/

/-- A quotient within one half of a natural number rounds to it, from one half away only if
the number is even. -/
theorem divideNearest_eq {numerator denominator nearest : Nat} (positive : 0 < denominator)
    (low : 2 * (nearest * denominator) ≤ 2 * numerator + denominator)
    (high : 2 * numerator ≤ 2 * (nearest * denominator) + denominator)
    (tie : 2 * numerator + denominator = 2 * (nearest * denominator) ∨
      2 * numerator = 2 * (nearest * denominator) + denominator → nearest % 2 = 0) :
    divideNearest numerator denominator = nearest := by
  have division := Nat.div_add_mod numerator denominator
  have rest := Nat.mod_lt numerator positive
  unfold divideNearest
  dsimp only
  generalize numerator / denominator = quotient at division ⊢
  generalize numerator % denominator = left at division rest ⊢
  -- The quotient is the number itself or the one before it.
  have notAbove : quotient ≤ nearest := by
    by_contra above
    have atLeast : denominator * (nearest + 1) ≤ denominator * quotient :=
      Nat.mul_le_mul_left denominator (by omega)
    rw [Nat.mul_add_one, Nat.mul_comm denominator nearest] at atLeast
    omega
  have notBelow : nearest ≤ quotient + 1 := by
    by_contra below
    have atLeast : denominator * (quotient + 1 + 1) ≤ denominator * nearest :=
      Nat.mul_le_mul_left denominator (by omega)
    rw [Nat.mul_add_one, Nat.mul_add_one, Nat.mul_comm denominator nearest] at atLeast
    omega
  rw [Nat.mul_comm nearest denominator] at low high tie
  rcases Nat.lt_or_eq_of_le notAbove with before | rfl
  · obtain rfl : nearest = quotient + 1 := by omega
    rw [Nat.mul_add_one] at low high tie
    rw [if_pos]
    by_cases isTie : 2 * left = denominator
    · have even := tie (.inl (by omega))
      exact .inr ⟨isTie, by omega⟩
    · exact .inl (by omega)
  · rw [if_neg]
    rintro (more | ⟨isTie, odd⟩)
    · omega
    · have even := tie (.inr (by omega))
      omega

theorem two_zpow_pos (exponent : Int) : (0 : ℚ) < 2 ^ exponent :=
  zpow_pos (by norm_num) exponent

/-- A scaled mantissa within one half of a natural number rounds to it. -/
theorem shiftNearest_eq {mantissa nearest : Nat} {drop : Int}
    (low : (nearest : ℚ) - 1 / 2 ≤ mantissa * 2 ^ (-drop))
    (high : (mantissa : ℚ) * 2 ^ (-drop) ≤ nearest + 1 / 2)
    (tie : (nearest : ℚ) - 1 / 2 = mantissa * 2 ^ (-drop) ∨
      (mantissa : ℚ) * 2 ^ (-drop) = nearest + 1 / 2 → nearest % 2 = 0) :
    shiftNearest mantissa drop = nearest := by
  unfold shiftNearest
  split
  · rename_i notPositive
    have whole : (2 : ℚ) ^ (-drop) = (2 ^ (-drop).toNat : Nat) := by
      rw [Nat.cast_pow, ← zpow_natCast, Int.toNat_of_nonneg (by omega)]
      rfl
    rw [whole] at low high
    have low' : (2 * nearest : ℚ) ≤ 2 * (mantissa * (2 ^ (-drop).toNat : Nat)) + 1 := by linarith
    have high' : (2 * (mantissa * (2 ^ (-drop).toNat : Nat)) : ℚ) ≤ 2 * nearest + 1 := by linarith
    norm_cast at low' high'
    change mantissa * 2 ^ (-drop).toNat = nearest
    omega
  · rename_i isPositive
    have fraction : (2 : ℚ) ^ (-drop) = ((2 ^ drop.toNat : Nat) : ℚ)⁻¹ := by
      rw [zpow_neg, Nat.cast_pow, ← zpow_natCast, Int.toNat_of_nonneg (by omega)]
      rfl
    have positive : 0 < 2 ^ drop.toNat := Nat.two_pow_pos _
    have positive' : (0 : ℚ) < (2 ^ drop.toNat : Nat) := by exact_mod_cast positive
    rw [fraction, ← div_eq_mul_inv] at low high tie
    change divideNearest mantissa (2 ^ drop.toNat) = nearest
    generalize 2 ^ drop.toNat = denominator at *
    rw [le_div_iff₀ positive'] at low
    rw [div_le_iff₀ positive'] at high
    rw [eq_div_iff positive'.ne', div_eq_iff positive'.ne'] at tie
    apply divideNearest_eq positive
    · have : (2 * (nearest * denominator) : ℚ) ≤ 2 * mantissa + denominator := by linarith
      exact_mod_cast this
    · have : (2 * mantissa : ℚ) ≤ 2 * (nearest * denominator) + denominator := by linarith
      exact_mod_cast this
    · rintro (isTie | isTie)
      · have : (2 * mantissa + denominator : ℚ) = 2 * (nearest * denominator) := by
          exact_mod_cast isTie
        exact tie (.inl (by linarith))
      · have : (2 * mantissa : ℚ) = 2 * (nearest * denominator) + denominator := by
          exact_mod_cast isTie
        exact tie (.inr (by linarith))

/-! ## The interval of a number -/

/-- A value lies in an interval. -/
structure Interval.Holds (i : Interval) (x : ℚ) : Prop where
  low : (i.low : ℚ) * 2 ^ i.unit ≤ x
  high : x ≤ i.high * 2 ^ i.unit
  ends : (i.low : ℚ) * 2 ^ i.unit = x ∨ x = i.high * 2 ^ i.unit → i.closed = true

variable {mantissa amount : Nat} {exponent unit : Int} {x : ℚ}

/-- The unit of an interval is a fourth of the last place. -/
theorem quarter_zpow (exponent : Int) : (2 : ℚ) ^ (exponent - 2) = 2 ^ exponent / 4 := by
  rw [zpow_sub₀ two_ne_zero]
  norm_num

/-- The distance below a number within which it is the nearest one. -/
def reach (mantissa : Nat) (exponent : Int) : ℚ :=
  if mantissa = Nat.pow 2 52 ∧ -1074 < exponent then 1 / 4 else 1 / 2

theorem reach_le (mantissa : Nat) (exponent : Int) : reach mantissa exponent ≤ 1 / 2 := by
  unfold reach
  split <;> norm_num

/-- The interval of a number in multiples of its last place. -/
theorem holds_interval_iff (positive : mantissa ≠ 0) :
    (interval mantissa exponent).Holds x ↔
      (mantissa - reach mantissa exponent) * 2 ^ exponent ≤ x ∧
        x ≤ (mantissa + 1 / 2) * 2 ^ exponent ∧
        ((mantissa - reach mantissa exponent) * 2 ^ exponent = x ∨
          x = (mantissa + 1 / 2) * 2 ^ exponent → mantissa % 2 = 0) := by
  have high : ((interval mantissa exponent).high : ℚ) * 2 ^ (exponent - 2) =
      (mantissa + 1 / 2) * 2 ^ exponent := by
    rw [quarter_zpow]
    simp only [interval]
    push_cast
    ring
  have low : ((interval mantissa exponent).low : ℚ) * 2 ^ (exponent - 2) =
      (mantissa - reach mantissa exponent) * 2 ^ exponent := by
    rw [quarter_zpow]
    unfold interval reach
    by_cases isPower : mantissa = Nat.pow 2 52 ∧ -1074 < exponent
    · rw [if_pos isPower, if_pos isPower]
      rw [Nat.cast_sub (by omega)]
      push_cast
      ring
    · rw [if_neg isPower, if_neg isPower]
      rw [Nat.cast_sub (by omega)]
      push_cast
      ring
  rw [← low, ← high]
  constructor
  · rintro ⟨below, above, ends⟩
    exact ⟨below, above, fun isEnd => of_decide_eq_true (ends isEnd)⟩
  · rintro ⟨below, above, ends⟩
    exact ⟨below, above, fun isEnd => decide_eq_true (ends isEnd)⟩

/-! ## Rounding -/

/-- The leading bit of a number that is written in units. -/
theorem log2_bounds (positive : amount ≠ 0) (unit : Int) :
    (2 : ℚ) ^ (amount.log2 + unit) ≤ amount * 2 ^ unit ∧
      (amount : ℚ) * 2 ^ unit < 2 ^ (amount.log2 + 1 + unit) := by
  have low : ((2 ^ amount.log2 : Nat) : ℚ) ≤ amount := by
    exact_mod_cast Nat.log2_self_le positive
  have high : (amount : ℚ) < (2 ^ (amount.log2 + 1) : Nat) := by
    exact_mod_cast Nat.lt_log2_self
  have positiveUnit := two_zpow_pos unit
  rw [zpow_add₀ two_ne_zero, zpow_add₀ two_ne_zero]
  constructor
  · apply mul_le_mul_of_nonneg_right _ positiveUnit.le
    simpa using low
  · apply mul_lt_mul_of_pos_right _ positiveUnit
    exact_mod_cast high

theorem lt_of_zpow_lt {low high : Int} (less : (2 : ℚ) ^ low < 2 ^ high) : low < high :=
  (zpow_lt_zpow_iff_right₀ one_lt_two).mp less

/-- The exponent of the last place that rounding keeps is that of the number, or one less
right below a power of two. -/
theorem excess_eq (canonical : Canonical mantissa exponent) (positive : mantissa ≠ 0)
    (some' : amount ≠ 0) (holds : (interval mantissa exponent).Holds (amount * 2 ^ unit)) :
    unit + excess amount unit = exponent ∨
      (mantissa = 2 ^ 52 ∧ unit + excess amount unit = exponent - 1 ∧
        (amount : ℚ) * 2 ^ unit < 2 ^ 52 * 2 ^ exponent) := by
  obtain ⟨below, above, ends⟩ := (holds_interval_iff positive).mp holds
  obtain ⟨fits, least, most, normal⟩ := canonical
  obtain ⟨low, high⟩ := log2_bounds some' unit
  have scale := two_zpow_pos exponent
  have fits' : (mantissa : ℚ) + 1 ≤ 2 ^ 53 := by exact_mod_cast fits
  -- The number lies below the next power of two after the interval.
  have notAbove : amount.log2 + unit < 53 + exponent := by
    apply lt_of_zpow_lt
    calc (2 : ℚ) ^ (amount.log2 + unit) ≤ (mantissa + 1 / 2) * 2 ^ exponent := low.trans above
      _ < 2 ^ 53 * 2 ^ exponent := by apply mul_lt_mul_of_pos_right _ scale; linarith
      _ = 2 ^ (53 + exponent) := by rw [zpow_add₀ two_ne_zero]; rfl
  by_cases inBinade : (2 : ℚ) ^ 52 * 2 ^ exponent ≤ amount * 2 ^ unit ∨ exponent = -1074
  · left
    rcases inBinade with inBinade | isLeast
    · have notBelow : 52 + exponent < amount.log2 + 1 + unit := by
        apply lt_of_zpow_lt
        calc (2 : ℚ) ^ (52 + exponent) = 2 ^ 52 * 2 ^ exponent := by rw [zpow_add₀ two_ne_zero]; rfl
          _ < _ := inBinade.trans_lt high
      unfold excess
      omega
    · unfold excess
      omega
  · right
    simp only [not_or, not_le] at inBinade
    obtain ⟨under, notLeast⟩ := inBinade
    have full : 2 ^ 52 ≤ mantissa := normal.resolve_right notLeast
    have reachHalf := reach_le mantissa exponent
    have isPower : mantissa = 2 ^ 52 := by
      have close : (mantissa : ℚ) - reach mantissa exponent < 2 ^ 52 :=
        lt_of_mul_lt_mul_right (below.trans_lt under) scale.le
      have close' : (mantissa : ℚ) < (2 ^ 52 + 1 : Nat) := by push_cast; linarith
      have close'' : mantissa < 2 ^ 52 + 1 := by exact_mod_cast close'
      omega
    refine ⟨isPower, ?_, under⟩
    have notAbove' : amount.log2 + unit < 52 + exponent := by
      apply lt_of_zpow_lt
      calc (2 : ℚ) ^ (amount.log2 + unit) < 2 ^ 52 * 2 ^ exponent := low.trans_lt under
        _ = 2 ^ (52 + exponent) := by rw [zpow_add₀ two_ne_zero]; rfl
    have notBelow : 51 + exponent < amount.log2 + 1 + unit := by
      apply lt_of_zpow_lt
      calc (2 : ℚ) ^ (51 + exponent) = 2 ^ 51 * 2 ^ exponent := by rw [zpow_add₀ two_ne_zero]; rfl
        _ ≤ (mantissa - reach mantissa exponent) * 2 ^ exponent := by
          apply mul_le_mul_of_nonneg_right _ scale.le
          rw [isPower] at reachHalf ⊢
          push_cast
          linarith
        _ < _ := below.trans_lt high
    unfold excess
    omega

/-- A positive amount in the interval of a number rounds to it. -/
theorem round_of_holds (isNegative : Bool) (canonical : Canonical mantissa exponent)
    (positive : mantissa ≠ 0) (some' : amount ≠ 0)
    (holds : (interval mantissa exponent).Holds (amount * 2 ^ unit)) :
    round isNegative amount unit = .finite isNegative mantissa exponent canonical := by
  have scale := two_zpow_pos exponent
  obtain ⟨below, above, ends⟩ := (holds_interval_iff positive).mp holds
  have notFull : mantissa ≠ Nat.pow 2 53 := Nat.ne_of_lt canonical.1
  have shifted (drop : Int) :
      (amount : ℚ) * 2 ^ (-drop) = amount * 2 ^ unit / 2 ^ (unit + drop) := by
    rw [zpow_neg, zpow_add₀ two_ne_zero]
    field_simp
  unfold round
  rw [if_neg some']
  dsimp only
  rcases excess_eq canonical positive some' holds with same | ⟨isPower, less, under⟩
  · have kept : shiftNearest amount (excess amount unit) = mantissa := by
      have reachHalf := reach_le mantissa exponent
      apply shiftNearest_eq
      · rw [shifted, same, le_div_iff₀ scale]
        refine le_trans ?_ below
        exact mul_le_mul_of_nonneg_right (by linarith) scale.le
      · rw [shifted, same, div_le_iff₀ scale]
        exact above
      · rw [shifted, same, eq_div_iff scale.ne', div_eq_iff scale.ne']
        rintro (isTie | isTie)
        · by_cases isPower : mantissa = Nat.pow 2 52 ∧ -1074 < exponent
          · rw [isPower.1]
          · rw [reach, if_neg isPower] at ends
            exact ends (.inl isTie)
        · exact ends (.inr isTie)
    rw [kept, if_neg notFull, same, pack, dif_pos canonical]
  · have half : (2 : ℚ) ^ (exponent - 1) = 2 ^ exponent / 2 := zpow_sub_one₀ two_ne_zero exponent
    have quarter : reach mantissa exponent = 1 / 4 := by
      refine if_pos ⟨isPower, ?_⟩
      unfold excess at less
      omega
    rw [quarter, isPower] at below
    push_cast at below
    have kept : shiftNearest amount (excess amount unit) = Nat.pow 2 53 := by
      apply shiftNearest_eq
      · rw [shifted, less, half, le_div_iff₀ (by linarith)]
        push_cast
        linarith
      · rw [shifted, less, half, div_le_iff₀ (by linarith)]
        push_cast
        linarith
      · exact fun _ => rfl
    have next : unit + excess amount unit + 1 = exponent := by omega
    subst isPower
    rw [kept, if_pos rfl, next]
    exact dif_pos canonical

/-! ## Rounding a quotient -/

/-- Intervals do not tell values apart that compare alike with all multiples of the unit. -/
theorem Interval.Holds.congr {i : Interval} {y : ℚ} (holds : i.Holds x)
    (alike : ∀ amount : Nat, ((amount : ℚ) * 2 ^ i.unit ≤ x ↔ (amount : ℚ) * 2 ^ i.unit ≤ y) ∧
      (x ≤ amount * 2 ^ i.unit ↔ y ≤ amount * 2 ^ i.unit)) : i.Holds y := by
  constructor
  · exact (alike i.low).1.mp holds.low
  · exact (alike i.high).2.mp holds.high
  · rintro (isEnd | isEnd)
    · apply holds.ends
      exact .inl (le_antisymm holds.low ((alike i.low).2.mpr isEnd.ge))
    · apply holds.ends
      exact .inr (le_antisymm holds.high ((alike i.high).1.mpr isEnd.ge))

/-- Whether anything is left of a quotient, as a bit below it. -/
def stickyBit (numerator denominator : Nat) : Nat :=
  if numerator % denominator = 0 then 0 else 1

/-- The bit below a quotient tells on which side of a natural number it lies. -/
theorem compare_sticky {numerator denominator : Nat} (positive : 0 < denominator) (bound : Nat) :
    (bound * denominator ≤ numerator ↔
        2 * bound ≤ 2 * (numerator / denominator) + stickyBit numerator denominator) ∧
      (numerator ≤ bound * denominator ↔
        2 * (numerator / denominator) + stickyBit numerator denominator ≤ 2 * bound) := by
  have below : bound * denominator ≤ numerator ↔ bound ≤ numerator / denominator :=
    (Nat.le_div_iff_mul_le positive).symm
  have division := Nat.div_add_mod numerator denominator
  unfold stickyBit
  constructor
  · rw [below]
    split <;> omega
  · split
    · rename_i exact'
      rw [exact', Nat.add_zero, Nat.mul_comm] at division
      rw [← division, Nat.mul_div_cancel _ positive, Nat.mul_le_mul_right_iff positive]
      omega
    · rename_i left
      have notEqual : numerator ≠ bound * denominator := by
        rintro rfl
        exact left (Nat.mul_mod_left _ _)
      have above : numerator ≤ bound * denominator ↔ numerator / denominator < bound := by
        rw [Nat.div_lt_iff_lt_mul positive]
        omega
      rw [above]
      omega

/-- A positive quotient in the interval of a number rounds to it. -/
theorem roundRatio_of_holds {numerator denominator : Nat} (isNegative : Bool)
    (canonical : Canonical mantissa exponent) (positive : mantissa ≠ 0) (some' : numerator ≠ 0)
    (positiveDenominator : 0 < denominator)
    (holds : (interval mantissa exponent).Holds (numerator / denominator)) :
    roundRatio isNegative numerator denominator 0 =
      .finite isNegative mantissa exponent canonical := by
  unfold roundRatio
  dsimp only
  generalize extraEq : 64 + Nat.log2 denominator = extra
  have positiveRat : (0 : ℚ) < denominator := by exact_mod_cast positiveDenominator
  -- The quotient is taken to more bits than the ends of the interval have.
  have deep : 2 - exponent ≤ extra := by
    have above := ((holds_interval_iff positive).mp holds).2.1
    have fits : (mantissa : ℚ) + 1 ≤ 2 ^ 53 := by exact_mod_cast canonical.1
    have atLeast : (1 : ℚ) ≤ numerator := by exact_mod_cast Nat.pos_of_ne_zero some'
    have high := (log2_bounds positiveDenominator.ne' 0).2
    rw [zpow_zero, mul_one] at high
    have scale := two_zpow_pos exponent
    have range : (2 : ℚ) ^ (0 : Int) < 2 ^ (denominator.log2 + 1 + 0 + 53 + exponent) := by
      rw [zpow_zero]
      rw [div_le_iff₀ positiveRat] at above
      calc (1 : ℚ) ≤ (mantissa + 1 / 2) * 2 ^ exponent * denominator := atLeast.trans above
        _ < 2 ^ 53 * 2 ^ exponent * 2 ^ ((denominator.log2 : Int) + 1 + 0) := by
          apply mul_lt_mul'' _ high _ positiveRat.le
          · exact mul_lt_mul_of_pos_right (by linarith) scale
          · exact (mul_pos (by linarith) scale).le
        _ = _ := by
          rw [zpow_add₀ two_ne_zero _ exponent, zpow_add₀ two_ne_zero _ 53]
          norm_num
          ring
    have bits := lt_of_zpow_lt range
    omega
  have compare := @compare_sticky (numerator * 2 ^ extra) denominator positiveDenominator
  apply round_of_holds isNegative canonical positive
  · intro none
    have isZero := (compare 0).2.mpr none.le
    rw [Nat.zero_mul, Nat.le_zero, Nat.mul_eq_zero] at isZero
    rcases isZero with isZero | isZero
    · exact some' isZero
    · exact (Nat.two_pow_pos extra).ne' isZero
  · refine holds.congr fun bound => ?_
    have fine := two_zpow_pos (-extra)
    have last : (2 : ℚ) ^ (0 - (extra : Int) - 1) = 2 ^ (-extra : Int) / 2 := by
      rw [zero_sub]
      exact zpow_sub_one₀ two_ne_zero _
    have whole : (bound : ℚ) * 2 ^ (exponent - 2) =
        (bound * 2 ^ (exponent - 2 + extra).toNat : Nat) * 2 ^ (-extra : Int) := by
      rw [Nat.cast_mul, Nat.cast_pow, ← zpow_natCast, Int.toNat_of_nonneg (by omega), mul_assoc]
      congr 1
      rw [Nat.cast_ofNat, ← zpow_add₀ two_ne_zero]
      congr 1
      omega
    have scaled : (numerator : ℚ) / denominator =
        (numerator * 2 ^ extra : Nat) / denominator * 2 ^ (-extra : Int) := by
      rw [zpow_neg, zpow_natCast]
      push_cast
      field_simp
    change ((bound : ℚ) * 2 ^ (exponent - 2) ≤ _ ↔ (bound : ℚ) * 2 ^ (exponent - 2) ≤ _) ∧
      (_ ≤ (bound : ℚ) * 2 ^ (exponent - 2) ↔ _ ≤ (bound : ℚ) * 2 ^ (exponent - 2))
    rw [whole, scaled, last]
    generalize bound * 2 ^ (exponent - 2 + extra).toNat = bound at *
    obtain ⟨below, above⟩ := compare bound
    have halved (amount : Nat) :
        (amount : ℚ) * (2 ^ (-extra : Int) / 2) = amount / 2 * 2 ^ (-extra : Int) := by ring
    rw [halved, mul_le_mul_iff_left₀ fine, mul_le_mul_iff_left₀ fine, mul_le_mul_iff_left₀ fine,
      mul_le_mul_iff_left₀ fine, le_div_iff₀ positiveRat, div_le_iff₀ positiveRat,
      le_div_iff₀ two_pos, div_le_iff₀ two_pos]
    rw [mul_comm 2 bound] at below above
    norm_cast

end Number

end TemplateLang
