import TemplateLang.Proofs.Number.Rounding

/-!
# The shortest decimal of a number

The search for a decimal goes from coarse grids to fine ones and takes the first point that
lies in the interval of the number.  It ends before it runs out of tries: steps of
`10 ^ 17` below the leading digit are finer than the interval, so that one of the two points
around the number lies inside.
-/

namespace TemplateLang

namespace Number

variable {mantissa : Nat} {exponent : Int}

/-! ## Amounts on one scale -/

/-- The factor that clears the denominators of `2 ^ unit` and `10 ^ power`. -/
def scale (unit power : Int) : ℚ :=
  2 ^ (-unit).toNat * 10 ^ (-power).toNat

theorem scale_pos (unit power : Int) : 0 < scale unit power := by
  unfold scale
  positivity

theorem zpow_toNat {base : ℚ} (notZero : base ≠ 0) (exponent : Int) :
    base ^ exponent.toNat = base ^ exponent * base ^ (-exponent).toNat := by
  rw [← zpow_natCast base exponent.toNat, ← zpow_natCast base (-exponent).toNat,
    ← zpow_add₀ notZero]
  congr 1
  omega

theorem overPower_eq (unit power : Int) (amount : Nat) :
    (overPower unit power amount : ℚ) = amount * 2 ^ unit * scale unit power := by
  unfold overPower scale
  rw [Nat.pow_eq, Nat.pow_eq]
  push_cast
  rw [zpow_toNat two_ne_zero unit]
  ring

theorem onGrid_eq (unit power : Int) (count : Nat) :
    (onGrid unit power count : ℚ) = count * 10 ^ power * scale unit power := by
  unfold onGrid scale
  rw [Nat.pow_eq, Nat.pow_eq]
  push_cast
  rw [zpow_toNat (by norm_num) power]
  ring

theorem overPower_le_onGrid {unit power : Int} {amount count : Nat} :
    overPower unit power amount ≤ onGrid unit power count ↔
      (amount : ℚ) * 2 ^ unit ≤ count * 10 ^ power := by
  rw [← mul_le_mul_iff_left₀ (scale_pos unit power), ← overPower_eq, ← onGrid_eq, Nat.cast_le]

theorem onGrid_le_overPower {unit power : Int} {amount count : Nat} :
    onGrid unit power count ≤ overPower unit power amount ↔
      (count : ℚ) * 10 ^ power ≤ amount * 2 ^ unit := by
  rw [← mul_le_mul_iff_left₀ (scale_pos unit power), ← overPower_eq, ← onGrid_eq, Nat.cast_le]

theorem overPower_lt_onGrid {unit power : Int} {amount count : Nat} :
    overPower unit power amount < onGrid unit power count ↔
      (amount : ℚ) * 2 ^ unit < count * 10 ^ power := by
  rw [← mul_lt_mul_iff_left₀ (scale_pos unit power), ← overPower_eq, ← onGrid_eq, Nat.cast_lt]

theorem onGrid_lt_overPower {unit power : Int} {amount count : Nat} :
    onGrid unit power count < overPower unit power amount ↔
      (count : ℚ) * 10 ^ power < amount * 2 ^ unit := by
  rw [← mul_lt_mul_iff_left₀ (scale_pos unit power), ← overPower_eq, ← onGrid_eq, Nat.cast_lt]

/-- The test for a point of a grid is exact. -/
theorem Interval.holds_eq_true {i : Interval} {power : Int} {count : Nat} :
    i.holds power count = true ↔ i.Holds (count * 10 ^ power) := by
  unfold Interval.holds
  dsimp only
  split
  · rename_i closed
    rw [Bool.and_eq_true, decide_eq_true_eq, decide_eq_true_eq, overPower_le_onGrid,
      onGrid_le_overPower]
    exact ⟨fun ⟨low, high⟩ => ⟨low, high, fun _ => closed⟩, fun holds => ⟨holds.low, holds.high⟩⟩
  · rename_i notClosed
    rw [Bool.and_eq_true, decide_eq_true_eq, decide_eq_true_eq, overPower_lt_onGrid,
      onGrid_lt_overPower]
    constructor
    · rintro ⟨low, high⟩
      exact ⟨low.le, high.le, fun isEnd => (isEnd.elim low.ne high.ne).elim⟩
    · rintro ⟨low, high, ends⟩
      exact ⟨lt_of_le_of_ne low fun isEnd => notClosed (ends (.inl isEnd)),
        lt_of_le_of_ne high fun isEnd => notClosed (ends (.inr isEnd))⟩

/-! ## The search -/

/-- What a grid gives lies in the interval. -/
theorem Interval.holds_of_nearest? {i : Interval} {tie : Tie} {power : Int} {digits : Nat}
    (found : i.nearest? tie power = some digits) : i.holds power digits = true := by
  unfold Interval.nearest? at found
  dsimp only at found
  split at found
  · rename_i below above
    obtain rfl := Option.some.inj found
    split
    · exact below
    · exact above
  · rename_i below _
    obtain rfl := Option.some.inj found
    exact below
  · rename_i _ above
    obtain rfl := Option.some.inj found
    exact above
  · simp at found

/-- The point of a grid below an amount. -/
theorem grid_below (unit power : Int) (amount : Nat) :
    ((overPower unit power amount / onGrid unit power 1 : Nat) : ℚ) * 10 ^ power ≤
        amount * 2 ^ unit ∧
      (amount : ℚ) * 2 ^ unit <
        ((overPower unit power amount / onGrid unit power 1 : Nat) + 1) * 10 ^ power := by
  have many (count : Nat) : onGrid unit power count = count * onGrid unit power 1 := by
    unfold onGrid
    ring
  have step : 0 < onGrid unit power 1 := by
    unfold onGrid
    rw [Nat.pow_eq, Nat.pow_eq]
    positivity
  constructor
  · rw [← onGrid_le_overPower, many]
    exact Nat.div_mul_le_self _ _
  · have next : overPower unit power amount <
        onGrid unit power (overPower unit power amount / onGrid unit power 1 + 1) := by
      rw [many]
      exact Nat.lt_mul_of_div_lt (Nat.lt_succ_self _) step
    rw [overPower_lt_onGrid] at next
    exact_mod_cast next

/-- A grid with steps shorter than the way to the lower end of the interval has a point in
it, the one below the number. -/
theorem nearest?_isSome (tie : Tie) (positive : mantissa ≠ 0) {power : Int}
    (fine : (10 : ℚ) ^ power < reach mantissa exponent * 2 ^ exponent) :
    ∃ digits, (interval mantissa exponent).nearest? tie power = some digits := by
  have inside : (interval mantissa exponent).holds power
      (overPower (interval mantissa exponent).unit power (interval mantissa exponent).value /
        onGrid (interval mantissa exponent).unit power 1) = true := by
    rw [Interval.holds_eq_true, holds_interval_iff positive]
    obtain ⟨notAbove, notBelow⟩ := grid_below (exponent - 2) power (4 * mantissa)
    have valueEq : ((4 * mantissa : Nat) : ℚ) * 2 ^ (exponent - 2) = mantissa * 2 ^ exponent := by
      rw [quarter_zpow]
      push_cast
      ring
    rw [valueEq] at notAbove notBelow
    dsimp only [interval]
    generalize overPower (exponent - 2) power (4 * mantissa) / onGrid (exponent - 2) power 1 =
      below at notAbove notBelow ⊢
    have last := two_zpow_pos exponent
    refine ⟨by linarith, by linarith, ?_⟩
    rintro (isEnd | isEnd)
    · linarith
    · linarith
  unfold Interval.nearest?
  dsimp only
  rw [inside]
  split <;> simp_all

/-- The first point that is found lies in the interval, if the last grid is fine enough. -/
theorem firstHit_holds (tie : Tie) (positive : mantissa ≠ 0) (tries : Nat) (power : Int)
    (fine : (10 : ℚ) ^ (power - tries) < reach mantissa exponent * 2 ^ exponent) :
    (interval mantissa exponent).Holds
      ((firstHit (interval mantissa exponent) tie tries power).digits *
        10 ^ (firstHit (interval mantissa exponent) tie tries power).exponent) := by
  induction tries generalizing power with
  | zero =>
    rw [Nat.cast_zero, sub_zero] at fine
    obtain ⟨digits, found⟩ := nearest?_isSome tie positive fine
    unfold firstHit
    rw [found]
    exact Interval.holds_eq_true.mp (Interval.holds_of_nearest? found)
  | succ tries ih =>
    unfold firstHit
    split
    · rename_i found
      exact Interval.holds_eq_true.mp (Interval.holds_of_nearest? found)
    · apply ih
      rwa [sub_sub, add_comm, ← Nat.cast_succ]

/-- Trailing zeros do not change the value of a decimal. -/
theorem dropZeros_eq (limit : Nat) (decimal : Decimal) :
    ((dropZeros limit decimal).digits : ℚ) * 10 ^ (dropZeros limit decimal).exponent =
      decimal.digits * 10 ^ decimal.exponent := by
  induction limit generalizing decimal with
  | zero => rfl
  | succ limit ih =>
    unfold dropZeros
    split
    · rename_i ends
      rw [ih, zpow_add_one₀ (by norm_num)]
      have whole : decimal.digits = decimal.digits / 10 * 10 := by omega
      conv_rhs => rw [whole]
      push_cast
      ring
    · rfl

/-! ## The leading digit -/

/-- Powers of ten and of two compare as their exponents do, up to one part in three hundred.
The two conditions are for the two signs. -/
theorem ten_zpow_le {power bits : Int} (above : 10 * power ≤ 3 * bits)
    (below : 43 * power ≤ 13 * bits) : (10 : ℚ) ^ power ≤ 2 ^ bits := by
  rcases Int.le_total 0 power with notNegative | notPositive
  · obtain ⟨n, rfl⟩ := Int.eq_ofNat_of_zero_le notNegative
    obtain ⟨m, rfl⟩ := Int.eq_ofNat_of_zero_le (show 0 ≤ bits by omega)
    rw [zpow_natCast, zpow_natCast]
    apply le_of_pow_le_pow_left₀ three_ne_zero (by positivity)
    calc ((10 : ℚ) ^ n) ^ 3 = (10 ^ 3) ^ n := by rw [← pow_mul, ← pow_mul, Nat.mul_comm]
      _ ≤ (2 ^ 10) ^ n := by gcongr; norm_num
      _ = 2 ^ (10 * n) := by rw [← pow_mul]
      _ ≤ 2 ^ (3 * m) := pow_le_pow_right₀ one_le_two (by omega)
      _ = (2 ^ m) ^ 3 := by rw [← pow_mul, Nat.mul_comm]
  · obtain ⟨n, rfl⟩ : ∃ n : Nat, power = -n := ⟨(-power).toNat, by omega⟩
    rcases Int.le_total 0 bits with large | small
    · calc (10 : ℚ) ^ (-n : Int) ≤ 1 := zpow_le_one_of_nonpos₀ (by norm_num) notPositive
        _ ≤ 2 ^ bits := one_le_zpow₀ (by norm_num) large
    · obtain ⟨m, rfl⟩ : ∃ m : Nat, bits = -m := ⟨(-bits).toNat, by omega⟩
      rw [zpow_neg, zpow_neg, zpow_natCast, zpow_natCast]
      apply inv_anti₀ (by positivity)
      apply le_of_pow_le_pow_left₀ (show (13 : Nat) ≠ 0 by decide) (by positivity)
      calc ((2 : ℚ) ^ m) ^ 13 = 2 ^ (13 * m) := by rw [← pow_mul, Nat.mul_comm]
        _ ≤ 2 ^ (43 * n) := pow_le_pow_right₀ one_le_two (by omega)
        _ = (2 ^ 43) ^ n := by rw [← pow_mul]
        _ ≤ (10 ^ 13) ^ n := by gcongr; norm_num
        _ = (10 ^ n) ^ 13 := by rw [← pow_mul, ← pow_mul, Nat.mul_comm]

/-- The power of ten before the one found above a number is not above it. -/
theorem ten_zpow_powerAbove_le (canonical : Canonical mantissa exponent)
    (positive : mantissa ≠ 0) :
    (10 : ℚ) ^ (powerAbove mantissa exponent - 1) ≤ mantissa * 2 ^ exponent := by
  have notAbove {power : Int}
      (test : ¬ overPower exponent power mantissa < onGrid exponent power 1) :
      (10 : ℚ) ^ power ≤ mantissa * 2 ^ exponent := by
    rw [Nat.not_lt, onGrid_le_overPower, Nat.cast_one, one_mul] at test
    exact test
  unfold powerAbove
  simp only [decide_eq_true_eq]
  split
  · have fits : mantissa.log2 < 53 := (Nat.log2_lt positive).mpr canonical.1
    obtain ⟨-, least, most, -⟩ := canonical
    refine le_trans (ten_zpow_le ?_ ?_) (log2_bounds positive exponent).1
    · omega
    · omega
  · rename_i first
    split
    · rw [show ∀ n : Int, n - 1 - 1 = n - 2 by omega]
      exact notAbove first
    · rename_i second
      exact notAbove second

/-! ## The shortest decimal -/

/-- The shortest decimal of a number lies in its interval. -/
theorem shortest_holds (tie : Tie) (canonical : Canonical mantissa exponent)
    (positive : mantissa ≠ 0) :
    (interval mantissa exponent).Holds
      ((shortest tie mantissa exponent).digits *
        10 ^ (shortest tie mantissa exponent).exponent) := by
  unfold shortest
  rw [if_neg positive]
  dsimp only
  rw [dropZeros_eq]
  apply firstHit_holds tie positive
  have leading := ten_zpow_powerAbove_le canonical positive
  have last := two_zpow_pos exponent
  have fits : (mantissa : ℚ) < 2 ^ 53 := by exact_mod_cast canonical.1
  have quarter : 1 / 4 ≤ reach mantissa exponent := by
    unfold reach
    split <;> norm_num
  calc (10 : ℚ) ^ (powerAbove mantissa exponent - 1 - (17 : Nat))
      = 10 ^ (powerAbove mantissa exponent - 1) / 10 ^ 17 := by
        rw [zpow_sub₀ (by norm_num), zpow_natCast]
    _ ≤ mantissa * 2 ^ exponent / 10 ^ 17 := by gcongr
    _ < 2 ^ 53 * 2 ^ exponent / 10 ^ 17 := by gcongr
    _ ≤ 1 / 4 * 2 ^ exponent := by linarith
    _ ≤ reach mantissa exponent * 2 ^ exponent := by gcongr

/-- What lies in the interval of a number is positive. -/
theorem pos_of_holds (positive : mantissa ≠ 0) {x : ℚ}
    (holds : (interval mantissa exponent).Holds x) : 0 < x := by
  have below := ((holds_interval_iff positive).mp holds).1
  have half := reach_le mantissa exponent
  have atLeast : (1 : ℚ) ≤ mantissa := by exact_mod_cast Nat.pos_of_ne_zero positive
  have last := two_zpow_pos exponent
  refine lt_of_lt_of_le (mul_pos ?_ last) below
  linarith

/-- A number lies in its own interval. -/
theorem holds_self (positive : mantissa ≠ 0) :
    (interval mantissa exponent).Holds (mantissa * 2 ^ exponent) := by
  rw [holds_interval_iff positive]
  have last := two_zpow_pos exponent
  have quarter : 0 < reach mantissa exponent := by
    unfold reach
    split <;> norm_num
  have way := mul_pos quarter last
  refine ⟨by linarith, by linarith, ?_⟩
  rintro (isEnd | isEnd)
  · linarith
  · linarith

/-! ## Reading decimals -/

theorem two_pow_le_ten_pow (places : Nat) : (2 : ℚ) ^ (3 * places) ≤ 10 ^ places := by
  rw [pow_mul]
  exact pow_le_pow_left₀ (by norm_num) (by norm_num) places

/-- The range of what rounds to a positive number. -/
theorem range_of_holds (canonical : Canonical mantissa exponent) (positive : mantissa ≠ 0) {x : ℚ}
    (holds : (interval mantissa exponent).Holds x) :
    (2 : ℚ) ^ (-1075 : Int) ≤ x ∧ x < 2 ^ (1024 : Int) := by
  obtain ⟨below, above, -⟩ := (holds_interval_iff positive).mp holds
  have half := reach_le mantissa exponent
  have last := two_zpow_pos exponent
  have atLeast : (1 : ℚ) ≤ mantissa := by exact_mod_cast Nat.pos_of_ne_zero positive
  have fits : (mantissa : ℚ) + 1 ≤ 2 ^ 53 := by exact_mod_cast canonical.1
  constructor
  · calc (2 : ℚ) ^ (-1075 : Int) = 2 ^ (-1 : Int) * 2 ^ (-1074 : Int) := by
          rw [← zpow_add₀ two_ne_zero]
          rfl
      _ ≤ (mantissa - reach mantissa exponent) * 2 ^ exponent := by
        apply mul_le_mul _ _ (by positivity) (by linarith)
        · norm_num
          linarith
        · exact zpow_le_zpow_right₀ one_le_two canonical.2.1
      _ ≤ x := below
  · calc x ≤ (mantissa + 1 / 2) * 2 ^ exponent := above
      _ < 2 ^ 53 * 2 ^ exponent := mul_lt_mul_of_pos_right (by linarith) last
      _ ≤ 2 ^ 53 * 2 ^ (971 : Int) := by
        apply mul_le_mul_of_nonneg_left _ (by positivity)
        exact zpow_le_zpow_right₀ one_le_two canonical.2.2.1
      _ = 2 ^ (1024 : Int) := by
        rw [← zpow_natCast, ← zpow_add₀ two_ne_zero]
        rfl

/-- A decimal in the interval of a number is read as that number. -/
theorem ofDecimal_of_holds (canonical : Canonical mantissa exponent) (positive : mantissa ≠ 0)
    {decimal : Decimal}
    (holds : (interval mantissa exponent).Holds (decimal.digits * 10 ^ decimal.exponent)) :
    ofDecimal false decimal = .finite false mantissa exponent canonical := by
  obtain ⟨digits, power⟩ := decimal
  dsimp only at holds
  obtain ⟨low, high⟩ := range_of_holds canonical positive holds
  have some' : digits ≠ 0 := by
    rintro rfl
    have isPositive := pos_of_holds positive holds
    simp at isPositive
  unfold ofDecimal
  dsimp only
  rw [if_neg some']
  split
  · rename_i notNegative
    obtain ⟨places, rfl⟩ := Int.eq_ofNat_of_zero_le notNegative
    rw [zpow_natCast] at high holds
    have inRange : ¬ 342 ≤ (places : Int) := by
      intro large
      have atLeast : (1 : ℚ) ≤ digits := by exact_mod_cast Nat.pos_of_ne_zero some'
      have range : (2 : ℚ) ^ (3 * places : Int) < 2 ^ (1024 : Int) := by
        calc (2 : ℚ) ^ (3 * places : Int) = 2 ^ (3 * places) := by norm_cast
          _ ≤ 1 * 10 ^ places := by rw [one_mul]; exact two_pow_le_ten_pow places
          _ ≤ digits * 10 ^ places := mul_le_mul_of_nonneg_right atLeast (by positivity)
          _ < _ := high
      have bits := lt_of_zpow_lt range
      omega
    rw [if_neg inRange]
    apply round_of_holds false canonical positive
      (Nat.mul_ne_zero some' (Nat.pow_pos (by decide)).ne')
    simpa using holds
  · rename_i isNegative
    obtain ⟨places, rfl⟩ : ∃ places : Nat, power = -places := ⟨(-power).toNat, by omega⟩
    have placesEq : (-(-places : Int)).toNat = places := by omega
    have tenPos : (0 : ℚ) < 10 ^ places := by positivity
    rw [zpow_neg (10 : ℚ), zpow_natCast, ← div_eq_mul_inv] at low holds
    have inRange : ¬ digits.log2 + 1080 < 3 * places := by
      intro small
      rw [le_div_iff₀ tenPos] at low
      have digitsBound : (digits : ℚ) < 2 ^ (digits.log2 + 1) := by
        exact_mod_cast Nat.lt_log2_self
      have range : (2 : ℚ) ^ (-1075 + 3 * places : Int) < 2 ^ (digits.log2 + 1 : Int) := by
        calc (2 : ℚ) ^ (-1075 + 3 * places : Int) = 2 ^ (-1075 : Int) * 2 ^ (3 * places) := by
              rw [zpow_add₀ two_ne_zero]
              norm_cast
          _ ≤ 2 ^ (-1075 : Int) * 10 ^ places :=
              mul_le_mul_of_nonneg_left (two_pow_le_ten_pow places) (two_zpow_pos _).le
          _ ≤ digits := low
          _ < 2 ^ (digits.log2 + 1) := digitsBound
          _ = 2 ^ (digits.log2 + 1 : Int) := by norm_cast
      have bits := lt_of_zpow_lt range
      omega
    rw [placesEq, if_neg inRange]
    refine roundRatio_of_holds false canonical positive some' (Nat.pow_pos (by decide)) ?_
    rw [Nat.pow_eq, Nat.cast_pow]
    exact_mod_cast holds

end Number

end TemplateLang
