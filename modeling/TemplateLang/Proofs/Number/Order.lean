import TemplateLang.Proofs.Number.Integers

/-!
# The order of numbers

Every finite number is a whole multiple of the least unit, `2 ^ -1074`, and numbers compare as
these multiples do.  So equality holds between numbers at the same place, of which NaN has none.
-/

namespace TemplateLang

namespace Number

/-- A signed finite number in least units. -/
def inLeastUnits (isNegative : Bool) (mantissa : Nat) (exponent : Int) : Int :=
  inUnits isNegative mantissa exponent (-1074)

/-- An amount in units is a multiple of that amount in smaller units. -/
theorem inUnits_mul {isNegative : Bool} {mantissa : Nat} {exponent unit smaller : Int}
    (le : unit ≤ exponent) (isSmaller : smaller ≤ unit) :
    inUnits isNegative mantissa exponent smaller =
      inUnits isNegative mantissa exponent unit * 2 ^ (unit - smaller).toNat := by
  have places : (exponent - smaller).toNat = (exponent - unit).toNat + (unit - smaller).toNat := by
    omega
  unfold inUnits
  rw [places]
  change signed isNegative (mantissa * 2 ^ _) = signed isNegative (mantissa * 2 ^ _) * 2 ^ _
  rw [Nat.pow_add, ← Nat.mul_assoc, signed_mul]
  push_cast
  rfl

theorem compare_mul_right {a b factor : Int} (positive : 0 < factor) :
    compare (a * factor) (b * factor) = compare a b := by
  rcases lt_trichotomy a b with less | rfl | greater
  · rw [compare_lt_iff_lt.mpr less, compare_lt_iff_lt]
    exact Int.mul_lt_mul_of_pos_right less positive
  · simp
  · rw [compare_gt_iff_gt.mpr greater, compare_gt_iff_gt]
    exact Int.mul_lt_mul_of_pos_right greater positive

section

variable {s t : Bool} {m n : Nat} {e f : Int} {canonical : Canonical m e}
  {canonical' : Canonical n f}

/-- Finite numbers compare in least units. -/
theorem compare?_finite :
    (finite s m e canonical).compare? (finite t n f canonical') =
      some (compare (inLeastUnits s m e) (inLeastUnits t n f)) := by
  have least : -1074 ≤ min e f := Int.le_min.mpr ⟨canonical.2.1, canonical'.2.1⟩
  unfold compare? inLeastUnits
  dsimp only
  rw [inUnits_mul (Int.min_le_left e f) least, inUnits_mul (Int.min_le_right e f) least,
    compare_mul_right (Int.pow_pos (by decide))]

/-- An integer in least units. -/
theorem inLeastUnits_of_toInt? {a : Int} (isInt : (finite s m e canonical).toInt? = some a) :
    inLeastUnits s m e = a * 2 ^ 1074 := by
  have wholes := inUnits_of_toInt? isInt canonical.2.1
  have none : (-1074 : Int).toNat = 0 := rfl
  rw [none, pow_zero, mul_one] at wholes
  exact wholes

end

/-- Integers compare as such. -/
theorem compare?_of_toInt? {x y : Number} {a b : Int} (isFirst : x.toInt? = some a)
    (isSecond : y.toInt? = some b) : x.compare? y = some (compare a b) := by
  rcases eq_finite_of_toInt? isFirst with ⟨_, _, _, _, rfl⟩
  rcases eq_finite_of_toInt? isSecond with ⟨_, _, _, _, rfl⟩
  rw [compare?_finite, inLeastUnits_of_toInt? isFirst, inLeastUnits_of_toInt? isSecond,
    compare_mul_right (Int.pow_pos (by decide))]

theorem less_of_toInt? {x y : Number} {a b : Int} (isFirst : x.toInt? = some a)
    (isSecond : y.toInt? = some b) : x.less y = decide (a < b) := by
  rw [less, compare?_of_toInt? isFirst isSecond, Bool.eq_iff_iff]
  simp [compare_lt_iff_lt]

theorem lessEqual_of_toInt? {x y : Number} {a b : Int} (isFirst : x.toInt? = some a)
    (isSecond : y.toInt? = some b) : x.lessEqual y = decide (a ≤ b) := by
  rw [lessEqual, less_of_toInt? isFirst isSecond, equals, compare?_of_toInt? isFirst isSecond,
    Bool.eq_iff_iff]
  simp [Int.le_iff_lt_or_eq]

/-! ## Integer parts -/

section

variable {s t : Bool} {m n : Nat} {e f : Int} {canonical : Canonical m e}
  {canonical' : Canonical n f}

theorem lessEqual_finite :
    (finite s m e canonical).lessEqual (finite t n f canonical') =
      decide (inLeastUnits s m e ≤ inLeastUnits t n f) := by
  rw [lessEqual, less, equals, compare?_finite, Bool.eq_iff_iff]
  simp [compare_lt_iff_lt, Int.le_iff_lt_or_eq]

end

theorem inLeastUnits_false_nonneg (mantissa : Nat) (exponent : Int) :
    0 ≤ inLeastUnits false mantissa exponent :=
  inUnits_nonneg mantissa exponent (-1074)

theorem inLeastUnits_true (mantissa : Nat) (exponent : Int) :
    inLeastUnits true mantissa exponent = -inLeastUnits false mantissa exponent :=
  rfl

/-- A finite number other than zero lies on the side of zero that its sign tells. -/
theorem less_zero_finite (s : Bool) {m : Nat} {e : Int} (canonical : Canonical m e)
    (nonzero : m ≠ 0) :
    (zero false).less (finite s m e canonical) = !s ∧
      (finite s m e canonical).less (zero false) = s := by
  have isZero : inLeastUnits false 0 (-1074) = 0 := rfl
  have positive : 0 < inLeastUnits false m e :=
    Int.natCast_pos.mpr (Nat.mul_pos (Nat.pos_of_ne_zero nonzero) (Nat.two_pow_pos _))
  unfold less zero
  rw [compare?_finite, compare?_finite, isZero]
  cases s with
  | false =>
    rw [compare_lt_iff_lt.mpr positive, compare_gt_iff_gt.mpr positive]
    exact ⟨rfl, rfl⟩
  | true =>
    have negative : inLeastUnits true m e < 0 := by
      rw [inLeastUnits_true]
      omega
    rw [compare_lt_iff_lt.mpr negative, compare_gt_iff_gt.mpr negative]
    exact ⟨rfl, rfl⟩

/-- A number from one on has an integer part from one on. -/
theorem one_le_of_lessEqual {x : Number} {part : Int} (cutTo : x.truncate? = some part)
    (isFrom : (ofInt 1).lessEqual x = true) : 1 ≤ part := by
  have isOne : (ofInt 1).toInt? = some 1 := toInt?_ofInt_of_le (by decide)
  rcases eq_finite_of_truncate? cutTo with ⟨s, m, e, canonical, rfl⟩
  rcases eq_finite_of_toInt? isOne with ⟨_, _, _, _, one⟩
  rw [truncate?, Option.some.injEq] at cutTo
  subst cutTo
  rw [one] at isOne isFrom
  rw [lessEqual_finite, decide_eq_true_eq, inLeastUnits_of_toInt? isOne, Int.one_mul] at isFrom
  cases s with
  | true =>
    have power : (0 : Int) < 2 ^ 1074 := Int.pow_pos (by decide)
    have notNegative := inLeastUnits_false_nonneg m e
    rw [inLeastUnits_true] at isFrom
    generalize (2 : Int) ^ 1074 = unit at power isFrom
    omega
  | false =>
    change (2 : Int) ^ 1074 ≤ ((m * 2 ^ (e - -1074).toNat : Nat) : Int) at isFrom
    have reaches : 2 ^ 1074 ≤ m * 2 ^ (e - -1074).toNat := by exact_mod_cast isFrom
    have natural : 1 ≤ if 0 ≤ e then m * 2 ^ e.toNat else m / 2 ^ (-e).toNat := by
      split
      · have some' : m ≠ 0 := by
          rintro rfl
          rw [Nat.zero_mul] at reaches
          exact absurd reaches (Nat.not_le.mpr (Nat.two_pow_pos _))
        exact Nat.mul_pos (Nat.pos_of_ne_zero some') (Nat.two_pow_pos _)
      · have least := canonical.2.1
        have parts : 1074 = (-e).toNat + (e - -1074).toNat := by omega
        rw [parts, Nat.pow_add] at reaches
        rw [Nat.le_div_iff_mul_le (Nat.two_pow_pos _), Nat.one_mul]
        exact Nat.le_of_mul_le_mul_right reaches (Nat.two_pow_pos _)
    exact Int.ofNat_le.mpr natural

/-- A number up to minus one has no positive integer part. -/
theorem nonpos_of_lessEqual {x : Number} {part : Int} (cutTo : x.truncate? = some part)
    (isTo : x.lessEqual (ofInt (-1)) = true) : part ≤ 0 := by
  have isMinusOne : (ofInt (-1)).toInt? = some (-1) := toInt?_ofInt_of_le (by decide)
  rcases eq_finite_of_truncate? cutTo with ⟨s, m, e, canonical, rfl⟩
  rw [truncate?, Option.some.injEq] at cutTo
  subst cutTo
  cases s with
  | true => exact Int.neg_nonpos_of_nonneg (Int.natCast_nonneg _)
  | false =>
    rcases eq_finite_of_toInt? isMinusOne with ⟨_, _, _, _, minusOne⟩
    rw [minusOne] at isMinusOne isTo
    rw [lessEqual_finite, decide_eq_true_eq, inLeastUnits_of_toInt? isMinusOne] at isTo
    have power : (0 : Int) < 2 ^ 1074 := Int.pow_pos (by decide)
    have notNegative := inLeastUnits_false_nonneg m e
    generalize (2 : Int) ^ 1074 = unit at power isTo
    omega

/-! ## Equality -/

/-- Where a number lies: beyond all finite numbers on one side, or so many least units away from
zero.  NaN lies nowhere. -/
def place? : Number → Option (Bool ⊕ Int)
  | nan => none
  | infinite isNegative => some (.inl isNegative)
  | finite isNegative mantissa exponent _ => some (.inr (inLeastUnits isNegative mantissa exponent))

/-- Numbers are equal if they lie at the same place. -/
theorem equals_iff {x y : Number} :
    x.equals y = true ↔ ∃ place, x.place? = some place ∧ y.place? = some place := by
  rw [equals, beq_iff_eq]
  cases x with
  | nan => simp [compare?, place?]
  | infinite s =>
    cases y with
    | nan => simp [compare?, place?]
    | infinite t => cases s <;> cases t <;> simp [compare?, place?, signed]
    | finite => cases s <;> simp [compare?, place?]
  | finite =>
    cases y with
    | nan => simp [compare?, place?]
    | infinite t => cases t <;> simp [compare?, place?]
    | finite =>
      rw [compare?_finite, Option.some.injEq, compare_eq_iff_eq]
      simp [place?, eq_comm]

theorem equals_comm (x y : Number) : x.equals y = y.equals x := by
  rw [Bool.eq_iff_iff, equals_iff, equals_iff]
  exact exists_congr fun _ => And.comm

theorem equals_trans {x y z : Number} (first : x.equals y = true) (second : y.equals z = true) :
    x.equals z = true := by
  rw [equals_iff] at first second ⊢
  rcases first with ⟨place, isFirst, isMiddle⟩
  rcases second with ⟨_, isMiddle', isLast⟩
  rcases Option.some.inj (isMiddle.symm.trans isMiddle') with rfl
  exact ⟨place, isFirst, isLast⟩

/-- NaN is the one number that differs from itself. -/
theorem equals_self_iff {x : Number} : x.equals x = true ↔ x ≠ nan := by
  rw [equals_iff]
  cases x <;> simp [place?]

end Number

end TemplateLang
