import TemplateLang.Helper.Sliced
import TemplateLang.Proofs.Number.Order

/-!
# Line numbers and cuts

Up to `2 ^ 53` lines are counted exactly by doubles.  So a line number leads to the line that it
counts to, from either end, an offset moves a cut by as many lines, and no cut goes beyond the
lines, whatever number stands for it.
-/

namespace TemplateLang

namespace Number

variable {x y : Number} {n : Int}

/-- Without its fraction a number is the integer that it is cut to. -/
theorem toInt?_trunc (cutTo : x.truncate? = some n) : x.trunc.toInt? = some n := by
  rcases eq_finite_of_truncate? cutTo with ⟨s, m, e, canonical, rfl⟩
  rw [truncate?, Option.some.injEq] at cutTo
  subst cutTo
  unfold trunc
  dsimp only
  by_cases whole : 0 ≤ e
  · rw [if_pos whole, if_pos whole, toInt?, isIntegral, decide_eq_true whole, Bool.true_or,
      if_pos rfl, truncate?, if_pos whole]
  · rw [if_neg whole, if_neg whole]
    have small : m / Nat.pow 2 (-e).toNat < 2 ^ 53 :=
      Nat.lt_of_le_of_lt (Nat.div_le_self _ _) canonical.1
    generalize m / Nat.pow 2 (-e).toNat = quotient at small
    have natural : (round false quotient 0).toInt? = some (quotient : Int) := by
      have kept := toInt?_ofInt small
      rwa [ofInt, decide_eq_false (by omega), Int.natAbs_natCast] at kept
    cases s with
    | false => exact natural
    | true =>
      rw [← Bool.not_false, ← neg_round]
      exact toInt?_neg_of natural

/-- What a number without its fraction is cut to, it is. -/
theorem toInt?_of_truncate?_trunc (cutTo : x.trunc.truncate? = some n) :
    x.trunc.toInt? = some n := by
  cases x with
  | nan => exact nomatch cutTo
  | infinite => exact nomatch cutTo
  | finite s m e canonical =>
    have isInt := toInt?_trunc (x := finite s m e canonical) rfl
    rw [isInt, ← truncate?_of_toInt? isInt, cutTo]

theorem less_nan (x : Number) : x.less nan = false := by
  cases x <;> rfl

/-- An integer lies between the infinities. -/
theorem less_infinite (isInt : x.toInt? = some n) (isNegative : Bool) :
    x.less (infinite isNegative) = !isNegative ∧ (infinite isNegative).less x = isNegative := by
  rcases eq_finite_of_toInt? isInt with ⟨_, _, _, _, rfl⟩
  cases isNegative <;> exact ⟨rfl, rfl⟩

theorem lessEqual_nan (x : Number) : x.lessEqual nan = false ∧ nan.lessEqual x = false := by
  cases x <;> exact ⟨rfl, rfl⟩

theorem lessEqual_infinite (isInt : x.toInt? = some n) (isNegative : Bool) :
    x.lessEqual (infinite isNegative) = !isNegative ∧
      (infinite isNegative).lessEqual x = isNegative := by
  rcases eq_finite_of_toInt? isInt with ⟨_, _, _, _, rfl⟩
  cases isNegative <;> exact ⟨rfl, rfl⟩

end Number

namespace Helper

open Number

variable {limit : Nat} {x y : Number} {n : Int}

/-! ## Cuts -/

@[simp]
theorem clampTo_nan (limit : Nat) : clampTo limit nan = 0 :=
  rfl

@[simp]
theorem clampTo_infinite (limit : Nat) (isNegative : Bool) :
    clampTo limit (infinite isNegative) = if isNegative then 0 else limit :=
  rfl

theorem clampTo_of_truncate? (cutTo : x.truncate? = some n) (limit : Nat) :
    clampTo limit x = min n.toNat limit := by
  rcases eq_finite_of_truncate? cutTo with ⟨_, _, _, _, rfl⟩
  unfold clampTo
  dsimp only
  rw [cutTo]

theorem clampTo_of_toInt? (isInt : x.toInt? = some n) (limit : Nat) :
    clampTo limit x = min n.toNat limit :=
  clampTo_of_truncate? (truncate?_of_toInt? isInt) limit

/-- Beyond `2 ^ 53` it does not matter for a cut which number it is. -/
theorem clampTo_of_standsFor (few : limit ≤ 2 ^ 53) (stands : x.StandsFor n) :
    clampTo limit x = min n.toNat limit := by
  cases stands with
  | same isInt => exact clampTo_of_toInt? isInt limit
  | above isInt large isAbove =>
    rw [clampTo_of_toInt? isInt]
    omega
  | below isInt large isBelow =>
    rw [clampTo_of_toInt? isInt]
    omega
  | infinite isAbove =>
    simp only [clampTo_infinite, Bool.false_eq_true, if_false]
    omega
  | negativeInfinite isBelow =>
    simp only [clampTo_infinite, if_true]
    omega

theorem clampTo_le (limit : Nat) (x : Number) : clampTo limit x ≤ limit := by
  cases x with
  | nan => exact Nat.zero_le limit
  | infinite s => cases s <;> simp
  | finite =>
    rw [clampTo_of_truncate? rfl]
    exact Nat.min_le_right _ _

theorem clampTo_trunc (limit : Nat) (x : Number) : clampTo limit x.trunc = clampTo limit x := by
  cases x with
  | nan => rfl
  | infinite => rfl
  | finite =>
    rw [clampTo_of_toInt? (toInt?_trunc rfl), clampTo_of_truncate? rfl]

/-- An offset moves a cut by as many lines, up to either end. -/
theorem clampTo_add {a b : Int} (few : limit ≤ 2 ^ 53) (isFirst : x.toInt? = some a)
    (isSecond : y.toInt? = some b) : clampTo limit (x + y) = min (a + b).toNat limit := by
  rcases add_of_toInt? isFirst isSecond with sum | ⟨sum, isZero⟩
  · rw [sum]
    exact clampTo_of_standsFor few (standsFor_ofInt (a + b))
  · rw [sum, isZero]
    exact clampTo_of_toInt? (toInt?_of_isZero rfl) limit

/-- A number without a fraction that is moved between zero and a limit, as a size. -/
theorem toSize_clamp? (few : limit ≤ 2 ^ 53)
    (whole : ∀ n, x.truncate? = some n → x.toInt? = some n) :
    (clamp? (zero false) (ofInt limit) x).map toSize = some (clampTo limit x) := by
  have isZero : (zero false).toInt? = some 0 := toInt?_zero
  have isLimit : (ofInt limit).toInt? = some (limit : Int) := toInt?_ofInt_of_le few
  have ordered : (zero false).lessEqual (ofInt limit) = true := by
    rw [lessEqual_of_toInt? isZero isLimit]
    exact decide_eq_true (Int.natCast_nonneg limit)
  have sizes : limit ≤ sizeBound - 1 := Nat.le_trans few (by decide)
  have inside {y : Number} {m : Int} (isInt : y.toInt? = some m) (le : m ≤ limit) :
      toSize y = min m.toNat limit := by
    rw [toSize, clampTo_of_toInt? isInt]
    omega
  unfold clamp?
  rw [if_pos ordered, Option.map_some, Option.some.injEq]
  cases x with
  | nan =>
    rw [less_nan]
    rfl
  | infinite s =>
    rw [(less_infinite isZero s).2, (less_infinite isLimit s).1]
    cases s with
    | false =>
      simp only [Bool.false_eq_true, if_false, Bool.not_false, if_true, clampTo_infinite]
      rw [inside isLimit (Int.le_refl _)]
      omega
    | true =>
      simp only [if_true, clampTo_infinite]
      rw [inside isZero (Int.natCast_nonneg limit)]
      exact Nat.zero_min limit
  | finite s m e canonical =>
    have isInt := whole _ rfl
    rw [clampTo_of_toInt? isInt, less_of_toInt? isInt isZero, less_of_toInt? isLimit isInt]
    generalize finite s m e canonical = y at isInt
    generalize signed s _ = n at isInt
    by_cases isBefore : n < 0
    · rw [if_pos (decide_eq_true isBefore), inside isZero (by omega)]
      omega
    · rw [if_neg (by simpa using isBefore)]
      by_cases isAfter : limit < n
      · rw [if_pos (decide_eq_true isAfter), inside isLimit (Int.le_refl _)]
        omega
      · rw [if_neg (by simpa using isAfter), inside isInt (by omega)]

/-- A cut in doubles is within the lines, and the cut in natural numbers. -/
theorem cut?_eq (few : limit ≤ 2 ^ 53) (x : Number) : cut? limit x = some (clampTo limit x) := by
  obtain ⟨inside, isInside, size⟩ := Option.map_eq_some_iff.mp
    (toSize_clamp? few fun _ => toInt?_of_truncate?_trunc (x := x))
  unfold cut?
  rw [isInside]
  simp only [Option.bind_eq_bind, Option.bind_some]
  rw [size, clampTo_trunc, if_pos (clampTo_le limit x)]

/-! ## Line numbers -/

theorem toSize_of_toInt? (isInt : x.toInt? = some n) (low : 0 ≤ n) (high : n ≤ 2 ^ 53) :
    (toSize x : Int) = n := by
  have sizes : 2 ^ 53 ≤ sizeBound - 1 := by decide
  rw [toSize, clampTo_of_toInt? isInt]
  omega

/-- A number from one on names the line that it counts to. -/
theorem lineOfNumber?_ofInt {k : Int} (first : 1 ≤ k) (few : k ≤ 2 ^ 53) (lineCount : Nat) :
    lineOfNumber? lineCount (ofInt k) = some (k - 1).toNat := by
  have isOne : (ofInt 1).toInt? = some 1 := toInt?_ofInt_of_le (by decide)
  have isInt : (ofInt k).toInt? = some k := toInt?_ofInt_of_le (by omega)
  have size := toSize_of_toInt? isInt (by omega) few
  unfold lineOfNumber?
  rw [lessEqual_of_toInt? isOne isInt, if_pos (decide_eq_true first), ← toSize]
  congr 1
  omega

/-- A negative number names the line that it counts to from the end. -/
theorem lineOfNumber?_neg {k : Int} {lineCount : Nat} (few : lineCount ≤ 2 ^ 53) (first : 1 ≤ k)
    (last : k ≤ lineCount) :
    lineOfNumber? lineCount (ofInt (-k)) = some (lineCount - k).toNat := by
  have isOne : (ofInt 1).toInt? = some 1 := toInt?_ofInt_of_le (by decide)
  have isMinusOne : (ofInt (-1)).toInt? = some (-1) := toInt?_ofInt_of_le (by decide)
  have isInt : (ofInt (-k)).toInt? = some (-k) := toInt?_ofInt_of_le (by omega)
  have notFirst : ¬ 1 ≤ -k := by omega
  have isNegative : -k ≤ -1 := by omega
  unfold lineOfNumber?
  rw [lessEqual_of_toInt? isOne isInt, if_neg (by simpa using notFirst),
    lessEqual_of_toInt? isInt isMinusOne, if_pos (decide_eq_true isNegative),
    truncate?_of_toInt? isInt]
  dsimp only
  rw [if_pos (by omega)]
  congr 1
  omega

/-- A line is located in doubles where it is in natural numbers. -/
theorem locate?_eq {lineCount : Nat} (few : lineCount ≤ 2 ^ 53) (x : Number) :
    locate? lineCount x = some (lineOfNumber? lineCount x) := by
  have isOne : (ofInt 1).toInt? = some 1 := toInt?_ofInt_of_le (by decide)
  have isMinusOne : (ofInt (-1)).toInt? = some (-1) := toInt?_ofInt_of_le (by decide)
  have isCount : (ofInt lineCount).toInt? = some (lineCount : Int) := toInt?_ofInt_of_le few
  unfold locate? lineOfNumber?
  dsimp only
  cases x with
  | nan =>
    rw [(lessEqual_nan _).1, (lessEqual_nan _).2]
    rfl
  | infinite s =>
    cases s with
    | false =>
      rw [(lessEqual_infinite isOne false).1]
      rfl
    | true =>
      have opposite : -(infinite true).trunc = infinite false := rfl
      rw [(lessEqual_infinite isOne true).1, (lessEqual_infinite isMinusOne true).2, opposite,
        (lessEqual_infinite isCount false).2]
      rfl
  | finite s m e canonical =>
    have isInt := toInt?_trunc (x := finite s m e canonical) rfl
    have cutTo : (finite s m e canonical).truncate? = some _ := rfl
    generalize signed s _ = part at isInt cutTo
    generalize finite s m e canonical = x at isInt cutTo
    split
    · rename_i isFrom
      have low := one_le_of_lessEqual cutTo isFrom
      have same : toSize x.trunc = clampTo (sizeBound - 1) x := by
        rw [toSize, clampTo_of_toInt? isInt, clampTo_of_truncate? cutTo]
      have sizes : 1 ≤ sizeBound - 1 := by decide
      have some' : 1 ≤ clampTo (sizeBound - 1) x := by
        rw [clampTo_of_truncate? cutTo]
        omega
      rw [same, if_pos some']
    · split
      · rename_i isTo
        have high := nonpos_of_lessEqual cutTo isTo
        have fromEnd := toInt?_neg_of isInt
        rw [lessEqual_of_toInt? fromEnd isCount, cutTo]
        dsimp only
        by_cases within : -part ≤ lineCount
        · have rest : (ofInt lineCount - -x.trunc).toInt? = some (lineCount + - -part) :=
            toInt?_add isCount (toInt?_neg_of fromEnd) (by omega)
          have size := toSize_of_toInt? rest (by omega) (by omega)
          rw [if_pos (decide_eq_true within), if_pos (by omega)]
          congr 2
          omega
        · rw [if_neg (by simpa using within), if_neg (by omega)]
      · rfl

end Helper

end TemplateLang
