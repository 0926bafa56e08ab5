import TemplateLang.Helper.Collections
import TemplateLang.Proofs.Number.Order

/-!
# Numbers in steps

`seq` goes from its first number in steps until one has passed the last.  Doubles may round a
step away, and then no number ever passes it.  With integers up to `2 ^ 52` this cannot happen:
every sum is exact, the one beyond the last number too, so the numbers are an arithmetic
progression and there are finitely many.

The definition takes at most so many steps as a bound allows.  `Progresses` says the same without
a bound, and is what the bound is measured against.
-/

namespace TemplateLang.Helper

open Number

/-! ## Going on and ending -/

/-- Whether a number has not passed the last one, in the direction of the step. -/
def isWithin (step stop current : Number) : Bool :=
  ((zero false).less step && current.lessEqual stop) ||
    (step.less (zero false) && stop.lessEqual current)

/-- The numbers in steps from one on, which end with the last that is within. -/
inductive Progresses (step stop : Number) : Number → List Number → Prop where
  | past {current : Number} (isPast : isWithin step stop current = false) :
      Progresses step stop current []
  | next {current : Number} {rest : List Number} (within : isWithin step stop current = true)
      (later : Progresses step stop (current + step) rest) :
      Progresses step stop current (current :: rest)

variable {step stop current : Number}

/-- For a step that `seq` accepts, its sign alone tells the direction. -/
theorem isWithin_eq (finite : isFinite step = true) (nonzero : step.isZero = false) :
    isWithin step stop current =
      if step.isNegative then stop.lessEqual current else current.lessEqual stop := by
  cases step with
  | nan => exact nomatch finite
  | infinite => exact nomatch finite
  | finite s m e canonical =>
    have some' : m ≠ 0 := by
      rintro rfl
      exact nomatch nonzero
    rcases less_zero_finite s canonical some' with ⟨isAbove, isBelow⟩
    rw [isWithin, isAbove, isBelow]
    cases s <;> simp [Number.isNegative]

/-- Enough steps give all of the numbers. -/
theorem progressionFrom_eq {values : List Number} (finite : isFinite step = true)
    (nonzero : step.isZero = false) (run : Progresses step stop current values) {fuel : Nat}
    (enough : values.length ≤ fuel) : progressionFrom step stop fuel current = values := by
  induction run generalizing fuel with
  | past isPast =>
    rw [isWithin_eq finite nonzero] at isPast
    cases fuel with
    | zero => rfl
    | succ fuel =>
      unfold progressionFrom
      dsimp only
      rw [isPast]
      rfl
  | @next current rest within later ih =>
    rw [isWithin_eq finite nonzero] at within
    cases fuel with
    | zero => exact absurd enough (Nat.not_succ_le_zero _)
    | succ fuel =>
      unfold progressionFrom
      dsimp only
      rw [within, if_pos rfl, ih (Nat.le_of_succ_le_succ enough)]

/-! ## Progressions of integers -/

section

variable {a b s : Int}

/-- Whether an integer has not passed the last one, in the direction of the step. -/
def Within (s b n : Int) : Prop :=
  if 0 < s then n ≤ b else b ≤ n

theorem not_within_iff {n : Int} : ¬ Within s b n ↔ if 0 < s then b < n else n < b := by
  unfold Within
  split <;> omega

/-- How many integers in steps have not passed the last one. -/
def termCount (a b s : Int) : Nat :=
  ((if 0 < s then b - a else a - b) / s.natAbs + 1).toNat

/-- The integers that have not passed the last one are the first ones of the progression. -/
theorem lt_termCount_iff (nonzero : s ≠ 0) (i : Nat) :
    i < termCount a b s ↔ Within s b (a + i * s) := by
  have positive : (0 : Int) < s.natAbs := by omega
  have counted (ahead : Int) :
      i < (ahead / s.natAbs + 1).toNat ↔ (i : Int) * s.natAbs ≤ ahead := by
    rw [← Int.le_ediv_iff_mul_le positive]
    omega
  unfold termCount Within
  rw [counted]
  by_cases isUp : 0 < s
  · have size : (s.natAbs : Int) = s := by omega
    rw [if_pos isUp, if_pos isUp, size]
    omega
  · have size : (s.natAbs : Int) = -s := by omega
    rw [if_neg isUp, if_neg isUp, size, Int.mul_neg]
    omega

/-- As many steps as the definition allows are enough for integers. -/
theorem termCount_le (nonzero : s ≠ 0) :
    termCount a b s ≤ 2 * ((b - a).natAbs / s.natAbs) + 2 := by
  have positive : (0 : Int) < s.natAbs := by omega
  have near {ahead : Int} (size : ahead.natAbs = (b - a).natAbs) :
      (ahead / s.natAbs + 1).toNat ≤ 2 * ((b - a).natAbs / s.natAbs) + 2 := by
    have whole : ahead / s.natAbs ≤ ((b - a).natAbs / s.natAbs : Nat) := by
      rw [← size, Int.natCast_ediv]
      exact Int.ediv_le_ediv positive (by omega)
    omega
  unfold termCount
  split
  · exact near rfl
  · exact near (by omega)

/-- The bound on the steps does not depend on the unit that three integers are counted in. -/
theorem progressionBound_of_toInt? (isStart : current.toInt? = some a)
    (isStop : stop.toInt? = some b) (isStep : step.toInt? = some s) :
    progressionBound current stop step = 2 * ((b - a).natAbs / s.natAbs) + 2 := by
  rcases eq_finite_of_toInt? isStart with ⟨_, _, e, _, rfl⟩
  rcases eq_finite_of_toInt? isStop with ⟨_, _, e', _, rfl⟩
  rcases eq_finite_of_toInt? isStep with ⟨_, _, e'', _, rfl⟩
  unfold progressionBound inCommonUnit?
  dsimp only
  have starts := inUnits_of_toInt? isStart (Int.min_le_left e (min e' e''))
  have stops := inUnits_of_toInt? isStop
    (Int.le_trans (Int.min_le_right e (min e' e'')) (Int.min_le_left e' e''))
  have steps := inUnits_of_toInt? isStep
    (Int.le_trans (Int.min_le_right e (min e' e'')) (Int.min_le_right e' e''))
  generalize min e (min e' e'') = unit at starts stops steps ⊢
  generalize inUnits _ _ e unit = start at starts ⊢
  generalize inUnits _ _ e' unit = stop at stops ⊢
  generalize inUnits _ _ e'' unit = step at steps ⊢
  have distance : (stop - start) * 2 ^ unit.toNat = (b - a) * 2 ^ (-unit).toNat := by
    rw [Int.sub_mul, Int.sub_mul, stops, starts]
  have magnitude {m n : Int} (same : m * 2 ^ unit.toNat = n * 2 ^ (-unit).toNat) :
      m.natAbs * 2 ^ unit.toNat = n.natAbs * 2 ^ (-unit).toNat := by
    simpa [Int.natAbs_mul, Int.natAbs_pow] using congrArg Int.natAbs same
  congr 2
  calc (stop - start).natAbs / step.natAbs
      = (stop - start).natAbs * 2 ^ unit.toNat / (step.natAbs * 2 ^ unit.toNat) :=
        (Nat.mul_div_mul_right _ _ (Nat.two_pow_pos _)).symm
    _ = (b - a).natAbs * 2 ^ (-unit).toNat / (s.natAbs * 2 ^ (-unit).toNat) := by
        rw [magnitude distance, magnitude steps]
    _ = (b - a).natAbs / s.natAbs := Nat.mul_div_mul_right _ _ (Nat.two_pow_pos _)

theorem isWithin_of_toInt? {n : Int} (nonzero : s ≠ 0) (isInt : current.toInt? = some n)
    (isStop : stop.toInt? = some b) (isStep : step.toInt? = some s) :
    isWithin step stop current = true ↔ Within s b n := by
  have isZero : (zero false).toInt? = some 0 := toInt?_zero
  rw [isWithin, less_of_toInt? isZero isStep, less_of_toInt? isStep isZero,
    lessEqual_of_toInt? isInt isStop, lessEqual_of_toInt? isStop isInt]
  unfold Within
  by_cases isUp : 0 < s
  · simp [isUp, Int.le_of_lt isUp]
  · simp [isUp, Int.lt_iff_le_and_ne, nonzero, Int.not_lt.mp isUp]

/-- From an integer on, the numbers in steps are the integers that have not passed the last.  No
sum leaves the range in which it is exact: a number that is within lies between the first and the
last, and the next one is at most a step away. -/
theorem progresses_of_integers (nonzero : s ≠ 0) (smallStop : b.natAbs ≤ 2 ^ 52)
    (smallStep : s.natAbs ≤ 2 ^ 52) (isStop : stop.toInt? = some b)
    (isStep : step.toInt? = some s) {count : Nat} (isStart : current.toInt? = some a)
    (behind : if 0 < s then -2 ^ 52 ≤ a else a ≤ 2 ^ 52)
    (counted : ∀ i : Nat, i < count ↔ Within s b (a + i * s)) :
    ∃ values, Progresses step stop current values ∧
      values.map toInt? = (List.range count).map fun i : Nat => some (a + i * s) := by
  induction count generalizing current a with
  | zero =>
    have isPast : ¬ Within s b a := by simpa using counted 0
    refine ⟨[], .past ?_, rfl⟩
    rw [← isWithin_of_toInt? nonzero isStart isStop isStep] at isPast
    exact Bool.eq_false_iff.mpr isPast
  | succ count ih =>
    have within : Within s b a := by simpa using counted 0
    obtain ⟨exact', behindNext⟩ : (a + s).natAbs ≤ 2 ^ 53 ∧
        (if 0 < s then -2 ^ 52 ≤ a + s else a + s ≤ 2 ^ 52) := by
      unfold Within at within
      by_cases isUp : 0 < s
      · rw [if_pos isUp] at within behind ⊢
        omega
      · rw [if_neg isUp] at within behind ⊢
        omega
    have isNext : (current + step).toInt? = some (a + s) := toInt?_add isStart isStep exact'
    have shifted (i : Nat) : a + s + i * s = a + (i + 1 : Nat) * s := by
      rw [Int.natCast_add, Int.add_mul]
      omega
    rcases ih isNext behindNext (fun i => by rw [shifted, ← counted]; omega) with
      ⟨values, later, areInts⟩
    refine ⟨current :: values,
      .next ((isWithin_of_toInt? nonzero isStart isStop isStep).mpr within) later, ?_⟩
    rw [List.map_cons, areInts, isStart, List.range_succ_eq_map, List.map_cons, List.map_map]
    simp [shifted]

end

/-! ## The helper -/

theorem isFinite_of_toInt? {x : Number} {n : Int} (isInt : x.toInt? = some n) :
    isFinite x = true := by
  rw [isFinite, truncate?_of_toInt? isInt, Option.isSome_some]

theorem isZero_of_toInt? {x : Number} {n : Int} (isInt : x.toInt? = some n) (nonzero : n ≠ 0) :
    x.isZero = false := by
  rw [← Bool.not_eq_true]
  intro isZero
  exact nonzero (Option.some.inj (isInt.symm.trans (toInt?_of_isZero isZero)))

/-- One number alone is the last of a progression from one on in steps of one. -/
theorem seq_last (stop : Number) :
    seq [.number stop] = seq [.number (.ofInt 1), .number stop, .number (.ofInt 1)] :=
  rfl

/-- With finite numbers and a step, `seq` gives the numbers in steps up to the last one, if the
definition allows as many. -/
theorem seq_of_progresses {start stop step : Number} {values : List Number}
    (finite : isFinite start = true) (finite' : isFinite stop = true)
    (finite'' : isFinite step = true) (nonzero : step.isZero = false)
    (run : Progresses step stop start values)
    (enough : values.length ≤ progressionBound start stop step) :
    seq [.number start, .number stop, .number step] = .ok (.array (values.map .number)) := by
  have refused : (step.isZero || !isFinite step || !isFinite start || !isFinite stop) = false := by
    rw [nonzero, finite, finite', finite'']
    rfl
  have given : progressionArguments [.number start, .number stop, .number step] =
      .ok (start, stop, step) := rfl
  unfold seq
  rw [given]
  simp only [bind, Except.bind, refused, Bool.false_eq_true, if_false]
  rw [progression, progressionFrom_eq finite'' nonzero run enough]

/-- Integers up to `2 ^ 52` make an arithmetic progression: the numbers in steps end, and they
are the integers `a`, `a + s`, `a + 2 * s` and so on that are not beyond `b`, in order, all of
them and none else.  There is none if `a` is beyond `b`.  One number alone is the last of those
from one on. -/
theorem seq_integers {start stop step : Number} {a b s : Int} (isStart : start.toInt? = some a)
    (isStop : stop.toInt? = some b) (isStep : step.toInt? = some s) (nonzero : s ≠ 0)
    (smallStart : a.natAbs ≤ 2 ^ 52) (smallStop : b.natAbs ≤ 2 ^ 52)
    (smallStep : s.natAbs ≤ 2 ^ 52) :
    (∃ (values : List Number) (count : Nat),
      seq [.number start, .number stop, .number step] = .ok (.array (values.map .number)) ∧
      Progresses step stop start values ∧
      values.map toInt? = ((List.range count).map fun i : Nat => some (a + i * s)) ∧
      ∀ i : Nat, i < count ↔ if 0 < s then a + i * s ≤ b else b ≤ a + i * s) ∧
    ((if 0 < s then b < a else a < b) →
      seq [.number start, .number stop, .number step] = .ok (.array [])) ∧
    ∀ last : Number,
      seq [.number last] = seq [.number (.ofInt 1), .number last, .number (.ofInt 1)] := by
  have behind : if 0 < s then -2 ^ 52 ≤ a else a ≤ 2 ^ 52 := by
    split <;> omega
  have counted := lt_termCount_iff (a := a) (b := b) nonzero
  rcases progresses_of_integers nonzero smallStop smallStep isStop isStep isStart behind
    counted with ⟨values, run, areInts⟩
  have length : values.length = termCount a b s := by
    simpa using congrArg List.length areInts
  have enough : values.length ≤ progressionBound start stop step := by
    rw [length, progressionBound_of_toInt? isStart isStop isStep]
    exact termCount_le nonzero
  have result := seq_of_progresses (isFinite_of_toInt? isStart) (isFinite_of_toInt? isStop)
    (isFinite_of_toInt? isStep) (isZero_of_toInt? isStep nonzero) run enough
  refine ⟨⟨values, termCount a b s, result, run, areInts, counted⟩, ?_, seq_last⟩
  intro isPast
  have none : ¬ 0 < termCount a b s := by
    rw [counted 0]
    simpa using not_within_iff.mpr isPast
  have empty : values = [] := List.length_eq_zero_iff.mp (by omega)
  rw [result, empty]
  rfl

/-- From five down to one in steps of two. -/
theorem seq_integers_down :
    (Number.ofInt 5).toInt? = some 5 ∧ (Number.ofInt 1).toInt? = some 1 ∧
      (Number.ofInt (-2)).toInt? = some (-2) ∧
      ∃ values : List Number,
        seq [.number (.ofInt 5), .number (.ofInt 1), .number (.ofInt (-2))] =
          .ok (.array (values.map .number)) ∧
        Progresses (.ofInt (-2)) (.ofInt 1) (.ofInt 5) values ∧
        values.map toInt? = [some 5, some 3, some 1] := by
  have isStart : (Number.ofInt 5).toInt? = some 5 := by decide
  have isStop : (Number.ofInt 1).toInt? = some 1 := by decide
  have isStep : (Number.ofInt (-2)).toInt? = some (-2) := by decide
  obtain ⟨⟨values, count, result, run, areInts, counted⟩, -, -⟩ :=
    seq_integers isStart isStop isStep (by decide) (by decide) (by decide) (by decide)
  have three : count = 3 := by
    have isIn := (counted 2).mpr (by decide)
    have isOut := mt (counted 3).mp (by decide)
    omega
  subst three
  exact ⟨isStart, isStop, isStep, values, result, run, areInts⟩

end TemplateLang.Helper
