import TemplateLang.Json.Reader
import TemplateLang.Json.Writer
import TemplateLang.Proofs.Number.Integers

/-!
# Integers in JSON text

An integer below `2 ^ 53` in magnitude is written in its digits, and these are few enough to be
read back without rounding.  Zero has one text, and so loses its sign.
-/

namespace TemplateLang

/-! ## Digits -/

/-- The digits of a number do not begin with a zero, but for zero itself. -/
theorem eq_zero_of_head_toDigits {n : Nat} (leading : (Nat.toDigits 10 n).head? = some '0') :
    n = 0 := by
  induction n using Nat.strong_induction_on with
  | _ n ih =>
    by_cases small : n < 10
    · have digits : ∀ n < 10, Nat.digitChar n = '0' → n = 0 := by decide
      rw [Nat.toDigits_of_lt_base small] at leading
      exact digits n small (Option.some.inj leading)
    · have parts : Nat.toDigits 10 n = Nat.toDigits 10 (n / 10) ++ [Nat.digitChar (n % 10)] :=
        Nat.toDigits_of_base_le (by decide) (by omega)
      rw [parts, List.head?_append_of_ne_nil _ Nat.toDigits_ne_nil] at leading
      have front := ih (n / 10) (by omega) leading
      omega

namespace Json

/-- Neither a digit nor what could go on with a number begins a text. -/
def EndsNumber (text : List Char) : Prop :=
  ∀ c rest, text = c :: rest → c.isDigit = false ∧ c ≠ '.' ∧ c ≠ 'e' ∧ c ≠ 'E'

theorem endsNumber_nil : EndsNumber [] :=
  fun _ _ same => nomatch same

theorem endsNumber_cons {c : Char} (digit : c.isDigit = false) (point : c ≠ '.')
    (lower : c ≠ 'e') (upper : c ≠ 'E') (rest : List Char) : EndsNumber (c :: rest) := by
  intro c' rest' same
  obtain ⟨rfl, -⟩ := List.cons.inj same
  exact ⟨digit, point, lower, upper⟩

theorem spanDigits_append {digits rest : List Char} (all : ∀ c ∈ digits, c.isDigit = true)
    (ends : EndsNumber rest) : spanDigits (digits ++ rest) = (digits, rest) := by
  unfold spanDigits
  rw [List.takeWhile_append_of_pos all, List.dropWhile_append_of_pos all]
  cases rest with
  | nil => simp
  | cons c rest => simp [(ends c rest rfl).1]

/-- Digits are added up while what they write stays within the bound. -/
theorem addDigits_of_le {digits : List Char} {significand : Nat}
    (small : digits.foldl (fun total c => total * 10 + (digitValue? c).getD 0) significand ≤
      significandBound) :
    addDigits significand digits =
      (digits.foldl (fun total c => total * 10 + (digitValue? c).getD 0) significand, []) := by
  induction digits generalizing significand with
  | nil => rfl
  | cons c digits ih =>
    rw [List.foldl_cons] at small ⊢
    unfold addDigits
    dsimp only
    rw [if_pos (Nat.le_trans (le_foldl_digits (by decide) _ digits) small), ih small]

/-- The digits of a number within the bound are read as that number. -/
theorem readUnsigned?_toDigits {n : Nat} (small : n < 2 ^ 53) (isNegative : Bool)
    {rest : List Char} (ends : EndsNumber rest) :
    readUnsigned? isNegative (Nat.toDigits 10 n ++ rest) =
      some (if isNegative then -Number.ofInt n else Number.ofInt n, rest) := by
  have digits : spanDigits (Nat.toDigits 10 n ++ rest) = (Nat.toDigits 10 n, rest) :=
    spanDigits_append (fun _ isIn => isDigit_of_mem_toDigits isIn) ends
  have noZero : ¬ ((Nat.toDigits 10 n).isEmpty = true ∨
      ((Nat.toDigits 10 n).head? = some '0' ∧ 1 < (Nat.toDigits 10 n).length)) := by
    rintro (empty | ⟨leading, long⟩)
    · exact Nat.toDigits_ne_nil (List.isEmpty_iff.mp empty)
    · rw [eq_zero_of_head_toDigits leading] at long
      exact absurd long (by decide)
  have value : addDigits 0 (Nat.toDigits 10 n) = (n, []) := by
    have written : (Nat.toDigits 10 n).foldl
        (fun total c => total * 10 + (digitValue? c).getD 0) 0 = n := naturalOfDigits_toDigits n
    have fits : n ≤ significandBound := Nat.le_trans (Nat.le_of_lt small) (by decide)
    have added := addDigits_of_le (written.symm ▸ fits)
    rw [written] at added
    exact added
  have whole : numberOfParts? isNegative (Nat.toDigits 10 n) [] none =
      some (if isNegative then -Number.ofInt n else Number.ofInt n) := by
    unfold numberOfParts?
    rw [value]
    rfl
  unfold readUnsigned?
  rw [digits]
  dsimp only
  rw [if_neg noZero]
  cases rest with
  | nil => simp [whole]
  | cons c rest =>
    obtain ⟨-, noPoint, noLower, noUpper⟩ := ends c rest rfl
    simp [noPoint, noLower, noUpper, whole]

/-- An integer below the bound is written in its digits, after its sign. -/
theorem toList_encodeNumber {x : Number} {n : Int} (isInt : x.toInt? = some n)
    (small : n.natAbs < integerBound) :
    (encodeNumber x).toList =
      if n < 0 then '-' :: Nat.toDigits 10 n.natAbs else Nat.toDigits 10 n.natAbs := by
  have written : encodeNumber x = toString n := by
    rcases Number.eq_finite_of_toInt? isInt with ⟨_, _, _, _, rfl⟩
    unfold encodeNumber
    dsimp only
    rw [isInt]
    exact if_pos small
  rw [written]
  cases n with
  | ofNat value => exact Nat.toList_repr
  | negSucc value =>
    have parts : toString (Int.negSucc value) = "-" ++ Nat.repr (value + 1) := rfl
    rw [parts, String.toList_append, Nat.toList_repr, if_pos (Int.negSucc_lt_zero value)]
    rfl

/-- Integers below the bound are read as they were written, but for the sign of zero. -/
theorem readNumber?_encodeNumber {x : Number} {n : Int} (isInt : x.toInt? = some n)
    (small : n.natAbs < integerBound) {rest : List Char} (ends : EndsNumber rest) :
    readNumber? ((encodeNumber x).toList ++ rest) = some (x.positiveZero, rest) := by
  rw [toList_encodeNumber isInt small, Number.positiveZero_eq_ofInt isInt]
  cases n with
  | ofNat value =>
    obtain ⟨c, digits, split⟩ :=
      List.exists_cons_of_ne_nil (Nat.toDigits_ne_nil (n := value) (b := 10))
    have digit : c.isDigit = true := isDigit_of_mem_toDigits (split ▸ List.mem_cons_self)
    have notMinus : c ≠ '-' := by
      rintro rfl
      simp at digit
    have unsigned : readNumber? (Nat.toDigits 10 value ++ rest) =
        readUnsigned? false (Nat.toDigits 10 value ++ rest) := by
      rw [split]
      simp [readNumber?, notMinus]
    exact unsigned.trans (readUnsigned?_toDigits small false ends)
  | negSucc value =>
    have read := readUnsigned?_toDigits (n := value + 1) small true ends
    rw [if_pos rfl, Number.neg_ofInt (Nat.succ_ne_zero value)] at read
    rw [if_pos (Int.negSucc_lt_zero value)]
    exact read

end Json

end TemplateLang
