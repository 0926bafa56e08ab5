import TemplateLang.Proofs.Number.Shortest
import TemplateLang.Proofs.RoundTrip.Literals

/-!
# Printed numbers

Every number that a literal can write is printed in a form that reads back as it: a whole
number below `10 ^ 21` in its digits, one that is out of range with an exponent that is, and
any other one as its shortest decimal.
-/

namespace TemplateLang

open Cursor Number

variable {start stop : Cursor}

/-! ## Numbers of literals -/

/-- The numbers that literals write: they are not NaN and have no sign. -/
inductive Number.Unsigned : Number → Prop where
  | infinite : Unsigned (.infinite false)
  | finite {mantissa : Nat} {exponent : Int} {canonical : Canonical mantissa exponent} :
      Unsigned (.finite false mantissa exponent canonical)

namespace Number

theorem unsigned_pack (mantissa : Nat) (exponent : Int) :
    (pack false mantissa exponent).Unsigned := by
  unfold pack
  split
  · exact .finite
  · exact .infinite

theorem unsigned_round (mantissa : Nat) (exponent : Int) :
    (round false mantissa exponent).Unsigned := by
  unfold round
  split
  · exact .finite
  · dsimp only
    split <;> exact unsigned_pack _ _

theorem unsigned_ofDecimal (decimal : Decimal) : (ofDecimal false decimal).Unsigned := by
  unfold ofDecimal
  split
  · exact .finite
  · split
    · split
      · exact .infinite
      · exact unsigned_round _ _
    · dsimp only
      split
      · exact .finite
      · exact unsigned_round _ _

theorem unsigned_ofInt (n : Nat) : (ofInt n).Unsigned := by
  have notNegative : ¬ (n : Int) < 0 := by omega
  unfold ofInt
  rw [decide_eq_false notNegative]
  exact unsigned_round _ _

theorem inUnits_nonneg (mantissa : Nat) (exponent unit : Int) :
    0 ≤ inUnits false mantissa exponent unit :=
  Int.natCast_nonneg _

theorem Unsigned.add {x y : Number} (first : x.Unsigned) (second : y.Unsigned) :
    (x + y).Unsigned := by
  change (Number.add x y).Unsigned
  cases first with
  | infinite =>
    cases second with
    | infinite => exact .infinite
    | finite => exact .infinite
  | @finite m e _ =>
    cases second with
    | infinite => exact .infinite
    | @finite n f _ =>
      have low := inUnits_nonneg m e (min e f)
      have low' := inUnits_nonneg n f (min e f)
      unfold Number.add
      dsimp only
      split
      · exact .finite
      · rw [decide_eq_false (by omega)]
        exact unsigned_round _ _

/-- A product with a positive factor. -/
theorem Unsigned.mul_ofInt {x : Number} (first : x.Unsigned) {n : Nat} (positive : n ≠ 0)
    (small : n < 2 ^ 53) : (x * ofInt n).Unsigned := by
  obtain ⟨canonical, finite⟩ := ofInt_eq_finite positive small
  rw [finite]
  change (Number.mul x _).Unsigned
  cases first with
  | infinite =>
    unfold Number.mul
    dsimp only
    rw [if_neg (Nat.mul_ne_zero positive (Nat.two_pow_pos _).ne')]
    exact .infinite
  | finite => exact unsigned_round _ _

theorem unsigned_radixValue {base : Nat} (positive : base ≠ 0) (small : base < 2 ^ 53)
    (digits : List Char) : (Literal.radixValue base digits).Unsigned := by
  have fold (total : Number) (isUnsigned : total.Unsigned) :
      (digits.foldl (fun total c => total * ofInt base + Literal.digitNumber c)
        total).Unsigned := by
    induction digits generalizing total with
    | nil => exact isUnsigned
    | cons c digits ih =>
      exact ih _ ((isUnsigned.mul_ofInt positive small).add (unsigned_ofInt _))
  exact fold _ .finite

end Number

/-- A literal writes a number without a sign. -/
theorem Literal.unsigned_of_number {x : Number} (found : Literal.number start = .found x stop) :
    x.Unsigned := by
  rw [number_eq] at found
  split at found
  · rename_i base name isAnnounced
    rcases announced_eq_some.mp isAnnounced with ⟨letter, rest, -, isRadix⟩
    rcases base_of_radix? isRadix with ⟨positive, atMost⟩
    have few : base < 2 ^ 53 := Nat.lt_of_le_of_lt atMost (by decide)
    obtain ⟨-, -, rfl, -⟩ := radixDigits_eq_found.mp found
    exact unsigned_radixValue positive.ne' few _
  · split at found
    · rw [decimal_eq] at found
      obtain ⟨_, -, rfl⟩ := Scan.map_eq_found.mp found
      exact unsigned_ofDecimal _
    · simp at found

/-- A position after a dot has no sign. -/
theorem Grammar.unsigned_of_fieldKey {index : Number}
    (read : Grammar.fieldKey start = .ok (.position index, stop)) : index.Unsigned := by
  unfold Grammar.fieldKey at read
  split at read
  · simp at read
  · dsimp only at read
    split at read
    · simp at read
    · simp only [Except.ok.injEq, Prod.mk.injEq, FieldKey.position.injEq] at read
      obtain ⟨rfl, -⟩ := read
      exact unsigned_ofDecimal _

/-! ## Whole numbers -/

/-- The integer that a number is has its value. -/
theorem Number.toInt?_eq_some {mantissa : Nat} {exponent : Int}
    {canonical : Canonical mantissa exponent} {n : Int}
    (isInt : (finite false mantissa exponent canonical).toInt? = some n) :
    ∃ value : Nat, n = value ∧ (value : ℚ) = mantissa * 2 ^ exponent := by
  unfold toInt? at isInt
  split at isInt
  · rename_i integral
    simp only [truncate?, Option.some.injEq] at isInt
    unfold isIntegral at integral
    rw [Bool.or_eq_true, decide_eq_true_eq, decide_eq_true_eq] at integral
    split at isInt
    · rename_i notNegative
      refine ⟨mantissa * 2 ^ exponent.toNat, isInt.symm, ?_⟩
      obtain ⟨places, rfl⟩ := Int.eq_ofNat_of_zero_le notNegative
      rw [zpow_natCast, Int.toNat_natCast]
      push_cast
      rfl
    · rename_i isNegative
      obtain ⟨places, rfl⟩ : ∃ places : Nat, exponent = -places := ⟨(-exponent).toNat, by omega⟩
      have placesEq : (-(-places : Int)).toNat = places := by omega
      rw [placesEq] at isInt integral
      have divides : mantissa % 2 ^ places = 0 := integral.resolve_left isNegative
      obtain ⟨value, rfl⟩ := Nat.dvd_of_mod_eq_zero divides
      refine ⟨value, ?_, ?_⟩
      · rw [← isInt, Nat.pow_eq, Nat.mul_div_cancel_left _ (Nat.two_pow_pos places)]
        rfl
      · rw [zpow_neg, zpow_natCast]
        push_cast
        field_simp
  · simp at isInt

/-- A whole number is the number that its digits write. -/
theorem Number.eq_ofDecimal_of_toInt? {x : Number} (isUnsigned : x.Unsigned) {n : Int}
    (isInt : x.toInt? = some n) : ∃ value : Nat, n = value ∧ ofDecimal false ⟨value, 0⟩ = x := by
  cases isUnsigned with
  | infinite => simp [toInt?, isIntegral] at isInt
  | @finite mantissa exponent canonical =>
    obtain ⟨value, rfl, valueEq⟩ := toInt?_eq_some isInt
    refine ⟨value, rfl, ?_⟩
    by_cases positive : mantissa = 0
    · subst positive
      obtain rfl : exponent = -1074 := canonical.2.2.2.resolve_left (by decide)
      rw [Nat.cast_zero, zero_mul, Nat.cast_eq_zero] at valueEq
      rw [valueEq]
      rfl
    · refine ofDecimal_of_holds canonical positive ?_
      rw [zpow_zero, mul_one, valueEq]
      exact holds_self positive

/-- A number that can stand after a dot is a natural number that is written in full. -/
theorem Number.eq_ofInt_of_isDotIndex {x : Number} (isUnsigned : x.Unsigned)
    (isDot : Print.isDotIndex x = true) : ∃ n : Nat, n < 10 ^ 15 ∧ x = ofInt n := by
  unfold Print.isDotIndex at isDot
  split at isDot
  · rename_i n isInt
    obtain ⟨value, rfl, same⟩ := eq_ofDecimal_of_toInt? isUnsigned isInt
    rw [Bool.and_eq_true, decide_eq_true_eq, decide_eq_true_eq] at isDot
    refine ⟨value, ?_, ?_⟩
    · exact_mod_cast isDot.2
    · rw [← same, ofDecimal_natural]
  · simp at isDot

/-! ## Texts of decimals -/

/-- Digits, a point and more digits are a number. -/
theorem number_of_fraction {whole fraction : List Char} (someDigits : whole ≠ [])
    (allWhole : ∀ c ∈ whole, c.isDigit = true) (allFraction : ∀ c ∈ fraction, c.isDigit = true)
    (crosses : start.Crosses (whole ++ '.' :: fraction) stop) (apart : stop.Apart) :
    Literal.number start =
      .found (ofDecimal false ⟨naturalOfDigits 10 (whole ++ fraction), -fraction.length⟩) stop := by
  obtain ⟨c, rest, rfl⟩ := List.exists_cons_of_ne_nil someDigits
  have noBase : Literal.announced start.rest = none := by
    refine announced_eq_none crosses apart ?_
    intro d rest' second
    cases rest with
    | nil =>
      obtain ⟨rfl, -⟩ := List.cons.inj second
      decide
    | cons d' rest =>
      obtain ⟨rfl, -⟩ := List.cons.inj second
      exact isWordStart_of_isDigit (allWhole _ (by simp))
  rw [number_eq_decimal crosses.1 (allWhole c List.mem_cons_self) noBase, Literal.decimal_eq]
  obtain ⟨atPoint, first, crosses⟩ := crosses.split
  obtain ⟨afterPoint, point, crosses⟩ := crosses.head
  have digitsEq : Literal.decimalDigits start = c :: rest := by
    refine decimalDigits_reads allWhole first fun d rest' restEq => ?_
    rw [point.1] at restEq
    obtain ⟨rfl, -⟩ := List.cons.inj restEq
    decide
  have fractionEq : Literal.fractionPart atPoint = (fraction, stop) := by
    have restEq : atPoint.rest = '.' :: afterPoint.rest := point.1
    have afterEq : atPoint.skip 1 = afterPoint := point.2.symm
    unfold Literal.fractionPart
    split
    · rw [afterEq, decimalDigits_reads allFraction crosses apart.no_digit]
      exact congrArg (Prod.mk fraction) crosses.2.symm
    · rename_i noPoint
      exact absurd restEq (noPoint _)
  dsimp only
  rw [digitsEq, ← first.2, fractionEq]
  dsimp only
  rw [apart.exponentPart]
  simp [Scan.map, Scan.andThen]

theorem naturalOfDigits_append_zeros (digits : List Char) (count : Nat) :
    naturalOfDigits 10 (digits ++ List.replicate count '0') =
      naturalOfDigits 10 digits * 10 ^ count := by
  induction count with
  | zero => simp
  | succ count ih =>
    rw [List.replicate_succ', ← List.append_assoc]
    unfold naturalOfDigits at ih ⊢
    rw [List.foldl_append, ih, List.foldl_cons, List.foldl_nil, Nat.pow_succ, ← Nat.mul_assoc]
    rfl

theorem naturalOfDigits_zeros_append (digits : List Char) (count : Nat) :
    naturalOfDigits 10 (List.replicate count '0' ++ digits) = naturalOfDigits 10 digits := by
  induction count with
  | zero => rfl
  | succ count ih => exact ih

/-- The two parts of a decimal in positional notation, with its value. -/
structure Positional (decimal : Decimal) (whole fraction : List Char) : Prop where
  someDigits : whole ≠ []
  allWhole : ∀ c ∈ whole, c.isDigit = true
  allFraction : ∀ c ∈ fraction, c.isDigit = true
  value : (naturalOfDigits 10 (whole ++ fraction) : ℚ) * 10 ^ (-fraction.length : Int) =
    decimal.digits * 10 ^ decimal.exponent
  text : decimal.positional.toList = whole ++ '.' :: fraction ∨
    fraction = [] ∧ decimal.positional.toList = whole

theorem positional_whole (digits places : Nat) :
    Positional ⟨digits, places⟩ (Nat.toDigits 10 digits ++ List.replicate places '0') [] where
  someDigits := by simp [Nat.toDigits_ne_nil]
  allWhole := by
    intro c isIn
    rcases List.mem_append.mp isIn with isIn | isIn
    · exact isDigit_of_mem_toDigits isIn
    · rw [List.eq_of_mem_replicate isIn]
      rfl
  allFraction := by simp
  value := by
    rw [List.append_nil, naturalOfDigits_append_zeros, naturalOfDigits_toDigits]
    simp
  text := by
    refine .inr ⟨rfl, ?_⟩
    simp [Decimal.positional]

theorem positional_split (digits : Nat) {places : Nat} (somePlaces : places ≠ 0) :
    ∃ whole fraction, Positional ⟨digits, -places⟩ whole fraction := by
  have written : (toString digits).toList = Nat.toDigits 10 digits := Nat.toList_repr
  have notWhole : ¬ 0 ≤ (-places : Int) := by omega
  have placesEq : (-(-places : Int)).toNat = places := by omega
  have all : ∀ c ∈ Nat.toDigits 10 digits, c.isDigit = true := fun c isIn =>
    isDigit_of_mem_toDigits isIn
  have textEq := naturalOfDigits_toDigits digits
  have someDigits : Nat.toDigits 10 digits ≠ [] := Nat.toDigits_ne_nil
  have printed : (Decimal.mk digits (-places)).positional.toList =
      (if (Nat.toDigits 10 digits).length - places = 0 then ['0']
        else (Nat.toDigits 10 digits).take ((Nat.toDigits 10 digits).length - places)) ++
        '.' :: (List.replicate (places - (Nat.toDigits 10 digits).length) '0' ++
          (Nat.toDigits 10 digits).drop ((Nat.toDigits 10 digits).length - places)) := by
    unfold Decimal.positional
    rw [if_neg notWhole]
    dsimp only
    rw [String.toList_ofList, placesEq, written, List.append_assoc, List.cons_append]
  generalize Nat.toDigits 10 digits = text at all textEq someDigits printed
  have fraction (c : Char) (isIn : c ∈ List.replicate (places - text.length) '0' ++
      text.drop (text.length - places)) : c.isDigit = true := by
    rcases List.mem_append.mp isIn with isIn | isIn
    · rw [List.eq_of_mem_replicate isIn]
      rfl
    · exact all c (List.mem_of_mem_drop isIn)
  have lengthEq : (List.replicate (places - text.length) '0' ++
      text.drop (text.length - places)).length = places := by
    rw [List.length_append, List.length_replicate, List.length_drop]
    omega
  -- The digits before the point are those that are too many for the places after it.
  by_cases noWhole : text.length - places = 0
  · rw [if_pos noWhole] at printed
    refine ⟨_, _, ⟨by simp, by simp, fraction, ?_, .inl printed⟩⟩
    rw [lengthEq, noWhole, List.drop_zero, ← textEq]
    have zeros := naturalOfDigits_zeros_append text (places - text.length + 1)
    rw [← zeros]
    rfl
  · rw [if_neg noWhole] at printed
    refine ⟨_, _, ⟨?_, fun c isIn => all c (List.mem_of_mem_take isIn), fraction, ?_, .inl printed⟩⟩
    · simp [List.take_eq_nil_iff, someDigits, noWhole]
    · rw [lengthEq, show places - text.length = 0 by omega, List.replicate_zero, List.nil_append,
        List.take_append_drop, textEq]

theorem exists_positional (decimal : Decimal) :
    ∃ whole fraction, Positional decimal whole fraction := by
  obtain ⟨digits, exponent⟩ := decimal
  rcases Int.le_total 0 exponent with notNegative | notPositive
  · obtain ⟨places, rfl⟩ := Int.eq_ofNat_of_zero_le notNegative
    exact ⟨_, _, positional_whole digits places⟩
  · obtain ⟨places, rfl⟩ : ∃ places : Nat, exponent = -places := ⟨(-exponent).toNat, by omega⟩
    by_cases noPlaces : places = 0
    · subst noPlaces
      exact ⟨_, _, positional_whole digits 0⟩
    · exact positional_split digits noPlaces

/-- A decimal in positional notation is read with its value. -/
theorem Positional.reads {decimal : Decimal} {whole fraction : List Char}
    (parts : Positional decimal whole fraction)
    (crosses : start.Crosses decimal.positional.toList stop) (apart : stop.Apart)
    (noPoint : decimal.positional.toList.all Char.isDigit = true → stop.isAt ['.'] = false) :
    Literal.number start =
      .found (ofDecimal false ⟨naturalOfDigits 10 (whole ++ fraction), -fraction.length⟩) stop := by
  rcases parts.text with textEq | ⟨rfl, textEq⟩
  · rw [textEq] at crosses
    exact number_of_fraction parts.someDigits parts.allWhole parts.allFraction crosses apart
  · rw [textEq] at crosses noPoint
    rw [List.append_nil]
    exact number_of_digits parts.someDigits parts.allWhole crosses apart
      (noPoint (List.all_eq_true.mpr parts.allWhole))

/-! ## All numbers -/

/-- A number that is out of range is printed so that it is again. -/
theorem number_of_infinite (crosses : start.Crosses ['1', 'e', '9', '9', '9'] stop)
    (apart : stop.Apart) : Literal.number start = .found (.infinite false) stop := by
  have restEq : start.rest = '1' :: 'e' :: '9' :: '9' :: '9' :: stop.rest := crosses.1
  have noBase : Literal.announced start.rest = none := by
    rw [restEq]
    rfl
  rw [number_eq_decimal restEq (by decide) noBase, Literal.decimal_eq]
  obtain ⟨afterOne, one, crosses⟩ := crosses.head
  obtain ⟨afterLetter, letter, crosses⟩ := crosses.head
  have digitsEq : Literal.decimalDigits start = ['1'] := by
    refine decimalDigits_reads (by simp) one fun c rest restEq => ?_
    rw [letter.1] at restEq
    obtain ⟨rfl, -⟩ := List.cons.inj restEq
    decide
  have atLetter : afterOne.rest = 'e' :: afterLetter.rest := letter.1
  have noFraction : Literal.fractionPart afterOne = ([], afterOne) := by
    unfold Literal.fractionPart
    split
    · rename_i same
      rw [atLetter] at same
      exact absurd (List.cons.inj same).1 (by decide)
    · rfl
  have power : Literal.exponentPart start afterOne = .found 999 stop := by
    have unsigned : afterLetter.rest.head? = some '9' := by
      rw [crosses.1]
      rfl
    have noSign : Literal.afterSign afterLetter = afterLetter := by
      unfold Literal.afterSign
      rw [unsigned]
      rfl
    unfold Literal.exponentPart
    rw [atLetter]
    change Literal.exponent start (afterOne.skip 1) = _
    rw [show afterOne.skip 1 = afterLetter from letter.2.symm, Literal.exponent_eq_found, noSign,
      decimalDigits_reads (by simp) crosses apart.no_digit, unsigned]
    exact ⟨by decide, crosses.2, by decide⟩
  dsimp only
  rw [digitsEq, ← one.2, noFraction]
  dsimp only
  rw [power]
  rfl

/-- Zero is an integer. -/
theorem Number.toInt?_zero {exponent : Int} {canonical : Canonical 0 exponent} :
    (finite false 0 exponent canonical).toInt? = some 0 := by
  have isLeast : exponent = -1074 := canonical.2.2.2.resolve_left (by decide)
  exact toInt?_finite (by omega) (Nat.zero_mul _).symm

/-- A number that is not a small integer is printed as its shortest decimal. -/
theorem Number.text_eq_positional {mantissa : Nat} {exponent : Int}
    {canonical : Canonical mantissa exponent}
    (notSmall : ∀ n, (finite false mantissa exponent canonical).toInt? = some n →
      ¬ n.natAbs < Nat.pow 10 21) :
    (finite false mantissa exponent canonical).text =
      (shortest .up mantissa exponent).positional := by
  unfold text
  dsimp only
  split
  · rename_i n isInt
    rw [if_neg (notSmall n isInt)]
    exact String.empty_append
  · exact String.empty_append

/-- A small integer is printed in its digits. -/
theorem Number.toList_text_of_toInt? {mantissa : Nat} {exponent : Int}
    {canonical : Canonical mantissa exponent} {value : Nat}
    (isInt : (finite false mantissa exponent canonical).toInt? = some (value : Int))
    (small : value < Nat.pow 10 21) :
    (finite false mantissa exponent canonical).text.toList = Nat.toDigits 10 value := by
  unfold text
  dsimp only
  rw [isInt]
  dsimp only
  rw [if_pos (show (value : Int).natAbs < Nat.pow 10 21 from small)]
  exact Nat.toList_repr

/-- The numbers of literals read back from their printed text. -/
theorem Number.Unsigned.rereads {x : Number} (isUnsigned : x.Unsigned) : x.Rereads := by
  cases isUnsigned with
  | infinite =>
    have printed : (Print.number (.infinite false)).toList = ['1', 'e', '9', '9', '9'] := by decide
    refine ⟨⟨'1', _, printed, by decide⟩, fun crosses apart _ => ?_⟩
    rw [printed] at crosses
    exact number_of_infinite crosses apart
  | @finite mantissa exponent canonical =>
    by_cases isSmall : ∃ n, (Number.finite false mantissa exponent canonical).toInt? = some n ∧
        n.natAbs < Nat.pow 10 21
    · obtain ⟨n, isInt, small⟩ := isSmall
      obtain ⟨value, rfl, same⟩ := eq_ofDecimal_of_toInt? .finite isInt
      have printed : (Print.number (.finite false mantissa exponent canonical)).toList =
          Nat.toDigits 10 value := toList_text_of_toInt? isInt small
      have all : ∀ c ∈ Nat.toDigits 10 value, c.isDigit = true := fun c isIn =>
        isDigit_of_mem_toDigits isIn
      have someDigits : Nat.toDigits 10 value ≠ [] := Nat.toDigits_ne_nil
      constructor
      · obtain ⟨c, rest, digits⟩ := List.exists_cons_of_ne_nil someDigits
        exact ⟨c, rest, printed.trans digits, all c (by simp [digits])⟩
      · intro start stop crosses apart noPoint
        rw [Number.isWhole, printed, List.all_eq_true] at noPoint
        rw [printed] at crosses
        rw [number_of_digits someDigits all crosses apart (noPoint all), naturalOfDigits_toDigits,
          same]
    · have notSmall (n : Int)
          (isInt : (Number.finite false mantissa exponent canonical).toInt? = some n) :
          ¬ n.natAbs < Nat.pow 10 21 := fun small => isSmall ⟨n, isInt, small⟩
      have positive : mantissa ≠ 0 := by
        rintro rfl
        exact notSmall 0 toInt?_zero (by decide)
      have printed : Print.number (.finite false mantissa exponent canonical) =
          (shortest .up mantissa exponent).positional := text_eq_positional notSmall
      obtain ⟨whole, fraction, parts⟩ := exists_positional (shortest .up mantissa exponent)
      have holds := shortest_holds .up canonical positive
      rw [← parts.value] at holds
      constructor
      · obtain ⟨c, rest, rfl⟩ := List.exists_cons_of_ne_nil parts.someDigits
        rw [printed]
        rcases parts.text with textEq | ⟨-, textEq⟩
        · exact ⟨c, _, textEq, parts.allWhole c List.mem_cons_self⟩
        · exact ⟨c, _, textEq, parts.allWhole c List.mem_cons_self⟩
      · intro start stop crosses apart noPoint
        rw [Number.isWhole, printed] at noPoint
        rw [printed] at crosses
        rw [parts.reads crosses apart noPoint, ofDecimal_of_holds canonical positive holds]

end TemplateLang
