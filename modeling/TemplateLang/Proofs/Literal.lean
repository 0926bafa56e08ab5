import TemplateLang.Proofs.Cursor
import TemplateLang.Syntax.Literal

/-!
# Literals lie ahead

What a scanner of literals finds ends after the place where it starts.
-/

namespace TemplateLang

namespace Scan

variable {α β : Type}

theorem andThen_eq_found {scan : Scan α} {later : α → Cursor → Scan β} {value : β}
    {next : Cursor} :
    scan.andThen later = .found value next ↔
      ∃ first middle, scan = .found first middle ∧ later first middle = .found value next := by
  cases scan with
  | found first middle =>
    constructor
    · intro found
      exact ⟨first, middle, rfl, found⟩
    · rintro ⟨_, _, same, found⟩
      obtain ⟨rfl, rfl⟩ := Scan.found.inj same
      exact found
  | absent => simp [andThen]
  | broken => simp [andThen]

theorem orElse_eq_found {scan other : Scan α} {value : α} {next : Cursor} :
    scan.orElse other = .found value next ↔
      scan = .found value next ∨ scan = .absent ∧ other = .found value next := by
  cases scan <;> simp [orElse]

theorem orElse_eq_absent {scan other : Scan α} :
    scan.orElse other = .absent ↔ scan = .absent ∧ other = .absent := by
  cases scan <;> simp [orElse]

theorem map_eq_absent {scan : Scan α} {f : α → β} : scan.map f = .absent ↔ scan = .absent := by
  cases scan <;> simp [map, andThen]

theorem map_eq_found {scan : Scan α} {f : α → β} {value : β} {next : Cursor} :
    scan.map f = .found value next ↔ ∃ first, scan = .found first next ∧ f first = value := by
  rw [map, andThen_eq_found]
  constructor
  · rintro ⟨first, middle, scanned, same⟩
    obtain ⟨rfl, rfl⟩ := Scan.found.inj same
    exact ⟨first, scanned, rfl⟩
  · rintro ⟨first, found, rfl⟩
    exact ⟨first, next, found, rfl⟩

end Scan

namespace Literal

open Cursor

/-! ## Strings -/

theorem reaches_of_unicodeEscape {start cursor next : Cursor} {c : Char}
    (found : unicodeEscape start cursor = .found c next) : cursor.Reaches next := by
  unfold unicodeEscape at found
  dsimp only at found
  split at found
  · split at found
    · simp at found
    · split at found
      · split at found
        · simp only [Scan.found.injEq] at found
          obtain ⟨rfl, rfl⟩ := found
          exact ((cursor.reaches_skip 1).trans (reaches_skip _ _)).trans (reaches_skip _ 1)
        · simp at found
      · simp at found
  · simp at found

theorem reaches_of_escape {cursor next : Cursor} {meant : Option Char}
    (found : escape cursor = .found meant next) : cursor.Reaches next := by
  unfold escape at found
  dsimp only at found
  split at found
  · obtain ⟨c, found, -⟩ := Scan.map_eq_found.mp found
    exact ((cursor.reaches_skip 1).trans (reaches_skip _ 1)).trans
      (reaches_of_unicodeEscape found)
  · split at found
    · simp only [Scan.found.injEq] at found
      obtain ⟨-, rfl⟩ := found
      exact (cursor.reaches_skip 1).trans (reaches_skip _ 1)
    · split at found
      · simp only [Scan.found.injEq] at found
        obtain ⟨-, rfl⟩ := found
        exact (cursor.reaches_skip 1).trans (reaches_skip _ _)
      · simp at found
  · simp at found

theorem reaches_of_stringBody {quote : Quote} {start cursor next : Cursor} {fuel : Nat}
    {chars : List Char} (found : stringBody quote start fuel cursor = .found chars next) :
    cursor.Reaches next := by
  induction fuel generalizing cursor chars with
  | zero => simp [stringBody] at found
  | succ fuel ih =>
    unfold stringBody at found
    split at found
    · simp at found
    · split at found
      · simp only [Scan.found.injEq] at found
        obtain ⟨-, rfl⟩ := found
        exact cursor.reaches_skip 1
      · split at found
        · obtain ⟨meant, middle, escaped, found⟩ := Scan.andThen_eq_found.mp found
          obtain ⟨rest, found, -⟩ := Scan.map_eq_found.mp found
          exact (reaches_of_escape escaped).trans (ih found)
        · split at found
          · simp at found
          · obtain ⟨rest, found, -⟩ := Scan.map_eq_found.mp found
            exact (cursor.reaches_skip 1).trans (ih found)

theorem quote?_eq_some {cursor : Cursor} {quote : Quote} :
    quote? cursor = some quote ↔ ∃ rest, cursor.rest = quote.char :: rest := by
  unfold quote?
  split
  · rename_i rest starts
    cases quote <;> simp [starts, Quote.char]
  · rename_i rest starts
    cases quote <;> simp [starts, Quote.char]
  · rename_i notDouble notSingle
    simp only [reduceCtorEq, false_iff, not_exists]
    intro rest starts
    cases quote with
    | single => exact notSingle rest starts
    | double => exact notDouble rest starts

theorem passes_of_string {cursor next : Cursor} {value : String × Quote}
    (found : Literal.string cursor = .found value next) : cursor.Passes next := by
  unfold Literal.string at found
  split at found
  · rename_i quote isQuote
    obtain ⟨rest, starts⟩ := quote?_eq_some.mp isQuote
    obtain ⟨chars, found, -⟩ := Scan.map_eq_found.mp found
    exact ⟨by simp [starts], reaches_of_stringBody found⟩
  · simp at found

/-! ## Numbers -/

/-- Digits of a base are the run of word characters that stands there, if it has no others. -/
theorem radixDigits_eq_found {start cursor next : Cursor} {base : Nat} {name : String}
    {value : Number} :
    radixDigits start cursor base name = .found value next ↔
      cursor.rest.takeWhile isWordChar ≠ [] ∧
        (cursor.rest.takeWhile isWordChar).all (isDigitOf base) = true ∧
        value = radixValue base (cursor.rest.takeWhile isWordChar) ∧
        next = cursor.skip (cursor.rest.takeWhile isWordChar).length := by
  unfold radixDigits
  dsimp only
  split
  · rename_i noDigits
    rw [Bool.or_eq_true, List.isEmpty_iff, Bool.not_eq_true'] at noDigits
    simp only [reduceCtorEq, false_iff]
    rintro ⟨someDigits, allDigits, -, -⟩
    rcases noDigits with none | other
    · exact someDigits none
    · exact Bool.noConfusion (other.symm.trans allDigits)
  · rename_i digits
    rw [Bool.or_eq_true, List.isEmpty_iff, Bool.not_eq_true', not_or, Bool.not_eq_false]
      at digits
    constructor
    · intro found
      obtain ⟨rfl, rfl⟩ := Scan.found.inj found
      exact ⟨digits.1, digits.2, rfl, rfl⟩
    · rintro ⟨-, -, rfl, rfl⟩
      rfl

theorem reaches_of_radixDigits {start cursor next : Cursor} {base : Nat} {name : String}
    {value : Number} (found : radixDigits start cursor base name = .found value next) :
    cursor.Reaches next := by
  obtain ⟨-, -, -, rfl⟩ := radixDigits_eq_found.mp found
  exact cursor.reaches_skip _

/-- The place after the sign of an exponent. -/
def afterSign (cursor : Cursor) : Cursor :=
  if cursor.rest.head? = some '-' || cursor.rest.head? = some '+' then cursor.skip 1 else cursor

theorem reaches_afterSign (cursor : Cursor) : cursor.Reaches (afterSign cursor) := by
  unfold afterSign
  split
  · exact cursor.reaches_skip 1
  · exact Reaches.refl cursor

/-- An exponent is a sign, which may be missing, and digits. -/
theorem exponent_eq_found {start cursor next : Cursor} {power : Int} :
    exponent start cursor = .found power next ↔
      decimalDigits (afterSign cursor) ≠ [] ∧
        next = (afterSign cursor).skip (decimalDigits (afterSign cursor)).length ∧
        power = Number.signed (cursor.rest.head? = some '-')
          (naturalOfDigits 10 (decimalDigits (afterSign cursor))) := by
  unfold exponent
  dsimp only
  rw [← afterSign]
  split
  · rename_i none
    rw [List.isEmpty_iff] at none
    simp [none]
  · rename_i some
    rw [List.isEmpty_iff] at some
    simp [some, eq_comm, and_comm]

/-- The digits after a point, if there is one, and the place after them. -/
def fractionPart (cursor : Cursor) : List Char × Cursor :=
  match cursor.rest with
  | '.' :: _ =>
    let digits := decimalDigits (cursor.skip 1)
    (digits, (cursor.skip 1).skip digits.length)
  | _ => ([], cursor)

/-- The exponent after the digits of a literal, if there is one. -/
def exponentPart (start cursor : Cursor) : Scan Int :=
  match cursor.rest.head? with
  | some 'e' | some 'E' => exponent start (cursor.skip 1)
  | _ => .found 0 cursor

/-- A decimal literal is its digits, its fraction and its exponent. -/
theorem decimal_eq (start : Cursor) :
    decimal start =
      let whole := decimalDigits start
      let fraction := fractionPart (start.skip whole.length)
      (exponentPart start fraction.2).map fun power =>
        Number.ofDecimal false
          ⟨naturalOfDigits 10 (whole ++ fraction.1), power - fraction.1.length⟩ := by
  unfold decimal exponentPart fractionPart
  dsimp only
  split
  all_goals
    split <;> simp_all [Scan.map, Scan.andThen]

theorem reaches_fractionPart (cursor : Cursor) : cursor.Reaches (fractionPart cursor).2 := by
  unfold fractionPart
  split
  · exact (cursor.reaches_skip 1).trans (reaches_skip _ _)
  · exact Reaches.refl cursor

theorem reaches_of_exponentPart {start cursor next : Cursor} {power : Int}
    (found : exponentPart start cursor = .found power next) : cursor.Reaches next := by
  unfold exponentPart at found
  split at found
  · obtain ⟨-, rfl, -⟩ := exponent_eq_found.mp found
    exact ((cursor.reaches_skip 1).trans (reaches_afterSign _)).trans (reaches_skip _ _)
  · obtain ⟨-, rfl, -⟩ := exponent_eq_found.mp found
    exact ((cursor.reaches_skip 1).trans (reaches_afterSign _)).trans (reaches_skip _ _)
  · obtain ⟨-, rfl⟩ := Scan.found.inj found
    exact Reaches.refl _

theorem passes_of_decimal {cursor next : Cursor} {value : Number}
    (starts : startsDecimal cursor.rest = true) (found : decimal cursor = .found value next) :
    cursor.Passes next := by
  rw [decimal_eq] at found
  obtain ⟨power, found, -⟩ := Scan.map_eq_found.mp found
  refine Passes.trans_reaches ?_ (reaches_of_exponentPart found)
  unfold startsDecimal at starts
  split at starts
  · rename_i c rest restEq
    have noDigits : decimalDigits cursor = [] := by
      simp [decimalDigits, restEq]
    rw [noDigits, List.length_nil, skip_zero]
    unfold fractionPart
    simp only [restEq]
    exact (passes_skip (by simp [restEq]) Nat.one_pos).trans_reaches (reaches_skip _ _)
  · rename_i c rest _ restEq
    have someDigits : 0 < (decimalDigits cursor).length := by
      simp [decimalDigits, restEq, starts]
    exact (passes_skip (by simp [restEq]) someDigits).trans_reaches (reaches_fractionPart _)
  · simp at starts

/-- The letters that announce a base, with the base and its name. -/
def radixLetters : List (Char × Nat × String) :=
  [('b', 2, "binary"), ('B', 2, "binary"), ('o', 8, "octal"), ('O', 8, "octal"),
    ('x', 16, "hexadecimal"), ('X', 16, "hexadecimal")]

theorem radix?_eq_some {letter : Char} {base : Nat × String} :
    radix? letter = some base ↔ (letter, base) ∈ radixLetters := by
  constructor
  · intro isRadix
    unfold radix? at isRadix
    split at isRadix <;> cases isRadix <;> decide
  · have all : ∀ entry ∈ radixLetters, radix? entry.1 = some entry.2 := by decide
    exact all (letter, base)

/-- A base is more than zero and not more than sixteen. -/
theorem base_of_radix? {letter : Char} {base : Nat} {name : String}
    (isRadix : radix? letter = some (base, name)) : 0 < base ∧ base ≤ 16 := by
  have all : ∀ entry ∈ radixLetters, 0 < entry.2.1 ∧ entry.2.1 ≤ 16 := by decide
  exact all _ (radix?_eq_some.mp isRadix)

/-- The base that a literal announces after a leading zero. -/
def announced (text : List Char) : Option (Nat × String) :=
  match text with
  | '0' :: letter :: _ => radix? letter
  | _ => none

theorem announced_eq_some {text : List Char} {base : Nat × String} :
    announced text = some base ↔
      ∃ letter rest, text = '0' :: letter :: rest ∧ radix? letter = some base := by
  constructor
  · intro isAnnounced
    unfold announced at isAnnounced
    split at isAnnounced
    · exact ⟨_, _, rfl, isAnnounced⟩
    · exact nomatch isAnnounced
  · rintro ⟨letter, rest, rfl, isRadix⟩
    exact isRadix

/-- A numeric literal is one of an announced base, or else decimal. -/
theorem number_eq (cursor : Cursor) :
    Literal.number cursor =
      match announced cursor.rest with
      | some (base, name) => radixDigits cursor (cursor.skip 2) base name
      | none => if startsDecimal cursor.rest then decimal cursor else .absent :=
  rfl

theorem passes_of_number {cursor next : Cursor} {value : Number}
    (found : Literal.number cursor = .found value next) : cursor.Passes next := by
  rw [number_eq] at found
  split at found
  · rename_i base name isAnnounced
    refine Passes.trans_reaches (passes_skip ?_ Nat.two_pos) (reaches_of_radixDigits found)
    rcases announced_eq_some.mp isAnnounced with ⟨letter, rest, starts, -⟩
    rw [starts]
    exact List.cons_ne_nil _ _
  · split at found
    · rename_i starts
      exact passes_of_decimal starts found
    · simp at found

/-! ## Numbers read alike -/

/-- The characters of a number that are no digits and begin no base. -/
def isNumberMark (c : Char) : Bool :=
  ['.', 'e', 'E', '+', '-'].contains c

/-- A relation of places that scanners of numbers do not tell apart: the same digits and word
characters begin there and the same marks of numbers, and past them the places are related
again. -/
structure LooksAlike (alike : Cursor → Cursor → Prop) : Prop where
  run : ∀ {cursor cursor'}, alike cursor cursor' → ∀ p, (p = Char.isDigit ∨ p = isWordChar) →
    cursor'.rest.takeWhile p = cursor.rest.takeWhile p ∧
      alike (cursor.skipWhile p) (cursor'.skipWhile p)
  mark : ∀ {cursor cursor'}, alike cursor cursor' → ∀ c, isNumberMark c = true →
    (cursor'.rest.head? = some c ↔ cursor.rest.head? = some c) ∧
      (cursor.rest.head? = some c → alike (cursor.skip 1) (cursor'.skip 1))
  announced_eq : ∀ {cursor cursor'}, alike cursor cursor' →
    announced cursor'.rest = announced cursor.rest ∧
      (announced cursor.rest ≠ none → alike (cursor.skip 2) (cursor'.skip 2))
  startsDecimal_eq : ∀ {cursor cursor'}, alike cursor cursor' →
    startsDecimal cursor'.rest = startsDecimal cursor.rest

namespace LooksAlike

variable {alike : Cursor → Cursor → Prop} (looks : LooksAlike alike)
  {start start' cursor cursor' next : Cursor} (here : alike cursor cursor')

include looks here

theorem digits : decimalDigits cursor' = decimalDigits cursor ∧
    alike (cursor.skip (decimalDigits cursor).length)
      (cursor'.skip (decimalDigits cursor').length) :=
  looks.run here Char.isDigit (.inl rfl)

theorem radixDigits_eq {base : Nat} {name : String} {value : Number}
    (found : radixDigits start cursor base name = .found value next) :
    ∃ next', radixDigits start' cursor' base name = .found value next' ∧ alike next next' := by
  rcases looks.run here isWordChar (.inr rfl) with ⟨same, moved⟩
  rw [skipWhile, skipWhile] at moved
  obtain ⟨someDigits, allDigits, rfl, rfl⟩ := radixDigits_eq_found.mp found
  rw [← same] at someDigits allDigits moved ⊢
  exact ⟨_, radixDigits_eq_found.mpr ⟨someDigits, allDigits, rfl, rfl⟩, moved⟩

theorem afterSign_alike : alike (afterSign cursor) (afterSign cursor') := by
  obtain ⟨minus, pastMinus⟩ := looks.mark here '-' (by decide)
  obtain ⟨plus, pastPlus⟩ := looks.mark here '+' (by decide)
  unfold afterSign
  simp only [minus, plus]
  split
  · rename_i signed
    rw [Bool.or_eq_true, decide_eq_true_eq, decide_eq_true_eq] at signed
    exact signed.elim pastMinus pastPlus
  · exact here

theorem exponent_eq {power : Int} (found : exponent start cursor = .found power next) :
    ∃ next', exponent start' cursor' = .found power next' ∧ alike next next' := by
  obtain ⟨someDigits, rfl, rfl⟩ := exponent_eq_found.mp found
  obtain ⟨digits, moved⟩ := looks.digits (looks.afterSign_alike here)
  have minus := (looks.mark here '-' (by decide)).1
  refine ⟨_, exponent_eq_found.mpr ⟨?_, rfl, ?_⟩, moved⟩
  · rwa [digits]
  · rw [digits]
    simp only [minus]

theorem exponentPart_eq {power : Int} (found : exponentPart start cursor = .found power next) :
    ∃ next', exponentPart start' cursor' = .found power next' ∧ alike next next' := by
  obtain ⟨lower, pastLower⟩ := looks.mark here 'e' (by decide)
  obtain ⟨upper, pastUpper⟩ := looks.mark here 'E' (by decide)
  unfold exponentPart at found ⊢
  split at found
  · rename_i letter
    rw [lower.mpr letter]
    exact looks.exponent_eq (pastLower letter) found
  · rename_i letter
    rw [upper.mpr letter]
    exact looks.exponent_eq (pastUpper letter) found
  · rename_i notLower notUpper
    obtain ⟨rfl, rfl⟩ := Scan.found.inj found
    refine ⟨cursor', ?_, here⟩
    split
    · rename_i letter
      exact absurd (lower.mp letter) notLower
    · rename_i letter
      exact absurd (upper.mp letter) notUpper
    · rfl

theorem fractionPart_eq : (fractionPart cursor').1 = (fractionPart cursor).1 ∧
    alike (fractionPart cursor).2 (fractionPart cursor').2 := by
  obtain ⟨point, pastPoint⟩ := looks.mark here '.' (by decide)
  unfold fractionPart
  split
  · rename_i rest' restEq'
    have starts : cursor.rest.head? = some '.' := point.mp (by rw [restEq']; rfl)
    obtain ⟨rest, restEq⟩ := List.head?_eq_some_iff.mp starts
    simp only [restEq]
    exact looks.digits (pastPoint starts)
  · rename_i noPoint'
    split
    · rename_i rest restEq
      obtain ⟨rest', restEq'⟩ := List.head?_eq_some_iff.mp (point.mpr (by rw [restEq]; rfl))
      exact absurd restEq' (noPoint' rest')
    · exact ⟨rfl, here⟩

/-- The same number is found at both places. -/
theorem number_eq_found {value : Number} (found : Literal.number cursor = .found value next) :
    ∃ next', Literal.number cursor' = .found value next' ∧ alike next next' := by
  obtain ⟨announcedEq, pastBase⟩ := looks.announced_eq here
  rw [number_eq] at found ⊢
  rw [announcedEq, looks.startsDecimal_eq here]
  split at found
  · rename_i base name isAnnounced
    exact looks.radixDigits_eq (pastBase (by simp [isAnnounced])) found
  · split at found
    · rename_i starts
      rw [decimal_eq] at found
      obtain ⟨power, read, rfl⟩ := Scan.map_eq_found.mp found
      obtain ⟨whole, pastWhole⟩ := looks.digits here
      obtain ⟨fraction, pastFraction⟩ := looks.fractionPart_eq pastWhole
      obtain ⟨next', read', ends⟩ := looks.exponentPart_eq pastFraction read
      refine ⟨next', ?_, ends⟩
      rw [if_pos starts, decimal_eq, Scan.map_eq_found]
      exact ⟨power, read', by rw [fraction, whole]⟩
    · simp at found

end LooksAlike

end Literal

end TemplateLang
