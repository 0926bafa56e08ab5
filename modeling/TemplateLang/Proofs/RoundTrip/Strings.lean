import TemplateLang.Print.Expression
import TemplateLang.Proofs.Literal
import TemplateLang.Proofs.RoundTrip.Crossing

/-!
# Printed strings

A string literal reads back as the same text in the same quotes.  Each character is printed
as itself or as an escape for it, and no escape is longer than what the scanner takes for
one character.
-/

namespace TemplateLang

namespace Literal

open Cursor

variable {quote : Quote} {start cursor stop : Cursor} {c : Char}

/-! ## One character -/

/-- A control code is written in digits that name it. -/
theorem controlDigits {code : Nat} (control : code < 160) :
    naturalOfDigits 16 (Nat.toDigits 16 code) = code ∧
      (Nat.toDigits 16 code).all isHexDigit = true ∧ (Nat.toDigits 16 code).length ≤ 6 ∧
      (Nat.toDigits 16 code).isEmpty = false := by
  have all : ∀ code < 160, naturalOfDigits 16 (Nat.toDigits 16 code) = code ∧
      (Nat.toDigits 16 code).all isHexDigit = true ∧ (Nat.toDigits 16 code).length ≤ 6 ∧
      (Nat.toDigits 16 code).isEmpty = false := by
    decide +kernel
  exact all code control

theorem charOfCode?_toNat (c : Char) : charOfCode? c.toNat = some c := by
  unfold charOfCode?
  have valid : c.toNat.isValidChar := c.valid
  rw [dif_pos valid]
  rfl

/-- The digits between braces that write the code point of a character. -/
structure WritesCode (digits : List Char) (c : Char) : Prop where
  notEmpty : digits ≠ []
  short : digits.length ≤ 6
  hex : ∀ d ∈ digits, isHexDigit d = true
  code : charOfCode? (naturalOfDigits 16 digits) = some c

/-- Digits in braces are the escape for the character whose code they write. -/
theorem WritesCode.unicodeEscape {digits : List Char} (writes : WritesCode digits c)
    (crosses : cursor.Crosses ('\x7b' :: (digits ++ ['\x7d'])) stop) :
    unicodeEscape start cursor = .found c stop := by
  obtain ⟨opens, inside⟩ := crosses.cons
  obtain ⟨rest, restEq⟩ := isAt_singleton_iff.mp opens
  obtain ⟨after, crossesDigits, closes⟩ := inside.split
  have taken : (cursor.skip 1).rest.takeWhile isHexDigit = digits := by
    rw [crossesDigits.1]
    refine takeWhile_append writes.hex ?_
    intro d rest' same
    rw [closes.1] at same
    obtain ⟨rfl, -⟩ := List.cons.inj same
    decide
  have someDigits := List.isEmpty_eq_false_iff.mpr writes.notEmpty
  obtain ⟨afterEq, stopEq⟩ := closes
  unfold Literal.unicodeEscape
  rw [restEq]
  dsimp only
  rw [taken, List.take_of_length_le writes.short, ← crossesDigits.2, someDigits, afterEq]
  dsimp only [List.singleton_append]
  rw [if_neg Bool.false_ne_true, writes.code, stopEq]
  rfl

theorem writesCode_of_control (control : c.toNat < 160) :
    WritesCode (Nat.toDigits 16 c.toNat) c := by
  obtain ⟨value, allHex, short, someDigits⟩ := controlDigits control
  rw [List.all_eq_true] at allHex
  exact ⟨List.isEmpty_eq_false_iff.mp someDigits, short, allHex, by rw [value, charOfCode?_toNat]⟩

/-- A letter after a backslash stands for the character it names. -/
theorem escape_simple {letter : Char} (simple : simpleEscape? letter = some c)
    (crosses : cursor.Crosses ['\\', letter] stop) :
    escape cursor = .found (some c) stop := by
  obtain ⟨-, second⟩ := crosses.cons
  obtain ⟨restEq, stopEq⟩ := second
  have notUnicode : letter ≠ 'u' := by
    rintro rfl
    simp [simpleEscape?] at simple
  unfold escape
  dsimp only
  rw [restEq]
  dsimp only [List.singleton_append]
  split
  · rename_i starts
    exact absurd (List.cons.inj starts).1 notUnicode
  · rename_i starts
    obtain ⟨rfl, -⟩ := List.cons.inj starts
    rw [simple, stopEq]
    rfl
  · rename_i starts
    simp at starts

theorem WritesCode.escape {digits : List Char} (writes : WritesCode digits c)
    (crosses : cursor.Crosses (['\\', 'u', '\x7b'] ++ digits ++ ['\x7d']) stop) :
    escape cursor = .found (some c) stop := by
  rw [List.append_assoc] at crosses
  obtain ⟨-, second⟩ := crosses.cons
  obtain ⟨atLetter, third⟩ := second.cons
  obtain ⟨rest, restEq⟩ := isAt_singleton_iff.mp atLetter
  unfold Literal.escape
  dsimp only
  rw [restEq]
  change Scan.map some (Literal.unicodeEscape cursor ((cursor.skip 1).skip 1)) = _
  rw [writes.unicodeEscape third]
  rfl

/-! ## The whole text -/

/-- How a printed character is read: as it is, or by an escape. -/
theorem printed_char (quote : Quote) (c : Char) :
    (Print.escape quote.char c = [c] ∧ c ≠ quote.char ∧ c ≠ '\\' ∧ c ≠ '\n' ∧ c ≠ '\r') ∨
      (∃ letter, Print.escape quote.char c = ['\\', letter] ∧
        simpleEscape? letter = some c) ∨
      (Print.escape quote.char c =
        ['\\', 'u', '\x7b'] ++ Nat.toDigits 16 c.toNat ++ ['\x7d'] ∧ c.toNat < 160) := by
  by_cases backslash : c = '\\'
  · exact .inr (.inl ⟨'\\', by simp [Print.escape, backslash], by simp [backslash, simpleEscape?]⟩)
  by_cases lineFeed : c = '\n'
  · exact .inr (.inl ⟨'n', by simp [Print.escape, lineFeed], by simp [lineFeed, simpleEscape?]⟩)
  by_cases return' : c = '\r'
  · exact .inr (.inl ⟨'r', by simp [Print.escape, return'], by simp [return', simpleEscape?]⟩)
  by_cases tab : c = '\t'
  · exact .inr (.inl ⟨'t', by simp [Print.escape, tab], by simp [tab, simpleEscape?]⟩)
  by_cases null : c = '\x00'
  · exact .inr (.inl ⟨'0', by simp [Print.escape, null], by simp [null, simpleEscape?]⟩)
  by_cases isQuote : c = quote.char
  · refine .inr (.inl ⟨c, ?_, ?_⟩)
    · rw [Print.escape, if_neg backslash, if_neg lineFeed, if_neg return', if_neg tab,
        if_neg null, if_pos isQuote]
    · rw [isQuote]
      cases quote <;> rfl
  by_cases control : Print.isControl c = true
  · refine .inr (.inr ⟨?_, ?_⟩)
    · simp [Print.escape, backslash, lineFeed, return', tab, null, isQuote, control]
    · simp only [Print.isControl, Bool.or_eq_true, Bool.and_eq_true, decide_eq_true_eq] at control
      omega
  · refine .inl ⟨?_, isQuote, backslash, lineFeed, return'⟩
    simp [Print.escape, backslash, lineFeed, return', tab, null, isQuote, control]

theorem quote_ne_backslash (quote : Quote) : quote.char ≠ '\\' := by
  cases quote <;> decide

/-- What is printed of a character gives it to the text read. -/
theorem stringBody_escape {fuel : Nat} {after : Cursor}
    (crosses : cursor.Crosses (Print.escape quote.char c) after) :
    stringBody quote start (fuel + 1) cursor =
      (stringBody quote start fuel after).map fun rest => c :: rest := by
  rcases printed_char quote c with
    ⟨same, notQuote, notBackslash, notBreak, notReturn⟩ | ⟨letter, same, simple⟩ |
      ⟨same, control⟩
  · rw [same] at crosses
    obtain ⟨restEq, rfl⟩ := crosses
    rw [stringBody, restEq]
    dsimp only [List.singleton_append, List.length_singleton]
    rw [if_neg notQuote, if_neg notBackslash, if_neg (by simp [notBreak, notReturn])]
  · rw [same] at crosses
    rw [stringBody, crosses.1]
    dsimp only [List.cons_append]
    rw [if_neg (quote_ne_backslash quote).symm, if_pos rfl, escape_simple simple crosses]
    rfl
  · rw [same] at crosses
    rw [stringBody, crosses.1]
    dsimp only [List.cons_append]
    rw [if_neg (quote_ne_backslash quote).symm, if_pos rfl,
      (writesCode_of_control control).escape crosses]
    rfl

theorem escape_ne_nil (quote c : Char) : Print.escape quote c ≠ [] := by
  unfold Print.escape
  repeat' split
  all_goals simp

theorem stringBody_reads {chars : List Char} {fuel : Nat} (enough : cursor.room ≤ fuel)
    (crosses : cursor.Crosses (chars.flatMap (Print.escape quote.char) ++ [quote.char]) stop) :
    stringBody quote start fuel cursor = .found chars stop := by
  induction chars generalizing cursor fuel with
  | nil =>
    have restEq : cursor.rest = quote.char :: stop.rest := crosses.1
    have stopEq : stop = cursor.skip 1 := crosses.2
    have notDone : cursor.rest ≠ [] := by simp [restEq]
    have someRoom := (passes_skip notDone Nat.one_pos).room_lt
    cases fuel with
    | zero => omega
    | succ fuel =>
      rw [stringBody, restEq]
      dsimp only
      rw [if_pos rfl, stopEq]
  | cons c chars ih =>
    rw [List.flatMap_cons, List.append_assoc] at crosses
    obtain ⟨after, first, others⟩ := crosses.split
    have notDone : cursor.rest ≠ [] := by
      rw [first.1]
      simp [escape_ne_nil]
    have passes : cursor.Passes after := by
      rw [first.2]
      exact passes_skip notDone (List.length_pos_iff.mpr (escape_ne_nil _ _))
    have shorter := passes.room_lt
    cases fuel with
    | zero => omega
    | succ fuel =>
      rw [stringBody_escape first, ih (by omega) others]
      rfl

/-- A printed string is read with its quotes. -/
theorem string_reads {value : String}
    (crosses : cursor.Crosses (Print.string value quote).toList stop) :
    Literal.string cursor = .found (value, quote) stop := by
  rw [Print.string, String.toList_ofList, List.cons_append] at crosses
  obtain ⟨opens, inside⟩ := crosses.cons
  have isQuote : quote? cursor = some quote :=
    quote?_eq_some.mpr (isAt_singleton_iff.mp opens)
  unfold Literal.string
  rw [isQuote]
  dsimp only
  rw [stringBody_reads ((cursor.reaches_skip 1).room_le) inside]
  simp [Scan.map, Scan.andThen]

/-- A printed string, with any text before it and any after it, is read as the text and the
quotes that it was printed from, and what is left is what stands after it. -/
theorem string_print_append (before after : List Char) (value : String) (quote : Quote) :
    let printed := (Print.string value quote).toList
    let start := (Cursor.ofSource (before ++ (printed ++ after))).skip before.length
    Literal.string start = .found (value, quote) (start.skip printed.length) ∧
      (start.skip printed.length).rest = after := by
  intro printed start
  have ahead : start.rest = printed ++ after := by
    rw [Cursor.rest_skip]
    exact List.drop_left
  have crosses := crosses_of_rest ahead
  refine ⟨string_reads crosses, ?_⟩
  rw [Cursor.rest_skip, ahead, List.drop_left]

end Literal

end TemplateLang
