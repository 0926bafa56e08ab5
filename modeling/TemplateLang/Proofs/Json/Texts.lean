import TemplateLang.Json.Reader
import TemplateLang.Json.Writer
import TemplateLang.Proofs.RoundTrip.Strings

/-!
# Strings in JSON text

Every character of a string is written as itself, as a letter after a backslash, or, if it is
another control character, by its code; and each of the three is read as the character.
-/

namespace TemplateLang

namespace Json

variable {fuel : Nat} {c : Char} {rest : List Char}

/-- The code of a control character is read as that character. -/
theorem readUnicode?_control (control : c.toNat < 32) :
    readUnicode? ('0' :: '0' :: hexDigit (c.toNat / 16) :: hexDigit (c.toNat % 16) :: rest) =
      some (c, rest) := by
  have digits : ∀ code < 32, digitValue? (hexDigit (code / 16)) = some (code / 16) ∧
      digitValue? (hexDigit (code % 16)) = some (code % 16) := by decide
  obtain ⟨high, low⟩ := digits c.toNat control
  have zero : digitValue? '0' = some 0 := rfl
  have unit : readHex4?
      ('0' :: '0' :: hexDigit (c.toNat / 16) :: hexDigit (c.toNat % 16) :: rest) =
        some (c.toNat, rest) := by
    simp only [readHex4?, zero, high, low, Option.bind_eq_bind, Option.bind_some]
    congr 2
    omega
  unfold readUnicode?
  rw [unit]
  simp only [Option.bind_eq_bind, Option.bind_some]
  rw [if_neg (by omega), if_neg (by omega), Char.ofNat_toNat]

/-- How a character is written: by a letter after a backslash, by its code, or as it is. -/
theorem escape_cases (c : Char) :
    (∃ letter, escape c = ['\\', letter] ∧ letter ≠ 'u' ∧ simpleEscape? letter = some c) ∨
      (escape c = ['\\', 'u', '0', '0', hexDigit (c.toNat / 16), hexDigit (c.toNat % 16)] ∧
        c.toNat < 32) ∨
      (escape c = [c] ∧ c ≠ '"' ∧ c ≠ '\\' ∧ ¬ c.toNat < 32) := by
  by_cases quote : c = '"'
  · exact .inl ⟨'"', by simp [escape, quote], by decide, by simp [quote, simpleEscape?]⟩
  by_cases backslash : c = '\\'
  · exact .inl ⟨'\\', by simp [escape, backslash], by decide, by simp [backslash, simpleEscape?]⟩
  by_cases backspace : c = '\x08'
  · exact .inl ⟨'b', by simp [escape, backspace], by decide, by simp [backspace, simpleEscape?]⟩
  by_cases formFeed : c = '\x0c'
  · exact .inl ⟨'f', by simp [escape, formFeed], by decide, by simp [formFeed, simpleEscape?]⟩
  by_cases lineFeed : c = '\n'
  · exact .inl ⟨'n', by simp [escape, lineFeed], by decide, by simp [lineFeed, simpleEscape?]⟩
  by_cases return' : c = '\r'
  · exact .inl ⟨'r', by simp [escape, return'], by decide, by simp [return', simpleEscape?]⟩
  by_cases tab : c = '\t'
  · exact .inl ⟨'t', by simp [escape, tab], by decide, by simp [tab, simpleEscape?]⟩
  have others : escape c = if c.toNat < 32 then
      ['\\', 'u', '0', '0', hexDigit (c.toNat / 16), hexDigit (c.toNat % 16)] else [c] := by
    simp only [escape, quote, backslash, backspace, formFeed, lineFeed, return', tab, if_false]
  by_cases control : c.toNat < 32
  · exact .inr (.inl ⟨by rw [others, if_pos control], control⟩)
  · exact .inr (.inr ⟨by rw [others, if_neg control], quote, backslash, control⟩)

/-! ## Steps of the reader -/

theorem readText?_letter {letter : Char} (noUnicode : letter ≠ 'u')
    (simple : simpleEscape? letter = some c) :
    readText? (fuel + 1) ('\\' :: letter :: rest) =
      (readText? fuel rest).map fun read => (c :: read.1, read.2) := by
  rw [readText?]
  · rw [simple]
    cases readText? fuel rest <;> rfl
  · exact noUnicode

theorem readText?_control (control : c.toNat < 32) :
    readText? (fuel + 1) ('\\' :: 'u' :: '0' :: '0' :: hexDigit (c.toNat / 16) ::
        hexDigit (c.toNat % 16) :: rest) =
      (readText? fuel rest).map fun read => (c :: read.1, read.2) := by
  change (readUnicode? _).bind _ = _
  rw [readUnicode?_control control]
  simp only [Option.bind_eq_bind, Option.bind_some]
  cases readText? fuel rest <;> rfl

theorem readText?_plain (noQuote : c ≠ '"') (noBackslash : c ≠ '\\') (noControl : ¬ c.toNat < 32) :
    readText? (fuel + 1) (c :: rest) =
      (readText? fuel rest).map fun read => (c :: read.1, read.2) := by
  rw [readText?]
  · rw [if_neg (by simp [noControl, noBackslash])]
    cases readText? fuel rest <;> rfl
  · exact noQuote
  · exact fun _ same _ => noBackslash same
  · exact fun _ _ same _ => noBackslash same

/-- What is written for a character adds it to the text that is read after it. -/
theorem readText?_escape (c : Char) :
    readText? (fuel + 1) (escape c ++ rest) =
      (readText? fuel rest).map fun read => (c :: read.1, read.2) := by
  rcases escape_cases c with ⟨letter, written, noUnicode, simple⟩ | ⟨written, control⟩ |
    ⟨written, noQuote, noBackslash, noControl⟩
  · rw [written]
    exact readText?_letter noUnicode simple
  · rw [written]
    exact readText?_control control
  · rw [written]
    exact readText?_plain noQuote noBackslash noControl

theorem length_escape_pos (c : Char) : 0 < (escape c).length := by
  rcases escape_cases c with ⟨letter, written, -⟩ | ⟨written, -⟩ | ⟨written, -⟩ <;> simp [written]

/-- A written string is read up to its closing quote. -/
theorem readText?_flatMap_escape {text : List Char}
    (enough : (text.flatMap escape).length < fuel) :
    readText? fuel (text.flatMap escape ++ '"' :: rest) = some (text, rest) := by
  induction text generalizing fuel with
  | nil =>
    cases fuel with
    | zero => omega
    | succ fuel => rfl
  | cons c text ih =>
    rw [List.flatMap_cons, List.length_append] at enough
    have positive := length_escape_pos c
    cases fuel with
    | zero => omega
    | succ fuel =>
      rw [List.flatMap_cons, List.append_assoc, readText?_escape, ih (by omega)]
      rfl

end Json

end TemplateLang
