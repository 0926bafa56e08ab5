import TemplateLang.Proofs.Blanking.Looking

/-!
# What scanners look at

A scanner that finds a string or a comment looks at its text alone, so that it finds the same
wherever that text stands.  The text of a string is described by a relation, one rule for each
way to write a character, and the scanner is proved to follow it.  A number ends where no
character goes on with it, and there a comment and a blank are alike.
-/

namespace TemplateLang

open Cursor

namespace Literal

variable {start cursor cursor' next next' : Cursor} {quote : Quote} {text chars : List Char}

/-! ## Strings -/

/-- The text of a string after its opening quote, and the characters that it stands for. -/
inductive Quoted (quote : Quote) : List Char → List Char → Prop where
  | close : Quoted quote [quote.char] []
  | plain {c : Char} {text chars : List Char} (notQuote : c ≠ quote.char)
      (notBackslash : c ≠ '\\') (notBreak : ¬ (c = '\n' ∨ c = '\r'))
      (others : Quoted quote text chars) : Quoted quote (c :: text) (c :: chars)
  | simple {letter c : Char} {text chars : List Char} (meant : simpleEscape? letter = some c)
      (others : Quoted quote text chars) : Quoted quote ('\\' :: letter :: text) (c :: chars)
  | code {digits text chars : List Char} {c : Char} (writes : WritesCode digits c)
      (others : Quoted quote text chars) :
      Quoted quote ('\\' :: 'u' :: '\x7b' :: (digits ++ '\x7d' :: text)) (c :: chars)
  | continued {blank : Char} {blanks text chars : List Char}
      (notSimple : simpleEscape? blank = none)
      (all : ∀ d ∈ blank :: blanks, isContinuation d = true)
      (ends : ∀ d rest, text = d :: rest → isContinuation d = false)
      (others : Quoted quote text chars) :
      Quoted quote ('\\' :: blank :: (blanks ++ text)) chars

/-- The digits of an escape are crossed, and there are at most six. -/
theorem crosses_hexDigits {digits : List Char}
    (digitsEq : (cursor.rest.takeWhile isHexDigit).take 6 = digits) :
    cursor.Crosses digits (cursor.skip digits.length) ∧ digits.length ≤ 6 ∧
      ∀ d ∈ digits, isHexDigit d = true := by
  subst digitsEq
  refine ⟨?_, List.length_take_le _ _, fun d isIn => ?_⟩
  · have isPrefix : (cursor.rest.takeWhile isHexDigit).take 6 <+: cursor.rest :=
      (List.take_prefix _ _).trans (List.takeWhile_prefix _)
    rcases isPrefix with ⟨more, same⟩
    exact crosses_of_rest same.symm
  · exact List.all_eq_true.mp List.all_takeWhile d (List.mem_of_mem_take isIn)

theorem unicodeEscape_eq_found {c : Char} :
    unicodeEscape start cursor = .found c next ↔
      ∃ digits, WritesCode digits c ∧ cursor.Crosses ('\x7b' :: (digits ++ ['\x7d'])) next := by
  constructor
  · intro found
    unfold unicodeEscape at found
    split at found
    · rename_i rest restEq
      dsimp only at found
      generalize digitsEq :
        ((cursor.skip 1).rest.takeWhile isHexDigit).take 6 = digits at found
      rcases crosses_hexDigits digitsEq with ⟨inside, short, hex⟩
      split at found
      · simp at found
      · rename_i someDigits
        split at found
        · rename_i after afterEq
          split at found
          · rename_i c' code
            rcases Scan.found.inj found with ⟨rfl, rfl⟩
            have opens : cursor.Crosses ['\x7b'] (cursor.skip 1) := crosses_of_rest restEq
            have closes : ((cursor.skip 1).skip digits.length).Crosses ['\x7d']
                (((cursor.skip 1).skip digits.length).skip 1) := crosses_of_rest afterEq
            exact ⟨digits, ⟨by simpa using someDigits, short, hex, code⟩,
              opens.trans (inside.trans closes)⟩
          · simp at found
        · simp at found
    · simp at found
  · rintro ⟨digits, writes, crosses⟩
    exact writes.unicodeEscape crosses

/-- An escape before the rest of a string. -/
theorem quoted_of_escape {rest : List Char} {meant : Option Char} {middle : Cursor}
    (starts : cursor.rest = '\\' :: rest) (escaped : escape cursor = .found meant middle)
    (crosses : middle.Crosses text next) (quoted : Quoted quote text chars) :
    ∃ whole, cursor.Crosses whole next ∧ Quoted quote whole (meant.toList ++ chars) := by
  have backslash : cursor.Crosses ['\\'] (cursor.skip 1) := crosses_of_rest starts
  unfold escape at escaped
  dsimp only at escaped
  split at escaped
  · rename_i rest' restEq
    have letter : (cursor.skip 1).Crosses ['u'] ((cursor.skip 1).skip 1) := crosses_of_rest restEq
    rcases Scan.map_eq_found.mp escaped with ⟨c, read, rfl⟩
    rcases unicodeEscape_eq_found.mp read with ⟨digits, writes, code⟩
    refine ⟨_, ?_, .code writes quoted⟩
    have whole := backslash.trans (letter.trans (code.trans crosses))
    simpa using whole
  · rename_i c rest' notUnicode restEq
    have letter : (cursor.skip 1).Crosses [c] ((cursor.skip 1).skip 1) := crosses_of_rest restEq
    split at escaped
    · rename_i c' simple
      rcases Scan.found.inj escaped with ⟨rfl, rfl⟩
      exact ⟨_, backslash.trans (letter.trans crosses), .simple simple quoted⟩
    · rename_i notSimple
      split at escaped
      · rename_i isBlank
        rcases Scan.found.inj escaped with ⟨rfl, rfl⟩
        have blanks : (cursor.skip 1).Crosses (c :: rest'.takeWhile isContinuation)
            ((cursor.skip 1).skipWhile isContinuation) := by
          have crossed := crosses_takeWhile (cursor.skip 1) isContinuation
          rwa [restEq, List.takeWhile_cons, if_pos isBlank] at crossed
        refine ⟨'\\' :: c :: (rest'.takeWhile isContinuation ++ text), ?_,
          .continued notSimple ?_ ?_ quoted⟩
        · exact backslash.trans (blanks.trans crosses)
        · intro d isIn
          rcases List.mem_cons.mp isIn with rfl | isIn
          · exact isBlank
          · exact List.all_eq_true.mp List.all_takeWhile d isIn
        · rintro d more rfl
          have ends := List.head?_dropWhile_not isContinuation (cursor.skip 1).rest
          rw [← rest_skipWhile, crosses.1] at ends
          simpa using ends
      · simp at escaped
  · simp at escaped

/-- A string that is found has a text in quotes. -/
theorem quoted_of_stringBody {fuel : Nat}
    (found : stringBody quote start fuel cursor = .found chars next) :
    ∃ text, cursor.Crosses text next ∧ Quoted quote text chars := by
  induction fuel generalizing cursor chars with
  | zero => simp [stringBody] at found
  | succ fuel ih =>
    unfold stringBody at found
    split at found
    · simp at found
    · rename_i c rest restEq
      have first : cursor.Crosses [c] (cursor.skip 1) := crosses_of_rest restEq
      split at found
      · rename_i isQuote
        subst isQuote
        rcases Scan.found.inj found with ⟨rfl, rfl⟩
        exact ⟨_, first, .close⟩
      · rename_i notQuote
        split at found
        · rename_i isBackslash
          subst isBackslash
          rcases Scan.andThen_eq_found.mp found with ⟨meant, middle, escaped, goesOn⟩
          rcases Scan.map_eq_found.mp goesOn with ⟨others, read, rfl⟩
          rcases ih read with ⟨text, crosses, quoted⟩
          exact quoted_of_escape restEq escaped crosses quoted
        · rename_i notBackslash
          split at found
          · simp at found
          · rename_i notBreak
            rcases Scan.map_eq_found.mp found with ⟨others, read, rfl⟩
            rcases ih read with ⟨text, crosses, quoted⟩
            exact ⟨_, first.trans crosses, .plain notQuote notBackslash notBreak quoted⟩

theorem stringBody_escaped {rest : List Char} {meant : Option Char} {middle : Cursor}
    (starts : cursor.rest = '\\' :: rest) (escaped : escape cursor = .found meant middle)
    {fuel : Nat} (read : stringBody quote start fuel middle = .found chars next) :
    stringBody quote start (fuel + 1) cursor = .found (meant.toList ++ chars) next := by
  rw [stringBody, starts]
  dsimp only
  rw [if_neg (quote_ne_backslash quote).symm, if_pos rfl, escaped, Scan.andThen, read]
  rfl

/-- A backslash before blanks goes on after them. -/
theorem escape_continued {blank : Char} {blanks : List Char}
    (notSimple : simpleEscape? blank = none)
    (all : ∀ d ∈ blank :: blanks, isContinuation d = true)
    (ends : ∀ d more, next.rest = d :: more → isContinuation d = false)
    (crosses : cursor.Crosses ('\\' :: blank :: blanks) next) :
    escape cursor = .found none next := by
  have inside := crosses.cons.2
  have taken : (cursor.skip 1).rest.takeWhile isContinuation = blank :: blanks := by
    rw [inside.1]
    exact takeWhile_append all ends
  have isBlank := all blank List.mem_cons_self
  unfold escape
  dsimp only
  split
  · rename_i same
    rw [inside.1] at same
    rcases List.cons.inj same with ⟨rfl, -⟩
    exact absurd isBlank (by decide)
  · rename_i c rest' _ same
    rw [inside.1] at same
    rcases List.cons.inj same with ⟨rfl, -⟩
    rw [notSimple]
    dsimp only
    rw [if_pos isBlank, skipWhile, taken, inside.2]
  · rename_i same
    rw [inside.1] at same
    simp at same

theorem Quoted.ne_nil (quoted : Quoted quote text chars) : text ≠ [] := by
  cases quoted <;> simp

/-- A text in quotes is found wherever it stands. -/
theorem Quoted.stringBody_reads (quoted : Quoted quote text chars) {fuel : Nat}
    (crosses : cursor.Crosses text next) (enough : text.length ≤ fuel) :
    stringBody quote start fuel cursor = .found chars next := by
  induction quoted generalizing cursor fuel with
  | close =>
    cases fuel with
    | zero => simp at enough
    | succ fuel =>
      rw [stringBody, crosses.1]
      dsimp only [List.singleton_append]
      rw [if_pos rfl, crosses.2]
      rfl
  | plain notQuote notBackslash notBreak _ ih =>
    cases fuel with
    | zero => simp at enough
    | succ fuel =>
      rw [stringBody, crosses.1]
      dsimp only [List.cons_append]
      rw [if_neg notQuote, if_neg notBackslash, if_neg notBreak,
        ih crosses.cons.2 (by simpa using enough)]
      rfl
  | @simple letter c text chars meant _ ih =>
    change cursor.Crosses (['\\', letter] ++ text) next at crosses
    rcases crosses.split with ⟨middle, escaped, others⟩
    cases fuel with
    | zero => simp at enough
    | succ fuel =>
      simp only [List.length_cons] at enough
      exact stringBody_escaped crosses.1 (escape_simple meant escaped) (ih others (by omega))
  | @code digits text chars c writes _ ih =>
    have parts : '\\' :: 'u' :: '\x7b' :: (digits ++ '\x7d' :: text) =
        (['\\', 'u', '\x7b'] ++ digits ++ ['\x7d']) ++ text := by simp
    rw [parts] at crosses
    rcases crosses.split with ⟨middle, escaped, others⟩
    cases fuel with
    | zero => simp at enough
    | succ fuel =>
      simp only [List.length_cons, List.length_append] at enough
      exact stringBody_escaped crosses.1 (writes.escape escaped) (ih others (by omega))
  | @continued blank blanks text chars notSimple all ends quoted ih =>
    change cursor.Crosses ((('\\' :: blank :: blanks) ++ text)) next at crosses
    rcases crosses.split with ⟨middle, escaped, others⟩
    have ended (d : Char) (more : List Char) (same : middle.rest = d :: more) :
        isContinuation d = false := by
      rcases List.exists_cons_of_ne_nil quoted.ne_nil with ⟨d', text', rfl⟩
      rw [others.1] at same
      rcases List.cons.inj same with ⟨rfl, -⟩
      exact ends _ _ rfl
    cases fuel with
    | zero => simp at enough
    | succ fuel =>
      simp only [List.length_cons, List.length_append] at enough
      exact stringBody_escaped crosses.1 (escape_continued notSimple all ended escaped)
        (ih others (by omega))

/-- A string that is found is found wherever its text stands. -/
theorem string_found_again {value : String × Quote} (found : string cursor = .found value next) :
    ∃ text, cursor.Crosses text next ∧ ∀ {cursor' next'}, cursor'.Crosses text next' →
      string cursor' = .found value next' := by
  unfold string at found
  split at found
  · rename_i quote isQuote
    rcases quote?_eq_some.mp isQuote with ⟨rest, restEq⟩
    rcases Scan.map_eq_found.mp found with ⟨chars, read, rfl⟩
    rcases quoted_of_stringBody read with ⟨text, crosses, quoted⟩
    have opens : cursor.Crosses [quote.char] (cursor.skip 1) := crosses_of_rest restEq
    refine ⟨quote.char :: text, opens.trans crosses, fun {cursor' next'} crosses' => ?_⟩
    have isQuote' : quote? cursor' = some quote := quote?_eq_some.mpr ⟨_, crosses'.1⟩
    have enough : text.length ≤ cursor'.room := by
      rw [room_eq, crosses'.1]
      refine Nat.le_trans ?_ (length_le_byteLength _)
      simp only [List.cons_append, List.length_cons, List.length_append]
      omega
    unfold string
    rw [isQuote']
    dsimp only
    rw [quoted.stringBody_reads crosses'.cons.2 enough]
    rfl
  · simp at found

theorem unicodeEscape_ne_absent (start cursor : Cursor) :
    unicodeEscape start cursor ≠ .absent := by
  unfold unicodeEscape
  dsimp only
  repeat' split
  all_goals simp

theorem escape_ne_absent (cursor : Cursor) : escape cursor ≠ .absent := by
  unfold escape
  dsimp only
  split
  · rw [Ne, Scan.map_eq_absent]
    exact unicodeEscape_ne_absent _ _
  · repeat' split
    all_goals simp
  · simp

theorem stringBody_ne_absent (fuel : Nat) (cursor : Cursor) :
    stringBody quote start fuel cursor ≠ .absent := by
  induction fuel generalizing cursor with
  | zero => simp [stringBody]
  | succ fuel ih =>
    unfold stringBody
    split
    · simp
    · split
      · simp
      · split
        · cases escaped : escape cursor with
          | found meant next => simpa [Scan.andThen, Scan.map_eq_absent] using ih next
          | absent => exact absurd escaped (escape_ne_absent cursor)
          | broken => simp [Scan.andThen]
        · split
          · simp
          · simpa [Scan.map_eq_absent] using ih _

/-- A quote begins a string, whole or broken. -/
theorem string_eq_absent : string cursor = .absent ↔ quote? cursor = none := by
  unfold string
  split
  · rename_i quote isQuote
    simp [Scan.map_eq_absent, stringBody_ne_absent, isQuote]
  · rename_i noQuote
    simp [noQuote]

/-! ## Comments -/

/-- A comment that is found is found wherever its text stands. -/
theorem comment_found_again {found : Comment} (read : comment cursor = .found found next) :
    ∃ text, cursor.Crosses text next ∧ ∀ {cursor' next'}, cursor'.Crosses text next' →
      comment cursor' = .found ⟨found.body, cursor'.spanTo next'⟩ next' := by
  rcases comment_eq_found.mp read with ⟨body, after, restEq, cut, rfl, rfl⟩
  rcases List.isPrefixOf_iff_prefix.mp (cutBefore?_eq_some cut).2 with ⟨rest, rfl⟩
  have closed : ¬ commentClosing <:+: body := not_infix_of_cutBefore?_eq_some (by decide) cut
  have marks : (commentOpening ++ body ++ commentClosing).length = 2 + (body.length + 2) := by
    simp only [commentOpening, commentClosing, List.length_append, List.length_cons,
      List.length_nil]
    omega
  refine ⟨commentOpening ++ body ++ commentClosing, ?_, fun {cursor' next'} crosses' => ?_⟩
  · have whole : cursor.rest = commentOpening ++ body ++ commentClosing ++ rest := by
      rw [restEq, List.append_assoc _ _ rest]
    rw [← marks]
    exact crosses_of_rest whole
  · refine comment_eq_found.mpr
      ⟨body, commentClosing ++ next'.rest, ?_, Print.cutBefore?_closing closed, ?_, rfl⟩
    · rw [crosses'.1, List.append_assoc _ _ next'.rest]
    · rw [← marks]
      exact crosses'.2

/-! ## Numbers -/

/-- No character of a text goes on with a run of digits. -/
def EndsDigits (text : List Char) : Prop :=
  ∀ c rest, text = c :: rest → c.isDigit = false

theorem crosses_digits (cursor : Cursor) :
    cursor.Crosses (decimalDigits cursor) (cursor.skip (decimalDigits cursor).length) :=
  crosses_takeWhile cursor Char.isDigit

theorem decimalDigits_of_append {digits rest : List Char} (all : ∀ c ∈ digits, c.isDigit = true)
    (ends : EndsDigits rest) (restEq : cursor.rest = digits ++ rest) :
    decimalDigits cursor = digits := by
  rw [decimalDigits, restEq]
  exact takeWhile_append all ends

theorem isDigit_of_mem_decimalDigits {c : Char} (isIn : c ∈ decimalDigits cursor) :
    c.isDigit = true :=
  List.all_eq_true.mp List.all_takeWhile c isIn

/-- The fraction of a number is found wherever its text stands before no digit, and before
no point if the fraction is missing. -/
theorem fractionPart_found_again (cursor : Cursor) :
    ∃ text, cursor.Crosses text (fractionPart cursor).2 ∧
      (text = [] ∧ (∀ rest, cursor.rest ≠ '.' :: rest) ∨ text = '.' :: (fractionPart cursor).1) ∧
      ∀ {cursor' next'}, cursor'.Crosses text next' → EndsDigits next'.rest →
        (∀ rest, next'.rest ≠ '.' :: rest) →
          fractionPart cursor' = ((fractionPart cursor).1, next') := by
  unfold fractionPart
  split
  · rename_i rest restEq
    refine ⟨'.' :: decimalDigits (cursor.skip 1), ?_, .inr rfl, ?_⟩
    · have point : cursor.Crosses ['.'] (cursor.skip 1) := crosses_of_rest restEq
      exact point.trans (crosses_digits _)
    · intro cursor' next' crosses' ends _
      have restEq' : cursor'.rest = '.' :: (decimalDigits (cursor.skip 1) ++ next'.rest) :=
        crosses'.1
      rcases crosses'.cons.2 with ⟨restEq'', rfl⟩
      simp only [restEq']
      rw [decimalDigits_of_append (fun c => isDigit_of_mem_decimalDigits) ends restEq'']
  · rename_i noPointHere
    refine ⟨[], ⟨rfl, (skip_zero cursor).symm⟩, .inl ⟨rfl, noPointHere⟩, ?_⟩
    intro cursor' next' crosses' _ noPoint
    rcases crosses' with ⟨restEq', rfl⟩
    rw [List.length_nil, skip_zero]
    split
    · rename_i rest starts
      exact absurd (restEq'.symm.trans starts) (noPoint rest)
    · rfl

/-- A sign is passed wherever the text goes on with the same character. -/
theorem afterSign_found_again (cursor : Cursor) :
    ∃ text, cursor.Crosses text (afterSign cursor) ∧
      ∀ {cursor' next'}, cursor'.Crosses text next' → cursor'.rest.head? = cursor.rest.head? →
        afterSign cursor' = next' := by
  by_cases signed :
    (cursor.rest.head? = some '-' || cursor.rest.head? = some '+') = true
  · have someSign : ∃ c, cursor.rest.head? = some c := by
      rw [Bool.or_eq_true, decide_eq_true_eq, decide_eq_true_eq] at signed
      exact signed.elim (fun minus => ⟨_, minus⟩) fun plus => ⟨_, plus⟩
    rcases someSign with ⟨c, sign⟩
    rcases List.head?_eq_some_iff.mp sign with ⟨rest, restEq⟩
    refine ⟨[c], ?_, fun {cursor' next'} crosses' same => ?_⟩
    · rw [afterSign, if_pos signed]
      exact crosses_of_rest restEq
    · rw [afterSign, same, if_pos signed]
      exact crosses'.2.symm
  · refine ⟨[], ?_, fun {cursor' next'} crosses' same => ?_⟩
    · rw [afterSign, if_neg signed]
      exact ⟨rfl, (skip_zero cursor).symm⟩
    · rw [afterSign, same, if_neg signed, crosses'.2, List.length_nil, skip_zero]

theorem exponent_found_again {power : Int} (found : exponent start cursor = .found power next) :
    ∃ text, cursor.Crosses text next ∧
      ∀ {start' cursor' next'}, cursor'.Crosses text next' → EndsDigits next'.rest →
        exponent start' cursor' = .found power next' := by
  rcases exponent_eq_found.mp found with ⟨someDigits, rfl, rfl⟩
  rcases afterSign_found_again cursor with ⟨sign, crosses, again⟩
  have digits := crosses_digits (afterSign cursor)
  have someText : sign ++ decimalDigits (afterSign cursor) ≠ [] := by simp [someDigits]
  refine ⟨_, crosses.trans digits, fun {start' cursor' next'} crosses' ends => ?_⟩
  have same : cursor'.rest.head? = cursor.rest.head? := by
    rw [crosses'.1, (crosses.trans digits).1, List.head?_append_of_ne_nil _ someText,
      List.head?_append_of_ne_nil _ someText]
  rcases crosses'.split with ⟨middle, first, second⟩
  have afterEq : afterSign cursor' = middle := again first same
  have digitsEq := decimalDigits_of_append (fun c => isDigit_of_mem_decimalDigits) ends second.1
  refine exponent_eq_found.mpr ⟨?_, ?_, ?_⟩
  · rw [afterEq, digitsEq]
    exact someDigits
  · rw [afterEq, digitsEq]
    exact second.2
  · rw [afterEq, digitsEq, same]

/-- The exponent of a number is found wherever its text stands before no digit, and before
no letter that begins one if the exponent is missing. -/
theorem exponentPart_found_again {power : Int}
    (found : exponentPart start cursor = .found power next) :
    ∃ text, cursor.Crosses text next ∧
      (text = [] ∨ ∃ c rest, text = c :: rest ∧ (c = 'e' ∨ c = 'E')) ∧
      ∀ {start' cursor' next'}, cursor'.Crosses text next' → EndsDigits next'.rest →
        (∀ c rest, next'.rest = c :: rest → c ≠ 'e' ∧ c ≠ 'E') →
          exponentPart start' cursor' = .found power next' := by
  have reads {c : Char} {start cursor : Cursor} (isLetter : c = 'e' ∨ c = 'E')
      (letter : cursor.rest.head? = some c) :
      exponentPart start cursor = exponent start (cursor.skip 1) := by
    unfold exponentPart
    rcases isLetter with rfl | rfl <;> simp only [letter]
  by_cases marked : ∃ c, (c = 'e' ∨ c = 'E') ∧ cursor.rest.head? = some c
  · rcases marked with ⟨c, isLetter, letter⟩
    rw [reads isLetter letter] at found
    rcases exponent_found_again found with ⟨text, crosses, again⟩
    rcases List.head?_eq_some_iff.mp letter with ⟨rest, restEq⟩
    have first : cursor.Crosses [c] (cursor.skip 1) := crosses_of_rest restEq
    refine ⟨c :: text, first.trans crosses, .inr ⟨c, text, rfl, isLetter⟩, ?_⟩
    intro start' cursor' next' crosses' ends _
    have letter' : cursor'.rest.head? = some c := by simp [crosses'.1]
    rw [reads isLetter letter']
    exact again crosses'.cons.2 ends
  · have unmarked {start cursor : Cursor}
        (none : ¬ ∃ c, (c = 'e' ∨ c = 'E') ∧ cursor.rest.head? = some c) :
        exponentPart start cursor = .found 0 cursor := by
      unfold exponentPart
      split
      · rename_i letter
        exact absurd ⟨'e', .inl rfl, letter⟩ none
      · rename_i letter
        exact absurd ⟨'E', .inr rfl, letter⟩ none
      · rfl
    rw [unmarked marked] at found
    rcases Scan.found.inj found with ⟨rfl, rfl⟩
    refine ⟨[], ⟨rfl, (skip_zero cursor).symm⟩, .inl rfl, ?_⟩
    intro start' cursor' next' crosses' _ noLetter
    rcases crosses' with ⟨-, rfl⟩
    rw [List.length_nil, skip_zero] at noLetter ⊢
    apply unmarked
    rintro ⟨c, isLetter, letter⟩
    rcases List.head?_eq_some_iff.mp letter with ⟨rest, restEq⟩
    rcases noLetter c rest restEq with ⟨notLower, notUpper⟩
    exact isLetter.elim notLower notUpper

/-- No character of a text goes on with a number. -/
def EndsNumber (text : List Char) : Prop :=
  ∀ c rest, text = c :: rest → isWordChar c = false ∧ c ≠ '.'

theorem EndsNumber.endsDigits (ends : EndsNumber text) : EndsDigits text := by
  intro c rest same
  rw [Bool.eq_false_iff]
  intro digit
  have notWord := (ends c rest same).1
  rw [isWordChar_iff.mpr (.inr digit)] at notWord
  exact Bool.noConfusion notWord

theorem startsDecimal_of_isDigit {c : Char} {rest : List Char} (isDigit : c.isDigit = true) :
    startsDecimal (c :: rest) = true := by
  unfold startsDecimal
  split
  · exact absurd isDigit (by simp_all)
  · simp_all
  · simp_all

/-- A decimal literal starts with a digit, or with a point and a digit. -/
theorem startsDecimal_cases (starts : startsDecimal text = true) :
    (∃ c rest, text = c :: rest ∧ c.isDigit = true) ∨
      ∃ c rest, text = '.' :: c :: rest ∧ c.isDigit = true := by
  unfold startsDecimal at starts
  split at starts
  · exact .inr ⟨_, _, rfl, starts⟩
  · exact .inl ⟨_, _, rfl, starts⟩
  · simp at starts

theorem startsDecimal_append {more : List Char} (starts : startsDecimal text = true) :
    startsDecimal (text ++ more) = true := by
  rcases startsDecimal_cases starts with ⟨c, rest, rfl, isDigit⟩ | ⟨c, rest, rfl, isDigit⟩
  · exact startsDecimal_of_isDigit isDigit
  · exact isDigit

/-- Digits, a fraction and an exponent are found wherever their text stands before no
character that goes on with them. -/
theorem decimal_found_again {value : Number} (starts : startsDecimal cursor.rest = true)
    (found : decimal cursor = .found value next) :
    ∃ text, cursor.Crosses text next ∧ startsDecimal text = true ∧
      ∀ {cursor' next'}, cursor'.Crosses text next' → EndsNumber next'.rest →
        decimal cursor' = .found value next' := by
  rw [decimal_eq] at found
  rcases Scan.map_eq_found.mp found with ⟨power, read, rfl⟩
  have digits := crosses_digits cursor
  rcases fractionPart_found_again (cursor.skip (decimalDigits cursor).length) with
    ⟨fraction, crossesFraction, fractionStarts, fractionAgain⟩
  rcases exponentPart_found_again read with
    ⟨letters, crossesExponent, exponentStarts, exponentAgain⟩
  have startsText : startsDecimal (decimalDigits cursor ++ (fraction ++ letters)) = true := by
    cases digitsEq : decimalDigits cursor with
    | cons digit more =>
      have isDigit : digit.isDigit = true :=
        isDigit_of_mem_decimalDigits (digitsEq ▸ List.mem_cons_self)
      exact startsDecimal_of_isDigit isDigit
    | nil =>
      rcases startsDecimal_cases starts with ⟨c, rest, restEq, isDigit⟩ | ⟨c, rest, restEq, isDigit⟩
      · simp [decimalDigits, restEq, isDigit] at digitsEq
      · rw [digitsEq, List.length_nil, skip_zero] at fractionStarts
        rcases fractionStarts with ⟨-, noPoint⟩ | rfl
        · exact absurd restEq (noPoint _)
        · simp [fractionPart, restEq, decimalDigits, isDigit, startsDecimal]
  refine ⟨_, digits.trans (crossesFraction.trans crossesExponent), startsText, ?_⟩
  intro cursor' next' crosses' ends
  rcases crosses'.split with ⟨first, crossesDigits', others⟩
  rcases others.split with ⟨second, crossesFraction', crossesExponent'⟩
  have notE {c : Char} {rest : List Char} (starts : next'.rest = c :: rest) :
      c ≠ 'e' ∧ c ≠ 'E' := by
    constructor <;> rintro rfl <;> exact absurd (ends _ _ starts).1 (by decide)
  -- What follows the fraction is a letter, or it follows the whole number.
  have afterFraction : EndsDigits second.rest ∧ ∀ rest, second.rest ≠ '.' :: rest := by
    rw [crossesExponent'.1]
    rcases exponentStarts with rfl | ⟨c, rest, rfl, isLetter⟩
    · exact ⟨ends.endsDigits, fun rest starts => (ends _ _ starts).2 rfl⟩
    · constructor
      · intro d rest' same
        rcases List.cons.inj same with ⟨rfl, -⟩
        rcases isLetter with rfl | rfl <;> decide
      · intro rest' same
        rcases List.cons.inj same with ⟨rfl, -⟩
        rcases isLetter with isLetter | isLetter <;> exact absurd isLetter (by decide)
  have afterDigits : EndsDigits first.rest := by
    rw [crossesFraction'.1]
    rcases fractionStarts with ⟨rfl, -⟩ | rfl
    · exact afterFraction.1
    · intro d rest' same
      rcases List.cons.inj same with ⟨rfl, -⟩
      decide
  have digitsEq : decimalDigits cursor' = decimalDigits cursor :=
    decimalDigits_of_append (fun c => isDigit_of_mem_decimalDigits) afterDigits crossesDigits'.1
  have placeEq : cursor'.skip (decimalDigits cursor).length = first := crossesDigits'.2.symm
  rw [decimal_eq, Scan.map_eq_found, digitsEq, placeEq,
    fractionAgain crossesFraction' afterFraction.1 afterFraction.2]
  exact ⟨power, exponentAgain crossesExponent' ends.endsDigits fun c rest => notE, rfl⟩

theorem radixDigits_found_again {base : Nat} {name : String} {value : Number}
    (found : radixDigits start cursor base name = .found value next) :
    ∃ text, cursor.Crosses text next ∧
      ∀ {start' cursor' next'}, cursor'.Crosses text next' → EndsNumber next'.rest →
        radixDigits start' cursor' base name = .found value next' := by
  rcases radixDigits_eq_found.mp found with ⟨someDigits, allDigits, rfl, rfl⟩
  refine ⟨_, crosses_takeWhile cursor isWordChar, ?_⟩
  intro start' cursor' next' crosses' ends
  have sameRun : cursor'.rest.takeWhile isWordChar = cursor.rest.takeWhile isWordChar := by
    rw [crosses'.1]
    exact takeWhile_append (List.all_eq_true.mp List.all_takeWhile)
      fun c rest same => (ends c rest same).1
  rw [radixDigits_eq_found, sameRun]
  exact ⟨someDigits, allDigits, rfl, crosses'.2⟩

/-- No base is announced by a number that ends. -/
theorem announced_eq_none_of_append {more more' : List Char}
    (notAnnounced : announced (text ++ more) = none) (starts : startsDecimal text = true)
    (ends : EndsNumber more') : announced (text ++ more') = none := by
  match text, starts with
  | [c], _ =>
    cases more' with
    | nil => simp [announced]
    | cons d rest =>
      have notWord := (ends d rest rfl).1
      rw [List.singleton_append, Option.eq_none_iff_forall_ne_some]
      intro base isAnnounced
      rcases announced_eq_some.mp isAnnounced with ⟨letter, rest', same, isRadix⟩
      rcases List.cons.inj (List.cons.inj same).2 with ⟨rfl, -⟩
      rw [isWordChar_iff.mpr (.inl (isWordStart_of_radix? isRadix))] at notWord
      exact Bool.noConfusion notWord
  | c :: d :: rest, _ =>
    unfold announced at notAnnounced ⊢
    split <;> simp_all

/-- A number that is found is found wherever its text stands before no character that goes
on with it. -/
theorem number_found_again {value : Number} (found : number cursor = .found value next) :
    ∃ text, cursor.Crosses text next ∧
      ∀ {cursor' next'}, cursor'.Crosses text next' → EndsNumber next'.rest →
        number cursor' = .found value next' := by
  rw [number_eq] at found
  split at found
  · rename_i base name isAnnounced
    rcases radixDigits_found_again found with ⟨text, crosses, again⟩
    rcases announced_eq_some.mp isAnnounced with ⟨letter, rest, restEq, isRadix⟩
    have first : cursor.Crosses ['0', letter] (cursor.skip 2) := crosses_of_rest restEq
    refine ⟨_, first.trans crosses, fun {cursor' next'} crosses' ends => ?_⟩
    have isAnnounced' : announced cursor'.rest = some (base, name) := by
      rw [crosses'.1]
      exact isRadix
    have others := crosses'.cons.2.cons.2
    rw [skip_skip] at others
    rw [number_eq, isAnnounced']
    exact again others ends
  · rename_i notAnnounced
    split at found
    · rename_i starts
      rcases decimal_found_again starts found with ⟨text, crosses, startsText, again⟩
      refine ⟨text, crosses, fun {cursor' next'} crosses' ends => ?_⟩
      have notAnnounced' : announced cursor'.rest = none := by
        rw [crosses.1] at notAnnounced
        rw [crosses'.1]
        exact announced_eq_none_of_append notAnnounced startsText ends
      rw [number_eq, notAnnounced', crosses'.1]
      dsimp only
      rw [if_pos (startsDecimal_append startsText)]
      exact again crosses' ends
    · simp at found

/-- Two places are left behind by equally many characters. -/
def Moves (cursor cursor' next next' : Cursor) : Prop :=
  ∃ count, next = cursor.skip count ∧ next' = cursor'.skip count ∧ Blanked next.rest next'.rest

variable {middle middle' : Cursor}

theorem Moves.blanked (moves : Moves cursor cursor' next next') : Blanked next.rest next'.rest := by
  rcases moves with ⟨-, -, -, blanked⟩
  exact blanked

theorem Moves.trans (first : Moves cursor cursor' middle middle')
    (second : Moves middle middle' next next') : Moves cursor cursor' next next' := by
  rcases first with ⟨m, rfl, rfl, -⟩
  rcases second with ⟨n, rfl, rfl, blanked⟩
  exact ⟨m + n, skip_skip cursor m n, skip_skip cursor' m n, blanked⟩

theorem moves_refl (blanked : Blanked cursor.rest cursor'.rest) :
    Moves cursor cursor' cursor cursor' :=
  ⟨0, (skip_zero cursor).symm, (skip_zero cursor').symm, blanked⟩

/-- Past one character. -/
theorem moves_skip (blanked : Blanked cursor.rest cursor'.rest) {c : Char}
    (starts : cursor.rest.head? = some c) (noSlash : c ≠ '/') :
    Moves cursor cursor' (cursor.skip 1) (cursor'.skip 1) := by
  rcases List.head?_eq_some_iff.mp starts with ⟨rest, restEq⟩
  rw [restEq] at blanked
  rcases blanked.uncons noSlash with ⟨rest', restEq', others⟩
  refine ⟨1, rfl, rfl, ?_⟩
  rw [rest_skip, rest_skip, restEq, restEq']
  exact others

/-- Past a run of characters. -/
theorem moves_takeWhile (blanked : Blanked cursor.rest cursor'.rest) {p : Char → Bool}
    (noSlash : p '/' = false) (noBlank : p ' ' = false) :
    Moves cursor cursor' (cursor.skip (cursor.rest.takeWhile p).length)
      (cursor'.skip (cursor'.rest.takeWhile p).length) := by
  refine ⟨_, rfl, by rw [blanked.takeWhile_eq noSlash noBlank], ?_⟩
  change Blanked (cursor.skipWhile p).rest (cursor'.skipWhile p).rest
  rw [rest_skipWhile, rest_skipWhile]
  exact blanked.dropWhile noSlash noBlank

/-- Past the leading zero and the letter that announce a base. -/
theorem moves_announced (blanked : Blanked cursor.rest cursor'.rest)
    (isAnnounced : announced cursor.rest ≠ none) :
    Moves cursor cursor' (cursor.skip 2) (cursor'.skip 2) := by
  rcases Option.ne_none_iff_exists'.mp isAnnounced with ⟨base, isBase⟩
  rcases announced_eq_some.mp isBase with ⟨letter, rest, restEq, isRadix⟩
  have zero := moves_skip (c := '0') blanked (by rw [restEq]; rfl) (by decide)
  have notSlash : letter ≠ '/' := by
    rintro rfl
    exact nomatch isRadix
  have isLetter : (cursor.skip 1).rest.head? = some letter := by
    rw [rest_skip, restEq]
    rfl
  have both := zero.trans (moves_skip zero.blanked isLetter notSlash)
  rwa [skip_skip, skip_skip] at both

/-- Numbers do not tell a comment from a blank. -/
theorem looksAlike_moves (start start' : Cursor) : LooksAlike (Moves start start') where
  run := by
    rintro cursor cursor' moves p (rfl | rfl)
    · exact ⟨moves.blanked.takeWhile_eq (by decide) (by decide),
        moves.trans (moves_takeWhile moves.blanked (by decide) (by decide))⟩
    · exact ⟨moves.blanked.takeWhile_eq (by decide) (by decide),
        moves.trans (moves_takeWhile moves.blanked (by decide) (by decide))⟩
  mark := by
    intro cursor cursor' moves c isMark
    have noSlash : c ≠ '/' := by
      rintro rfl
      exact absurd isMark (by decide)
    have noBlank : c ≠ ' ' := by
      rintro rfl
      exact absurd isMark (by decide)
    exact ⟨moves.blanked.head?_iff noSlash noBlank,
      fun starts => moves.trans (moves_skip moves.blanked starts noSlash)⟩
  announced_eq := fun moves => ⟨moves.blanked.announced_eq,
    fun isAnnounced => moves.trans (moves_announced moves.blanked isAnnounced)⟩
  startsDecimal_eq := fun moves => moves.blanked.startsDecimal_eq

/-- A number is found before a comment as it is before a blank. -/
theorem number_blanked (blanked : Blanked cursor.rest cursor'.rest) {value : Number}
    (found : number cursor = .found value next) :
    ∃ next', number cursor' = .found value next' ∧ Moves cursor cursor' next next' :=
  (looksAlike_moves cursor cursor').number_eq_found (moves_refl blanked) found

theorem exponent_ne_absent (start cursor : Cursor) : exponent start cursor ≠ .absent := by
  unfold exponent
  dsimp only
  rw [← afterSign]
  split <;> simp

theorem decimal_ne_absent (cursor : Cursor) : decimal cursor ≠ .absent := by
  rw [decimal_eq, Ne, Scan.map_eq_absent, exponentPart]
  split
  · exact exponent_ne_absent _ _
  · exact exponent_ne_absent _ _
  · simp

/-- Where no number begins. -/
theorem number_eq_absent :
    number cursor = .absent ↔
      announced cursor.rest = none ∧ startsDecimal cursor.rest = false := by
  rw [number_eq]
  split
  · rename_i base name isAnnounced
    unfold radixDigits
    dsimp only
    split <;> simp [isAnnounced]
  · rename_i notAnnounced
    split
    · rename_i starts
      simp [decimal_ne_absent, starts]
    · rename_i starts
      simp [notAnnounced, starts]

end Literal

end TemplateLang
