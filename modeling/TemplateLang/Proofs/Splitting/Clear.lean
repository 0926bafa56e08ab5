import TemplateLang.Proofs.Splitting.Steps

/-!
# Clear places

The tokenizer takes the longest punctuator that begins at a place, a number wherever one begins,
and a whole word.  So it goes through a token of the grammar if what follows does not make
another one of it.  Two equal signs are one token, even where they belong to two operators, and
then the tokenizer stands behind a sign where the grammar stands before it.  A place is clear if
the tokenizer goes through both from there and from behind the sign that stands there.
-/

namespace TemplateLang

open Cursor

namespace Punctuator

variable {p : Punctuator} {text : List Char}

/-! ## The longest punctuator -/

theorem mem_all (p : Punctuator) : p ∈ all := by
  cases p <;> decide

theorem symbol_injective {q : Punctuator} (same : p.symbol.toList = q.symbol.toList) :
    p = q := by
  have read := Tokenizer.at?_symbol p
  rw [same, Tokenizer.at?_symbol q] at read
  exact (Option.some.inj read).symm

theorem all_sorted :
    all.Pairwise fun p q => q.symbol.toList.length ≤ p.symbol.toList.length := by
  decide

/-- The punctuator at the front of a text is the longest one that begins there. -/
theorem at?_eq_some (starts : p.symbol.toList <+: text)
    (longest : ∀ q : Punctuator, q.symbol.toList <+: text →
      q.symbol.toList.length ≤ p.symbol.toList.length) : at? text = some p := by
  have isSome : (at? text).isSome = true :=
    List.find?_isSome.mpr ⟨p, mem_all p, List.isPrefixOf_iff_prefix.mpr starts⟩
  rcases Option.isSome_iff_exists.mp isSome with ⟨q, found⟩
  rcases List.find?_eq_some_iff_append.mp found with ⟨starts', before, after, allEq, noneBefore⟩
  rw [List.isPrefixOf_iff_prefix] at starts'
  have notBefore : p ∉ before := fun isIn => by
    have other := noneBefore p isIn
    rw [Bool.not_eq_true', Bool.eq_false_iff] at other
    exact other (List.isPrefixOf_iff_prefix.mpr starts)
  -- What comes later in the list is no longer.
  have notLonger : p.symbol.toList.length ≤ q.symbol.toList.length := by
    have isIn := mem_all p
    rw [allEq, List.mem_append, List.mem_cons] at isIn
    rcases isIn with isIn | rfl | isIn
    · exact absurd isIn notBefore
    · exact Nat.le_refl _
    · have sorted := all_sorted
      rw [allEq] at sorted
      exact List.rel_of_pairwise_cons (List.pairwise_append.mp sorted).2.1 isIn
  have isPrefix := List.prefix_of_prefix_length_le starts starts' notLonger
  have same := isPrefix.eq_of_length (Nat.le_antisymm notLonger (longest q starts'))
  rw [found, symbol_injective same]

/-- The character that makes one punctuator with the one before it. -/
def partner? (c : Char) : Option Char :=
  if [':', '!', '<', '>', '='].contains c then some '='
  else if ['&', '|', '+', '-'].contains c then some c
  else none

theorem partner?_of_symbol {c d : Char} (pair : p.symbol.toList = [c, d]) :
    partner? c = some d := by
  cases p <;> simp [symbol] at pair <;> rcases pair with ⟨rfl, rfl⟩ <;> rfl

theorem symbol_length (p : Punctuator) :
    0 < p.symbol.toList.length ∧ p.symbol.toList.length ≤ 2 := by
  cases p <;> decide

/-- What follows a punctuator does not make another token of it. -/
def Stands (after : List Char) : Punctuator → Prop
  | less | greater | bang | colon => after.head? ≠ some '='
  | pipe => after.head? ≠ some '|'
  | plus => after.head? ≠ some '+'
  | minus => after.head? ≠ some '-'
  | slash => after.head? ≠ some '*'
  | dot => ∀ c ∈ after.head?, c.isDigit = false
  | _ => True

theorem Stands.alone {after : List Char} {c d : Char} (stands : p.Stands after)
    (single : p.symbol.toList = [c]) (partner : partner? c = some d) : after.head? ≠ some d := by
  cases p <;> simp [symbol] at single <;> subst single <;> simp [partner?] at partner <;>
    subst partner <;> exact stands

/-- A longer punctuator would begin with the same character and go on with its partner. -/
theorem Stands.longest {after : List Char} (stands : p.Stands after) {q : Punctuator}
    (starts : q.symbol.toList <+: p.symbol.toList ++ after) :
    q.symbol.toList.length ≤ p.symbol.toList.length := by
  rcases Nat.lt_or_ge p.symbol.toList.length q.symbol.toList.length with longer | notLonger
  · exfalso
    have lengths := symbol_length p
    have lengths' := symbol_length q
    obtain ⟨c, single⟩ := List.length_eq_one_iff.mp (show p.symbol.toList.length = 1 by omega)
    obtain ⟨c', d, pair⟩ := List.length_eq_two.mp (show q.symbol.toList.length = 2 by omega)
    rw [single, pair] at starts
    rcases starts with ⟨rest, same⟩
    rcases List.cons.inj same with ⟨rfl, afterEq⟩
    have goesOn : d :: rest = after := afterEq
    exact stands.alone single (partner?_of_symbol pair) (by rw [← goesOn]; rfl)
  · exact notLonger

theorem Stands.noComment {after rest : List Char} (stands : p.Stands after)
    (symbolEq : p.symbol.toList = '/' :: rest) : (rest ++ after).head? ≠ some '*' := by
  cases p <;> simp [symbol] at symbolEq
  subst symbolEq
  exact stands

theorem Stands.noNumber {after rest : List Char} (stands : p.Stands after)
    (symbolEq : p.symbol.toList = '.' :: rest) :
    ∀ c ∈ (rest ++ after).head?, c.isDigit = false := by
  cases p <;> simp [symbol] at symbolEq
  subst symbolEq
  exact stands

/-- Characters that begin a punctuator. -/
def isMark (c : Char) : Bool :=
  Tokenizer.startsInside c && !isWordChar c && c != '"' && c != '\'' && c != '\x7d'

theorem symbol_eq_cons (p : Punctuator) :
    ∃ c rest, p.symbol.toList = c :: rest ∧ isMark c = true := by
  cases p <;> exact ⟨_, _, rfl, by decide⟩

theorem at?_of_stands {after : List Char} (stands : p.Stands after) :
    at? (p.symbol.toList ++ after) = some p :=
  at?_eq_some (List.prefix_append _ _) fun _ => stands.longest

end Punctuator

namespace Tokenizer

variable {cursor next : Cursor} {c : Char} {rest : List Char}

/-! ## Characters that begin nothing else -/

theorem comment_absent_of_char (starts : cursor.rest = c :: rest)
    (noStar : c = '/' → rest.head? ≠ some '*') : Literal.comment cursor = .absent := by
  rw [Literal.comment_eq_absent, Bool.eq_false_iff, Ne, isAt_iff, starts]
  rintro ⟨after, same⟩
  rcases List.cons.inj same with ⟨rfl, goesOn⟩
  exact noStar rfl (by rw [← goesOn]; rfl)

theorem string_absent_of_char (starts : cursor.rest = c :: rest) (noDouble : c ≠ '"')
    (noSingle : c ≠ '\'') : Literal.string cursor = .absent := by
  rw [Literal.string_eq_absent, Option.eq_none_iff_forall_ne_some]
  intro quote isQuote
  rcases Literal.quote?_eq_some.mp isQuote with ⟨after, same⟩
  rw [starts] at same
  cases quote with
  | single => exact noSingle (List.cons.inj same).1
  | double => exact noDouble (List.cons.inj same).1

theorem number_absent_of_char (starts : cursor.rest = c :: rest) (noDigit : c.isDigit = false)
    (noPoint : c = '.' → ∀ d ∈ rest.head?, d.isDigit = false) :
    Literal.number cursor = .absent := by
  rw [Literal.number_eq_absent, starts]
  constructor
  · rw [Option.eq_none_iff_forall_ne_some]
    intro base announced
    rcases Literal.announced_eq_some.mp announced with ⟨letter, after, same, -⟩
    rcases List.cons.inj same with ⟨rfl, -⟩
    exact absurd noDigit (by decide)
  · rw [Bool.eq_false_iff]
    intro decimal
    rcases Literal.startsDecimal_cases decimal with ⟨d, after, same, isDigit⟩ |
      ⟨d, after, same, isDigit⟩
    · rcases List.cons.inj same with ⟨rfl, -⟩
      rw [noDigit] at isDigit
      exact Bool.noConfusion isDigit
    · rcases List.cons.inj same with ⟨rfl, rfl⟩
      rw [noPoint rfl d rfl] at isDigit
      exact Bool.noConfusion isDigit

theorem not_isDigit_of_isWordStart (isStart : isWordStart c = true) : c.isDigit = false := by
  rw [Bool.eq_false_iff]
  intro isDigit
  rw [isWordStart_of_isDigit isDigit] at isStart
  exact Bool.noConfusion isStart

/-- Neither a comment nor a text in quotes begins with a character of a word. -/
theorem absent_of_wordChar (starts : cursor.rest = c :: rest) (isChar : isWordChar c = true) :
    Literal.comment cursor = .absent ∧ Literal.string cursor = .absent := by
  have other {d : Char} (noChar : isWordChar d = false) : c ≠ d := by
    rintro rfl
    rw [isChar] at noChar
    exact Bool.noConfusion noChar
  constructor
  · exact comment_absent_of_char starts fun same => absurd same (other (by decide))
  · exact string_absent_of_char starts (other (by decide)) (other (by decide))

/-- The marks that begin a punctuator begin no other token, unless what follows makes one. -/
theorem lexeme_of_stands {p : Punctuator} {after : List Char}
    (starts : cursor.rest = p.symbol.toList ++ after) (stands : p.Stands after) :
    lexeme cursor = .found (.punctuator p) (cursor.skip p.symbol.toList.length) := by
  rcases p.symbol_eq_cons with ⟨c, rest, symbolEq, isMark⟩
  have starts' : cursor.rest = c :: (rest ++ after) := by rw [starts, symbolEq, List.cons_append]
  simp only [Punctuator.isMark, Bool.and_eq_true, Bool.not_eq_true', bne_iff_ne] at isMark
  rcases isMark with ⟨⟨⟨⟨-, noWordChar⟩, noDouble⟩, noSingle⟩, -⟩
  rw [Bool.eq_false_iff, Ne, isWordChar_iff, not_or, Bool.not_eq_true, Bool.not_eq_true]
    at noWordChar
  have noWord : word cursor = .absent := by
    rw [word_eq_absent]
    intro d after' same
    rw [starts'] at same
    rcases List.cons.inj same with ⟨rfl, -⟩
    exact noWordChar.1
  rw [String.length_toList]
  refine lexeme_eq_found.mpr
    (.punctuator ?_ (string_absent_of_char starts' noDouble noSingle) ?_ noWord ?_ rfl)
  · exact comment_absent_of_char starts' fun same => stands.noComment (same ▸ symbolEq)
  · exact number_absent_of_char starts' noWordChar.2 fun same => stands.noNumber (same ▸ symbolEq)
  · rw [starts, Punctuator.at?_of_stands stands]

/-! ## Clear places -/

/-- The tokenizer goes through from a place inside of a tag, and from behind the sign that
stands there. -/
structure Clear (cursor : Cursor) : Prop where
  here : GoesThrough true cursor
  afterSign : GoesThrough true (Literal.afterSign cursor)

/-- The signs of numbers and of updates. -/
def isSign (c : Char) : Bool :=
  c == '+' || c == '-'

theorem isSign_eq_false : isSign c = false ↔ c ≠ '+' ∧ c ≠ '-' := by
  simp [isSign]

theorem GoesThrough.clear (goes : GoesThrough true cursor) (starts : cursor.rest = c :: rest)
    (noSign : isSign c = false) : Clear cursor := by
  have stays : Literal.afterSign cursor = cursor := by
    simp [Literal.afterSign, starts, isSign_eq_false.mp noSign]
  exact ⟨goes, stays.symm ▸ goes⟩

/-- A closing mark ends a tag, and so does one whose trim marker was taken for a sign. -/
theorem Clear.of_closing (others : GoesThrough false (closingAt cursor).2)
    (atMark : closes cursor.rest = true) : Clear cursor := by
  rcases closes_iff.mp atMark with ⟨rest, starts⟩ | ⟨rest, starts⟩
  · exact (others.of_closing atMark).clear starts.symm (by decide)
  · have starts' : cursor.rest = '-' :: ('\x7d' :: '\x7d' :: rest) := starts.symm
    have afterEq : Literal.afterSign cursor = cursor.skip 1 := by
      simp [Literal.afterSign, starts']
    have sameEnd : (closingAt (cursor.skip 1)).2 = (closingAt cursor).2 := by
      simp only [closingAt, rest_skip, starts', skip_skip]
      rfl
    refine ⟨others.of_closing atMark, ?_⟩
    rw [afterEq]
    refine GoesThrough.of_closing (sameEnd ▸ others) ?_
    rw [rest_skip, starts', closes_iff]
    exact .inl ⟨rest, rfl⟩

theorem Clear.of_blank (others : Clear (cursor.skip 1)) (starts : cursor.rest = c :: rest)
    (isBlank : Unicode.isBlank c = true) : Clear cursor := by
  refine (others.here.of_blank starts isBlank).clear starts (isSign_eq_false.mpr ?_)
  constructor
  · rintro rfl
    exact absurd isBlank (by decide)
  · rintro rfl
    exact absurd isBlank (by decide)

theorem Clear.of_comment {comment : Comment} (others : Clear next)
    (found : Literal.comment cursor = .found comment next) : Clear cursor := by
  rcases Literal.comment_eq_found.mp found with ⟨body, after, restEq, -⟩
  have starts : cursor.rest = '/' :: ('*' :: (body ++ after)) := restEq
  have read := lexeme_eq_found.mpr (.comment found)
  exact (others.here.of_token starts (by decide) read).clear starts (by decide)

/-- Blanks and comments are passed. -/
theorem Clear.of_between {comments : List Comment} (others : Clear next)
    (between : Between cursor comments next) : Clear cursor := by
  induction between with
  | here => exact others
  | blank starts isBlank _ ih => exact (ih others).of_blank starts isBlank
  | comment found _ ih => exact (ih others).of_comment found

theorem Clear.of_trivia {comments : List Comment} (others : Clear next)
    (read : trivia cursor = .ok (comments, next)) : Clear cursor :=
  others.of_between (trivia_eq_ok.mp read).1

theorem Clear.of_blanks (others : Clear cursor.skipBlanks) : Clear cursor :=
  others.of_between (between_skipBlanks cursor)

theorem startsToken_of_startsPrimary (starts : Grammar.startsPrimary c = true) :
    startsToken c = true := by
  rcases Grammar.startsPrimary_small starts with ⟨small, high⟩
  have notBlank := Grammar.isBlank_eq_false small (Grammar.startsPrimary_ne starts (by decide)) high
  have others : c ≠ '\x7b' ∧ c ≠ '\x7d' ∧ c ≠ '-' :=
    ⟨Grammar.startsPrimary_ne starts (by decide), Grammar.startsPrimary_ne starts (by decide),
      Grammar.startsPrimary_ne starts (by decide)⟩
  simp [startsToken, startsInside, notBlank, others]

/-- A token of the grammar that begins an operand is the same one for the tokenizer. -/
theorem Clear.of_primary {found : Lexeme} (others : Clear next) (starts : cursor.rest = c :: rest)
    (primary : Grammar.startsPrimary c = true) (read : lexeme cursor = .found found next) :
    Clear cursor :=
  (others.here.of_token starts (startsToken_of_startsPrimary primary) read).clear starts
    (isSign_eq_false.mpr
      ⟨Grammar.startsPrimary_ne primary (by decide), Grammar.startsPrimary_ne primary (by decide)⟩)

theorem Clear.of_word (others : Clear cursor.skipWord) : Clear cursor := by
  cases atWord : cursor.peekWord? with
  | none =>
    have noWord : cursor.word = [] := by simpa [peekWord?] using atWord
    rwa [skipWord, noWord, List.length_nil, skip_zero] at others
  | some name =>
    rcases Grammar.word_starts atWord with ⟨c, rest, starts, isStart⟩
    have primary : Grammar.startsPrimary c = true := by simp [Grammar.startsPrimary, isStart]
    rcases absent_of_wordChar starts (isWordChar_iff.mpr (.inl isStart)) with ⟨noComment, noString⟩
    have noNumber := number_absent_of_char starts (not_isDigit_of_isWordStart isStart)
      fun same => absurd same (Grammar.startsPrimary_ne primary (by decide))
    exact others.of_primary starts primary
      (lexeme_eq_found.mpr (.word noComment noString noNumber atWord rfl))

theorem Clear.of_string {value : String × Quote} (others : Clear next)
    (found : Literal.string cursor = .found value next) : Clear cursor := by
  have notAbsent : Literal.quote? cursor ≠ none := fun noQuote => by
    rw [Literal.string_eq_absent.mpr noQuote] at found
    simp at found
  rcases Option.ne_none_iff_exists'.mp notAbsent with ⟨quote, isQuote⟩
  rcases Literal.quote?_eq_some.mp isQuote with ⟨rest, starts⟩
  refine others.of_primary starts (by cases quote <;> decide)
    (lexeme_eq_found.mpr (.string ?_ found))
  refine comment_absent_of_char starts fun same => absurd same ?_
  cases quote <;> decide

theorem number_starts {value : Number} (found : Literal.number cursor = .found value next) :
    ∃ c rest, cursor.rest = c :: rest ∧ (c.isDigit = true ∨ c = '.') := by
  rw [Literal.number_eq] at found
  split at found
  · rename_i base name announced
    rcases Literal.announced_eq_some.mp announced with ⟨letter, rest, starts, -⟩
    exact ⟨_, _, starts, .inl (by decide)⟩
  · split at found
    · rename_i decimal
      rcases Literal.startsDecimal_cases decimal with
        ⟨c, rest, starts, isDigit⟩ | ⟨c, rest, starts, -⟩
      · exact ⟨c, rest, starts, .inl isDigit⟩
      · exact ⟨_, _, starts, .inr rfl⟩
    · simp at found

theorem Clear.of_number {value : Number} (others : Clear next)
    (found : Literal.number cursor = .found value next) : Clear cursor := by
  rcases number_starts found with ⟨c, rest, starts, isDigit | rfl⟩
  · have primary : Grammar.startsPrimary c = true := by simp [Grammar.startsPrimary, isDigit]
    rcases absent_of_wordChar starts (isWordChar_iff.mpr (.inr isDigit)) with ⟨noComment, noString⟩
    exact others.of_primary starts primary
      (lexeme_eq_found.mpr (.number noComment noString found))
  · have noComment := comment_absent_of_char starts fun same => absurd same (by decide)
    have noString := string_absent_of_char starts (by decide) (by decide)
    have read := lexeme_eq_found.mpr (.number noComment noString found)
    exact (others.here.of_token starts (by decide) read).clear starts (by decide)

/-- A punctuator of the grammar without signs is the same one for the tokenizer, unless what
follows makes another token of it. -/
theorem Clear.of_punctuator (p : Punctuator) {after : List Char}
    (others : Clear (cursor.skip p.symbol.toList.length))
    (starts : cursor.rest = p.symbol.toList ++ after) (stands : p.Stands after)
    (noSign : p.symbol.toList.all (!isSign ·) = true) : Clear cursor := by
  rcases p.symbol_eq_cons with ⟨c, rest, symbolEq, isMark⟩
  have starts' : cursor.rest = c :: (rest ++ after) := by rw [starts, symbolEq, List.cons_append]
  simp only [symbolEq, List.all_cons, Bool.and_eq_true, Bool.not_eq_true'] at noSign
  simp only [Punctuator.isMark, Bool.and_eq_true, bne_iff_ne] at isMark
  have token : startsToken c = true := by
    simp [startsToken, isMark, isSign_eq_false.mp noSign.1]
  exact (others.here.of_token starts' token (lexeme_of_stands starts stands)).clear starts' noSign.1

/-- A sign is a token alone or with the same sign behind it, and then the tokenizer goes on where
the second one ends. -/
theorem Clear.of_sign (others : Clear (cursor.skip 1)) (starts : cursor.rest = c :: rest)
    (isSign : c = '+' ∨ c = '-') (noClosing : closes cursor.rest = false) : Clear cursor := by
  have afterEq : Literal.afterSign cursor = cursor.skip 1 := by
    rcases isSign with rfl | rfl <;> simp [Literal.afterSign, starts]
  refine ⟨?_, afterEq ▸ others.here⟩
  have isStart : startsInside c = true := by rcases isSign with rfl | rfl <;> decide
  cases minus : cursor.isAt ['-', '-'] && startsWithTrimmed (cursor.rest.drop 1)
      Delimiters.standard.closing.toList with
  | true => exact others.here.of_minus noClosing minus
  | false =>
    by_cases twice : rest.head? = some c
    · rcases List.head?_eq_some_iff.mp twice with ⟨after, rfl⟩
      have pair : ∃ p : Punctuator, p.symbol.toList = [c, c] ∧ p.Stands after := by
        rcases isSign with rfl | rfl
        · exact ⟨.increment, rfl, trivial⟩
        · exact ⟨.decrement, rfl, trivial⟩
      rcases pair with ⟨p, symbolEq, stands⟩
      have read := lexeme_of_stands (by rw [starts, symbolEq]; rfl) stands
      have afterBoth : Literal.afterSign (cursor.skip 1) = cursor.skip 2 := by
        rcases isSign with rfl | rfl <;> simp [Literal.afterSign, starts]
      rw [symbolEq] at read
      exact (afterBoth ▸ others.afterSign).of_lexeme starts isStart noClosing minus read
    · have alone : ∃ p : Punctuator, p.symbol.toList = [c] ∧ p.Stands rest := by
        rcases isSign with rfl | rfl
        · exact ⟨.plus, rfl, twice⟩
        · exact ⟨.minus, rfl, twice⟩
      rcases alone with ⟨p, symbolEq, stands⟩
      have read := lexeme_of_stands (by rw [starts, symbolEq]; rfl) stands
      rw [symbolEq] at read
      exact others.here.of_lexeme starts isStart noClosing minus read

end Tokenizer

end TemplateLang
