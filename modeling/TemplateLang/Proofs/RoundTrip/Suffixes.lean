import TemplateLang.Proofs.Grammar.Forward
import TemplateLang.Proofs.RoundTrip.Written

/-!
# Primary expressions and suffixes are read back

Every rule of `Written` for expressions with suffixes gives `ReadsSuffixed`.  A primary
expression is read alone, and a suffix goes on from where the expression before it was
read.
-/

namespace TemplateLang

namespace Grammar

open Cursor Print

variable {room : Nat} {note : Note} {setting : Setting} {start stop cursor : Cursor}

/-! ## Primary expressions -/

theorem Derives.suffixable {expr : Expr} (primary : Derives setting (.primary expr) start stop) :
    Suffixable setting expr start stop :=
  fun _ _ others => .suffixed primary others

/-- A primary expression without parts is read with another note. -/
theorem readsSuffixed_leaf {expr : Expr} (bare : expr.note.isBare = true)
    (opens : ∃ c rest, chars false expr = c :: rest ∧ startsPrimary c = true)
    (primary : ∀ {setting start stop}, start.Crosses (chars false expr) stop → stop.Apart →
      (isWholeNumber expr = true → stop.isAt ['.'] = false) →
      Derives setting (.primary (expr.withNote (Note.at (start.spanTo stop)))) start stop) :
    ReadsSuffixed room expr := by
  refine ⟨bare, opens, ?_⟩
  intro setting start stop _ crosses apart notPoint
  refine ⟨expr.withNote (Note.at (start.spanTo stop)), ?_, ?_, ?_⟩
  · rw [Expr.note_withNote]
    rfl
  · exact .withNote bare rfl
  · exact (primary crosses apart notPoint).suffixable

/-- A word is read as a word. -/
theorem derives_word {expr : Expr} {word : List Char} (shaped : isWordShaped word = true)
    (crosses : start.Crosses word stop) (apart : stop.Apart)
    (read : wordExpr start (String.ofList word) = .ok (expr, start.skipWord)) :
    Derives setting (.primary expr) start stop := by
  obtain ⟨atWord, after⟩ := word_reads shaped crosses apart
  cases word with
  | nil => simp [isWordShaped] at shaped
  | cons c rest =>
    have starts : isWordStart c = true := by
      simp only [isWordShaped, Bool.and_eq_true] at shaped
      exact shaped.1
    have notBracket (d : Char) (other : isWordStart d = false) : start.isAt [d] = false := by
      refine isAt_eq_false crosses.1 ?_
      rintro rfl
      rw [starts] at other
      exact Bool.noConfusion other
    rw [← after]
    exact .word (notBracket '(' (by decide)) (notBracket '[' (by decide)) atWord read

theorem opens_word {word : List Char} (shaped : isWordShaped word = true) :
    ∃ c rest, word = c :: rest ∧ startsPrimary c = true := by
  cases word with
  | nil => simp [isWordShaped] at shaped
  | cons c rest =>
    simp only [isWordShaped, Bool.and_eq_true] at shaped
    refine ⟨c, rest, rfl, ?_⟩
    unfold startsPrimary
    rw [shaped.1]
    rfl

/-- The constants and variables, all of which are words. -/
theorem readsSuffixed_word {expr : Expr} {word : List Char} (bare : expr.note.isBare = true)
    (shaped : isWordShaped word = true) (printed : chars false expr = word)
    (read : ∀ cursor, wordExpr cursor (String.ofList word) =
      .ok (expr.withNote (Note.at (cursor.spanTo cursor.skipWord)), cursor.skipWord)) :
    ReadsSuffixed room expr := by
  refine readsSuffixed_leaf bare (printed ▸ opens_word shaped) ?_
  intro setting start stop crosses apart _
  rw [printed] at crosses
  have after := (word_reads shaped crosses apart).2
  refine derives_word shaped crosses apart ?_
  rw [read, after]

theorem readsSuffixed_null (bare : note.isBare = true) : ReadsSuffixed room (.null note) :=
  readsSuffixed_word bare (by decide : isWordShaped "null".toList = true) (chars_of_bare _ bare)
    fun _ => rfl

theorem readsSuffixed_undefined (bare : note.isBare = true) :
    ReadsSuffixed room (.undefined note) :=
  readsSuffixed_word bare (by decide : isWordShaped "undefined".toList = true)
    (chars_of_bare _ bare) fun _ => rfl

theorem readsSuffixed_boolean {value : Bool} (bare : note.isBare = true) :
    ReadsSuffixed room (.boolean value note) := by
  cases value with
  | true =>
    exact readsSuffixed_word bare (by decide : isWordShaped "true".toList = true)
      (chars_of_bare _ bare) fun _ => rfl
  | false =>
    exact readsSuffixed_word bare (by decide : isWordShaped "false".toList = true)
      (chars_of_bare _ bare) fun _ => rfl

theorem readsSuffixed_identifier {name : String} (bare : note.isBare = true)
    (shaped : isWordShaped name.toList = true) (free : isReserved name = false) :
    ReadsSuffixed room (.identifier name note) := by
  have printed : chars false (.identifier name note) = name.toList :=
    (chars_of_bare (.identifier name note) bare).trans (core_identifier name)
  refine readsSuffixed_word bare shaped printed fun cursor => ?_
  rw [String.ofList_toList]
  exact wordExpr_eq_ok.mpr ⟨rfl, .identifier free⟩

/-- No word begins with a character that begins no word. -/
theorem peekWord?_eq_none {c : Char} {rest : List Char} (starts : cursor.rest = c :: rest)
    (noWord : isWordStart c = false) : cursor.peekWord? = none := by
  simp [peekWord?, Cursor.word, starts, noWord]

theorem readsSuffixed_number {value : Number} (bare : note.isBare = true)
    (rereads : value.Rereads) : ReadsSuffixed room (.number value note) := by
  have printed : chars false (.number value note) = (Print.number value).toList :=
    (chars_of_bare (.number value note) bare).trans (core_number value)
  obtain ⟨c, rest, digits, isDigit⟩ := rereads.starts
  refine readsSuffixed_leaf bare ⟨c, rest, printed.trans digits, ?_⟩ ?_
  · simp [startsPrimary, isDigit]
  · intro setting start stop crosses apart notPoint
    rw [printed] at crosses
    have found := rereads.reads crosses apart notPoint
    have starts : start.rest = c :: (rest ++ stop.rest) := by
      rw [crosses.1, digits, List.cons_append]
    have notBracket (d : Char) (other : d.isDigit = false) : start.isAt [d] = false := by
      refine isAt_eq_false starts ?_
      rintro rfl
      rw [isDigit] at other
      exact Bool.noConfusion other
    have noQuote : Literal.quote? start = none := by
      cases quoted : Literal.quote? start with
      | none => rfl
      | some quote =>
        obtain ⟨after, atQuote⟩ := Literal.quote?_eq_some.mp quoted
        have atQuote' := notBracket quote.char (by cases quote <;> decide)
        rw [isAt_singleton_iff.mpr ⟨after, atQuote⟩] at atQuote'
        exact Bool.noConfusion atQuote'
    refine .literal (notBracket '(' (by decide)) (notBracket '[' (by decide))
      (peekWord?_eq_none starts (isWordStart_of_isDigit isDigit)) ?_
    exact literal_eq_ok.mpr (.inr ⟨noQuote, value, found, rfl⟩)

theorem readsSuffixed_text {value : String} {quote : Quote} (bare : note.isBare = true) :
    ReadsSuffixed room (.text value quote note) := by
  have printed : chars false (.text value quote note) = (Print.string value quote).toList :=
    (chars_of_bare (.text value quote note) bare).trans (core_text value quote)
  have opens : (Print.string value quote).toList =
      quote.char :: (value.toList.flatMap (escape quote.char) ++ [quote.char]) := by
    rw [Print.string, String.toList_ofList, List.cons_append]
  refine readsSuffixed_leaf bare ⟨_, _, printed.trans opens, ?_⟩ ?_
  · cases quote <;> decide
  · intro setting start stop crosses _ _
    rw [printed] at crosses
    have found := Literal.string_reads crosses
    rw [opens] at crosses
    have starts := crosses.1
    rw [List.cons_append] at starts
    refine .literal (isAt_eq_false starts ?_) (isAt_eq_false starts ?_)
      (peekWord?_eq_none starts ?_) (literal_eq_ok.mpr (.inl ⟨value, quote, found, rfl⟩))
    · cases quote <;> decide
    · cases quote <;> decide
    · cases quote <;> decide

/-! ## Brackets -/

/-- What an expression begins with is no blank, and none of the characters that begin neither
an operand nor a comment. -/
theorem Spelled.starts {top : Bool} {expr : Expr} {before : List Comment} {body : List Char}
    (spelled : Spelled top expr before body) :
    ∃ c rest, chars top expr = c :: rest ∧ Unicode.isBlank c = false ∧
      ∀ d, startsPrimary d = false → ['+', '-', '~', '!', '/'].contains d = false → c ≠ d := by
  rw [spelled.text]
  cases before with
  | nil =>
    have settled := (spelled.opens.settles []).1
    rw [List.append_nil] at settled
    cases opens : body with
    | nil => exact absurd opens spelled.opens.ne_nil
    | cons c rest =>
      refine ⟨c, rest, rfl, settled c rest opens, ?_⟩
      rintro d other noSign rfl
      refine spelled.opens.head_ne other ?_ (by rw [opens]; rfl)
      simp only [List.contains_eq_mem, List.mem_cons, List.not_mem_nil, or_false,
        decide_eq_false_iff_not, not_or] at noSign ⊢
      exact ⟨noSign.1, noSign.2.1, noSign.2.2.1, noSign.2.2.2.1⟩
  | cons comment before =>
    rw [leading_cons, toList_comment]
    refine ⟨'/', _, rfl, by decide, ?_⟩
    rintro d - noSlash rfl
    exact absurd noSlash (by decide)

/-- An expression before a closing bracket is read up to it. -/
theorem reads_pipeline_closed {expr : Expr} {c : Char} (reads : Reads room .pipeline expr)
    (standard : Standard setting room) (crosses : cursor.Crosses (chars true expr) stop)
    (closes : stop.isAt [c] = true) (closing : c = ')' ∨ c = ']') :
    ∃ expr', Derives setting (.pipeline expr') cursor stop ∧ Echoes true expr expr' := by
  obtain ⟨before, body, spelled, read⟩ := reads
  obtain ⟨rest, starts⟩ := isAt_singleton_iff.mp closes
  have stretch := crosses.stretch_closed closes (or_assoc.mp (.inl closing))
  rw [spelled.text] at stretch
  obtain ⟨before', alike, lies⟩ := stretch.lies_leading spelled.closed spelled.opens.settles
  have ends : EndsCommand setting stop := by
    refine endsCommand_of_char starts ?_
    rcases closing with rfl | rfl <;> decide
  obtain ⟨expr', pipeable, reread⟩ := read standard lies ⟨rfl, ends⟩
  refine ⟨expr', pipeable _ _ (.noPipe ?_), reread.echoes spelled alike⟩
  rw [starts]
  rcases closing with rfl | rfl <;> rfl

/-- An expression before a closing bracket or a comma is read up to it. -/
theorem reads_conditional_closed {expr : Expr} {c : Char} (reads : Reads room .conditional expr)
    (standard : Standard setting room) (crosses : cursor.Crosses (chars false expr) stop)
    (closes : stop.isAt [c] = true) (closing : c = ')' ∨ c = ']' ∨ c = ',') :
    ∃ expr', Derives setting (.conditional expr') cursor stop ∧ Echoes false expr expr' := by
  obtain ⟨before, body, spelled, read⟩ := reads
  obtain ⟨rest, starts⟩ := isAt_singleton_iff.mp closes
  have stretch := crosses.stretch_closed closes closing
  rw [spelled.text] at stretch
  obtain ⟨before', alike, lies⟩ := stretch.lies_leading spelled.closed spelled.opens.settles
  have ends : EndsCommand setting stop := by
    refine endsCommand_of_char starts ?_
    rcases closing with rfl | rfl | rfl <;> decide
  obtain ⟨expr', derived, reread⟩ := read standard lies ends.toEndsConditional
  exact ⟨expr', derived, reread.echoes spelled alike⟩

theorem skipBlanks_eq_self {c : Char} {rest : List Char} (starts : cursor.rest = c :: rest)
    (notBlank : Unicode.isBlank c = false) : cursor.skipBlanks = cursor := by
  rw [Cursor.skipBlanks, skipWhile, starts, List.takeWhile_cons, notBlank]
  exact skip_zero cursor

theorem listed_starts (expr : Expr) (exprs : List Expr) :
    ∃ more, listed (expr :: exprs) = chars false expr ++ more := by
  cases exprs with
  | nil => exact ⟨[], by rw [listed, List.append_nil]⟩
  | cons second rest => exact ⟨_, listed_cons expr (List.cons_ne_nil second rest)⟩

/-- No blank precedes the items of a list. -/
theorem skipBlanks_listed {items : List Expr} {close : Char}
    (content : ∀ item ∈ items, Reads room .conditional item) (closing : close = ')' ∨ close = ']')
    (crosses : cursor.Crosses (listed items ++ [close]) stop) : cursor.skipBlanks = cursor := by
  cases items with
  | nil =>
    refine skipBlanks_eq_self crosses.1 ?_
    rcases closing with rfl | rfl <;> decide
  | cons item rest =>
    obtain ⟨before, body, spelled, -⟩ := content item List.mem_cons_self
    obtain ⟨c, text, starts, notBlank, -⟩ := spelled.starts
    obtain ⟨more, listedEq⟩ := listed_starts item rest
    rw [listedEq, starts] at crosses
    exact skipBlanks_eq_self crosses.1 notBlank

/-- A list with its closing bracket is read item by item. -/
theorem reads_items {items : List Expr} {close : Char}
    (content : ∀ item ∈ items, Reads room .conditional item) (standard : Standard setting room)
    (closing : close = ')' ∨ close = ']')
    (crosses : cursor.skipBlanks.Crosses (listed items ++ [close]) stop) :
    ∃ items', Derives setting (.items close items') cursor stop ∧ EchoesAll items items' := by
  induction items generalizing cursor with
  | nil =>
    obtain ⟨restEq, stopEq⟩ := crosses
    refine ⟨[], ?_, .nil⟩
    rw [stopEq]
    exact .itemsEnd (isAt_singleton_iff.mpr ⟨_, restEq⟩)
  | cons item rest ih =>
    obtain ⟨before, body, spelled, -⟩ := content item List.mem_cons_self
    obtain ⟨c, text, starts, notBlank, differs⟩ := spelled.starts
    have notClose : c ≠ close := by
      rcases closing with rfl | rfl <;> exact differs _ (by decide) (by decide)
    by_cases others : rest = []
    · subst others
      rw [listed] at crosses
      obtain ⟨middle, first, closes⟩ := crosses.split
      have atClose := closes.cons.1
      have stopEq : stop = middle.skip 1 := closes.2
      obtain ⟨item', derived, echoes⟩ := reads_conditional_closed
        (content item List.mem_cons_self) standard first atClose (or_assoc.mp (.inl closing))
      rw [starts] at first
      refine ⟨[item'], ?_, .cons echoes .nil⟩
      rw [stopEq]
      refine .itemsLast (isAt_eq_false first.1 notClose) derived ?_ atClose
      refine isAt_ne atClose ?_
      rcases closing with rfl | rfl <;> decide
    · rw [listed_cons item others, List.append_assoc] at crosses
      obtain ⟨middle, first, after⟩ := crosses.split
      obtain ⟨atComma, afterComma⟩ := after.cons
      obtain ⟨item', derived, echoes⟩ := reads_conditional_closed
        (content item List.mem_cons_self) standard first atComma (.inr (.inr rfl))
      rw [starts] at first
      obtain ⟨atBlank, afterBlank⟩ := afterComma.cons
      obtain ⟨blankRest, blankStarts⟩ := isAt_singleton_iff.mp atBlank
      have nextItem : (middle.skip 1).skipBlanks = (middle.skip 1).skip 1 := by
        rw [skipBlanks_of_blank blankStarts (by decide)]
        exact skipBlanks_listed (fun e isIn => content e (List.mem_cons_of_mem item isIn)) closing
          afterBlank
      rw [← nextItem] at afterBlank
      obtain ⟨rest', derivedRest, echoesRest⟩ :=
        ih (fun e isIn => content e (List.mem_cons_of_mem item isIn)) afterBlank
      refine ⟨item' :: rest', ?_, .cons echoes echoesRest⟩
      exact .itemsMore (isAt_eq_false first.1 notClose) derived atComma derivedRest

theorem readsSuffixed_array {items : List Expr} (bare : note.isBare = true)
    (content : ∀ item ∈ items, Reads room .conditional item) :
    ReadsSuffixed room (.array items note) := by
  have printed (items : List Expr) {note : Note} (bare : note.isBare = true) :
      chars false (.array items note) = '[' :: (listed items ++ [']']) :=
    (chars_of_bare (.array items note) bare).trans (core_array items)
  refine ⟨bare, ⟨_, _, printed items bare, by decide⟩, ?_⟩
  intro setting start stop standard crosses _ _
  rw [printed items bare] at crosses
  obtain ⟨opens, inside⟩ := crosses.cons
  rw [← skipBlanks_listed content (.inr rfl) inside] at inside
  obtain ⟨items', derived, echoes⟩ := reads_items content standard (.inr rfl) inside
  refine ⟨_, rfl, ⟨?_, ?_, ?_⟩, (Derives.array opens derived).suffixable⟩
  · rw [Expr.bare, Expr.bare, echoes.bareAll_eq]
  · rw [printed items' rfl, printed items bare, echoes.listed_eq]
  · rw [Expr.comments, Expr.comments, Note.around_bare rfl, Note.around_bare bare,
      echoes.comments_eq]

theorem readsSuffixed_paren {inner : Expr} (bare : note.isBare = true)
    (content : Reads room .pipeline inner) : ReadsSuffixed room (.paren inner note) := by
  have printed (inner : Expr) {note : Note} (bare : note.isBare = true) :
      chars false (.paren inner note) = '(' :: (chars true inner ++ [')']) :=
    (chars_of_bare (.paren inner note) bare).trans (core_paren inner)
  refine ⟨bare, ⟨_, _, printed inner bare, by decide⟩, ?_⟩
  intro setting start stop standard crosses _ _
  rw [printed inner bare] at crosses
  obtain ⟨opens, inside⟩ := crosses.cons
  obtain ⟨middle, first, closes⟩ := inside.split
  have atClose := closes.cons.1
  have stopEq : stop = middle.skip 1 := closes.2
  obtain ⟨inner', derived, echoes⟩ :=
    reads_pipeline_closed content standard first atClose (.inl rfl)
  rw [stopEq]
  refine ⟨_, rfl, ⟨?_, ?_, ?_⟩, (Derives.paren opens derived atClose).suffixable⟩
  · rw [Expr.bare, Expr.bare, echoes.bare]
  · rw [printed inner' rfl, printed inner bare, echoes.text]
  · rw [Expr.comments, Expr.comments, Note.around_bare rfl, Note.around_bare bare, echoes.comments]

/-! ## Suffixes -/

theorem apart_of_char {c : Char} {rest : List Char} (starts : cursor.rest = c :: rest)
    (notWord : isWordChar c = false) : cursor.Apart := by
  intro d rest' same
  rw [starts] at same
  obtain ⟨rfl, -⟩ := List.cons.inj same
  exact notWord

theorem isDotIndex_ofInt {n : Nat} (small : n < 10 ^ 15) :
    isDotIndex (Number.ofInt n) = true := by
  have fits : n < 2 ^ 53 := Nat.lt_of_lt_of_le small (by decide)
  rw [isDotIndex, Number.toInt?_ofInt fits]
  simp
  omega

/-- A key after a dot is read up to what follows the member. -/
theorem fieldKey_reads {key : FieldKey} (dotKey : DotKey key)
    (crosses : start.Crosses key.text.toList stop) (apart : stop.Apart) :
    fieldKey start = .ok (key, stop) := by
  cases dotKey with
  | name shaped =>
    rw [fieldKey_name shaped crosses apart, String.ofList_toList]
  | position small =>
    rw [FieldKey.text, Number.text_ofInt small] at crosses
    exact fieldKey_position crosses apart

theorem toList_fieldKey {key : FieldKey} (dotKey : DotKey key) :
    (Print.fieldKey key).toList = '.' :: key.text.toList := by
  cases dotKey with
  | name => simp [Print.fieldKey, FieldKey.text]
  | position small => simp [Print.fieldKey, FieldKey.text, isDotIndex_ofInt small]

theorem bare_field_dotKey {object : Expr} {key : FieldKey} {keySpan : Span}
    (dotKey : DotKey key) :
    (Expr.field object key keySpan note).bare = .field object.bare key default .blank := by
  cases dotKey with
  | name => rw [Expr.bare]
  | position small => rw [Expr.bare, isDotIndex_ofInt small]; rfl

/-- A member with its key after a dot. -/
theorem reads_dotted {object : Expr} {key : FieldKey} (start' : ReadsSuffixed room object)
    (apart : isWholeNumber object = false) (dotKey : DotKey key)
    (standard : Standard setting room)
    (crosses : start.Crosses (chars false object ++ '.' :: key.text.toList) stop)
    (ends : stop.Apart) :
    ∃ object' keySpan note', note'.isBare = true ∧ Echoes false object object' ∧
      Suffixable setting (.field object' key keySpan note') start stop := by
  obtain ⟨middle, first, dotted⟩ := crosses.split
  obtain ⟨atDot, afterDot⟩ := dotted.cons
  have dotApart : middle.Apart := apart_of_char dotted.1 (by decide)
  obtain ⟨object', -, echoes, suffixable⟩ := start'.reads standard first dotApart
    (fun whole => absurd (apart.symm.trans whole) Bool.false_ne_true)
  refine ⟨object', (middle.skip 1).spanTo stop, suffixNote object' stop, rfl, echoes,
    fun whole next others => ?_⟩
  exact suffixable _ _ (.field atDot (fieldKey_reads dotKey afterDot ends) others)

/-- A member with its key in brackets. -/
theorem reads_indexed {object key : Expr} (start' : ReadsSuffixed room object)
    (content : Reads room .pipeline key) (standard : Standard setting room)
    (crosses : start.Crosses (chars false object ++ '[' :: (chars true key ++ [']'])) stop) :
    ∃ object' key' note', note'.isBare = true ∧ Echoes false object object' ∧
      Echoes true key key' ∧ Suffixable setting (.item object' key' note') start stop := by
  obtain ⟨middle, first, indexed⟩ := crosses.split
  obtain ⟨opens, inside⟩ := indexed.cons
  obtain ⟨afterKey, second, closes⟩ := inside.split
  have atClose := closes.cons.1
  have stopEq : stop = afterKey.skip 1 := closes.2
  have bracketApart : middle.Apart := apart_of_char indexed.1 (by decide)
  obtain ⟨object', -, echoes, suffixable⟩ := start'.reads standard first bracketApart
    (fun _ => isAt_eq_false indexed.1 (by decide))
  obtain ⟨key', derived, echoesKey⟩ :=
    reads_pipeline_closed content standard second atClose (.inr rfl)
  rw [stopEq]
  refine ⟨object', key', suffixNote object' (afterKey.skip 1), rfl, echoes, echoesKey,
    fun whole next others => ?_⟩
  exact suffixable _ _ (.item opens derived atClose others)

theorem opens_append {object : Expr} (start' : ReadsSuffixed room object) {whole : Expr}
    {more : List Char} (printed : chars false whole = chars false object ++ more) :
    ∃ c rest, chars false whole = c :: rest ∧ startsPrimary c = true := by
  obtain ⟨c, rest, starts, primary⟩ := start'.opens
  exact ⟨c, rest ++ more, by rw [printed, starts, List.cons_append], primary⟩

theorem readsSuffixed_field {object : Expr} {key : FieldKey} {keySpan : Span}
    (bare : note.isBare = true) (start' : ReadsSuffixed room object)
    (apart : isWholeNumber object = false) (dotKey : DotKey key) :
    ReadsSuffixed room (.field object key keySpan note) := by
  have printed (object : Expr) {keySpan : Span} {note : Note} (bare : note.isBare = true) :
      chars false (.field object key keySpan note) =
        chars false object ++ '.' :: key.text.toList := by
    rw [chars_of_bare (.field object key keySpan note) bare, core_field, toList_fieldKey dotKey]
  refine ⟨bare, opens_append start' (printed object bare), ?_⟩
  intro setting start stop standard crosses ends _
  rw [printed object bare] at crosses
  obtain ⟨object', keySpan', note', bare', echoes, suffixable⟩ :=
    reads_dotted start' apart dotKey standard crosses ends
  refine ⟨.field object' key keySpan' note', bare', ⟨?_, ?_, ?_⟩, suffixable⟩
  · rw [bare_field_dotKey dotKey, bare_field_dotKey dotKey, echoes.bare]
  · rw [printed object' bare', printed object bare, echoes.text]
  · rw [Expr.comments, Expr.comments, Note.around_bare bare', Note.around_bare bare,
      echoes.comments]

theorem readsSuffixed_position {object : Expr} {index : Number} {keySpan : Span}
    (bare : note.isBare = true) (start' : ReadsSuffixed room object)
    (notDot : isDotIndex index = false)
    (content : Reads room .pipeline (.number index .blank)) :
    ReadsSuffixed room (.field object (.position index) keySpan note) := by
  have printed : chars false (.field object (.position index) keySpan note) =
      chars false object ++ '[' :: (chars true (.number index .blank) ++ [']']) := by
    rw [chars_of_bare (.field object (.position index) keySpan note) bare, core_field,
      chars_of_bare (.number index .blank) rfl, core_number]
    simp [Print.fieldKey, notDot]
  have notFixed : fixedKey? (.number index .blank) = none := by simp [fixedKey?, notDot]
  refine ⟨bare, opens_append start' printed, ?_⟩
  intro setting start stop standard crosses _ _
  rw [printed] at crosses
  obtain ⟨object', key', note', bare', echoes, echoesKey, suffixable⟩ :=
    reads_indexed start' content standard crosses
  have notFixed' : fixedKey? key' = none :=
    (Expr.fixedKey?_eq echoesKey.bare echoesKey.comments).trans notFixed
  refine ⟨.item object' key' note', bare', ⟨?_, ?_, ?_⟩, suffixable⟩
  · rw [Expr.bare_item_none notFixed', Expr.bare, notDot, echoes.bare, echoesKey.bare, Expr.bare]
    rfl
  · rw [chars_of_bare (.item object' key' note') bare', core_item object' notFixed', printed,
      echoes.text, echoesKey.text]
  · have noComments := echoesKey.comments
    rw [Expr.comments, Note.blank, Note.around_bare rfl, List.length_nil] at noComments
    rw [Expr.comments, Expr.comments, Note.around_bare bare', Note.around_bare bare,
      List.length_append, noComments, echoes.comments, Nat.add_zero]

/-- A key that can stand after a dot has no comments. -/
theorem comments_fixed {key : Expr} {fixed : FieldKey} (isFixed : fixedKey? key = some fixed) :
    key.comments = [] := by
  cases fixedKey?_eq_some_iff.mp isFixed with
  | position bare | name bare => rw [Expr.comments, Note.around_bare bare]

theorem readsSuffixed_fixed {object key : Expr} {fixed : FieldKey} (bare : note.isBare = true)
    (start' : ReadsSuffixed room object) (apart : isWholeNumber object = false)
    (isFixed : fixedKey? key = some fixed) (dotKey : DotKey fixed) :
    ReadsSuffixed room (.item object key note) := by
  have printed : chars false (.item object key note) =
      chars false object ++ '.' :: fixed.text.toList := by
    rw [chars_of_bare (.item object key note) bare, core_item_fixed object isFixed]
  refine ⟨bare, opens_append start' printed, ?_⟩
  intro setting start stop standard crosses ends _
  rw [printed] at crosses
  obtain ⟨object', keySpan', note', bare', echoes, suffixable⟩ :=
    reads_dotted start' apart dotKey standard crosses ends
  refine ⟨.field object' fixed keySpan' note', bare', ⟨?_, ?_, ?_⟩, suffixable⟩
  · rw [bare_field_dotKey dotKey, Expr.bare, isFixed, echoes.bare]
  · rw [chars_of_bare (.field object' fixed keySpan' note') bare', core_field,
      toList_fieldKey dotKey, printed, echoes.text]
  · rw [Expr.comments, Expr.comments, Note.around_bare bare', Note.around_bare bare,
      comments_fixed isFixed, List.append_nil, echoes.comments]

theorem readsSuffixed_item {object key : Expr} (bare : note.isBare = true)
    (start' : ReadsSuffixed room object) (notFixed : fixedKey? key = none)
    (content : Reads room .pipeline key) : ReadsSuffixed room (.item object key note) := by
  have printed {object key : Expr} (notFixed : fixedKey? key = none) {note : Note}
      (bare : note.isBare = true) : chars false (.item object key note) =
        chars false object ++ '[' :: (chars true key ++ [']']) := by
    rw [chars_of_bare (.item object key note) bare, core_item object notFixed]
  refine ⟨bare, opens_append start' (printed notFixed bare), ?_⟩
  intro setting start stop standard crosses _ _
  rw [printed notFixed bare] at crosses
  obtain ⟨object', key', note', bare', echoes, echoesKey, suffixable⟩ :=
    reads_indexed start' content standard crosses
  have notFixed' : fixedKey? key' = none :=
    (Expr.fixedKey?_eq echoesKey.bare echoesKey.comments).trans notFixed
  refine ⟨.item object' key' note', bare', ⟨?_, ?_, ?_⟩, suffixable⟩
  · rw [Expr.bare_item_none notFixed', Expr.bare_item_none notFixed, echoes.bare, echoesKey.bare]
  · rw [printed notFixed' bare', printed notFixed bare, echoes.text, echoesKey.text]
  · rw [Expr.comments, Expr.comments, Note.around_bare bare', Note.around_bare bare,
      List.length_append, List.length_append, echoes.comments, echoesKey.comments]

theorem chars_call (callee : Expr) (arguments : List Expr) (bare : note.isBare = true) :
    chars false (.call callee arguments false note) = enclosed callee arguments :=
  (chars_of_bare (.call callee arguments false note) bare).trans (core_call_enclosed rfl)

theorem readsSuffixed_call {callee : Expr} {arguments : List Expr} (bare : note.isBare = true)
    (start' : ReadsSuffixed room callee)
    (content : ∀ argument ∈ arguments, Reads room .conditional argument) :
    ReadsSuffixed room (.call callee arguments false note) := by
  refine ⟨bare, opens_append start' (chars_call callee arguments bare), ?_⟩
  intro setting start stop standard crosses _ _
  rw [chars_call callee arguments bare] at crosses
  obtain ⟨middle, first, called⟩ := crosses.split
  obtain ⟨opens, inside⟩ := called.cons
  have parenApart : middle.Apart := apart_of_char called.1 (by decide)
  obtain ⟨callee', -, echoes, suffixable⟩ := start'.reads standard first parenApart
    (fun _ => isAt_eq_false called.1 (by decide))
  rw [← skipBlanks_listed content (.inl rfl) inside] at inside
  obtain ⟨arguments', derived, echoesAll⟩ := reads_items content standard (.inl rfl) inside
  refine ⟨.call callee' arguments' false (suffixNote callee' stop), rfl, ⟨?_, ?_, ?_⟩,
    fun whole next others => suffixable _ _ (.call opens derived others)⟩
  · rw [Expr.bare, Expr.bare, echoes.bare, echoesAll.bareAll_eq]
  · rw [chars_call callee' arguments' rfl, chars_call callee arguments bare, enclosed, enclosed,
      echoes.text, echoesAll.listed_eq]
  · rw [Expr.comments_call, Expr.comments_call, Note.around_bare rfl, Note.around_bare bare,
      List.length_append, List.length_append, echoes.comments, echoesAll.comments_eq]

end Grammar

end TemplateLang
