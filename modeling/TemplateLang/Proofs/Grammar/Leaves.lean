import TemplateLang.Grammar.Template
import TemplateLang.Proofs.Reading

/-!
# What the leaves of the grammar read

The readers of words, keys, operators, names and jumps, and the look for the word that stops
a body, call no reader of expressions or templates.  For each of them there is one statement
of where it succeeds and what it gives there.  What holds of anything that is read at a leaf
follows from these, so that no other proof has to follow the branches of the readers.
-/

namespace TemplateLang

namespace Grammar

open Cursor

variable {setting : Setting} {cursor next : Cursor}

/-! ## Words, literals and keys -/

/-- What a word stands for: a constant for its own word, or a variable for any word that is
not reserved. -/
inductive WordStands (note : Note) : String → Expr → Prop
  | null : WordStands note "null" (.null note)
  | undefined : WordStands note "undefined" (.undefined note)
  | yes : WordStands note "true" (.boolean true note)
  | no : WordStands note "false" (.boolean false note)
  | identifier {word : String} (free : isReserved word = false) :
      WordStands note word (.identifier word note)

/-- A word is read as what it stands for, and nothing after it is looked at. -/
theorem wordExpr_eq_ok {word : String} {expr : Expr} :
    wordExpr cursor word = .ok (expr, next) ↔
      next = cursor.skipWord ∧ WordStands (Note.at (cursor.spanTo cursor.skipWord)) word expr := by
  constructor
  · intro read
    have given {leaf : Expr}
        (same : (.ok (leaf, cursor.skipWord) : Reading (Expr × Cursor)) = .ok (expr, next))
        (stands : WordStands (Note.at (cursor.spanTo cursor.skipWord)) word leaf) :
        next = cursor.skipWord ∧
          WordStands (Note.at (cursor.spanTo cursor.skipWord)) word expr := by
      obtain ⟨rfl, rfl⟩ := Prod.mk.inj (Except.ok.inj same)
      exact ⟨rfl, stands⟩
    unfold wordExpr at read
    dsimp only at read
    split at read
    · subst word
      exact given read .null
    split at read
    · subst word
      exact given read .undefined
    split at read
    · subst word
      exact given read .yes
    split at read
    · subst word
      exact given read .no
    split at read
    · simp at read
    · rename_i notReserved
      exact given read (.identifier (Bool.eq_false_iff.mpr notReserved))
  · rintro ⟨rfl, stands⟩
    cases stands with
    | null | undefined | yes | no => rfl
    | identifier free =>
      -- The constants are reserved, so that a word that is free is none of them.
      have notConstant (constant : String) (reserved : isReserved constant = true) :
          word ≠ constant := by
        rintro rfl
        exact Bool.noConfusion (free.symm.trans reserved)
      simp [wordExpr, free, notConstant "null" (by decide), notConstant "undefined" (by decide),
        notConstant "true" (by decide), notConstant "false" (by decide)]

/-- A literal is a string where a quote stands, or else a number. -/
theorem literal_eq_ok {expr : Expr} :
    literal cursor = .ok (expr, next) ↔
      (∃ value quote, Literal.string cursor = .found (value, quote) next ∧
        expr = .text value quote (Note.at (cursor.spanTo next))) ∨
      (Literal.quote? cursor = none ∧ ∃ value, Literal.number cursor = .found value next ∧
        expr = .number value (Note.at (cursor.spanTo next))) := by
  unfold literal
  split
  · rename_i quote atQuote
    rw [Reading.bind_eq_ok]
    constructor
    · rintro ⟨⟨⟨value, quote⟩, _⟩, scanned, same⟩
      obtain ⟨rfl, rfl⟩ := Prod.mk.inj (Except.ok.inj same)
      exact .inl ⟨value, quote, Reading.ofScan_eq_ok.mp scanned, rfl⟩
    · rintro (⟨value, quote, found, rfl⟩ | ⟨noQuote, -⟩)
      · exact ⟨((value, quote), next), Reading.ofScan_eq_ok.mpr found, rfl⟩
      · exact absurd (atQuote.symm.trans noQuote) (by simp)
  · rename_i noQuote
    rw [Reading.bind_eq_ok]
    constructor
    · rintro ⟨⟨value, _⟩, scanned, same⟩
      obtain ⟨rfl, rfl⟩ := Prod.mk.inj (Except.ok.inj same)
      exact .inr ⟨noQuote, value, Reading.ofScan_eq_ok.mp scanned, rfl⟩
    · rintro (⟨value, quote, found, -⟩ | ⟨-, value, found, rfl⟩)
      · simp [Literal.string, noQuote] at found
      · exact ⟨(value, next), Reading.ofScan_eq_ok.mpr found, rfl⟩

/-- A key is a word, or else the digits that stand there. -/
theorem fieldKey_eq_ok {key : FieldKey} :
    fieldKey cursor = .ok (key, next) ↔
      (∃ word, cursor.peekWord? = some word ∧ key = .name word ∧ next = cursor.skipWord) ∨
      (cursor.peekWord? = none ∧ Literal.decimalDigits cursor ≠ [] ∧
        key = .position
          (Number.ofDecimal false ⟨naturalOfDigits 10 (Literal.decimalDigits cursor), 0⟩) ∧
        next = cursor.skip (Literal.decimalDigits cursor).length) := by
  unfold fieldKey
  cases cursor.peekWord? with
  | some word =>
    constructor
    · intro read
      obtain ⟨rfl, rfl⟩ := Prod.mk.inj (Except.ok.inj read)
      exact .inl ⟨word, rfl, rfl, rfl⟩
    · rintro (⟨_, ⟨⟩, rfl, rfl⟩ | ⟨⟨⟩, -⟩)
      rfl
  | none =>
    dsimp only
    split
    · rename_i noDigits
      simp [List.isEmpty_iff.mp noDigits]
    · rename_i someDigits
      rw [List.isEmpty_iff] at someDigits
      constructor
      · intro read
        obtain ⟨rfl, rfl⟩ := Prod.mk.inj (Except.ok.inj read)
        exact .inr ⟨rfl, someDigits, rfl, rfl⟩
      · rintro (⟨_, ⟨⟩, -⟩ | ⟨-, -, rfl, rfl⟩)
        rfl

/-! ## Operators -/

/-- An update operator at the start of a text.  Two minus signs are none where the second one
closes the tag. -/
inductive UpdateStands (setting : Setting) (text : List Char) : UpdateOp → Prop
  | increment {rest : List Char} (textEq : text = '+' :: '+' :: rest) :
      UpdateStands setting text .increment
  | decrement {rest : List Char} (textEq : text = '-' :: '-' :: rest)
      (goesOn : setting.atClosing ('-' :: rest) = false) : UpdateStands setting text .decrement

theorem updateOp?_eq_some_iff {text : List Char} {op : UpdateOp} :
    updateOp? setting text = some op ↔ UpdateStands setting text op := by
  constructor
  · intro starts
    unfold updateOp? at starts
    split at starts
    · obtain rfl := Option.some.inj starts
      exact .increment rfl
    · split at starts
      · simp at starts
      · rename_i goesOn
        obtain rfl := Option.some.inj starts
        exact .decrement rfl (Bool.eq_false_iff.mpr goesOn)
    · simp at starts
  · intro stands
    cases stands with
    | increment textEq => rw [textEq]; rfl
    | decrement textEq goesOn => simp [updateOp?, textEq, goesOn]

/-- A unary operator at the start of a text, where it begins no longer operator and a minus
sign does not close the tag. -/
inductive UnaryStands (setting : Setting) (text : List Char) : UnaryOp → Prop
  | plus {rest : List Char} (textEq : text = '+' :: rest) (alone : rest.head? ≠ some '+') :
      UnaryStands setting text .plus
  | minus {rest : List Char} (textEq : text = '-' :: rest) (alone : rest.head? ≠ some '-')
      (goesOn : setting.atClosing text = false) : UnaryStands setting text .minus
  | complement {rest : List Char} (textEq : text = '~' :: rest) :
      UnaryStands setting text .complement
  | negate {rest : List Char} (textEq : text = '!' :: rest) (alone : rest.head? ≠ some '=') :
      UnaryStands setting text .negate

theorem unaryOp?_eq_some_iff {text : List Char} {op : UnaryOp} :
    unaryOp? setting text = some op ↔ UnaryStands setting text op := by
  constructor
  · intro starts
    unfold unaryOp? at starts
    split at starts
    · split at starts
      · simp at starts
      · rename_i alone
        obtain rfl := Option.some.inj starts
        exact .plus rfl alone
    · split at starts
      · simp at starts
      · rename_i alone
        simp only [Bool.or_eq_true, decide_eq_true_eq, not_or, Bool.not_eq_true] at alone
        obtain rfl := Option.some.inj starts
        exact .minus rfl alone.1 alone.2
    · obtain rfl := Option.some.inj starts
      exact .complement rfl
    · split at starts
      · simp at starts
      · rename_i alone
        obtain rfl := Option.some.inj starts
        exact .negate rfl alone
    · simp at starts
  · intro stands
    cases stands with
    | plus textEq alone => simp [unaryOp?, textEq, alone]
    | minus textEq alone goesOn => simp [unaryOp?, textEq, alone, textEq ▸ goesOn]
    | complement textEq => rw [textEq]; rfl
    | negate textEq alone => simp [unaryOp?, textEq, alone]

/-- An infix operator is the first one of its tier that stands there, where no tag is closed
and no comment begins. -/
theorem infixOp?_eq_some_iff {tier : List InfixOp} {text : List Char} {op : InfixOp} :
    infixOp? setting tier text = some op ↔
      setting.atClosing text = false ∧ Literal.commentOpening.isPrefixOf text = false ∧
        tier.find? (fun op => op.symbol.toList.isPrefixOf text) = some op := by
  unfold infixOp?
  cases setting.atClosing text <;> cases Literal.commentOpening.isPrefixOf text <;> simp

/-- An operator is taken from the tier that is looked through. -/
theorem mem_of_infixOp? {tier : List InfixOp} {text : List Char} {op : InfixOp}
    (found : infixOp? setting tier text = some op) : op ∈ tier :=
  List.mem_of_find?_eq_some (infixOp?_eq_some_iff.mp found).2.2

/-- The text begins with the operator that is found. -/
theorem symbol_of_infixOp? {tier : List InfixOp} {text : List Char} {op : InfixOp}
    (found : infixOp? setting tier text = some op) : op.symbol.toList <+: text := by
  have stands := List.find?_some (infixOp?_eq_some_iff.mp found).2.2
  exact List.isPrefixOf_iff_prefix.mp stands

/-- A single bar that does not close the tag leads to the next segment of a pipe. -/
theorem atPipe_iff {text : List Char} :
    atPipe setting text = true ↔
      ∃ rest, text = '|' :: rest ∧ rest.head? ≠ some '|' ∧ setting.atClosing text = false := by
  unfold atPipe
  split
  · simp
  · rename_i noBar
    simp only [Bool.false_eq_true, false_iff, not_exists]
    rintro rest ⟨textEq, -⟩
    exact noBar rest textEq

/-- An update has a variable or a member as its target. -/
theorem requireAssignable_eq_ok {place : UpdatePlace} {target : Expr} {done : Unit} :
    requireAssignable place target = .ok done ↔ target.isAssignable = true := by
  unfold requireAssignable
  split <;> simp [*]

/-! ## Names and jumps -/

/-- A declaration is a word with `:=` after it, with blanks between. -/
theorem declaration?_eq_some_iff {target : Identifier} :
    declaration? cursor = some (target, next) ↔
      cursor.peekWord? = some target.name ∧ target.span = cursor.spanTo cursor.skipWord ∧
        cursor.skipWord.skipBlanks.isAt [':', '='] = true ∧
        next = cursor.skipWord.skipBlanks.skip 2 := by
  obtain ⟨name, span⟩ := target
  unfold declaration?
  cases cursor.peekWord? with
  | none => simp
  | some word =>
    dsimp only
    split
    · rename_i assigns
      constructor
      · intro declares
        obtain ⟨⟨⟩, rfl⟩ := Prod.mk.inj (Option.some.inj declares)
        exact ⟨rfl, rfl, assigns, rfl⟩
      · rintro ⟨⟨⟩, ⟨⟩, -, rfl⟩
        rfl
    · rename_i noAssignment
      simp [noAssignment]

/-- A loop binds any word that is not reserved. -/
theorem binding_eq_ok {missing : Fault} {name : Identifier} :
    binding missing cursor = .ok (name, next) ↔
      cursor.peekWord? = some name.name ∧ isReserved name.name = false ∧
        name.span = cursor.spanTo cursor.skipWord ∧ next = cursor.skipWord := by
  obtain ⟨name, span⟩ := name
  unfold binding
  cases cursor.peekWord? with
  | none => simp
  | some word =>
    dsimp only
    split
    · rename_i reserved
      constructor
      · simp
      · rintro ⟨⟨⟩, free, -⟩
        exact Bool.noConfusion (free.symm.trans reserved)
    · rename_i free
      constructor
      · intro binds
        obtain ⟨⟨⟩, rfl⟩ := Prod.mk.inj (Except.ok.inj binds)
        exact ⟨rfl, Bool.eq_false_iff.mpr free, rfl, rfl⟩
      · rintro ⟨⟨⟩, -, ⟨⟩, rfl⟩
        rfl

/-- The index variable stands after a comma.  Without a comma nothing is read. -/
theorem indexBinding_eq_ok {index : Option Identifier} :
    indexBinding cursor = .ok (index, next) ↔
      (cursor.isAt [','] = true ∧ ∃ name after,
        binding .missingIndexVariable (cursor.skip 1).skipBlanks = .ok (name, after) ∧
          index = some name ∧ next = after.skipBlanks) ∨
      (cursor.isAt [','] = false ∧ index = none ∧ next = cursor) := by
  unfold indexBinding
  cases cursor.isAt [','] with
  | true =>
    rw [if_pos rfl, Reading.bind_eq_ok]
    constructor
    · rintro ⟨⟨name, after⟩, read, same⟩
      obtain ⟨rfl, rfl⟩ := Prod.mk.inj (Except.ok.inj same)
      exact .inl ⟨rfl, name, after, read, rfl, rfl⟩
    · rintro (⟨-, name, after, read, rfl, rfl⟩ | ⟨⟨⟩, -⟩)
      exact ⟨(name, after), read, rfl⟩
  | false =>
    rw [if_neg Bool.false_ne_true]
    constructor
    · intro same
      obtain ⟨rfl, rfl⟩ := Prod.mk.inj (Except.ok.inj same)
      exact .inr ⟨rfl, rfl, rfl⟩
    · rintro (⟨⟨⟩, -⟩ | ⟨-, rfl, rfl⟩)
      rfl

/-- The word is read where no word goes on after it. -/
theorem requireIn_eq_ok :
    requireIn cursor = .ok next ↔
      cursor.isAt ['i', 'n'] = true ∧ next = cursor.skip 2 ∧
        ∀ c ∈ (cursor.skip 2).rest.head?, isWordChar c = false := by
  unfold requireIn Cursor.expectWord
  by_cases isAt : cursor.isAt ['i', 'n'] = true
  · simp only [isAt, if_true]
    cases after : cursor.rest.drop 2 with
    | nil =>
      simp only [List.length_cons, List.length_nil, Cursor.rest_skip, after, Except.ok.injEq,
        List.head?_nil, Option.mem_def, reduceCtorEq, false_implies, implies_true, and_true,
        true_and]
      exact eq_comm
    | cons c rest =>
      by_cases continues : isWordChar c = true
      · simp [after, continues]
      · simp only [List.length_cons, List.length_nil, Cursor.rest_skip, after, continues,
          Except.ok.injEq, List.head?_cons, Option.mem_def, Option.some.injEq, true_and,
          Bool.false_eq_true, if_false, forall_eq', and_true]
        exact eq_comm
  · simp [isAt]

/-- A word that leaves a round stands in a loop. -/
theorem loopControl_eq_ok {word : String} {statement : Span → Statement} {given : Statement} :
    loopControl setting cursor word statement = .ok (given, next) ↔
      setting.inLoop = true ∧ given = statement (cursor.spanTo cursor.skipWord) ∧
        next = cursor.skipWord := by
  unfold loopControl
  dsimp only
  split
  · rename_i inLoop
    constructor
    · intro same
      obtain ⟨rfl, rfl⟩ := Prod.mk.inj (Except.ok.inj same)
      exact ⟨inLoop, rfl, rfl⟩
    · rintro ⟨-, rfl, rfl⟩
      rfl
  · rename_i noLoop
    simp [noLoop]

/-! ## Tags -/

theorem isEmpty_of_openingTag {tag : Tag} (opens : openingTag setting cursor = .ok (tag, next)) :
    cursor.rest.isEmpty = false := by
  obtain ⟨someMark, begins⟩ := startsWithMark_iff.mp (openingTag_eq_ok.mp opens).1
  rw [Bool.eq_false_iff, Ne, List.isEmpty_iff]
  intro empty
  rw [empty] at begins
  exact someMark (List.prefix_nil.mp begins)

/-- Whether a word stands after an opening end. -/
theorem atBlockWord_of_openingTag {stops : List String} {tag : Tag}
    (opens : openingTag setting cursor = .ok (tag, next)) :
    atBlockWord setting stops cursor = next.peekWord?.any stops.contains := by
  unfold atBlockWord
  rw [opens]
  dsimp only
  split <;> simp [*]

/-- A body is stopped by one of its words after an opening end. -/
theorem atBlockWord_iff {stops : List String} :
    atBlockWord setting stops cursor = true ↔
      ∃ tag middle word, openingTag setting cursor = .ok (tag, middle) ∧
        middle.peekWord? = some word ∧ word ∈ stops := by
  cases opens : openingTag setting cursor with
  | error => simp [atBlockWord, opens]
  | ok opened =>
    obtain ⟨tag, middle⟩ := opened
    simp only [atBlockWord_of_openingTag opens, Option.any_eq_true, List.contains_iff_mem]
    constructor
    · rintro ⟨word, isNext, isStop⟩
      exact ⟨tag, middle, word, rfl, isNext, isStop⟩
    · rintro ⟨_, _, word, same, isNext, isStop⟩
      obtain ⟨-, rfl⟩ := Prod.mk.inj (Except.ok.inj same)
      exact ⟨word, isNext, isStop⟩

end Grammar

end TemplateLang
