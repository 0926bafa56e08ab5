import TemplateLang.Proofs.Grammar.Leaves
import TemplateLang.Proofs.RoundTrip.Comments
import TemplateLang.Proofs.RoundTrip.Literals

/-!
# The boundaries of printed expressions

The readers look ahead at single characters to decide whether an operand begins, an operator
follows, or an expression is over.  Here are the beginnings of printed operands and the
characters after printed expressions, with what every look ahead makes of them under the
standard delimiters.
-/

namespace TemplateLang

namespace Grammar

open Cursor Print

variable {setting : Setting} {cursor next : Cursor} {c : Char} {text rest : List Char}

/-! ## Closing marks -/

/-- Only a brace, or a minus before a brace, can close a tag. -/
theorem atClosing_eq_false (standard : setting.tags = Delimiters.standard) (notBrace : c ≠ '\x7d')
    (noTrim : c = '-' → rest.head? ≠ some '\x7d') : setting.atClosing (c :: rest) = false := by
  have mark : setting.tags.closing.toList = ['\x7d', '\x7d'] := by rw [standard]; rfl
  unfold Setting.atClosing
  dsimp only
  rw [mark, Bool.or_eq_false_iff]
  constructor
  · rw [Bool.eq_false_iff]
    intro starts
    obtain ⟨-, after, same⟩ := startsWithMark_iff.mp starts
    exact notBrace (List.cons.inj same).1.symm
  · rw [Bool.eq_false_iff]
    intro starts
    obtain ⟨rest', same, -, after, begins⟩ := startsWithTrimmed_iff.mp starts
    obtain ⟨rfl, rfl⟩ := List.cons.inj same
    exact noTrim rfl (by rw [← begins]; rfl)

/-! ## Beginnings of operands -/

/-- Characters that begin an operand without an operator before it. -/
def startsPrimary (c : Char) : Bool :=
  isWordStart c || c.isDigit || ['"', '\'', '(', '['].contains c

/-- The beginning of a printed operand.  What follows an operator sign does not make it
another operator or a closing mark. -/
inductive Opens : List Char → Prop where
  | primary {c : Char} {rest : List Char} (starts : startsPrimary c = true) : Opens (c :: rest)
  | sign {c d : Char} {rest : List Char} (isSign : ['+', '-', '~', '!'].contains c = true)
      (notEqual : d ≠ '=') (notBrace : d ≠ '\x7d') : Opens (c :: d :: rest)

/-- A text that would not be taken for the right operand of an operator. -/
def Unsigned (text : List Char) : Prop :=
  text.head? ≠ some '+' ∧ text.head? ≠ some '-'

theorem Opens.append (opens : Opens text) (more : List Char) : Opens (text ++ more) := by
  cases opens with
  | primary starts => exact .primary starts
  | sign isSign notEqual notBrace => exact .sign isSign notEqual notBrace

theorem Opens.ne_nil (opens : Opens text) : text ≠ [] := by
  cases opens <;> simp

/-- A primary start is none of the characters that mean something else at that place. -/
theorem startsPrimary_ne {d : Char} (starts : startsPrimary c = true)
    (other : startsPrimary d = false) : c ≠ d := by
  rintro rfl
  rw [starts] at other
  exact Bool.noConfusion other

theorem mem_signs (isSign : ['+', '-', '~', '!'].contains c = true) :
    c = '+' ∨ c = '-' ∨ c = '~' ∨ c = '!' := by
  simpa using isSign

theorem isBlank_eq_false (small : c.toNat < 128) (notSpace : c ≠ ' ')
    (high : 14 ≤ c.toNat) : Unicode.isBlank c = false := by
  unfold Unicode.isBlank
  rw [if_pos small, Bool.or_eq_false_iff, decide_eq_false_iff_not]
  refine ⟨notSpace, ?_⟩
  simp only [Bool.and_eq_false_iff, decide_eq_false_iff_not]
  right
  intro low
  have : c.toNat ≤ 13 := by simpa [Char.le_def, UInt32.le_iff_toNat_le] using low
  omega

theorem startsPrimary_small (starts : startsPrimary c = true) :
    c.toNat < 128 ∧ 14 ≤ c.toNat := by
  simp only [startsPrimary, Bool.or_eq_true] at starts
  rcases starts with (word | digit) | bracket
  · rcases isWordStart_iff.mp word with upper | lower | rfl | rfl
    · omega
    · omega
    · decide
    · decide
  · have inRange := isDigit_iff.mp digit
    omega
  · simp only [List.contains_eq_mem, List.mem_cons, List.not_mem_nil, or_false,
      decide_eq_true_eq] at bracket
    rcases bracket with rfl | rfl | rfl | rfl <;> decide

theorem Opens.settles (opens : Opens text) : Settles text := by
  intro more
  cases opens with
  | primary starts =>
    obtain ⟨small, high⟩ := startsPrimary_small starts
    refine settled_of_char (isBlank_eq_false small ?_ high) ?_
    · exact startsPrimary_ne starts (by decide)
    · exact startsPrimary_ne starts (by decide)
  | sign isSign =>
    rcases mem_signs isSign with rfl | rfl | rfl | rfl <;>
      exact settled_of_char (by decide) (by decide)

/-- The first character of an operand is no brace, bracket or sign of another kind. -/
theorem Opens.head_ne (opens : Opens text) {d : Char} (other : startsPrimary d = false)
    (noSign : ['+', '-', '~', '!'].contains d = false) : text.head? ≠ some d := by
  intro isHead
  cases opens with
  | primary starts => exact startsPrimary_ne starts other (Option.some.inj isHead)
  | sign isSign =>
    obtain rfl := Option.some.inj isHead
    rw [isSign] at noSign
    exact Bool.noConfusion noSign

theorem Opens.not_closing (standard : setting.tags = Delimiters.standard) (opens : Opens text) :
    setting.atClosing text = false := by
  cases opens with
  | primary starts =>
    refine atClosing_eq_false standard (startsPrimary_ne starts (by decide)) ?_
    exact fun isMinus => absurd isMinus (startsPrimary_ne starts (by decide))
  | @sign c d rest isSign notEqual notBrace =>
    refine atClosing_eq_false standard ?_ fun _ => by simpa using notBrace
    rcases mem_signs isSign with rfl | rfl | rfl | rfl <;> decide

/-- An operand can be an argument of a command. -/
theorem Opens.atArgument (standard : setting.tags = Delimiters.standard) (opens : Opens text) :
    Grammar.atArgument setting text = true := by
  unfold Grammar.atArgument
  rw [opens.not_closing standard, if_neg Bool.false_ne_true]
  cases opens with
  | @primary c rest starts =>
    have notPoint : c ≠ '.' := startsPrimary_ne starts (by decide)
    have notBang : c ≠ '!' := startsPrimary_ne starts (by decide)
    dsimp only
    simp only [startsPrimary, Bool.or_eq_true] at starts
    by_cases other : (isWordStart c || c.isDigit) = true
    · rw [if_pos other]
    · rw [if_neg other, if_neg notPoint, if_neg notBang]
      rcases starts with starts | bracket
      · exact absurd (by simpa using starts) other
      · simp only [List.contains_eq_mem, List.mem_cons, List.not_mem_nil, or_false,
          decide_eq_true_eq] at bracket
        rcases bracket with rfl | rfl | rfl | rfl <;> rfl
  | @sign c d rest isSign notEqual notBrace =>
    rcases mem_signs isSign with rfl | rfl | rfl | rfl
    · rfl
    · rfl
    · rfl
    · simp [notEqual]

/-! ## Operators between operands -/

/-- The first characters of operators between operands. -/
def infixStarts : List Char :=
  ['|', '&', '=', '!', '<', '>', '+', '-', '*', '/', '%']

/-- An operator has one or two characters, a minus or a slash being alone. -/
theorem symbol_starts (op : InfixOp) :
    ∃ c tail, op.symbol.toList = c :: tail ∧ infixStarts.contains c = true ∧
      (c = '-' ∨ c = '/' → tail = []) := by
  rcases op with op | op <;> cases op <;> exact ⟨_, _, rfl, rfl, by decide⟩

/-- No operator is found where none is written. -/
theorem infixOp?_eq_none (tier : List InfixOp)
    (noSymbol : ∀ op : InfixOp, ¬ op.symbol.toList <+: text) :
    infixOp? setting tier text = none := by
  unfold infixOp?
  split
  · rfl
  · rw [List.find?_eq_none]
    intro op _ starts
    exact noSymbol op (List.isPrefixOf_iff_prefix.mp starts)

/-- No operator begins with another character. -/
theorem no_symbol (other : infixStarts.contains c = false) (op : InfixOp) :
    ¬ op.symbol.toList <+: c :: rest := by
  rintro ⟨after, same⟩
  obtain ⟨d, tail, symbolEq, isStart, -⟩ := symbol_starts op
  rw [symbolEq] at same
  obtain ⟨rfl, -⟩ := List.cons.inj same
  rw [isStart] at other
  exact Bool.noConfusion other

/-- A negation is not the beginning of an operator. -/
theorem no_symbol_bang {d : Char} (notEqual : d ≠ '=') (op : InfixOp) :
    ¬ op.symbol.toList <+: '!' :: d :: rest := by
  rcases op with op | op <;> cases op <;> simp [InfixOp.symbol, BinaryOp.symbol, LogicalOp.symbol,
    notEqual.symm]

/-- A bar is not the beginning of an operator, unless another one follows. -/
theorem no_symbol_pipe (noBar : rest.head? ≠ some '|') (op : InfixOp) :
    ¬ op.symbol.toList <+: '|' :: rest := by
  rcases op with op | op <;> cases op <;>
    simp [InfixOp.symbol, BinaryOp.symbol, LogicalOp.symbol]
  rintro ⟨after, rfl⟩
  exact noBar rfl

/-- No operator begins where an operand does that has no sign. -/
theorem Opens.infixOp?_eq_none (opens : Opens text) (unsigned : Unsigned text)
    (tier : List InfixOp) : infixOp? setting tier text = none := by
  refine Grammar.infixOp?_eq_none tier ?_
  cases opens with
  | @primary c rest starts =>
    refine no_symbol ?_
    rw [Bool.eq_false_iff]
    intro isStart
    have notPrimary : infixStarts.all (fun d => !startsPrimary d) = true := by decide
    have other := List.all_eq_true.mp notPrimary c (by simpa using isStart)
    rw [starts] at other
    exact Bool.noConfusion other
  | @sign c d rest isSign notEqual notBrace =>
    rcases mem_signs isSign with rfl | rfl | rfl | rfl
    · exact absurd rfl unsigned.1
    · exact absurd rfl unsigned.2
    · exact no_symbol (by decide)
    · exact no_symbol_bang notEqual

/-- A printed operator is found in its tier and in no tighter one. -/
theorem infixOp?_printed (standard : setting.tags = Delimiters.standard) {op : InfixOp}
    {tier : List InfixOp} {tighter : List (List InfixOp)} (inTiers : tier :: tighter <:+ tiers)
    (isIn : op ∈ tier) (rest : List Char) :
    infixOp? setting tier (op.symbol.toList ++ ' ' :: rest) = some op ∧
      ∀ other ∈ tighter, infixOp? setting other (op.symbol.toList ++ ' ' :: rest) = none := by
  have found (tier' : List InfixOp) :
      infixOp? setting tier' (op.symbol.toList ++ ' ' :: rest) =
        tier'.find? fun op' => op'.symbol.toList.isPrefixOf (op.symbol.toList ++ ' ' :: rest) := by
    obtain ⟨c, tail, symbolEq, isStart, alone⟩ := symbol_starts op
    have noClosing : setting.atClosing (op.symbol.toList ++ ' ' :: rest) = false := by
      rw [symbolEq]
      refine atClosing_eq_false standard ?_ ?_
      · rintro rfl
        exact absurd isStart (by decide)
      · rintro rfl
        rw [alone (.inl rfl)]
        exact fun isBrace => absurd (Option.some.inj isBrace) (by decide)
    have noComment :
        Literal.commentOpening.isPrefixOf (op.symbol.toList ++ ' ' :: rest) = false := by
      rw [symbolEq, Bool.eq_false_iff]
      intro opens
      obtain ⟨after, same⟩ := List.isPrefixOf_iff_prefix.mp opens
      obtain ⟨rfl, second⟩ := List.cons.inj same
      rw [alone (.inr rfl)] at second
      exact absurd (List.cons.inj second).1 (by decide)
    unfold infixOp?
    rw [noClosing, noComment]
    rfl
  rw [found]
  simp only [tiers, List.suffix_cons_iff, List.suffix_nil, List.cons.injEq, reduceCtorEq,
    or_false] at inTiers
  rcases inTiers with ⟨rfl, rfl⟩ | ⟨rfl, rfl⟩ | ⟨rfl, rfl⟩ | ⟨rfl, rfl⟩ | ⟨rfl, rfl⟩ | ⟨rfl, rfl⟩
  all_goals
    simp only [List.mem_cons, List.not_mem_nil, or_false] at isIn
    rcases isIn with rfl | rfl | rfl | rfl
  all_goals refine ⟨rfl, fun other isIn => ?_⟩
  all_goals simp only [List.mem_cons, List.not_mem_nil, or_false] at isIn
  all_goals
    rw [found]
    rcases isIn with rfl | rfl | rfl | rfl | rfl | rfl <;> rfl

/-! ## Operators of one operand -/

theorem unaryOp?_eq_none (noSign : ['+', '-', '~', '!'].contains c = false) :
    unaryOp? setting (c :: rest) = none := by
  simp only [List.contains_eq_mem, List.mem_cons, List.not_mem_nil, or_false,
    decide_eq_false_iff_not, not_or] at noSign
  obtain ⟨notPlus, notMinus, notTilde, notBang⟩ := noSign
  unfold unaryOp?
  split <;> simp_all

theorem updateOp?_eq_none (notPlus : c ≠ '+') (notMinus : c ≠ '-') :
    updateOp? setting (c :: rest) = none := by
  unfold updateOp?
  split <;> simp_all

theorem startsPrimary_no_sign (starts : startsPrimary c = true) :
    ['+', '-', '~', '!'].contains c = false := by
  rw [Bool.eq_false_iff]
  intro isSign
  rcases mem_signs isSign with rfl | rfl | rfl | rfl <;> exact absurd starts (by decide)

/-- A printed update is read as one. -/
theorem updateOp?_printed (standard : setting.tags = Delimiters.standard) (op : UpdateOp)
    (noBrace : rest.head? ≠ some '\x7d') :
    updateOp? setting (op.symbol.toList ++ rest) = some op := by
  cases op with
  | increment => rfl
  | decrement =>
    change (if setting.atClosing ('-' :: rest) = true then none else some _) = some _
    rw [atClosing_eq_false standard (by decide) fun _ => noBrace]
    rfl

/-- An operand that begins with an update has no other operator before it. -/
theorem unaryOp?_update (op : UpdateOp) : unaryOp? setting (op.symbol.toList ++ rest) = none := by
  cases op <;> rfl

/-- A printed operator is read as one if what follows it is no part of another. -/
theorem unaryOp?_printed (standard : setting.tags = Delimiters.standard) (op : UnaryOp)
    (noPlus : op = .plus → rest.head? ≠ some '+') (noMinus : op = .minus → rest.head? ≠ some '-')
    (noEqual : rest.head? ≠ some '=') (noBrace : rest.head? ≠ some '\x7d') :
    unaryOp? setting (op.symbol.toList ++ rest) = some op := by
  cases op with
  | plus =>
    change (if rest.head? = some '+' then none else some _) = some _
    rw [if_neg (noPlus rfl)]
  | minus =>
    change (if (rest.head? = some '-' || setting.atClosing ('-' :: rest)) = true then none
      else some _) = some _
    rw [atClosing_eq_false standard (by decide) fun _ => noBrace, if_neg]
    simpa using noMinus rfl
  | complement => rfl
  | negate =>
    change (if rest.head? = some '=' then none else some _) = some _
    rw [if_neg noEqual]

/-! ## Ends of expressions -/

/-- Where a conditional is over. -/
structure EndsConditional (setting : Setting) (cursor : Cursor) : Prop where
  noInfix : ∀ tier, infixOp? setting tier cursor.rest = none
  noQuestion : cursor.isAt ['?'] = false

/-- Where a command is over. -/
structure EndsCommand (setting : Setting) (cursor : Cursor) : Prop
    extends EndsConditional setting cursor where
  noArgument : atArgument setting cursor.rest = false

theorem isAt_eq_false {d : Char} (starts : cursor.rest = c :: rest) (differ : c ≠ d) :
    cursor.isAt [d] = false :=
  isAt_ne (isAt_singleton_iff.mpr ⟨rest, starts⟩) differ

/-- Expressions are over before a bracket, a comma or a colon. -/
theorem endsCommand_of_char (starts : cursor.rest = c :: rest)
    (isEnd : [')', ']', ',', ':'].contains c = true) : EndsCommand setting cursor := by
  simp only [List.contains_eq_mem, List.mem_cons, List.not_mem_nil, or_false,
    decide_eq_true_eq] at isEnd
  rcases isEnd with rfl | rfl | rfl | rfl
  all_goals
    refine ⟨⟨fun tier => ?_, isAt_eq_false starts (by decide)⟩, ?_⟩
    · rw [starts]
      exact infixOp?_eq_none tier (no_symbol (by decide))
    · rw [starts]
      unfold atArgument
      split <;> rfl

/-- Expressions are over before a pipe. -/
theorem endsCommand_of_pipe (follows : atPipe setting cursor.rest = true) :
    EndsCommand setting cursor := by
  obtain ⟨rest, starts, noBar, -⟩ := atPipe_iff.mp follows
  refine ⟨⟨fun tier => ?_, isAt_eq_false starts (by decide)⟩, ?_⟩
  · rw [starts]
    exact infixOp?_eq_none tier (no_symbol_pipe noBar)
  · rw [starts]
    unfold atArgument
    split <;> rfl

/-- Expressions are over before a closing mark. -/
theorem endsCommand_of_closing (standard : setting.tags = Delimiters.standard)
    (closes : setting.atClosing cursor.rest = true) : EndsCommand setting cursor := by
  refine ⟨⟨fun tier => ?_, ?_⟩, ?_⟩
  · unfold infixOp?
    rw [closes]
    rfl
  · rw [Bool.eq_false_iff]
    intro question
    obtain ⟨rest, starts⟩ := isAt_singleton_iff.mp question
    have noTrim : '?' = '-' → rest.head? ≠ some '\x7d' := fun same => absurd same (by decide)
    rw [starts, atClosing_eq_false standard (by decide) noTrim] at closes
    exact Bool.noConfusion closes
  · unfold atArgument
    rw [closes]
    rfl

/-- Nothing of a suffix or an update begins after an expression. -/
theorem no_suffix_of_ends (ends : cursor.Ends) :
    cursor.isAt ['.'] = false ∧ cursor.isAt ['['] = false ∧ cursor.isAt ['('] = false ∧
      updateOp? setting cursor.rest = none ∧ cursor.Apart := by
  obtain ⟨c, rest, starts, isEnd⟩ := ends
  have apart : cursor.Apart := by
    intro d rest' same
    rw [starts] at same
    obtain ⟨rfl, -⟩ := List.cons.inj same
    rcases isEnd with rfl | rfl | rfl | rfl <;> decide
  rw [starts]
  rcases isEnd with rfl | rfl | rfl | rfl
  all_goals
    refine ⟨isAt_eq_false starts (by decide), isAt_eq_false starts (by decide),
      isAt_eq_false starts (by decide), ?_, apart⟩
    exact updateOp?_eq_none (by decide) (by decide)

end Grammar

end TemplateLang
