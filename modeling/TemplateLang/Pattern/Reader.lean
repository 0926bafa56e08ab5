import TemplateLang.Pattern.Regex
import TemplateLang.Number.Decimal

/-!
# Reading patterns

The notation of patterns.  Alternatives stand between bars and are sequences of
items; an item is a character, a class, a place or a group, and may be repeated.
Modes set in the middle of a group hold to its end.  A text that is no pattern is
refused without a reason.
-/

namespace TemplateLang.Pattern

/-- The modes of a pattern. -/
structure Modes where
  ignoresCase : Bool
  multiLine : Bool
  dotTakesAll : Bool
  swapsGreed : Bool
  inUnicode : Bool
  spaced : Bool
  crlf : Bool
deriving DecidableEq, Repr

/-- The modes that a pattern starts in. -/
def Modes.initial : Modes :=
  ⟨false, false, false, false, true, false, false⟩

/-- What is left of a pattern, the modes in force, and the groups opened so far. -/
structure ReaderState where
  rest : List Char
  modes : Modes
  groupCount : Nat
  groupNames : List (String × Nat)

/-- Readers of patterns. -/
abbrev Reader : Type → Type :=
  StateT ReaderState Option

namespace Reader

/-- Refuse the pattern. -/
def refuse {α : Type} : Reader α :=
  fun _ => none

/-- A value that must be there. -/
def require {α : Type} : Option α → Reader α
  | some value => pure value
  | none => refuse

/-- Go on only if a condition holds. -/
def check (condition : Bool) : Reader Unit :=
  if condition then pure () else refuse

def rest : Reader (List Char) := do
  return (← get).rest

def modes : Reader Modes := do
  return (← get).modes

def setRest (rest : List Char) : Reader Unit :=
  modify fun state => { state with rest := rest }

def setModes (modes : Modes) : Reader Unit :=
  modify fun state => { state with modes := modes }

/-- Blanks and comments dropped; `inComment` tells whether a comment goes on. -/
def dropSpace (inComment : Bool) : List Char → List Char
  | [] => []
  | c :: rest =>
    if inComment then dropSpace (c ≠ '\n') rest
    else if Unicode.isBlank c then dropSpace false rest
    else if c = '#' then dropSpace true rest
    else c :: rest

/-- Pass over blanks and comments, in the mode in which they say nothing. -/
def skipSpace : Reader Unit := do
  if (← modes).spaced then setRest (dropSpace false (← rest))

/-- Pass over a number of characters. -/
def drop (count : Nat) : Reader Unit := do
  setRest ((← rest).drop count)

/-- Pass over a character, and blanks after it. -/
def advance : Reader Unit := do
  drop 1
  skipSpace

/-- The next character, which must be there. -/
def peek : Reader Char := do
  match ← rest with
  | c :: _ => pure c
  | [] => refuse

/-- Whether a mark is next. -/
def isAt (mark : String) : Reader Bool := do
  return mark.toList.isPrefixOf (← rest)

/-- Pass over a mark if it is next. -/
def accept (mark : String) : Reader Bool := do
  if ← isAt mark then
    drop mark.length
    pure true
  else pure false

/-- The characters up to a given one, which is passed over; blanks and comments
between them are not among them. -/
def textUntil (stop : Char) : Nat → Reader (List Char)
  | 0 => refuse
  | fuel + 1 => do
    let c ← peek
    if c = stop then
      drop 1
      pure []
    else do
      advance
      let text ← textUntil stop fuel
      pure (c :: text)

/-! ## Sets in a mode -/

/-- A set with the characters that a mode takes for the same. -/
def foldIn (modes : Modes) (set : CharSet) : CharSet :=
  if !modes.ignoresCase then set
  else if modes.inUnicode then set.closeUnderCase
  else set.closeUnderAsciiCase

/-- The characters that are not in a set.  Outside of Unicode they are bytes. -/
def complementIn (modes : Modes) (set : CharSet) : CharSet :=
  set.complement (if modes.inUnicode then CharSet.maxCode else 0xFF)

def negateIf (modes : Modes) (isNegated : Bool) (set : CharSet) : CharSet :=
  if isNegated then complementIn modes set else set

/-- A set that stands for whole characters: outside of Unicode only those below 128
are. -/
def wholeChars (modes : Modes) (set : CharSet) : Reader CharSet := do
  check (modes.inUnicode || set.isAscii)
  pure set

/-! ## Escapes -/

/-- What an escape stands for.  A character given by two hexadecimal digits is a byte
outside of Unicode. -/
inductive Escape where
  | char (c : Char) (isByte : Bool)
  | chars (set : CharSet)
  | look (look : Look)

/-- Characters with a meaning in patterns. -/
def metaChars : List Char :=
  "\\.+*?()|[]\x7b\x7d^$#&-~".toList

/-- Whether a backslash before a character leaves it as it is. -/
def isEscapable (c : Char) : Bool :=
  metaChars.contains c || (c.toNat < 128 && !c.isAlphanum && c ≠ '<' && c ≠ '>')

/-- The character of hexadecimal digits. -/
def charOfHex (digits : List Char) : Reader Char := do
  check (digits.all (isDigitOf 16))
  let code := naturalOfDigits 16 digits
  check (code.isValidChar)
  pure (Char.ofNat code)

/-- A number of digits, with blanks between them in the mode for that. -/
def digits : Nat → Reader (List Char)
  | 0 => pure []
  | 1 => do
    let c ← peek
    drop 1
    pure [c]
  | count + 1 => do
    let c ← peek
    advance
    let others ← digits count
    pure (c :: others)

/-- The character after `\x`, `\u` or `\U`, which take two, four and eight digits, or
any number of them in braces. -/
def hexEscape (count : Nat) : Reader Escape := do
  if (← peek) = '\x7b' then
    advance
    let text ← textUntil '\x7d' ((← rest).length + 1)
    check (!text.isEmpty)
    return .char (← charOfHex text) false
  else
    let text ← digits count
    return .char (← charOfHex text) (count = 2)

/-- A name cut at the first of a mark, if it has the mark. -/
def cutAt? (mark : List Char) : List Char → Option (List Char × List Char)
  | [] => none
  | c :: rest =>
    if mark.isPrefixOf (c :: rest) then some ([], (c :: rest).drop mark.length)
    else (cutAt? mark rest).map fun (before, after) => (c :: before, after)

/-- The set that a property in braces stands for. -/
def propertySet? (name : List Char) (modes : Modes) : Option CharSet :=
  match cutAt? ['!', '='] name with
  | some (property, value) => (CharSet.valued? property value).map (complementIn modes)
  | none =>
    match (cutAt? [':'] name).orElse fun _ => cutAt? ['='] name with
    | some (property, value) => CharSet.valued? property value
    | none => CharSet.named? name

/-- The class after `\p` or `\P`. -/
def propertyEscape (isNegated : Bool) : Reader Escape := do
  let modes ← modes
  check modes.inUnicode
  let set ←
    if (← peek) = '\x7b' then do
      advance
      let name ← textUntil '\x7d' ((← rest).length + 1)
      require (propertySet? name modes)
    else do
      let c ← peek
      check (c ≠ '\\')
      drop 1
      require (CharSet.named? [c])
  return .chars (negateIf modes isNegated (foldIn modes set))

/-- The place after `\b`, which may have a name in braces. -/
def boundaryEscape : Reader Escape := do
  let inUnicode := (← modes).inUnicode
  if ← accept "\x7bstart\x7d" then return .look (.wordStart inUnicode)
  else if ← accept "\x7bend\x7d" then return .look (.wordEnd inUnicode)
  else if ← accept "\x7bstart-half\x7d" then return .look (.notAfterWord inUnicode)
  else if ← accept "\x7bend-half\x7d" then return .look (.notBeforeWord inUnicode)
  else return .look (.boundary inUnicode false)

/-- Characters that are named by a letter after a backslash. -/
def namedChar? : Char → Option Char
  | 'a' => some '\x07'
  | 'f' => some '\x0c'
  | 't' => some '\t'
  | 'n' => some '\n'
  | 'r' => some '\r'
  | 'v' => some '\x0b'
  | _ => none

/-- An escape, from its backslash on. -/
def escape : Reader Escape := do
  drop 1
  let c ← peek
  let modes ← modes
  let inUnicode := modes.inUnicode
  match c with
  | 'x' => advance; hexEscape 2
  | 'u' => advance; hexEscape 4
  | 'U' => advance; hexEscape 8
  | 'p' => advance; propertyEscape false
  | 'P' => advance; propertyEscape true
  | _ =>
    drop 1
    match CharSet.shorthand? inUnicode c, CharSet.shorthand? inUnicode c.toLower with
    | some set, _ => return .chars set
    | none, some set => return .chars (← wholeChars modes (complementIn modes set))
    | none, none =>
      if isEscapable c then return .char c false
      else
        match c, namedChar? c with
        | _, some named => return .char named false
        | 'A', _ => return .look .textStart
        | 'z', _ => return .look .textEnd
        | 'b', _ => boundaryEscape
        | 'B', _ => return .look (.boundary inUnicode true)
        | '<', _ => return .look (.wordStart inUnicode)
        | '>', _ => return .look (.wordEnd inUnicode)
        | _, _ => refuse

/-- The pattern of one character. -/
def charRegex (c : Char) (isByte : Bool) : Reader Regex := do
  let modes ← modes
  check (modes.inUnicode || !(isByte && 128 ≤ c.toNat))
  check (modes.inUnicode || !modes.ignoresCase || c.toNat < 128)
  return .chars
    (if modes.ignoresCase && modes.inUnicode then .ofCodes (Unicode.foldClass c.toNat)
      else foldIn modes (.single c))

/-! ## Classes -/

/-- What combines two sets of a class. -/
inductive SetOp where
  | intersection
  | difference
  | symmetricDifference

def SetOp.apply (op : SetOp) (a b : CharSet) : CharSet :=
  match op with
  | intersection => a.intersection b
  | difference => a.difference b
  | symmetricDifference => a.symmetricDifference b

/-- The part of a class that stands before an operator, and the operator. -/
abbrev Pending : Type :=
  Option (CharSet × SetOp)

/-- A class up to here, from the part before an operator and the items after it. -/
def combine (modes : Modes) (pending : Pending) (items : CharSet) : CharSet :=
  match pending with
  | some (before, op) => op.apply (foldIn modes before) (foldIn modes items)
  | none => items

/-- An item of a class. -/
def classItem : Reader Escape := do
  let c ← peek
  if c = '\\' then escape
  else
    drop 1
    pure (.char c false)

/-- The character of an item, as an end of a range. -/
def rangeEnd (modes : Modes) : Escape → Reader Char
  | .char c _ => do
    check (modes.inUnicode || c.toNat < 128)
    pure c
  | _ => refuse

/-- The set of an item. -/
def itemSet (modes : Modes) : Escape → Reader CharSet
  | .chars set => pure set
  | item => do
    let c ← rangeEnd modes item
    pure (.single c)

/-- The character after the next, blanks and comments passed over in the mode for
that. -/
def peekAfter : Reader (Option Char) := do
  let after := (← rest).drop 1
  return (if (← modes).spaced then dropSpace false after else after).head?

/-- An item, or a range between two. -/
def classRange : Reader CharSet := do
  let modes ← modes
  let first ← classItem
  skipSpace
  if (← peek) ≠ '-' || (← peekAfter) = some ']' || (← peekAfter) = some '-' then
    itemSet modes first
  else do
    advance
    let last ← classItem
    let first ← rangeEnd modes first
    let last ← rangeEnd modes last
    check (first.toNat ≤ last.toNat)
    pure (.ofRange first last)

/-- A class in brackets and colons, if one is next. -/
def namedClass? (modes : Modes) (text : List Char) : Option (CharSet × List Char) := do
  let inner ← match text with
    | '[' :: ':' :: inner => some inner
    | _ => none
  let (isNegated, inner) := match inner with
    | '^' :: inner => (true, inner)
    | inner => (false, inner)
  let (name, rest) ← cutAt? [':'] inner
  let rest ← match rest with
    | ']' :: rest => some rest
    | _ => none
  let set ← CharSet.bracketed? (String.ofList name)
  some (negateIf modes isNegated set, rest)

/-- The hyphens at the start of a class, which stand for themselves. -/
def leadingHyphens : Nat → Reader CharSet
  | 0 => refuse
  | fuel + 1 => do
    if (← peek) = '-' then
      advance
      let _ ← leadingHyphens fuel
      pure (.single '-')
    else pure .empty

/-- The start of a class: whether it is negated, and the hyphens and the bracket that
stand for themselves there. -/
def classOpening : Reader (Bool × CharSet) := do
  advance
  let isNegated := (← peek) = '^'
  if isNegated then advance
  let hyphens ← leadingHyphens ((← rest).length + 1)
  if hyphens.ranges.isEmpty && (← peek) = ']' then
    advance
    pure (isNegated, .single ']')
  else pure (isNegated, hyphens)

/-- The rest of a class, whose last part so far is `items`. -/
def classRest (isNegated : Bool) : Nat → Pending → CharSet → Reader CharSet
  | 0, _, _ => refuse
  | fuel + 1, pending, items => do
    skipSpace
    let modes ← modes
    let operator (op : SetOp) : Reader CharSet := do
      drop 2
      classRest isNegated fuel (some (combine modes pending items, op)) .empty
    if (← peek) = ']' then
      drop 1
      pure (negateIf modes isNegated (foldIn modes (combine modes pending items)))
    else if (← peek) = '[' then
      match namedClass? modes (← rest) with
      | some (set, rest) => do
        setRest rest
        classRest isNegated fuel pending (items.union set)
      | none => do
        let (isNegatedInside, start) ← classOpening
        let set ← classRest isNegatedInside fuel none start
        classRest isNegated fuel pending (items.union set)
    else if ← isAt "&&" then operator .intersection
    else if ← isAt "--" then operator .difference
    else if ← isAt "~~" then operator .symmetricDifference
    else do
      let set ← classRange
      classRest isNegated fuel pending (items.union set)

/-- A class in brackets. -/
def charClass : Reader Regex := do
  let fuel := (← rest).length + 1
  let (isNegated, start) ← classOpening
  let set ← classRest isNegated fuel none start
  return .chars (← wholeChars (← modes) set).normalize

/-! ## Repetitions -/

/-- The greatest count of rounds. -/
def countBound : Nat :=
  Nat.pow 2 32

/-- A count, with blanks around it; `none` if there is no digit. -/
def count? : Reader (Option Nat) := do
  setRest ((← rest).dropWhile Unicode.isBlank)
  let text := (← rest).takeWhile Char.isDigit
  setRest ((← rest).dropWhile Char.isDigit)
  setRest ((← rest).dropWhile Unicode.isBlank)
  if text.isEmpty then pure none
  else
    check (naturalOfDigits 10 text < countBound)
    pure (some (naturalOfDigits 10 text))

/-- The counts in braces. -/
def counts : Reader (Nat × Option Nat) := do
  advance
  let least ← require (← count?)
  if (← peek) = ',' then
    advance
    if (← peek) = '\x7d' then
      drop 1
      pure (least, none)
    else
      let most ← require (← count?)
      check (least ≤ most)
      check ((← peek) = '\x7d')
      drop 1
      pure (least, some most)
  else
    check ((← peek) = '\x7d')
    drop 1
    pure (least, some least)

/-- How often an item is repeated, if the next characters say so. -/
def bounds? : Reader (Option (Nat × Option Nat)) := do
  match ← rest with
  | '?' :: _ => drop 1; pure (some (0, some 1))
  | '*' :: _ => drop 1; pure (some (0, none))
  | '+' :: _ => drop 1; pure (some (1, none))
  | '\x7b' :: _ => do
    let bounds ← counts
    skipSpace
    pure (some bounds)
  | _ => pure none

/-- A repeated item.  A question mark after the counts turns the preference round. -/
def repeated (body : Regex) (bounds : Nat × Option Nat) : Reader Regex := do
  let isLazy ← accept "?"
  return .repetition body bounds.1 bounds.2 (isLazy == (← modes).swapsGreed)

/-! ## Groups -/

/-- One mode switched. -/
def switchMode (modes : Modes) (on : Bool) : Char → Option Modes
  | 'i' => some { modes with ignoresCase := on }
  | 'm' => some { modes with multiLine := on }
  | 's' => some { modes with dotTakesAll := on }
  | 'U' => some { modes with swapsGreed := on }
  | 'u' => some { modes with inUnicode := on }
  | 'R' => some { modes with crlf := on }
  | 'x' => some { modes with spaced := on }
  | _ => none

/-- The modes after letters that switch them, those after a hyphen off.  No letter
stands twice, and some letter stands after the hyphen. -/
def switchModes? : List Char → List Char → Bool → Modes → Option Modes
  | [], seen, isOff, modes => if isOff && seen.getLast? = some '-' then none else some modes
  | c :: rest, seen, isOff, modes =>
    if seen.contains c then none
    else if c = '-' then switchModes? rest (seen ++ [c]) true modes
    else do
      let modes ← switchMode modes (!isOff) c
      switchModes? rest (seen ++ [c]) isOff modes

/-- Whether a character may stand in the name of a group. -/
def isNameChar (isFirst : Bool) (c : Char) : Bool :=
  c = '_' || (if isFirst then CharSet.alphabetic.holds c
    else Unicode.isAlphanumeric c || c = '.' || c = '[' || c = ']')

/-- The name of a group, up to its closing bracket. -/
def groupName : Reader String := do
  let text := (← rest).takeWhile (· ≠ '>')
  setRest ((← rest).dropWhile (· ≠ '>'))
  check ((← peek) = '>')
  drop 1
  match text with
  | [] => refuse
  | first :: others => do
    check (isNameChar true first && others.all (isNameChar false))
    pure (String.ofList text)

/-- How a group starts. -/
inductive GroupStart where
  | captures (index : Nat)
  | plain
  | modesOnly

/-- Open a group that captures. -/
def openCapture (name : Option String) : Reader GroupStart := do
  let state ← get
  let index := state.groupCount + 1
  match name with
  | none => set { state with groupCount := index }
  | some name =>
    check (state.groupNames.lookup name).isNone
    set { state with groupCount := index, groupNames := state.groupNames ++ [(name, index)] }
  pure (.captures index)

/-- The start of a group, from its bracket on.  The modes that it sets are in force
afterwards. -/
def groupStart : Reader GroupStart := do
  advance
  if (← isAt "?=") || (← isAt "?!") || (← isAt "?<=") || (← isAt "?<!") then refuse
  else if ← accept "?P<" then openCapture (some (← groupName))
  else if ← accept "?<" then openCapture (some (← groupName))
  else if ← accept "?" then
    let letters := (← rest).takeWhile fun c => c ≠ ')' && c ≠ ':'
    setRest ((← rest).dropWhile fun c => c ≠ ')' && c ≠ ':')
    let stop ← peek
    drop 1
    check (stop = ':' || !letters.isEmpty)
    setModes (← require (switchModes? letters [] false (← modes)))
    return if stop = ':' then .plain else .modesOnly
  else openCapture none

/-! ## Items and alternatives -/

/-- An item that is not a group. -/
def single : Reader Regex := do
  let modes ← modes
  match ← peek with
  | '[' => charClass
  | '\\' =>
    match ← escape with
    | .char c isByte => charRegex c isByte
    | .chars set => pure (.chars set.normalize)
    | .look look => pure (.look look)
  | '.' =>
    check modes.inUnicode
    drop 1
    let stops : CharSet :=
      if modes.dotTakesAll then .empty
      else if modes.crlf then .ofCodes [0x0A, 0x0D]
      else .ofCodes [0x0A]
    return .chars (stops.complement CharSet.maxCode)
  | '^' => drop 1; return .look (if modes.multiLine then .lineStart modes.crlf else .textStart)
  | '$' => drop 1; return .look (if modes.multiLine then .lineEnd modes.crlf else .textEnd)
  | c => drop 1; charRegex c false

/-- The items of a sequence in one pattern. -/
def join : List Regex → Regex
  | [] => .empty
  | [item] => item
  | item :: rest => .sequence item (join rest)

mutual

/-- Alternatives up to the end of a group or of the pattern. -/
def alternatives : Nat → Reader Regex
  | 0 => refuse
  | fuel + 1 => do
    let first ← sequenceOf fuel [] none
    if ← accept "|" then
      let others ← alternatives fuel
      pure (.either first others)
    else pure first

/-- The items of a sequence after those read; `last` is the one that can still be
repeated. -/
def sequenceOf : Nat → List Regex → Option Regex → Reader Regex
  | 0, _, _ => refuse
  | fuel + 1, items, last => do
    skipSpace
    let all := items ++ last.toList
    match ← rest with
    | [] | '|' :: _ | ')' :: _ => pure (join all)
    | '(' :: _ => do
      let outside ← modes
      match ← groupStart with
      | .modesOnly => sequenceOf fuel all none
      | .plain => do
        let body ← alternatives fuel
        check (← accept ")")
        setModes outside
        sequenceOf fuel all (some body)
      | .captures index => do
        let body ← alternatives fuel
        check (← accept ")")
        setModes outside
        sequenceOf fuel all (some (.group index body))
    | _ => do
      match ← bounds? with
      | some bounds => do
        let body ← require last
        let item ← repeated body bounds
        sequenceOf fuel items (some item)
      | none => do
        let item ← single
        sequenceOf fuel all (some item)

end

end Reader

/-- The greatest size of a pattern. -/
def maxSize : Nat :=
  Nat.pow 2 18

/-- A pattern with its groups. -/
structure Compiled where
  regex : Regex
  groupCount : Nat
  groupNames : List (String × Nat)

/-- The pattern that a text writes, if it does. -/
def read? (text : String) : Option Compiled := do
  let chars := text.toList
  let start : ReaderState := ⟨chars, Modes.initial, 0, []⟩
  let (regex, state) ← (Reader.alternatives (3 * chars.length + 3)).run start
  if state.rest.isEmpty && regex.size ≤ maxSize then
    some ⟨regex, state.groupCount, state.groupNames⟩
  else none

end TemplateLang.Pattern
