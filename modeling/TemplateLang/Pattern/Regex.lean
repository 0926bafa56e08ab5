import TemplateLang.Pattern.Property

/-!
# Patterns

The syntax tree of a pattern.  Letter case, line ends and the other modes are worked
into the tree when it is read, so that a tree means the same wherever it stands.
-/

namespace TemplateLang.Pattern

/-- What a pattern can ask of a place between characters.  A `crlf` line ends at a
carriage return, a line feed, or both together. -/
inductive Look where
  | textStart
  | textEnd
  | lineStart (crlf : Bool)
  | lineEnd (crlf : Bool)
  | boundary (inUnicode negated : Bool)
  | wordStart (inUnicode : Bool)
  | wordEnd (inUnicode : Bool)
  | notAfterWord (inUnicode : Bool)
  | notBeforeWord (inUnicode : Bool)
deriving DecidableEq, Repr

/-- Whether a place between two characters is as asked. -/
def Look.holds (look : Look) (before after : Option Char) : Bool :=
  let inWord (inUnicode : Bool) (c : Option Char) : Bool :=
    (c.map (CharSet.isWordChar inUnicode)).getD false
  match look with
  | textStart => before.isNone
  | textEnd => after.isNone
  | lineStart false => before.isNone || before = some '\n'
  | lineEnd false => after.isNone || after = some '\n'
  | lineStart true =>
    before.isNone || before = some '\n' || (before = some '\r' && after ≠ some '\n')
  | lineEnd true =>
    after.isNone || after = some '\r' || (after = some '\n' && before ≠ some '\r')
  | boundary inUnicode negated =>
    (inWord inUnicode before != inWord inUnicode after) != negated
  | wordStart inUnicode => !inWord inUnicode before && inWord inUnicode after
  | wordEnd inUnicode => inWord inUnicode before && !inWord inUnicode after
  | notAfterWord inUnicode => !inWord inUnicode before
  | notBeforeWord inUnicode => !inWord inUnicode after

/-- A pattern.  Of two alternatives the first is preferred, and a repetition prefers
more rounds if it is greedy. -/
inductive Regex where
  | empty
  | chars (set : CharSet)
  | look (look : Look)
  | sequence (first second : Regex)
  | either (first second : Regex)
  | repetition (body : Regex) (least : Nat) (most : Option Nat) (greedy : Bool)
  | group (index : Nat) (body : Regex)
deriving Repr

namespace Regex

/-- Whether a pattern matches the empty text somewhere. -/
def isNullable : Regex → Bool
  | empty | look _ => true
  | chars _ => false
  | sequence first second => first.isNullable && second.isNullable
  | either first second => first.isNullable || second.isNullable
  | repetition body least _ _ => least = 0 || body.isNullable
  | group _ body => body.isNullable

/-- A bound on the number of instructions for a pattern. -/
def size : Regex → Nat
  | empty => 1
  | chars _ | look _ => 1
  | sequence first second => first.size + second.size
  | either first second => first.size + second.size + 1
  | repetition body least none _ => (max least 1) * body.size + 2
  | repetition body _ (some most) _ => most * (body.size + 1) + 1
  | group _ body => body.size + 2

end Regex

end TemplateLang.Pattern
