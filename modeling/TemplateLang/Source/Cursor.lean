import TemplateLang.Source.Span

/-!
# Reading positions

A cursor is a place in a source text: the byte offset reached, the characters that
follow, and the offset at which they end.  Readers take a cursor and return a later
one.  The operations here only move forward, by as many bytes as the characters passed
take.
-/

namespace TemplateLang

/-- An offset in a source text and the text from there to its end. -/
structure Cursor where
  offset : Nat
  rest : List Char
  limit : Nat
  limit_eq : offset + byteLength rest = limit
deriving DecidableEq, Repr

namespace Cursor

/-- The start of a source text. -/
def ofSource (source : List Char) : Cursor :=
  ⟨0, source, byteLength source, Nat.zero_add _⟩

/-- The number of bytes that are left. -/
def room (cursor : Cursor) : Nat :=
  cursor.limit - cursor.offset

theorem room_eq (cursor : Cursor) : cursor.room = byteLength cursor.rest := by
  rw [room, ← cursor.limit_eq, Nat.add_sub_cancel_left]

/-- Move past the next `count` characters. -/
def skip (cursor : Cursor) (count : Nat) : Cursor :=
  ⟨cursor.offset + byteLength (cursor.rest.take count), cursor.rest.drop count, cursor.limit, by
    rw [Nat.add_assoc, ← byteLength_append, List.take_append_drop, cursor.limit_eq]⟩

/-- Move past the characters at the front that have a property. -/
def skipWhile (cursor : Cursor) (p : Char → Bool) : Cursor :=
  cursor.skip (cursor.rest.takeWhile p).length

/-- The span from a cursor to a later one. -/
def spanTo (start stop : Cursor) : Span :=
  Span.between start.offset stop.offset

/-- The span of the next character, empty at the end. -/
def nextSpan (cursor : Cursor) : Span :=
  cursor.spanTo (cursor.skip 1)

/-- Whether a text begins with another, nonempty one. -/
def startsWithMark (text mark : List Char) : Bool :=
  !mark.isEmpty && mark.isPrefixOf text

/-- Whether a text begins with a trim marker and then a nonempty mark. -/
def startsWithTrimmed (text mark : List Char) : Bool :=
  match text with
  | '-' :: rest => startsWithMark rest mark
  | _ => false

/-- Moving keeps the end of the text. -/
@[simp]
theorem limit_skip (cursor : Cursor) (count : Nat) : (cursor.skip count).limit = cursor.limit :=
  rfl

@[simp]
theorem limit_skipWhile (cursor : Cursor) (p : Char → Bool) :
    (cursor.skipWhile p).limit = cursor.limit :=
  limit_skip cursor _

@[simp]
theorem length_rest_skip (cursor : Cursor) (count : Nat) :
    (cursor.skip count).rest.length = cursor.rest.length - count := by
  simp [skip]

end Cursor

/-! ## Searching -/

/-- Cut a text before the first place where `mark` begins. -/
def cutBefore? (mark : List Char) : List Char → Option (List Char × List Char)
  | [] => if mark.isEmpty then some ([], []) else none
  | c :: rest =>
    if mark.isPrefixOf (c :: rest) then some ([], c :: rest)
    else (cutBefore? mark rest).map fun (before, after) => (c :: before, after)

/-- A cut loses nothing, and the second part begins with the mark. -/
theorem cutBefore?_eq_some {mark text before after : List Char}
    (cut : cutBefore? mark text = some (before, after)) :
    before ++ after = text ∧ mark.isPrefixOf after = true := by
  induction text generalizing before with
  | nil =>
    simp only [cutBefore?] at cut
    split at cut
    · rename_i empty
      simp only [List.isEmpty_iff] at empty
      simp_all
    · simp at cut
  | cons c rest ih =>
    simp only [cutBefore?] at cut
    split at cut
    · simp_all
    · simp only [Option.map_eq_some_iff] at cut
      obtain ⟨parts, found, same⟩ := cut
      obtain ⟨rfl, rfl⟩ := Prod.mk.inj same
      obtain ⟨rfl, starts⟩ := ih found
      exact ⟨rfl, starts⟩

end TemplateLang
