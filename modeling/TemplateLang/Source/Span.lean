/-!
# Spans and byte offsets

Source text is a list of characters, and places in it are byte offsets of its
UTF-8 encoding.  A `Span` is a half-open range of offsets whose ends are in
order by construction.  This module also holds the two cuts of a text at a byte
offset, from which the text of a span is made.
-/

namespace TemplateLang

/-! ## Byte lengths and cuts -/

/-- The number of UTF-8 bytes that a text takes. -/
def byteLength : List Char → Nat
  | [] => 0
  | c :: rest => c.utf8Size + byteLength rest

@[simp]
theorem byteLength_nil : byteLength [] = 0 :=
  rfl

@[simp]
theorem byteLength_cons (c : Char) (rest : List Char) :
    byteLength (c :: rest) = c.utf8Size + byteLength rest :=
  rfl

@[simp]
theorem byteLength_append (front back : List Char) :
    byteLength (front ++ back) = byteLength front + byteLength back := by
  induction front with
  | nil => simp
  | cons c front ih => simp [ih, Nat.add_assoc]

/-- A character takes at least one byte. -/
theorem length_le_byteLength (text : List Char) : text.length ≤ byteLength text := by
  induction text with
  | nil => simp
  | cons c rest ih =>
    have sizePositive := c.utf8Size_pos
    simp only [List.length_cons, byteLength_cons]
    omega

/-- The characters of a text that start before the byte offset `limit`. -/
def takeBytes : Nat → List Char → List Char
  | _, [] => []
  | limit, c :: rest =>
    if limit = 0 then [] else c :: takeBytes (limit - c.utf8Size) rest

/-- The characters of a text that start at or after the byte offset `limit`. -/
def dropBytes : Nat → List Char → List Char
  | _, [] => []
  | limit, c :: rest =>
    if limit = 0 then c :: rest else dropBytes (limit - c.utf8Size) rest

/-- The two cuts at one offset lose nothing. -/
theorem takeBytes_append_dropBytes (limit : Nat) (text : List Char) :
    takeBytes limit text ++ dropBytes limit text = text := by
  induction text generalizing limit with
  | nil => rfl
  | cons c rest ih =>
    by_cases h : limit = 0
    · simp [takeBytes, dropBytes, h]
    · simp [takeBytes, dropBytes, h, ih]

/-- The length of a text cuts that text off. -/
theorem takeBytes_append (front back : List Char) :
    takeBytes (byteLength front) (front ++ back) = front := by
  induction front with
  | nil => cases back <;> rfl
  | cons c front ih =>
    have sizePositive := c.utf8Size_pos
    rw [byteLength_cons, List.cons_append, takeBytes, if_neg (by omega),
      Nat.add_sub_cancel_left, ih]

theorem dropBytes_append (front back : List Char) :
    dropBytes (byteLength front) (front ++ back) = back := by
  induction front with
  | nil => cases back <;> rfl
  | cons c front ih =>
    have sizePositive := c.utf8Size_pos
    rw [byteLength_cons, List.cons_append, dropBytes, if_neg (by omega),
      Nat.add_sub_cancel_left, ih]

/-! ## Spans -/

/-- A half-open range of byte offsets. -/
structure Span where
  start : Nat
  stop : Nat
  start_le_stop : start ≤ stop
deriving DecidableEq, Repr

namespace Span

/-- The span from `start` to `stop`; one whose end lies before its start is
empty at its start. -/
def between (start stop : Nat) : Span :=
  ⟨start, max stop start, Nat.le_max_right stop start⟩

/-- The empty span at an offset. -/
def point (offset : Nat) : Span :=
  ⟨offset, offset, Nat.le_refl offset⟩

instance : Inhabited Span :=
  ⟨point 0⟩

/-- The number of bytes in a span. -/
def length (span : Span) : Nat :=
  span.stop - span.start

/-- A span is empty when it covers no byte. -/
def isEmpty (span : Span) : Bool :=
  span.start == span.stop

/-- The least span that covers both. -/
def union (a b : Span) : Span :=
  ⟨min a.start b.start, max a.stop b.stop, by
    have := a.start_le_stop
    omega⟩

/-- The span moved right by a number of bytes. -/
def shift (span : Span) (distance : Nat) : Span :=
  ⟨span.start + distance, span.stop + distance, by
    have := span.start_le_stop
    omega⟩

/-- One span lies within another. -/
def Within (inner outer : Span) : Prop :=
  outer.start ≤ inner.start ∧ inner.stop ≤ outer.stop

instance (inner outer : Span) : Decidable (inner.Within outer) :=
  inferInstanceAs (Decidable (_ ∧ _))

/-- A span in words: its two offsets with two dots between. -/
def describe (span : Span) : String :=
  s!"{span.start}..{span.stop}"

/-- The characters of `source` that start inside a span. -/
def textOf (source : List Char) (span : Span) : List Char :=
  takeBytes span.length (dropBytes span.start source)

end Span

end TemplateLang
