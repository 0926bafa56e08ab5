import TemplateLang.Proofs.Literal

/-!
# Spans on a source

An offset is a boundary of a source if the source can be cut there between two characters.
A span with boundaries at both ends can be cut out of the source.  Cursors stand at
boundaries, so that every span between two of them, and every span that is put together
from such spans, is on the source.
-/

namespace TemplateLang

/-- A source can be cut at an offset. -/
def Boundary (source : List Char) (offset : Nat) : Prop :=
  ∃ before after, source = before ++ after ∧ offset = byteLength before

theorem boundary_zero (source : List Char) : Boundary source 0 :=
  ⟨[], source, rfl, rfl⟩

theorem boundary_byteLength (source : List Char) : Boundary source (byteLength source) :=
  ⟨source, [], (List.append_nil source).symm, rfl⟩

theorem Boundary.le {source : List Char} {offset : Nat} (boundary : Boundary source offset) :
    offset ≤ byteLength source := by
  rcases boundary with ⟨before, after, rfl, rfl⟩
  rw [byteLength_append]
  exact Nat.le_add_right _ _

theorem Boundary.max {source : List Char} {first second : Nat} (left : Boundary source first)
    (right : Boundary source second) : Boundary source (max first second) := by
  rcases Nat.le_total first second with le | le
  · rwa [Nat.max_eq_right le]
  · rwa [Nat.max_eq_left le]

theorem Boundary.min {source : List Char} {first second : Nat} (left : Boundary source first)
    (right : Boundary source second) : Boundary source (min first second) := by
  rcases Nat.le_total first second with le | le
  · rwa [Nat.min_eq_left le]
  · rwa [Nat.min_eq_right le]

/-- Of two cuts the earlier one cuts the text before the later one. -/
theorem Boundary.between {source : List Char} {start stop : Nat} (first : Boundary source start)
    (second : Boundary source stop) (le : start ≤ stop) :
    ∃ before text after, source = before ++ text ++ after ∧ start = byteLength before ∧
      stop = byteLength (before ++ text) := by
  rcases first with ⟨before, after, split, rfl⟩
  rcases second with ⟨before', after', split', rfl⟩
  rcases List.append_eq_append_iff.mp (split.symm.trans split') with
    ⟨text, rfl, -⟩ | ⟨text, rfl, -⟩
  · exact ⟨before, text, after', split', rfl, rfl⟩
  · -- the cut that is not later takes as many bytes, and so is the same
    rw [byteLength_append] at le
    have empty : text = [] := byteLength_eq_zero_iff.mp (by omega)
    subst empty
    exact ⟨before', [], after', by simpa using split', by simp, by simp⟩

namespace Span

/-- Both ends of a span are boundaries of a source. -/
structure On (source : List Char) (span : Span) : Prop where
  start : Boundary source span.start
  stop : Boundary source span.stop

variable {source : List Char}

/-- A span is on a source exactly if it spells a text of it. -/
theorem on_iff_spells {span : Span} : span.On source ↔ ∃ text, span.Spells source text := by
  constructor
  · rintro ⟨start, stop⟩
    rcases start.between stop span.start_le_stop with ⟨before, text, after, split, starts, stops⟩
    exact ⟨text, before, after, split, starts, stops⟩
  · rintro ⟨text, before, after, split, starts, stops⟩
    constructor
    · exact ⟨before, text ++ after, by simpa using split, starts⟩
    · exact ⟨before ++ text, after, split, stops⟩

theorem on_between {start stop : Nat} (starts : Boundary source start)
    (stops : Boundary source stop) : (between start stop).On source :=
  ⟨starts, stops.max starts⟩

theorem On.union {first second : Span} (left : first.On source) (right : second.On source) :
    (first.union second).On source :=
  ⟨left.start.min right.start, left.stop.max right.stop⟩

theorem on_point_zero : (point 0).On source :=
  ⟨boundary_zero source, boundary_zero source⟩

end Span

namespace Cursor

variable {source : List Char} {cursor start stop : Cursor}

theorem In.boundary (inside : cursor.In source) : Boundary source cursor.offset := by
  rcases inside with ⟨before, split, offset⟩
  exact ⟨before, cursor.rest, split, offset⟩

theorem In.skip (inside : cursor.In source) (count : Nat) : (cursor.skip count).In source :=
  inside.reaches (reaches_skip cursor count)

theorem In.skipWhile (inside : cursor.In source) (p : Char → Bool) :
    (cursor.skipWhile p).In source :=
  inside.skip _

theorem In.spanTo (first : start.In source) (second : stop.In source) :
    (start.spanTo stop).On source :=
  Span.on_between first.boundary second.boundary

theorem In.nextSpan (inside : cursor.In source) : cursor.nextSpan.On source :=
  inside.spanTo (inside.skip 1)

end Cursor

/-! ## Scanners -/

namespace Scan

variable {α β : Type} {source : List Char}

/-- A scanner ends at a place of the source, and a fault that it finds is on the source. -/
def Stays (source : List Char) : Scan α → Prop
  | found _ next => next.In source
  | absent => True
  | broken _ span stop => span.On source ∧ stop.In source

theorem Stays.andThen {scan : Scan α} {later : α → Cursor → Scan β} (stays : scan.Stays source)
    (goesOn : ∀ value next, next.In source → (later value next).Stays source) :
    (scan.andThen later).Stays source := by
  cases scan with
  | found value next => exact goesOn value next stays
  | absent => trivial
  | broken _ _ _ => exact stays

theorem Stays.map {scan : Scan α} (stays : scan.Stays source) (f : α → β) :
    (scan.map f).Stays source :=
  stays.andThen fun _ _ inside => inside

theorem Stays.orElse {scan other : Scan α} (stays : scan.Stays source)
    (staysOther : other.Stays source) : (scan.orElse other).Stays source := by
  cases scan with
  | found _ _ => exact stays
  | absent => exact staysOther
  | broken _ _ _ => exact stays

end Scan

namespace Literal

open Scan

variable {source : List Char} {start cursor : Cursor}

theorem stays_comment (inside : cursor.In source) : (comment cursor).Stays source := by
  unfold comment
  split
  · dsimp only
    split
    · exact (inside.skip 2).skip _
    · exact ⟨inside.spanTo (inside.skip 2), inside⟩
  · trivial

theorem stays_unicodeEscape (started : start.In source) (inside : cursor.In source) :
    (unicodeEscape start cursor).Stays source := by
  have broken {stop : Cursor} (stops : stop.In source) (fault : Fault) :
      (Scan.broken fault (start.spanTo stop) stop : Scan Char).Stays source :=
    ⟨started.spanTo stops, stops⟩
  unfold unicodeEscape
  dsimp only
  split
  · split
    · exact broken ((inside.skip 1).skip _) _
    split
    · split
      · exact ((inside.skip 1).skip _).skip 1
      · exact broken (((inside.skip 1).skip _).skip 1) _
    · exact broken ((inside.skip 1).skip _) _
  · exact broken inside _

theorem stays_escape (inside : start.In source) : (escape start).Stays source := by
  have broken : (Scan.broken .invalidEscape (start.spanTo (start.skip 1)) (start.skip 1) :
      Scan (Option Char)).Stays source :=
    ⟨inside.spanTo (inside.skip 1), inside.skip 1⟩
  unfold escape
  dsimp only
  split
  · exact (stays_unicodeEscape inside ((inside.skip 1).skip 1)).map _
  · split
    · exact (inside.skip 1).skip 1
    split
    · exact (inside.skip 1).skipWhile _
    · exact broken
  · exact broken

theorem stays_stringBody {quote : Quote} (started : start.In source) (fuel : Nat)
    (inside : cursor.In source) : (stringBody quote start fuel cursor).Stays source := by
  have unterminated {cursor : Cursor} (inside : cursor.In source) :
      (Scan.broken (.unterminatedString quote) (start.spanTo cursor) cursor :
        Scan (List Char)).Stays source :=
    ⟨started.spanTo inside, inside⟩
  induction fuel generalizing cursor with
  | zero => exact unterminated inside
  | succ fuel ih =>
    unfold stringBody
    split
    · exact unterminated inside
    split
    · exact inside.skip 1
    split
    · apply (stays_escape inside).andThen
      intro meant next insideNext
      exact (ih insideNext).map _
    split
    · exact unterminated inside
    · exact (ih (inside.skip 1)).map _

theorem stays_string (inside : cursor.In source) : (string cursor).Stays source := by
  unfold string
  split
  · exact (stays_stringBody inside _ (inside.skip 1)).map _
  · trivial

theorem stays_radixDigits (started : start.In source) (inside : cursor.In source) (base : Nat)
    (name : String) : (radixDigits start cursor base name).Stays source := by
  unfold radixDigits
  dsimp only
  split
  · exact ⟨started.spanTo (inside.skip _), inside.skip _⟩
  · exact inside.skip _

theorem stays_exponent (started : start.In source) (inside : cursor.In source) :
    (exponent start cursor).Stays source := by
  have digits := inside.reaches (reaches_afterSign cursor)
  unfold exponent
  dsimp only
  rw [← afterSign]
  split
  · exact ⟨started.spanTo (digits.skip _), digits.skip _⟩
  · exact digits.skip _

theorem stays_decimal (inside : start.In source) : (decimal start).Stays source := by
  rw [decimal_eq]
  dsimp only
  apply Stays.map
  have fraction := (inside.skip (decimalDigits start).length).reaches (reaches_fractionPart _)
  unfold exponentPart
  split
  · exact stays_exponent inside (fraction.skip 1)
  · exact stays_exponent inside (fraction.skip 1)
  · exact fraction

theorem stays_number (inside : cursor.In source) : (number cursor).Stays source := by
  unfold number
  dsimp only
  split
  · exact stays_radixDigits inside (inside.skip 2) _ _
  split
  · exact stays_decimal inside
  · trivial

end Literal

end TemplateLang
