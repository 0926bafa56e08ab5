import TemplateLang.Syntax.Word

/-!
# Places in one text

A reader moves a cursor forward and never changes the text.  `Reaches` says that one
cursor lies at or after another in the same text, and `In` that a cursor is a place
of a given source.  The span between two such places spells what was passed on the way
from the one to the other.
-/

namespace TemplateLang

/-- Only the empty text takes no byte. -/
theorem byteLength_eq_zero_iff {text : List Char} : byteLength text = 0 ↔ text = [] := by
  constructor
  · intro empty
    have short := length_le_byteLength text
    exact List.length_eq_zero_iff.mp (by omega)
  · rintro rfl
    rfl

namespace Cursor

/-! ## Moving -/

@[ext]
theorem ext {first second : Cursor} (offsetEq : first.offset = second.offset)
    (restEq : first.rest = second.rest) (limitEq : first.limit = second.limit) :
    first = second := by
  cases first
  cases second
  simp_all

@[simp]
theorem rest_skip (cursor : Cursor) (count : Nat) :
    (cursor.skip count).rest = cursor.rest.drop count :=
  rfl

@[simp]
theorem offset_skip (cursor : Cursor) (count : Nat) :
    (cursor.skip count).offset = cursor.offset + byteLength (cursor.rest.take count) :=
  rfl

@[simp]
theorem skip_zero (cursor : Cursor) : cursor.skip 0 = cursor := by
  ext <;> simp

@[simp]
theorem skip_skip (cursor : Cursor) (first second : Nat) :
    (cursor.skip first).skip second = cursor.skip (first + second) := by
  apply ext
  · simp [List.take_add, Nat.add_assoc]
  · simp [List.drop_drop]
  · rfl

/-- One cursor lies at or after another in the same text. -/
def Reaches (start stop : Cursor) : Prop :=
  ∃ count, start.skip count = stop

theorem Reaches.refl (cursor : Cursor) : cursor.Reaches cursor :=
  ⟨0, skip_zero cursor⟩

theorem Reaches.trans {start middle stop : Cursor} (first : start.Reaches middle)
    (second : middle.Reaches stop) : start.Reaches stop := by
  obtain ⟨m, rfl⟩ := first
  obtain ⟨n, rfl⟩ := second
  exact ⟨m + n, (skip_skip start m n).symm⟩

theorem reaches_skip (cursor : Cursor) (count : Nat) : cursor.Reaches (cursor.skip count) :=
  ⟨count, rfl⟩

theorem reaches_skipBlanks (cursor : Cursor) : cursor.Reaches cursor.skipBlanks :=
  reaches_skip cursor _

theorem reaches_skipWord (cursor : Cursor) : cursor.Reaches cursor.skipWord :=
  reaches_skip cursor _

/-- The text passed on the way to a later place. -/
theorem Reaches.exists_passed {start stop : Cursor} (reaches : start.Reaches stop) :
    ∃ passed, start.rest = passed ++ stop.rest ∧
      stop.offset = start.offset + byteLength passed := by
  obtain ⟨count, rfl⟩ := reaches
  exact ⟨start.rest.take count, (List.take_append_drop count start.rest).symm, rfl⟩

theorem Reaches.offset_le {start stop : Cursor} (reaches : start.Reaches stop) :
    start.offset ≤ stop.offset := by
  obtain ⟨passed, _, offsetEq⟩ := reaches.exists_passed
  omega

theorem Reaches.limit_eq {start stop : Cursor} (reaches : start.Reaches stop) :
    stop.limit = start.limit := by
  obtain ⟨count, rfl⟩ := reaches
  rfl

/-- A text that is passed leaves less room. -/
theorem Reaches.room_le {start stop : Cursor} (reaches : start.Reaches stop) :
    stop.room ≤ start.room := by
  have offsets := reaches.offset_le
  have limits := reaches.limit_eq
  simp only [room]
  omega

/-- Passing a character leaves less room. -/
theorem room_skip_lt {cursor : Cursor} {count : Nat} (notDone : cursor.rest ≠ [])
    (positive : 0 < count) : (cursor.skip count).room < cursor.room := by
  rw [room_eq, room_eq, rest_skip]
  have parts := byteLength_append (cursor.rest.take count) (cursor.rest.drop count)
  rw [List.take_append_drop] at parts
  have passed : byteLength (cursor.rest.take count) ≠ 0 := by
    rw [Ne, byteLength_eq_zero_iff, List.take_eq_nil_iff]
    rintro (none | none)
    · omega
    · exact notDone none
  omega

/-- One cursor lies after another in the same text, at least one character on. -/
def Passes (start stop : Cursor) : Prop :=
  start.rest ≠ [] ∧ (start.skip 1).Reaches stop

theorem Passes.reaches {start stop : Cursor} (passes : start.Passes stop) :
    start.Reaches stop :=
  (start.reaches_skip 1).trans passes.2

theorem Passes.trans_reaches {start middle stop : Cursor} (passes : start.Passes middle)
    (reaches : middle.Reaches stop) : start.Passes stop :=
  ⟨passes.1, passes.2.trans reaches⟩

theorem passes_skip {cursor : Cursor} {count : Nat} (notDone : cursor.rest ≠ [])
    (positive : 0 < count) : cursor.Passes (cursor.skip count) := by
  refine ⟨notDone, count - 1, ?_⟩
  rw [skip_skip, Nat.add_sub_cancel' positive]

theorem word_ne_nil {cursor : Cursor} {word : String} (atWord : cursor.peekWord? = some word) :
    cursor.word ≠ [] := by
  intro none
  simp [peekWord?, none] at atWord

theorem passes_skipWord {cursor : Cursor} {word : String}
    (atWord : cursor.peekWord? = some word) : cursor.Passes cursor.skipWord := by
  have someWord := word_ne_nil atWord
  refine passes_skip ?_ (List.length_pos_iff.mpr someWord)
  intro atEnd
  simp [Cursor.word, atEnd] at someWord

theorem Passes.room_lt {start stop : Cursor} (passes : start.Passes stop) :
    stop.room < start.room :=
  Nat.lt_of_le_of_lt passes.2.room_le (room_skip_lt passes.1 Nat.one_pos)

theorem Reaches.length_rest_le {start stop : Cursor} (reaches : start.Reaches stop) :
    stop.rest.length ≤ start.rest.length := by
  obtain ⟨count, rfl⟩ := reaches
  simp

theorem Passes.length_rest_lt {start stop : Cursor} (passes : start.Passes stop) :
    stop.rest.length < start.rest.length := by
  have shorter := passes.2.length_rest_le
  have notDone := List.length_pos_iff.mpr passes.1
  rw [length_rest_skip] at shorter
  omega

theorem Reaches.trans_passes {start middle stop : Cursor} (reaches : start.Reaches middle)
    (passes : middle.Passes stop) : start.Passes stop := by
  obtain ⟨count, rfl⟩ := reaches
  obtain ⟨notDone, more, rfl⟩ := passes
  refine ⟨?_, count + more, ?_⟩
  · rintro none
    simp [none] at notDone
  · simp only [skip_skip]
    congr 1
    omega

/-! ## Looking ahead -/

/-- A text that a cursor is at is the beginning of what follows. -/
theorem isAt_iff {cursor : Cursor} {text : List Char} :
    cursor.isAt text = true ↔ text <+: cursor.rest := by
  simp [isAt]

theorem isAt_singleton_iff {cursor : Cursor} {c : Char} :
    cursor.isAt [c] = true ↔ ∃ rest, cursor.rest = c :: rest := by
  rw [isAt_iff]
  constructor
  · rintro ⟨rest, same⟩
    exact ⟨rest, by simpa using same.symm⟩
  · rintro ⟨rest, same⟩
    exact ⟨rest, by simp [same]⟩

theorem rest_ne_nil_of_isAt {cursor : Cursor} {c : Char} (isAt : cursor.isAt [c] = true) :
    cursor.rest ≠ [] := by
  obtain ⟨rest, same⟩ := isAt_singleton_iff.mp isAt
  simp [same]

/-- A place is at one character only. -/
theorem isAt_ne {cursor : Cursor} {c d : Char} (isAt : cursor.isAt [c] = true) (differ : c ≠ d) :
    cursor.isAt [d] = false := by
  obtain ⟨rest, starts⟩ := isAt_singleton_iff.mp isAt
  rw [Bool.eq_false_iff]
  intro isAt'
  obtain ⟨rest', starts'⟩ := isAt_singleton_iff.mp isAt'
  rw [starts] at starts'
  exact differ (List.cons.inj starts').1

/-- A mark at the front of a text is not empty. -/
theorem startsWithMark_iff {text mark : List Char} :
    startsWithMark text mark = true ↔ mark ≠ [] ∧ mark <+: text := by
  simp [startsWithMark]

theorem startsWithTrimmed_iff {text mark : List Char} :
    startsWithTrimmed text mark = true ↔
      ∃ rest, text = '-' :: rest ∧ mark ≠ [] ∧ mark <+: rest := by
  unfold startsWithTrimmed
  split
  · simp [startsWithMark_iff]
  · rename_i notMinus
    simp only [Bool.false_eq_true, false_iff]
    rintro ⟨rest, same, -⟩
    exact notMinus rest same

/-! ## Places of a source -/

/-- A cursor is a place of a source text. -/
def In (source : List Char) (cursor : Cursor) : Prop :=
  ∃ before, source = before ++ cursor.rest ∧ cursor.offset = byteLength before

theorem ofSource_in (source : List Char) : (ofSource source).In source :=
  ⟨[], rfl, rfl⟩

theorem In.reaches {source : List Char} {start stop : Cursor} (inside : start.In source)
    (reaches : start.Reaches stop) : stop.In source := by
  obtain ⟨before, sourceEq, offsetEq⟩ := inside
  obtain ⟨passed, restEq, stopEq⟩ := reaches.exists_passed
  exact ⟨before ++ passed, by simp [sourceEq, restEq], by simp [stopEq, offsetEq]⟩

theorem In.offset_eq_of_rest_eq_nil {source : List Char} {cursor : Cursor}
    (inside : cursor.In source) (atEnd : cursor.rest = []) :
    cursor.offset = byteLength source := by
  obtain ⟨before, sourceEq, offsetEq⟩ := inside
  simp [sourceEq, offsetEq, atEnd]

@[simp]
theorem start_spanTo (start stop : Cursor) : (start.spanTo stop).start = start.offset :=
  rfl

theorem stop_spanTo {start stop : Cursor} (reaches : start.Reaches stop) :
    (start.spanTo stop).stop = stop.offset :=
  Nat.max_eq_left reaches.offset_le

end Cursor

/-- A text stands in a source at exactly a span. -/
def Span.Spells (source : List Char) (span : Span) (text : List Char) : Prop :=
  ∃ before after, source = before ++ text ++ after ∧ span.start = byteLength before ∧
    span.stop = byteLength (before ++ text)

namespace Cursor

/-- The span between two places spells what was passed. -/
theorem In.spells {source : List Char} {start stop : Cursor} (inside : start.In source)
    {passed : List Char} (restEq : start.rest = passed ++ stop.rest)
    (reaches : start.Reaches stop) : (start.spanTo stop).Spells source passed := by
  obtain ⟨before, sourceEq, offsetEq⟩ := inside
  obtain ⟨text, textEq, stopEq⟩ := reaches.exists_passed
  obtain rfl : passed = text := List.append_cancel_right (restEq.symm.trans textEq)
  refine ⟨before, stop.rest, ?_, offsetEq, ?_⟩
  · rw [sourceEq, restEq, List.append_assoc]
  · rw [stop_spanTo reaches, stopEq, offsetEq, byteLength_append]

theorem In.spells_skip {source : List Char} {cursor : Cursor} (inside : cursor.In source)
    {passed after : List Char} (restEq : cursor.rest = passed ++ after) :
    (cursor.spanTo (cursor.skip passed.length)).Spells source passed := by
  refine inside.spells ?_ (reaches_skip cursor _)
  rw [rest_skip, restEq, List.drop_left]

end Cursor

/-! ## Searching -/

/-- A text is cut before the first place where the mark begins. -/
theorem cutBefore?_eq_some_iff {mark text before after : List Char} :
    cutBefore? mark text = some (before, after) ↔
      before ++ after = text ∧ mark <+: after ∧
        ∀ front back, before = front ++ back → back ≠ [] → ¬ mark <+: back ++ after := by
  induction text generalizing before with
  | nil =>
    simp only [cutBefore?]
    by_cases empty : mark = []
    · subst empty
      constructor
      · intro cut
        simp only [List.isEmpty_nil, if_true, Option.some.injEq, Prod.mk.injEq] at cut
        obtain ⟨rfl, rfl⟩ := cut
        exact ⟨rfl, List.nil_prefix, by simp⟩
      · rintro ⟨parts, -, -⟩
        obtain ⟨rfl, rfl⟩ := List.append_eq_nil_iff.mp parts
        rfl
    · simp only [List.isEmpty_iff, empty, if_false, reduceCtorEq, false_iff]
      rintro ⟨parts, starts, -⟩
      obtain ⟨-, rfl⟩ := List.append_eq_nil_iff.mp parts
      exact empty (List.prefix_nil.mp starts)
  | cons c rest ih =>
    simp only [cutBefore?, List.isPrefixOf_iff_prefix]
    by_cases here : mark <+: c :: rest
    · simp only [here, if_true, Option.some.injEq, Prod.mk.injEq]
      constructor
      · rintro ⟨rfl, rfl⟩
        exact ⟨rfl, here, by simp⟩
      · rintro ⟨parts, -, first⟩
        cases before with
        | nil => exact ⟨rfl, parts.symm⟩
        | cons d before =>
          refine absurd here ?_
          rw [← parts]
          exact first [] (d :: before) rfl (by simp)
    · simp only [here, if_false, Option.map_eq_some_iff, Prod.mk.injEq]
      constructor
      · rintro ⟨⟨before', after'⟩, found, rfl, rfl⟩
        obtain ⟨rfl, starts, first⟩ := ih.mp found
        refine ⟨rfl, starts, ?_⟩
        intro front back split notEmpty starts'
        cases front with
        | nil =>
          obtain rfl : c :: before' = back := by simpa using split
          exact here starts'
        | cons d front =>
          simp only [List.cons_append, List.cons.injEq] at split
          exact first front back split.2 notEmpty starts'
      · rintro ⟨parts, starts, first⟩
        cases before with
        | nil =>
          simp only [List.nil_append] at parts
          exact absurd (parts ▸ starts) here
        | cons d before =>
          simp only [List.cons_append, List.cons.injEq] at parts
          obtain ⟨rfl, rfl⟩ := parts
          refine ⟨(before, after), ih.mpr ⟨rfl, starts, ?_⟩, rfl, rfl⟩
          intro front back split notEmpty
          exact first (d :: front) back (by simp [split]) notEmpty

/-- No cut is found in a text without the mark. -/
theorem not_infix_of_cutBefore?_eq_none {mark text : List Char}
    (none : cutBefore? mark text = none) : ¬ mark <:+: text := by
  rintro ⟨front, back, split⟩
  induction text generalizing front with
  | nil =>
    simp only [List.append_eq_nil_iff] at split
    obtain ⟨⟨-, rfl⟩, -⟩ := split
    simp [cutBefore?] at none
  | cons c rest ih =>
    simp only [cutBefore?, List.isPrefixOf_iff_prefix] at none
    by_cases here : mark <+: c :: rest
    · simp [here] at none
    · simp only [here, if_false, Option.map_eq_none_iff] at none
      cases front with
      | nil => exact here ⟨back, by simpa using split⟩
      | cons d front =>
        simp only [List.cons_append, List.cons.injEq] at split
        exact ih none front split.2

/-- What stands before a cut is free of the mark. -/
theorem not_infix_of_cutBefore?_eq_some {mark text before after : List Char}
    (notEmpty : mark ≠ []) (cut : cutBefore? mark text = some (before, after)) :
    ¬ mark <:+: before := by
  rintro ⟨front, back, split⟩
  obtain ⟨-, -, first⟩ := cutBefore?_eq_some_iff.mp cut
  refine first front (mark ++ back) (by simp [← split]) (by simp [notEmpty]) ?_
  exact ⟨back ++ after, by simp⟩

end TemplateLang
