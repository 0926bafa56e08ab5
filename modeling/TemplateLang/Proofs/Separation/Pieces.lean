import TemplateLang.Proofs.Coverage.Progress
import TemplateLang.Proofs.Separation.Tag

/-!
# Texts of their own

A text that a reader of the grammar reads to its end is read as the same tree, moved, where it
stands in a longer one and a separator comes after it.  So a text that is put together from
such texts has a tree that is put together from theirs.
-/

namespace TemplateLang

/-! ## Comments of moved trees -/

theorem Note.around_shift (distance : Nat) (note : Note) (comments : List Comment) :
    (note.shift distance).around (comments.map (·.shift distance)) =
      (note.around comments).map (·.shift distance) := by
  simp [Note.around, Note.shift]

mutual

/-- The comments of a moved expression are moved. -/
theorem Expr.comments_shift (distance : Nat) :
    ∀ expr : Expr, (expr.shift distance).comments = expr.comments.map (·.shift distance)
  | .null _ | .undefined _ | .boolean _ _ | .number _ _ | .text _ _ _ | .identifier _ _ => by
    rw [Expr.shift, Expr.comments, Expr.comments, ← Note.around_shift, List.map_nil]
  | .array items _ => by
    rw [Expr.shift, Expr.comments, Expr.comments, exprComments_shiftAll distance items,
      Note.around_shift]
  | .field object _ _ _ => by
    rw [Expr.shift, Expr.comments, Expr.comments, Expr.comments_shift distance object,
      Note.around_shift]
  | .item object key _ => by
    rw [Expr.shift, Expr.comments, Expr.comments, Expr.comments_shift distance object,
      Expr.comments_shift distance key, ← List.map_append, Note.around_shift]
  | .call callee (piped :: extra) true _ => by
    rw [Expr.shift, shiftAll, Expr.comments, Expr.comments, Expr.comments_shift distance callee,
      Expr.comments_shift distance piped, exprComments_shiftAll distance extra,
      ← List.map_append, ← List.map_append, Note.around_shift]
  | .call callee [] true _ => by
    rw [Expr.shift, shiftAll, Expr.comments, Expr.comments, Expr.comments_shift distance callee,
      ← Note.around_shift, List.map_append]
    · rfl
    all_goals simp
  | .call callee arguments false _ => by
    rw [Expr.shift, Expr.comments, Expr.comments, Expr.comments_shift distance callee,
      exprComments_shiftAll distance arguments, ← List.map_append, Note.around_shift]
    all_goals simp
  | .unary _ argument _ | .update _ _ argument _ => by
    rw [Expr.shift, Expr.comments, Expr.comments, Expr.comments_shift distance argument,
      Note.around_shift]
  | .binary _ left right _ | .logical _ left right _ => by
    rw [Expr.shift, Expr.comments, Expr.comments, Expr.comments_shift distance left,
      Expr.comments_shift distance right, ← List.map_append, Note.around_shift]
  | .conditional test consequent alternate _ => by
    rw [Expr.shift, Expr.comments, Expr.comments, Expr.comments_shift distance test,
      Expr.comments_shift distance consequent, Expr.comments_shift distance alternate,
      ← List.map_append, ← List.map_append, Note.around_shift]
  | .paren inner _ => by
    rw [Expr.shift, Expr.comments, Expr.comments, Expr.comments_shift distance inner,
      Note.around_shift]

theorem exprComments_shiftAll (distance : Nat) :
    ∀ exprs : List Expr,
      exprComments (shiftAll distance exprs) = (exprComments exprs).map (·.shift distance)
  | [] => rfl
  | first :: rest => by
    rw [shiftAll, exprComments, exprComments, Expr.comments_shift distance first,
      exprComments_shiftAll distance rest, List.map_append]

end

/-- Moving adds no comments. -/
theorem Expr.comments_shift_of_nil {expr : Expr} (noComments : expr.comments = [])
    (distance : Nat) : (expr.shift distance).comments = [] := by
  rw [Expr.comments_shift, noComments, List.map_nil]

/-! ## Stretches -/

namespace Cursor

variable {cursor stop : Cursor} {text : List Char}

theorem Crosses.offset_eq (crosses : cursor.Crosses text stop) :
    stop.offset = cursor.offset + byteLength text := by
  rcases crosses with ⟨restEq, stopEq⟩
  rw [stopEq, offset_skip, restEq, List.take_left]

/-- A text is crossed by one character. -/
theorem Crosses.isAt {c : Char} (crosses : cursor.Crosses [c] stop) :
    cursor.isAt [c] = true ∧ cursor.skip 1 = stop :=
  ⟨isAt_iff.mpr ⟨_, crosses.1.symm⟩, crosses.2.symm⟩

/-- A stretch of a text is a text of its own in a longer one.  Of what comes before it only the
length matters. -/
theorem Crosses.exists_around (crosses : cursor.Crosses text stop) :
    ∃ around : Around, around.distance = cursor.offset ∧ around.after = stop.rest ∧
      (ofSource text).inside around = cursor ∧
      ∀ next, (ofSource text).Reaches next → next.rest = [] → next.inside around = stop := by
  have filled : byteLength (List.replicate cursor.offset ' ') = cursor.offset :=
    byteLength_replicate (by decide) _
  have lengthEq : byteLength cursor.rest = byteLength text + byteLength stop.rest := by
    rw [crosses.1, byteLength_append]
  refine ⟨⟨List.replicate cursor.offset ' ', stop.rest⟩, filled, rfl, ext ?_ crosses.1.symm ?_, ?_⟩
  · change 0 + byteLength _ = _
    rw [filled, Nat.zero_add]
  · change byteLength text + byteLength _ + byteLength stop.rest = _
    rw [filled, ← cursor.limit_eq]
    omega
  · intro next reaches atEnd
    have offsetEq := ((ofSource_in text).reaches reaches).offset_eq_of_rest_eq_nil atEnd
    have limitEq : next.limit = byteLength text := reaches.limit_eq
    refine ext ?_ ?_ ?_
    · change next.offset + byteLength _ = _
      rw [filled, offsetEq, crosses.offset_eq, Nat.add_comm]
    · change next.rest ++ stop.rest = _
      rw [atEnd, List.nil_append]
    · change next.limit + byteLength _ + byteLength stop.rest = _
      rw [filled, limitEq, ← stop.limit_eq, crosses.offset_eq]
      omega

/-- A text is not gone on with where it ends, or where a separator other than an opening
parenthesis comes after it. -/
def Breaks (cursor : Cursor) : Prop :=
  ∀ c rest, cursor.rest = c :: rest → isSeparator c = true ∧ c ≠ '('

theorem Breaks.separates (breaks : stop.Breaks) : Separates stop.rest :=
  fun c rest starts => (breaks c rest starts).1

theorem breaks_of_nil (atEnd : stop.rest = []) : stop.Breaks := by
  intro c rest starts
  rw [atEnd] at starts
  simp at starts

theorem breaks_of_char {c : Char} {rest : List Char} (starts : stop.rest = c :: rest)
    (isSep : isSeparator c = true) (noParen : c ≠ '(') : stop.Breaks := by
  intro d rest' same
  rcases List.cons.inj (starts.symm.trans same) with ⟨rfl, -⟩
  exact ⟨isSep, noParen⟩

theorem Breaks.not_isAt (breaks : stop.Breaks) {c : Char}
    (other : isSeparator c = false ∨ c = '(') : stop.isAt [c] = false := by
  rw [Bool.eq_false_iff]
  intro isAt
  rcases isAt_singleton_iff.mp isAt with ⟨rest, restEq⟩
  rcases breaks c rest restEq with ⟨isSep, noParen⟩
  rcases other with solid | paren
  · rw [isSep] at solid
    exact Bool.noConfusion solid
  · exact noParen paren

end Cursor

/-! ## Parts where they stand -/

namespace Grammar

open Cursor

variable {setting : Setting} {goal : Goal} {cursor stop next : Cursor} {text : List Char}

/-- An expression without comments is derived from behind the blanks before it, where an operand
begins. -/
theorem Derives.behind_blanks (derived : Derives setting goal cursor next)
    (standard : setting.tags = Delimiters.standard) (takes : goal.takesLevel = true)
    (noComments : goal.comments = []) :
    cursor.skipBlanks.Settled ∧ StartsOperand setting cursor.skipBlanks.rest ∧
      Derives setting goal cursor.skipBlanks next := by
  rcases derived.leading standard takes with ⟨leading, start, before, first, settled⟩
  have noLeading : leading = [] := List.prefix_nil.mp (noComments ▸ first)
  rcases noLeading with rfl
  rcases trivia_eq_ok.mp before with ⟨between, here⟩
  rcases between.eq_skipBlanks here with rfl
  refine ⟨here, ?_, settled rfl⟩
  have begins := (settled rfl).begins
  have starts : ∃ comments start, trivia cursor.skipBlanks = .ok (comments, start) ∧
      StartsOperand setting start.rest := by
    cases goal <;> first | exact begins | simp [Goal.takesLevel] at takes
  rcases starts with ⟨_, _, before, starts⟩
  rcases trivia_of_settled here before with rfl
  exact starts

theorem unbarred_of_nil {after : List Char} (atEnd : text = []) : Unbarred text after := by
  intro bar
  rw [atEnd] at bar
  simp at bar

/-- What is derived for a text of its own is derived where the text stands, with the blanks
after it. -/
theorem Derives.placed (derived : Derives setting goal (ofSource text) next)
    (atEnd : next.rest = []) (standard : setting.tags = Delimiters.standard)
    (takes : goal.takesLevel = true) (crosses : cursor.Crosses text stop) (breaks : stop.Breaks)
    (settled : stop.skipBlanks.Settled)
    (ends : ∀ around : Around, EndsOperand around next → next.beyond around = stop.skipBlanks →
      goal.Ends around setting next) :
    Derives setting (goal.shift cursor.offset) cursor stop.skipBlanks := by
  rcases crosses.exists_around with ⟨around, distanceEq, afterEq, startEq, same⟩
  have stopEq := same next derived.reaches atEnd
  have beyondEq : next.beyond around = stop.skipBlanks := by
    rw [beyond, if_pos atEnd, stopEq]
  have endsOperand : EndsOperand around next := by
    refine ⟨fun c isIn => ?_, fun c isIn => ?_, beyondEq ▸ settled⟩
    all_goals
      rw [stopEq]
      apply breaks.not_isAt
      simp only [List.mem_cons, List.not_mem_nil, or_false] at isIn
    · rcases isIn with rfl | rfl | rfl <;> simp [isSeparator, Unicode.isBlank]
    · rcases isIn with rfl | rfl <;> simp [isSeparator, Unicode.isBlank]
  have veils := (afterEq ▸ breaks.separates : Separates around.after).veils
  have carried := derived.kept veils standard (unbarred_of_nil atEnd)
    fun _ => ends around endsOperand beyondEq
  rw [← distanceEq, ← startEq, ← beyondEq]
  cases goal <;> first | exact carried | simp [Goal.takesLevel] at takes

/-- A text that a reader of the grammar reads to its end, as an expression without comments. -/
def ReadsAlone (read : Inner → Setting → Cursor → Reading (Expr × Cursor)) (text : List Char)
    (expr : Expr) : Prop :=
  expr.comments = [] ∧ ∃ stop,
    read (innerOf ((ofSource text).room + 1)) (Setting.initial Delimiters.standard)
      (ofSource text) = .ok (expr, stop) ∧ stop.rest = []

variable {expr : Expr}

/-- An argument of its own is derived where it stands, with the blanks after it. -/
theorem ReadsAlone.unary_placed (alone : ReadsAlone unary text expr)
    (crosses : cursor.Crosses text stop) (breaks : stop.Breaks)
    (settled : stop.skipBlanks.Settled) :
    Derives (Setting.initial Delimiters.standard) (.unary (expr.shift cursor.offset)) cursor
      stop.skipBlanks := by
  rcases alone with ⟨-, next, read, atEnd⟩
  exact (derives_of_unary (sound_innerOf _) read).placed atEnd rfl rfl crosses breaks settled
    fun _ ends _ => ends

/-- An item of its own is derived where it stands, with the blanks after it. -/
theorem ReadsAlone.conditional_placed (alone : ReadsAlone conditional text expr)
    (crosses : cursor.Crosses text stop) (breaks : stop.Breaks)
    (settled : stop.skipBlanks.Settled)
    (done : EndsConditional (Setting.initial Delimiters.standard) stop.skipBlanks) :
    Derives (Setting.initial Delimiters.standard) (.conditional (expr.shift cursor.offset)) cursor
      stop.skipBlanks := by
  rcases alone with ⟨-, next, read, atEnd⟩
  exact (derives_of_conditional (sound_innerOf _) read).placed atEnd rfl rfl crosses breaks settled
    fun _ ends beyondEq => ⟨ends, beyondEq ▸ done⟩

/-- A command of its own is derived where it stands, with the blanks after it. -/
theorem ReadsAlone.command_placed (alone : ReadsAlone command text expr)
    (crosses : cursor.Crosses text stop) (breaks : stop.Breaks)
    (settled : stop.skipBlanks.Settled)
    (done : EndsCommand (Setting.initial Delimiters.standard) stop.skipBlanks) :
    Derives (Setting.initial Delimiters.standard) (.command (expr.shift cursor.offset)) cursor
      stop.skipBlanks := by
  rcases alone with ⟨-, next, read, atEnd⟩
  exact (derives_of_command (sound_innerOf _) read).placed atEnd rfl rfl crosses breaks settled
    fun _ ends beyondEq => ⟨ends, beyondEq ▸ done⟩

/-- A callee of its own is derived where it stands, and the suffixes that come after it too. -/
theorem ReadsAlone.suffixed_placed (alone : ReadsAlone suffixed text expr)
    (crosses : cursor.Crosses text stop) (separates : Separates stop.rest) :
    StartsOperand (Setting.initial Delimiters.standard) cursor.rest ∧
      ∀ final after, Derives (Setting.initial Delimiters.standard)
        (.suffixes (expr.shift cursor.offset) final) stop after →
          Derives (Setting.initial Delimiters.standard) (.suffixed final) cursor after := by
  rcases alone with ⟨-, next, read, atEnd⟩
  cases derives_of_suffixed (sound_innerOf _) read with
  | @suffixed _ head _ _ middle _ start others =>
    rcases crosses.exists_around with ⟨around, distanceEq, afterEq, startEq, ends⟩
    have stopEq := ends next (start.reaches.trans others.reaches) atEnd
    have veils := (afterEq ▸ separates : Separates around.after).veils
    have veiled : Unbarred next.rest around.after := unbarred_of_nil atEnd
    have first := start.kept veils rfl (veils.back (others.clears (by simp)) veiled)
      fun _ => trivial
    have more := others.kept veils rfl veiled fun _ => trivial
    rw [Goal.Carried, startEq] at first
    refine ⟨first.begins, fun final after later => .suffixed first (more final after ?_)⟩
    rwa [distanceEq, stopEq]

end Grammar

end TemplateLang
