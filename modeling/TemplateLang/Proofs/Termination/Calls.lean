import TemplateLang.Grammar.Basic
import TemplateLang.Proofs.Cursor

/-!
# Readings with their calls

How long reading takes is a fact about the calls that are made, not about the value that
comes out.  A traced reading is a result together with the calls that were made on the
way to it, each with the calls that it made in turn.  A round of a loop is a call, and
the next round is a call that it makes.

What a traced reading costs is counted with credit: it starts with some steps to spend,
pays one for each call, and hands on what it has not spent.  `Costs` is the contract of
one reader, `Within` that of a sequence of readers.
-/

namespace TemplateLang

namespace Traced

/-! ## Calls -/

/-- The kinds of readers.  `items`, `arguments`, `suffixes`, `operators`, `pipes` and
`elements` are rounds of loops, as is `trivia`. -/
inductive Layer where
  | trivia | openingTag | closingTag | lookahead | blockWord
  | primary | suffixes | suffixed | bareUpdate | update | prefixed | unary
  | operators (tighter : Nat) | joined (tiers : Nat)
  | conditional | items | arguments | command | pipes | pipeline
  | assignment | alternate | branch | loop | statement | tag | element | elements | body
deriving DecidableEq, Repr

/-- How loosely a reader binds.  At one place the looser readers call the tighter ones. -/
def Layer.level : Layer → Nat
  | trivia => 0
  | openingTag | closingTag => 1
  | lookahead | blockWord => 2
  | primary => 3
  | suffixes => 4
  | suffixed => 5
  | bareUpdate => 6
  | update => 7
  | prefixed => 8
  | unary => 9
  | operators tighter => 11 + 2 * tighter
  | joined tiers => 10 + 2 * tiers
  | conditional => 23
  | items | arguments => 24
  | command => 25
  | pipes => 26
  | pipeline => 27
  | assignment => 28
  | alternate => 29
  | branch | loop => 30
  | statement => 31
  | tag => 32
  | element => 33
  | elements => 34
  | body => 35

/-- Which reader is called, and how many bytes are left where it starts. -/
structure Place where
  layer : Layer
  room : Nat
deriving DecidableEq, Repr

/-- One place comes after another: less of the text is left, or as much for a tighter
reader. -/
def Place.Below (inner outer : Place) : Prop :=
  inner.room < outer.room ∨
    inner.room = outer.room ∧ inner.layer.level < outer.layer.level

theorem Place.below_of_lt {inner outer : Layer} {left room : Nat} (less : left < room) :
    Below ⟨inner, left⟩ ⟨outer, room⟩ :=
  .inl less

/-- The next round of a loop is made where less of the text is left. -/
theorem Place.below_same_iff {layer : Layer} {left room : Nat} :
    Below ⟨layer, left⟩ ⟨layer, room⟩ ↔ left < room := by
  simp [Below]

theorem Place.below_of_level {inner outer : Layer} {room : Nat}
    (tighter : inner.level < outer.level) : Below ⟨inner, room⟩ ⟨outer, room⟩ :=
  .inr ⟨rfl, tighter⟩

theorem Place.below_of_le {inner outer : Layer} {left room : Nat} (less : left ≤ room)
    (tighter : inner.level < outer.level) : Below ⟨inner, left⟩ ⟨outer, room⟩ := by
  rcases Nat.lt_or_eq_of_le less with less | rfl
  · exact below_of_lt less
  · exact below_of_level tighter

/-- A call of a reader: where it was made, whether it was answered, and the calls that it
made itself, in order. -/
inductive Call where
  | mk (place : Place) (answered : Bool) (calls : List Call)

namespace Call

def place : Call → Place
  | mk place _ _ => place

mutual

/-- The number of calls that a call stands for, with itself. -/
def size : Call → Nat
  | mk _ _ calls => sizes calls + 1

/-- The number of calls that some calls stand for. -/
def sizes : List Call → Nat
  | [] => 0
  | call :: calls => call.size + sizes calls

end

@[simp]
theorem sizes_append (first second : List Call) :
    sizes (first ++ second) = sizes first + sizes second := by
  induction first with
  | nil => simp [sizes]
  | cons call calls ih => simp [sizes, ih, Nat.add_assoc]

/-- A call is answered, and so are the calls on the way to its answer, each of which is
made below the place of the call that makes it. -/
inductive Settles : Call → Prop where
  | mk {place : Place} {calls : List Call} (below : ∀ call ∈ calls, call.place.Below place)
      (settles : ∀ call ∈ calls, call.Settles) : Settles (.mk place true calls)

end Call

end Traced

/-- A reading with the calls that were made on the way. -/
structure Traced (α : Type) where
  result : Except Failure α
  calls : List Traced.Call

namespace Traced

variable {α β : Type}

/-- The number of calls of a reading. -/
def size (reading : Traced α) : Nat :=
  Call.sizes reading.calls

/-! ## Ways to read -/

/-- What comes out without the call of a reader. -/
def scan (result : Except Failure α) : Traced α :=
  ⟨result, []⟩

/-- A failure. -/
def fail (failure : Failure) : Traced α :=
  scan (.error failure)

instance : Monad Traced where
  pure value := scan (.ok value)
  bind first next :=
    match first.result with
    | .ok value => ⟨(next value).result, first.calls ++ (next value).calls⟩
    | .error failure => ⟨.error failure, first.calls⟩

/-- Read as one call. -/
def called (layer : Layer) (cursor : Cursor) (reading : Traced α) : Traced α :=
  let answered := match reading.result with
    | .error .exhausted => false
    | _ => true
  ⟨reading.result, [.mk ⟨layer, cursor.room⟩ answered reading.calls]⟩

/-- Fail so that no other reading is tried. -/
def commit (fault : Fault) (reading : Traced (α × Cursor)) : Traced (α × Cursor) :=
  ⟨Reading.commit fault reading.result, reading.calls⟩

/-- Read without failing: what comes out is a value or a failure to look at. -/
def attempt (reading : Traced α) : Traced (Except Failure α) :=
  ⟨.ok reading.result, reading.calls⟩

/-- Read one level of nesting deeper. -/
def nested (setting : Setting) (cursor : Cursor) (read : Setting → Traced (α × Cursor)) :
    Traced (α × Cursor) :=
  match setting.room with
  | 0 => fail (.hard (.tooDeep maxNesting) cursor.nextSpan)
  | room + 1 => read { setting with room := room }

/-- Repeat rounds on a state, at most `fuel` times. -/
def rounds (layer : Layer) (round : α → Cursor → Traced (Reading.Round α β × Cursor)) :
    Nat → α → Cursor → Traced (β × Cursor)
  | 0, _, _ => fail .exhausted
  | fuel + 1, state, cursor => called layer cursor do
    match ← round state cursor with
    | (.again state, next) => rounds layer round fuel state next
    | (.done result, next) => pure (result, next)

/-- Repeat rounds until one is the last. -/
def repeated (layer : Layer) (round : α → Cursor → Traced (Reading.Round α β × Cursor))
    (state : α) (cursor : Cursor) : Traced (β × Cursor) :=
  rounds layer round (cursor.room + 1) state cursor

/-! ## Results

The result of a traced reading is that of the same reading without the trace. -/

@[simp]
theorem result_scan (result : Except Failure α) : (scan result).result = result :=
  rfl

@[simp]
theorem result_bind (first : Traced α) (next : α → Traced β) :
    (first >>= next).result = first.result >>= fun value => (next value).result := by
  rcases first with ⟨failure | value, calls⟩ <;> rfl

@[simp]
theorem result_called (layer : Layer) (cursor : Cursor) (reading : Traced α) :
    (called layer cursor reading).result = reading.result :=
  rfl

@[simp]
theorem result_commit (fault : Fault) (reading : Traced (α × Cursor)) :
    (reading.commit fault).result = Reading.commit fault reading.result :=
  rfl

@[simp]
theorem result_attempt (reading : Traced α) : reading.attempt.result = .ok reading.result :=
  rfl

theorem result_nested (setting : Setting) (cursor : Cursor)
    (read : Setting → Traced (α × Cursor)) :
    (nested setting cursor read).result =
      setting.nested cursor fun setting => (read setting).result := by
  unfold nested Setting.nested
  cases setting.room <;> rfl

theorem result_rounds {layer : Layer} {traced : α → Cursor → Traced (Reading.Round α β × Cursor)}
    {round : α → Cursor → Reading (Reading.Round α β × Cursor)}
    (same : ∀ state cursor, (traced state cursor).result = round state cursor)
    (fuel : Nat) (state : α) (cursor : Cursor) :
    (rounds layer traced fuel state cursor).result =
      Reading.rounds round fuel state cursor := by
  induction fuel generalizing state cursor with
  | zero => rfl
  | succ fuel ih =>
    rw [rounds, Reading.rounds, result_called, result_bind, same]
    rcases round state cursor with failure | ⟨again | done, next⟩
    · rfl
    · exact ih again next
    · rfl

theorem result_repeated {layer : Layer}
    {traced : α → Cursor → Traced (Reading.Round α β × Cursor)}
    {round : α → Cursor → Reading (Reading.Round α β × Cursor)}
    (same : ∀ state cursor, (traced state cursor).result = round state cursor)
    (state : α) (cursor : Cursor) :
    (repeated layer traced state cursor).result = Reading.loop round state cursor :=
  result_rounds same _ state cursor

/-! ## Sizes -/

theorem size_called (layer : Layer) (cursor : Cursor) (reading : Traced α) :
    (called layer cursor reading).size = reading.size + 1 :=
  rfl

theorem size_bind_of_ok {first : Traced α} {value : α} (given : first.result = .ok value)
    (next : α → Traced β) : (first >>= next).size = first.size + (next value).size := by
  obtain ⟨_, calls⟩ := first
  obtain rfl : _ = Except.ok value := given
  exact Call.sizes_append _ _

/-- After a failure nothing more is read. -/
theorem size_bind_of_error {first : Traced α} {failure : Failure}
    (failed : first.result = .error failure) (next : α → Traced β) :
    (first >>= next).size = first.size := by
  obtain ⟨_, calls⟩ := first
  obtain rfl : _ = Except.error failure := failed
  rfl

/-! ## Credit -/

/-- A reading is answered and spends at most the given credit.  All its calls are made
below a place and are settled.  If it gives a value, that value and the credit that is
left are as described. -/
structure Within (top : Place) (credit : Nat) (post : α → Nat → Prop) (reading : Traced α) :
    Prop where
  below : ∀ call ∈ reading.calls, call.place.Below top
  settles : ∀ call ∈ reading.calls, call.Settles
  size_le : reading.size ≤ credit
  answered : reading.result ≠ .error .exhausted
  given : ∀ value, reading.result = .ok value → post value (credit - reading.size)

/-- What a reader leaves that goes on from a cursor: a place further on, and enough credit
for the text from there. -/
def Leaves (cursor : Cursor) (back : Cursor → Nat) (given : α × Cursor) (left : Nat) : Prop :=
  cursor.Reaches given.2 ∧ back given.2 ≤ left

theorem leaves {cursor next : Cursor} {back : Cursor → Nat} {value : α} {left : Nat}
    (reaches : cursor.Reaches next) (enough : back next ≤ left) :
    Leaves cursor back (value, next) left :=
  ⟨reaches, enough⟩

/-- The contract of a reader that starts at a cursor: its call costs at most `cost`, of which
it gives back what is for the text after the value, if it gives one. -/
def Costs (layer : Layer) (cursor : Cursor) (cost : Nat) (back : Cursor → Nat)
    (reading : Traced (α × Cursor)) : Prop :=
  ∀ top, Place.Below ⟨layer, cursor.room⟩ top → reading.Within top cost (Leaves cursor back)

section

variable {top : Place} {credit : Nat} {post : α → Nat → Prop} {post' : β → Nat → Prop}

theorem Within.scan {result : Except Failure α} (answered : result ≠ .error .exhausted)
    (given : ∀ value, result = .ok value → post value credit) :
    (scan result).Within top credit post where
  below := by simp [Traced.scan]
  settles := by simp [Traced.scan]
  size_le := Nat.zero_le _
  answered := answered
  given := given

theorem Within.pure {value : α} (holds : post value credit) :
    (pure value : Traced α).Within top credit post :=
  .scan (by simp) fun _ same => Except.ok.inj same ▸ holds

theorem Within.fail {failure : Failure} (answered : failure ≠ .exhausted) :
    (fail failure : Traced α).Within top credit post :=
  .scan (by simpa using answered) (by simp)

/-- A sequence goes on with the credit that its first part has left. -/
theorem Within.bind {first : Traced α} {next : α → Traced β}
    (within : first.Within top credit post)
    (goesOn : ∀ value left, first.result = .ok value → post value left →
      (next value).Within top left post') :
    (first >>= next).Within top credit post' := by
  obtain ⟨failure | value, calls⟩ := first
  · exact ⟨within.below, within.settles, within.size_le,
      fun same => within.answered (congrArg Except.error (Except.error.inj same)),
      fun value same => nomatch (same : Except.error failure = Except.ok value)⟩
  · have later := goesOn value _ rfl (within.given value rfl)
    have spent := within.size_le
    have spentLater := later.size_le
    have sizeEq : (⟨.ok value, calls⟩ >>= next : Traced β).size =
        (⟨.ok value, calls⟩ : Traced α).size + (next value).size :=
      size_bind_of_ok rfl next
    refine ⟨?_, ?_, by omega, later.answered, ?_⟩
    · exact fun call among => (List.mem_append.mp among).elim (within.below call)
        (later.below call)
    · exact fun call among => (List.mem_append.mp among).elim (within.settles call)
        (later.settles call)
    · intro result given
      rw [sizeEq, ← Nat.sub_sub]
      exact later.given result given

theorem Within.scan_bind {result : Except Failure α} {next : α → Traced β}
    (answered : result ≠ .error .exhausted)
    (goesOn : ∀ value, result = .ok value → (next value).Within top credit post') :
    (Traced.scan result >>= next).Within top credit post' := by
  have within : (Traced.scan result).Within top credit fun _ left => left = credit :=
    .scan answered fun _ _ => rfl
  refine within.bind ?_
  rintro value left same rfl
  exact goesOn value same

theorem Within.pure_bind {value : α} {next : α → Traced β}
    (goesOn : (next value).Within top credit post') :
    ((Pure.pure value : Traced α) >>= next).Within top credit post' :=
  .scan_bind (by simp) fun _ same => Except.ok.inj same ▸ goesOn

/-- Credit beyond what a reading needs is kept. -/
theorem Within.frame {reading : Traced α} (within : reading.Within top credit post)
    {credit' : Nat} (enough : credit ≤ credit') :
    reading.Within top credit' fun value left => ∃ left', left' + credit' = left + credit ∧
      post value left' where
  below := within.below
  settles := within.settles
  size_le := Nat.le_trans within.size_le enough
  answered := within.answered
  given value same := by
    have spent := within.size_le
    exact ⟨_, by omega, within.given value same⟩

/-- What is only tried is paid for in any case, and a failure can be looked at. -/
theorem Within.attempt_bind {reading : Traced α} {next : Except Failure α → Traced β}
    (within : reading.Within top credit post)
    (given : ∀ value left, reading.result = .ok value → post value left →
      (next (.ok value)).Within top left post')
    (failed : ∀ failure, reading.result = .error failure → failure ≠ .exhausted →
      (next (.error failure)).Within top (credit - reading.size) post') :
    (reading.attempt >>= next).Within top credit post' := by
  have tried : reading.attempt.Within top credit fun result left =>
      result = reading.result ∧ left = credit - reading.size :=
    { below := within.below
      settles := within.settles
      size_le := within.size_le
      answered := by simp
      given := fun _ same => ⟨(Except.ok.inj same).symm, rfl⟩ }
  refine tried.bind ?_
  rintro result _ - ⟨same, rfl⟩
  rcases result with failure | value
  · refine failed failure same.symm ?_
    rintro rfl
    exact within.answered same.symm
  · exact given value _ same.symm (within.given value same.symm)

/-- What a reader does is the contract of its call, which costs one step more. -/
theorem Within.called {layer : Layer} {cursor : Cursor} {back : Cursor → Nat}
    {reading : Traced (α × Cursor)}
    (within : reading.Within ⟨layer, cursor.room⟩ credit (Leaves cursor back)) :
    (called layer cursor reading).Costs layer cursor (credit + 1) back := by
  intro top below
  have settles : Call.Settles (.mk ⟨layer, cursor.room⟩ true reading.calls) :=
    ⟨within.below, within.settles⟩
  have callsEq : (Traced.called layer cursor reading).calls =
      [.mk ⟨layer, cursor.room⟩ true reading.calls] := by
    unfold Traced.called
    dsimp only
    split
    · exact absurd ‹_› within.answered
    · rfl
  refine ⟨?_, ?_, ?_, within.answered, ?_⟩
  · rw [callsEq]
    simpa [Call.place] using below
  · rw [callsEq]
    simpa using settles
  · rw [size_called]
    exact Nat.succ_le_succ within.size_le
  · intro given same
    rw [size_called, Nat.add_sub_add_right]
    exact within.given given same

/-- A reading needs no more credit than it spends. -/
theorem Within.exact {reading : Traced α} (within : reading.Within top credit post) :
    reading.Within top reading.size fun _ _ => True :=
  { within with
    size_le := Nat.le_refl _
    given := fun _ _ => trivial }

/-- The same with the credit written as what is left of the cost. -/
theorem Within.called_of_pos {layer : Layer} {cursor : Cursor} {back : Cursor → Nat} {cost : Nat}
    {reading : Traced (α × Cursor)} (positive : 0 < cost)
    (within : reading.Within ⟨layer, cursor.room⟩ (cost - 1) (Leaves cursor back)) :
    (Traced.called layer cursor reading).Costs layer cursor cost back := by
  obtain ⟨credit, rfl⟩ := Nat.exists_eq_succ_of_ne_zero (Nat.ne_of_gt positive)
  exact within.called

namespace Costs

variable {layer : Layer} {cursor : Cursor} {cost : Nat} {back : Cursor → Nat}
  {reading : Traced (α × Cursor)}

theorem commit (costs : reading.Costs layer cursor cost back) (fault : Fault) :
    (reading.commit fault).Costs layer cursor cost back := by
  intro top below
  have within := costs top below
  refine ⟨within.below, within.settles, within.size_le, ?_, ?_⟩
  · rcases reading with ⟨(_ | _ | _) | given, calls⟩
    · simp [Reading.commit]
    · simp [Reading.commit]
    · exact absurd rfl within.answered
    · simp [Reading.commit]
  · intro given same
    rcases reading with ⟨(_ | _ | _) | given', calls⟩
    · simp [Reading.commit] at same
    · simp [Reading.commit] at same
    · simp [Reading.commit] at same
    · exact within.given given same

/-- No more is given back than was paid. -/
theorem back_le (costs : reading.Costs layer cursor cost back) {value : α} {next : Cursor}
    (given : reading.result = .ok (value, next)) : back next ≤ cost := by
  have within := costs ⟨layer, cursor.room + 1⟩ (Place.below_of_lt (Nat.lt_succ_self _))
  have returned := (within.given _ given).2
  dsimp only at returned
  omega

/-- A reader at the end of a sequence. -/
theorem last (costs : reading.Costs layer cursor cost back)
    (below : Place.Below ⟨layer, cursor.room⟩ top) (paid : cost ≤ credit)
    {post : α × Cursor → Nat → Prop}
    (ends : ∀ value next left, reading.result = .ok (value, next) → cursor.Reaches next →
      back next + credit ≤ left + cost → post (value, next) left) :
    reading.Within top credit post := by
  have within := (costs top below).frame paid
  refine { within with given := ?_ }
  rintro ⟨value, next⟩ same
  obtain ⟨left', spent, reaches, returned⟩ := within.given _ same
  refine ends value next _ same reaches ?_
  dsimp only at returned
  omega

/-- A reader in a sequence is paid for, and the sequence goes on with the rest and with
what it gives back. -/
theorem andThen (costs : reading.Costs layer cursor cost back)
    (below : Place.Below ⟨layer, cursor.room⟩ top) (paid : cost ≤ credit)
    {continue' : α × Cursor → Traced β}
    (goesOn : ∀ value next left, reading.result = .ok (value, next) → cursor.Reaches next →
      back next + credit ≤ left + cost → (continue' (value, next)).Within top left post') :
    (reading >>= continue').Within top credit post' := by
  have within : reading.Within top credit fun given left => cursor.Reaches given.2 ∧
      back given.2 + credit ≤ left + cost :=
    costs.last below paid fun _ _ _ _ reaches returned => ⟨reaches, returned⟩
  refine within.bind ?_
  rintro ⟨value, next⟩ left same ⟨reaches, returned⟩
  exact goesOn value next left same reaches returned

end Costs

/-- What one round of a loop leaves.  If the loop goes on, a character has been passed and
the next round is paid for. -/
def Goes (cursor : Cursor) (cost back : Cursor → Nat) :
    Reading.Round α β × Cursor → Nat → Prop
  | (.again _, next), left =>
    cursor.Reaches next ∧ next.room < cursor.room ∧ cost next + 1 ≤ left
  | (.done _, next), left => cursor.Reaches next ∧ back next ≤ left

theorem goes_again {cursor next : Cursor} {cost back : Cursor → Nat} {state : α} {left : Nat}
    (reaches : cursor.Reaches next) (less : next.room < cursor.room)
    (paid : cost next + 1 ≤ left) :
    Goes cursor cost back ((.again state, next) : Reading.Round α β × Cursor) left :=
  ⟨reaches, less, paid⟩

theorem goes_done {cursor next : Cursor} {cost back : Cursor → Nat} {result : β} {left : Nat}
    (reaches : cursor.Reaches next) (enough : back next ≤ left) :
    Goes cursor cost back ((.done result, next) : Reading.Round α β × Cursor) left :=
  ⟨reaches, enough⟩

/-- A loop each of whose rounds pays for the next one is answered before its fuel is
spent. -/
theorem costs_rounds {layer : Layer} {round : α → Cursor → Traced (Reading.Round α β × Cursor)}
    {cost back : Cursor → Nat} {start : Cursor}
    (step : ∀ state cursor, start.Reaches cursor →
      (round state cursor).Within ⟨layer, cursor.room⟩ (cost cursor) (Goes cursor cost back))
    (fuel : Nat) (state : α) (cursor : Cursor) (reaches : start.Reaches cursor)
    (enough : cursor.room < fuel) :
    (rounds layer round fuel state cursor).Costs layer cursor (cost cursor + 1) back := by
  induction fuel generalizing state cursor with
  | zero => omega
  | succ fuel ih =>
    refine Within.called ((step state cursor reaches).bind ?_)
    rintro ⟨again | done, next⟩ left - goes
    · obtain ⟨further, less, paid⟩ := goes
      refine (ih again next (reaches.trans further) (by omega)).last
        (Place.below_same_iff.mpr less) paid ?_
      intro _ _ left' _ onward returned
      exact leaves (further.trans onward) (by omega)
    · exact .pure goes

theorem costs_repeated {layer : Layer}
    {round : α → Cursor → Traced (Reading.Round α β × Cursor)} (cost : Cursor → Nat)
    {back : Cursor → Nat} {start : Cursor}
    (step : ∀ state cursor, start.Reaches cursor →
      (round state cursor).Within ⟨layer, cursor.room⟩ (cost cursor) (Goes cursor cost back))
    (state : α) :
    (repeated layer round state start).Costs layer start (cost start + 1) back :=
  costs_rounds step _ state start (.refl start) (Nat.lt_succ_self _)

end

end Traced

end TemplateLang
