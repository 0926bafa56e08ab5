import TemplateLang.Pattern.Program

/-!
# Matching

A program is run on a text by keeping a list of threads, best one first, and moving
all of them over one character at a time.  Of threads at the same instruction only
the best is kept.  The match is that of the best thread that ends, of those that
started leftmost.
-/

namespace TemplateLang.Pattern

/-- The positions noted by a thread, counted in characters. -/
abbrev Slots : Type :=
  Array (Option Nat)

/-- A thread: where it is in the program, and what it has noted. -/
structure Thread where
  node : Nat
  slots : Slots

/-- A place in a text, as threads see it. -/
structure Place where
  before : Option Char
  after : Option Char
  position : Nat

namespace Program

/-! ## Following instructions that take no character -/

/-- The threads of a place: the instructions reached, and the threads that wait for a
character or are done, last one first. -/
structure Reached where
  seen : Array Bool
  waiting : List Thread

/-- Follow a thread up to instructions that take a character, preferred ways first.
`fuel` bounds the way between instructions that were not reached before. -/
def follow (program : Program) (place : Place) : Nat → Thread → Reached → Reached
  | 0, _, reached => reached
  | fuel + 1, thread, reached =>
    if (reached.seen[thread.node]?).getD true then reached
    else
      let reached := { reached with seen := reached.seen.setIfInBounds thread.node true }
      match program.instructions[thread.node]? with
      | some (.goTo next) => follow program place fuel { thread with node := next } reached
      | some (.look wanted next) =>
        if wanted.holds place.before place.after then
          follow program place fuel { thread with node := next } reached
        else reached
      | some (.note slot next) =>
        follow program place fuel
          ⟨next, thread.slots.setIfInBounds slot (some place.position)⟩ reached
      | some (.fork preferred other) =>
        follow program place fuel { thread with node := other }
          (follow program place fuel { thread with node := preferred } reached)
      | some (.chars _ _) | some .done => { reached with waiting := thread :: reached.waiting }
      | none => reached

/-- Follow threads, best one first. -/
def followAll (program : Program) (place : Place) (threads : List Thread) : List Thread :=
  let start : Reached := ⟨Array.replicate program.instructions.size false, []⟩
  let reached := threads.foldl
    (fun reached thread => follow program place (program.instructions.size + 1) thread reached)
    start
  reached.waiting.reverse

/-! ## Taking characters -/

/-- Move waiting threads over the next character, up to the first that is done: those
that go on, and what that one has noted. -/
def advance (program : Program) (next : Option Char) : List Thread → List Thread × Option Slots
  | [] => ([], none)
  | thread :: rest =>
    match program.instructions[thread.node]?, next with
    | some .done, _ => ([], some thread.slots)
    | some (.chars set target), some c =>
      let (others, found) := advance program next rest
      if set.holds c then ({ thread with node := target } :: others, found)
      else (others, found)
    | _, _ => advance program next rest

/-- A thread at the start. -/
def firstThread (program : Program) : Thread :=
  ⟨program.start, Array.replicate (2 * program.groupCount + 2) none⟩

/-- Run threads to the end of a text.  `best` is the match found so far; until there
is one, a new thread starts at every place. -/
def run (program : Program) (threads : List Thread) (best : Option Slots)
    (before : Option Char) (position : Nat) : List Char → Option Slots
  | [] =>
    let started := if best.isNone then threads ++ [program.firstThread] else threads
    let waiting := followAll program ⟨before, none, position⟩ started
    (advance program none waiting).2.orElse fun _ => best
  | c :: rest =>
    let started := if best.isNone then threads ++ [program.firstThread] else threads
    if started.isEmpty then best
    else
      let waiting := followAll program ⟨before, some c, position⟩ started
      let (threads, found) := advance program (some c) waiting
      run program threads (found.orElse fun _ => best) (some c) (position + 1) rest

/-! ## All matches -/

/-- The ends of a group of a match, if it took part. -/
def groupOf (slots : Slots) (index : Nat) : Option (Nat × Nat) :=
  match slots[2 * index]?, slots[2 * index + 1]? with
  | some (some start), some (some stop) => some (start, stop)
  | _, _ => none

/-- Whether a program matches somewhere in a text. -/
def matchesIn (program : Program) (text : List Char) : Bool :=
  (run program [] none none 0 text).isSome

/-- The matches in a text, from a position on, that do not overlap.  An empty match
right after another one is passed over. -/
def matchesFrom (program : Program) : Nat → Option Char → List Char → Nat → Option Nat →
    List Slots
  | 0, _, _, _, _ => []
  | fuel + 1, before, text, position, lastStop =>
    match run program [] none before position text with
    | none => []
    | some slots =>
      match groupOf slots 0 with
      | none => []
      | some (start, stop) =>
        if start = stop ∧ lastStop = some stop then
          match text with
          | [] => []
          | c :: rest => matchesFrom program fuel (some c) rest (position + 1) lastStop
        else
          let passed := text.take (stop - position)
          slots :: matchesFrom program fuel (passed.getLast?.orElse fun _ => before)
            (text.drop (stop - position)) stop (some stop)

/-- The matches in a text. -/
def allMatches (program : Program) (text : List Char) : List Slots :=
  matchesFrom program (2 * text.length + 2) none text 0 none

end Program

end TemplateLang.Pattern
