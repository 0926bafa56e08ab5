import TemplateLang.Proofs.Json.Numbers
import TemplateLang.Proofs.Json.Texts
import TemplateLang.Proofs.Tables

/-!
# What is written as JSON is read back

Values of null, booleans, texts, integers below `2 ^ 53`, arrays and objects have a compact JSON
text from which the reader gives them back, with the keys of every object in their order.  The
text has no place for the sign of zero, so that a negative zero comes back as the other zero,
which equals it.

A written value is told apart from its surroundings by its first character and by what may
follow it: in compact text a value is followed by a comma, a closing bracket or nothing, and none
of these goes on with a number.
-/

namespace TemplateLang

namespace Value

/-! ## Values that JSON text keeps -/

mutual

/-- Built from null, booleans, texts, integers below `2 ^ 53` in magnitude, arrays and objects. -/
def IsPlain : Value → Prop
  | undefined => False
  | null | bool _ | text _ => True
  | number x => ∃ n : Int, x.toInt? = some n ∧ n.natAbs < Json.integerBound
  | array items => ArePlain items
  | object entries => EntriesArePlain entries

def ArePlain : List Value → Prop
  | [] => True
  | item :: rest => item.IsPlain ∧ ArePlain rest

def EntriesArePlain : List (String × Value) → Prop
  | [] => True
  | (_, value) :: rest => value.IsPlain ∧ EntriesArePlain rest

end

mutual

/-- How many arrays and objects stand in each other. -/
def depth : Value → Nat
  | array items => depthOfItems items + 1
  | object entries => depthOfEntries entries + 1
  | _ => 0

def depthOfItems : List Value → Nat
  | [] => 0
  | item :: rest => max item.depth (depthOfItems rest)

def depthOfEntries : List (String × Value) → Nat
  | [] => 0
  | (_, value) :: rest => max value.depth (depthOfEntries rest)

end

mutual

/-- A value with zero for every negative zero. -/
def positiveZeros : Value → Value
  | number x => number x.positiveZero
  | array items => array (positiveZerosOfItems items)
  | object entries => object (positiveZerosOfEntries entries)
  | value => value

def positiveZerosOfItems : List Value → List Value
  | [] => []
  | item :: rest => item.positiveZeros :: positiveZerosOfItems rest

def positiveZerosOfEntries : List (String × Value) → List (String × Value)
  | [] => []
  | (key, value) :: rest => (key, value.positiveZeros) :: positiveZerosOfEntries rest

end

mutual

/-- A value without a negative zero stays as it is. -/
theorem positiveZeros_eq_self : ∀ {value : Value}, Number.zero true ∉ value.numbers →
    value.positiveZeros = value
  | undefined, _ | null, _ | bool _, _ | text _, _ => rfl
  | number x, others => by
    rw [numbers, List.mem_singleton] at others
    rw [positiveZeros, Number.positiveZero_eq_self (Ne.symm others)]
  | array items, others => by rw [positiveZeros, positiveZerosOfItems_eq_self others]
  | object entries, others => by rw [positiveZeros, positiveZerosOfEntries_eq_self others]

theorem positiveZerosOfItems_eq_self : ∀ {items : List Value},
    Number.zero true ∉ numbersOfItems items → positiveZerosOfItems items = items
  | [], _ => rfl
  | item :: rest, others => by
    rw [numbersOfItems, List.mem_append, not_or] at others
    rw [positiveZerosOfItems, positiveZeros_eq_self others.1,
      positiveZerosOfItems_eq_self others.2]

theorem positiveZerosOfEntries_eq_self : ∀ {entries : List (String × Value)},
    Number.zero true ∉ numbersOfEntries entries → positiveZerosOfEntries entries = entries
  | [], _ => rfl
  | (key, value) :: rest, others => by
    rw [numbersOfEntries, List.mem_append, not_or] at others
    rw [positiveZerosOfEntries, positiveZeros_eq_self others.1,
      positiveZerosOfEntries_eq_self others.2]

end

/-- An entry of an object is one of the new object. -/
theorem mem_positiveZerosOfEntries {entries : List (String × Value)} {entry : String × Value}
    (isIn : entry ∈ entries) :
    (entry.1, entry.2.positiveZeros) ∈ positiveZerosOfEntries entries := by
  induction entries with
  | nil => exact nomatch isIn
  | cons first rest ih =>
    rcases List.mem_cons.mp isIn with rfl | isLater
    · exact List.mem_cons_self
    · exact List.mem_cons_of_mem _ (ih isLater)

/-- The keys and their order stay. -/
theorem names_positiveZerosOfEntries (entries : List (String × Value)) :
    Table.names (positiveZerosOfEntries entries) = Table.names entries := by
  induction entries with
  | nil => rfl
  | cons entry rest ih => exact congrArg (entry.1 :: ·) ih

theorem length_positiveZerosOfEntries (entries : List (String × Value)) :
    (positiveZerosOfEntries entries).length = entries.length := by
  have names := congrArg List.length (names_positiveZerosOfEntries entries)
  simpa [Table.names] using names

theorem distinct_positiveZerosOfEntries {entries : List (String × Value)}
    (distinct : Table.Distinct entries) : Table.Distinct (positiveZerosOfEntries entries) := by
  rw [Table.Distinct, names_positiveZerosOfEntries]
  exact distinct

mutual

/-- The two zeros are equal, and so are values that differ in them. -/
theorem equals_positiveZeros : ∀ {value : Value}, value.WellFormed → value.IsPlain →
    value.equals value.positiveZeros = true
  | undefined, _, isPlain => isPlain.elim
  | null, _, _ => rfl
  | bool _, _, _ | text _, _, _ => beq_self_eq_true _
  | number _, _, ⟨_, isInt, _⟩ => Number.equals_positiveZero isInt
  | array _, formed, arePlain => equalItems_positiveZeros formed arePlain
  | object entries, ⟨distinct, formed⟩, arePlain => by
    have found : ∀ entry ∈ entries, Table.get? (positiveZerosOfEntries entries) entry.1 =
        some entry.2.positiveZeros := fun entry isIn =>
      Table.get?_of_mem (distinct_positiveZerosOfEntries distinct)
        (mem_positiveZerosOfEntries isIn)
    rw [positiveZeros, equals, length_positiveZerosOfEntries, beq_self_eq_true, Bool.true_and]
    exact equalEntries_positiveZeros formed arePlain found

theorem equalItems_positiveZeros : ∀ {items : List Value}, WellFormedItems items →
    ArePlain items → equalItems items (positiveZerosOfItems items) = true
  | [], _, _ => rfl
  | _ :: _, ⟨formed, formedRest⟩, ⟨isPlain, arePlain⟩ => by
    rw [positiveZerosOfItems, equalItems, equals_positiveZeros formed isPlain,
      equalItems_positiveZeros formedRest arePlain]
    rfl

theorem equalEntries_positiveZeros : ∀ {entries : List (String × Value)} {table : Table Value},
    WellFormedEntries entries → EntriesArePlain entries →
      (∀ entry ∈ entries, table.get? entry.1 = some entry.2.positiveZeros) →
      equalEntries entries table = true
  | [], _, _, _, _ => rfl
  | (key, value) :: rest, table, ⟨formed, formedRest⟩, ⟨isPlain, arePlain⟩, found => by
    have foundFirst : table.get? key = some value.positiveZeros := found _ List.mem_cons_self
    have foundRest : ∀ entry ∈ rest, table.get? entry.1 = some entry.2.positiveZeros :=
      fun entry isIn => found entry (List.mem_cons_of_mem _ isIn)
    rw [equalEntries, foundFirst, equalEntries_positiveZeros formedRest arePlain foundRest]
    simp only [equals_positiveZeros formed isPlain, Bool.and_true]

end

end Value

namespace Json

open Value

/-! ## The first character -/

/-- The characters that a value begins with. -/
def opensValue (c : Char) : Bool :=
  ['n', 't', 'f', '"', '[', '\x7b', '-'].contains c || c.isDigit

theorem opensValue_of_digit {c : Char} (digit : c.isDigit = true) : opensValue c = true := by
  rw [opensValue, digit, Bool.or_true]

theorem exists_encodeNumber {x : Number} {n : Int} (isInt : x.toInt? = some n)
    (small : n.natAbs < integerBound) :
    ∃ c rest, (encodeNumber x).toList = c :: rest ∧ (c = '-' ∨ c.isDigit = true) := by
  rw [toList_encodeNumber isInt small]
  split
  · exact ⟨'-', _, rfl, .inl rfl⟩
  · obtain ⟨c, digits, split⟩ :=
      List.exists_cons_of_ne_nil (Nat.toDigits_ne_nil (n := n.natAbs) (b := 10))
    exact ⟨c, digits, split, .inr (isDigit_of_mem_toDigits (split ▸ List.mem_cons_self))⟩

/-- A text begins as a value does, and so with no blank. -/
def StartsValue (text : List Char) : Prop :=
  ∃ c rest, text = c :: rest ∧ opensValue c = true

theorem StartsValue.append {text : List Char} (starts : StartsValue text) (rest : List Char) :
    StartsValue (text ++ rest) := by
  obtain ⟨c, others, rfl, opens⟩ := starts
  exact ⟨c, others ++ rest, rfl, opens⟩

theorem StartsValue.length_pos {text : List Char} (starts : StartsValue text) :
    0 < text.length := by
  obtain ⟨c, others, rfl, -⟩ := starts
  exact Nat.succ_pos _

theorem skipBlanks_cons {c : Char} (notBlank : isBlank c = false) (rest : List Char) :
    skipBlanks (c :: rest) = c :: rest :=
  List.dropWhile_cons_of_neg (by simp [notBlank])

theorem StartsValue.skipBlanks {text : List Char} (starts : StartsValue text) :
    skipBlanks text = text := by
  obtain ⟨c, others, rfl, opens⟩ := starts
  refine skipBlanks_cons ?_ others
  rw [Bool.eq_false_iff]
  intro blank
  simp only [isBlank, Bool.or_eq_true, decide_eq_true_eq] at blank
  rcases blank with ((rfl | rfl) | rfl) | rfl <;> exact absurd opens (by decide)

theorem startsValue_encode {value : Value} (isPlain : value.IsPlain) :
    StartsValue (encode value) := by
  cases value with
  | undefined => exact isPlain.elim
  | null => exact ⟨'n', _, rfl, rfl⟩
  | bool value => cases value with
    | true => exact ⟨'t', _, rfl, rfl⟩
    | false => exact ⟨'f', _, rfl, rfl⟩
  | number x =>
    obtain ⟨n, isInt, small⟩ := isPlain
    obtain ⟨c, rest, split, minus | digit⟩ := exists_encodeNumber isInt small
    · exact ⟨c, rest, split, minus ▸ rfl⟩
    · exact ⟨c, rest, split, opensValue_of_digit digit⟩
  | text => exact ⟨'"', _, rfl, rfl⟩
  | array => exact ⟨'[', _, rfl, rfl⟩
  | object => exact ⟨'\x7b', _, rfl, rfl⟩

theorem encode_text (text : String) : encode (.text text) = encodeText text.toList :=
  rfl

theorem encode_array (items : List Value) :
    encode (.array items) = '[' :: (encodeItems items ++ [']']) :=
  rfl

theorem encode_object (entries : List (String × Value)) :
    encode (.object entries) = '\x7b' :: (encodeEntries entries ++ ['\x7d']) :=
  rfl

theorem encodeItems_cons (item next : Value) (others : List Value) :
    encodeItems (item :: next :: others) = encode item ++ ',' :: encodeItems (next :: others) := by
  rw [encodeItems]
  exact fun same => nomatch same

theorem encodeEntries_cons (key : String) (value : Value) (next : String × Value)
    (others : List (String × Value)) :
    encodeEntries ((key, value) :: next :: others) =
      encodeText key.toList ++ ':' :: (encode value ++ ',' :: encodeEntries (next :: others)) := by
  rw [encodeEntries]
  · simp
  · exact fun same => nomatch same

theorem startsValue_encodeItems {item : Value} (isPlain : item.IsPlain) (others : List Value) :
    StartsValue (encodeItems (item :: others)) := by
  cases others with
  | nil => exact startsValue_encode isPlain
  | cons next others =>
    rw [encodeItems_cons]
    exact (startsValue_encode isPlain).append _

theorem startsValue_encodeEntries (entry : String × Value) (others : List (String × Value)) :
    StartsValue (encodeEntries (entry :: others)) := by
  cases others with
  | nil => exact ⟨'"', _, rfl, rfl⟩
  | cons next others =>
    rw [encodeEntries_cons]
    exact ⟨'"', _, rfl, rfl⟩

/-! ## One value -/

variable {fuel depth : Nat} {rest : List Char}

/-- What opens with a quote is a text. -/
theorem readValue?_quote (after : List Char) :
    readValue? (fuel + 1) depth ('"' :: after) =
      (readText? fuel after).map fun (cs, rest) => (.text (String.ofList cs), rest) :=
  rfl

/-- What opens with a bracket is an array, at the cost of a level. -/
theorem readValue?_bracket (after : List Char) :
    readValue? (fuel + 1) (depth + 1) ('[' :: after) =
      match skipBlanks after with
      | ']' :: rest => some (.array [], rest)
      | rest => (readItems? fuel depth rest).map fun (items, rest) => (.array items, rest) :=
  rfl

/-- What opens with a brace is an object, at the cost of a level. -/
theorem readValue?_brace (after : List Char) :
    readValue? (fuel + 1) (depth + 1) ('\x7b' :: after) =
      match skipBlanks after with
      | '\x7d' :: rest => some (.object [], rest)
      | rest => (readEntries? fuel depth rest).map fun (entries, rest) =>
        (.object (Table.ofEntries entries), rest) :=
  rfl

theorem readValue?_number {x : Number} {n : Int} (isInt : x.toInt? = some n)
    (small : n.natAbs < integerBound) (ends : EndsNumber rest) :
    readValue? (fuel + 1) depth ((encodeNumber x).toList ++ rest) =
      some (.number x.positiveZero, rest) := by
  have read := readNumber?_encodeNumber isInt small ends
  obtain ⟨c, others, split, opens⟩ := exists_encodeNumber isInt small
  rw [split, List.cons_append] at read ⊢
  have apart (other : Char) (notMinus : other ≠ '-') (notDigit : other.isDigit = false) :
      c ≠ other := by
    rintro rfl
    exact opens.elim notMinus fun digit => absurd (digit.symm.trans notDigit) (by decide)
  rw [readValue?, read]
  · rfl
  all_goals exact fun _ same => apart _ (by decide) (by decide) (List.cons.inj same).1

theorem readValue?_text (text : String) (enough : (encodeText text.toList).length ≤ fuel) :
    readValue? (fuel + 1) depth (encodeText text.toList ++ rest) = some (.text text, rest) := by
  have inside : encodeText text.toList ++ rest =
      '"' :: (text.toList.flatMap escape ++ '"' :: rest) := by simp [encodeText]
  have fits : (text.toList.flatMap escape).length < fuel := by
    simp only [encodeText, List.length_append, List.length_cons] at enough
    omega
  rw [inside, readValue?_quote, readText?_flatMap_escape fits, Option.map_some]
  simp only [String.ofList_toList]

theorem readValue?_emptyArray :
    readValue? (fuel + 1) (depth + 1) ('[' :: ']' :: rest) = some (.array [], rest) := by
  rw [readValue?_bracket, skipBlanks_cons (by decide)]
  rfl

/-- An array with items is read as its items are. -/
theorem readValue?_array {text : List Char} {items : List Value} (starts : StartsValue text)
    (read : readItems? fuel depth text = some (items, rest)) :
    readValue? (fuel + 1) (depth + 1) ('[' :: text) = some (.array items, rest) := by
  rw [readValue?_bracket, starts.skipBlanks]
  split
  · obtain ⟨c, others, same, opens⟩ := starts
    obtain ⟨rfl, -⟩ := List.cons.inj same
    exact absurd opens (by decide)
  · rw [read, Option.map_some]

theorem readValue?_emptyObject :
    readValue? (fuel + 1) (depth + 1) ('\x7b' :: '\x7d' :: rest) = some (.object [], rest) := by
  rw [readValue?_brace, skipBlanks_cons (by decide)]
  rfl

/-- An object with entries of distinct keys is read as its entries are. -/
theorem readValue?_object {text : List Char} {entries : List (String × Value)}
    (distinct : Table.Distinct entries) (starts : StartsValue text)
    (read : readEntries? fuel depth text = some (entries, rest)) :
    readValue? (fuel + 1) (depth + 1) ('\x7b' :: text) = some (.object entries, rest) := by
  rw [readValue?_brace, starts.skipBlanks]
  split
  · obtain ⟨c, others, same, opens⟩ := starts
    obtain ⟨rfl, -⟩ := List.cons.inj same
    exact absurd opens (by decide)
  · rw [read]
    simp only [Option.map_some, Table.ofEntries_of_distinct distinct]

/-! ## Items and entries -/

/-- The last item, with the bracket after it. -/
theorem readItems?_last {text : List Char} {item : Value}
    (read : readValue? fuel depth text = some (item, ']' :: rest)) :
    readItems? (fuel + 1) depth text = some ([item], rest) := by
  rw [readItems?, read]
  simp only [Option.bind_eq_bind, Option.bind_some]
  rw [skipBlanks_cons (by decide)]
  rfl

/-- An item, with a comma after it and more items. -/
theorem readItems?_more {text others : List Char} {item : Value} {items : List Value}
    (read : readValue? fuel depth text = some (item, ',' :: others))
    (startsOthers : StartsValue others)
    (readOthers : readItems? fuel depth others = some (items, rest)) :
    readItems? (fuel + 1) depth text = some (item :: items, rest) := by
  rw [readItems?, read]
  simp only [Option.bind_eq_bind, Option.bind_some]
  rw [skipBlanks_cons (by decide)]
  change (readItems? fuel depth (skipBlanks others)).bind _ = _
  rw [startsOthers.skipBlanks, readOthers]
  rfl

/-- A key, a colon and a value are an entry; what comes after it decides how to go on. -/
theorem readEntries?_entry {key : String} {text after : List Char} {value : Value}
    (enough : (encodeText key.toList).length ≤ fuel) (starts : StartsValue text)
    (read : readValue? fuel depth text = some (value, after)) :
    readEntries? (fuel + 1) depth (encodeText key.toList ++ ':' :: text) =
      match skipBlanks after with
      | '\x7d' :: rest => some ([(key, value)], rest)
      | ',' :: rest =>
        (readEntries? fuel depth (skipBlanks rest)).bind fun read =>
          some ((key, value) :: read.1, read.2)
      | _ => none := by
  have inside : encodeText key.toList ++ ':' :: text =
      '"' :: (key.toList.flatMap escape ++ '"' :: ':' :: text) := by simp [encodeText]
  have fits : (key.toList.flatMap escape).length < fuel := by
    simp only [encodeText, List.length_append, List.length_cons] at enough
    omega
  rw [inside, readEntries?, readText?_flatMap_escape fits]
  simp only [Option.bind_eq_bind, Option.bind_some, String.ofList_toList]
  rw [skipBlanks_cons (by decide)]
  change ((readValue? fuel depth (skipBlanks text)).bind _) = _
  rw [starts.skipBlanks, read]
  rfl

/-- The last entry, with the brace after it. -/
theorem readEntries?_last {key : String} {text : List Char} {value : Value}
    (enough : (encodeText key.toList).length ≤ fuel) (starts : StartsValue text)
    (read : readValue? fuel depth text = some (value, '\x7d' :: rest)) :
    readEntries? (fuel + 1) depth (encodeText key.toList ++ ':' :: text) =
      some ([(key, value)], rest) := by
  rw [readEntries?_entry enough starts read, skipBlanks_cons (by decide)]
  rfl

/-- An entry, with a comma after it and more entries. -/
theorem readEntries?_more {key : String} {text others : List Char} {value : Value}
    {entries : List (String × Value)} (enough : (encodeText key.toList).length ≤ fuel)
    (starts : StartsValue text)
    (read : readValue? fuel depth text = some (value, ',' :: others))
    (startsOthers : StartsValue others)
    (readOthers : readEntries? fuel depth others = some (entries, rest)) :
    readEntries? (fuel + 1) depth (encodeText key.toList ++ ':' :: text) =
      some ((key, value) :: entries, rest) := by
  rw [readEntries?_entry enough starts read, skipBlanks_cons (by decide)]
  change (readEntries? fuel depth (skipBlanks others)).bind _ = _
  rw [startsOthers.skipBlanks, readOthers]
  rfl

/-! ## All values -/

theorem endsNumber_of_mark {c : Char} (mark : [',', ']', '\x7d'].contains c = true)
    (rest : List Char) : EndsNumber (c :: rest) := by
  have marks : c = ',' ∨ c = ']' ∨ c = '\x7d' := by simpa using mark
  rcases marks with rfl | rfl | rfl <;>
    exact endsNumber_cons (by decide) (by decide) (by decide) (by decide) rest

/-- A written value is read, before whatever cannot go on with a number.  Every bracket takes two
steps of the reader, and it is a character. -/
def Rereads (value : Value) : Prop :=
  ∀ (fuel depth : Nat) (rest : List Char), value.depth ≤ depth → EndsNumber rest →
    2 * (encode value).length ≤ fuel →
    readValue? fuel depth (encode value ++ rest) = some (value.positiveZeros, rest)

/-- Written items are read up to their bracket. -/
def ItemsReread (items : List Value) : Prop :=
  ∀ (fuel depth : Nat) (rest : List Char), depthOfItems items ≤ depth →
    2 * (encodeItems items).length < fuel →
    readItems? fuel depth (encodeItems items ++ ']' :: rest) =
      some (positiveZerosOfItems items, rest)

/-- Written entries are read up to their brace. -/
def EntriesReread (entries : List (String × Value)) : Prop :=
  ∀ (fuel depth : Nat) (rest : List Char), depthOfEntries entries ≤ depth →
    2 * (encodeEntries entries).length < fuel →
    readEntries? fuel depth (encodeEntries entries ++ '\x7d' :: rest) =
      some (positiveZerosOfEntries entries, rest)

/-- A value needs a step for its first character. -/
theorem Rereads.of_step {value : Value} (isPlain : value.IsPlain)
    (step : ∀ (fuel depth : Nat) (rest : List Char), value.depth ≤ depth → EndsNumber rest →
      2 * (encode value).length ≤ fuel + 1 →
      readValue? (fuel + 1) depth (encode value ++ rest) = some (value.positiveZeros, rest)) :
    Rereads value := by
  intro fuel depth rest shallow ends enough
  have positive := (startsValue_encode isPlain).length_pos
  obtain ⟨fuel, rfl⟩ : ∃ less, fuel = less + 1 := ⟨fuel - 1, by omega⟩
  exact step fuel depth rest shallow ends enough

theorem rereads_array {item : Value} {others : List Value}
    (isPlain : (array (item :: others)).IsPlain) (reread : ItemsReread (item :: others)) :
    Rereads (array (item :: others)) := by
  refine .of_step isPlain fun fuel depth rest shallow _ enough => ?_
  rw [Value.depth] at shallow
  obtain ⟨depth, rfl⟩ : ∃ less, depth = less + 1 := ⟨depth - 1, by omega⟩
  have starts := (startsValue_encodeItems isPlain.1 others).append (']' :: rest)
  have written : encode (array (item :: others)) ++ rest =
      '[' :: (encodeItems (item :: others) ++ ']' :: rest) := by simp [encode_array]
  rw [encode_array, List.length_cons, List.length_append, List.length_singleton] at enough
  rw [written, positiveZeros]
  exact readValue?_array starts (reread _ _ _ (by omega) (by omega))

theorem rereads_object {entry : String × Value} {others : List (String × Value)}
    (isPlain : (object (entry :: others)).IsPlain)
    (distinct : Table.Distinct (entry :: others)) (reread : EntriesReread (entry :: others)) :
    Rereads (object (entry :: others)) := by
  refine .of_step isPlain fun fuel depth rest shallow _ enough => ?_
  rw [Value.depth] at shallow
  obtain ⟨depth, rfl⟩ : ∃ less, depth = less + 1 := ⟨depth - 1, by omega⟩
  have starts := (startsValue_encodeEntries entry others).append ('\x7d' :: rest)
  have distinct' := distinct_positiveZerosOfEntries distinct
  have written : encode (object (entry :: others)) ++ rest =
      '\x7b' :: (encodeEntries (entry :: others) ++ '\x7d' :: rest) := by simp [encode_object]
  rw [encode_object, List.length_cons, List.length_append, List.length_singleton] at enough
  rw [written, positiveZeros]
  exact readValue?_object distinct' starts (reread _ _ _ (by omega) (by omega))

theorem itemsReread_singleton {item : Value} (first : Rereads item) : ItemsReread [item] := by
  intro fuel depth rest shallow enough
  rw [depthOfItems] at shallow
  rw [encodeItems] at enough ⊢
  obtain ⟨fuel, rfl⟩ : ∃ less, fuel = less + 1 := ⟨fuel - 1, by omega⟩
  have read := first fuel depth (']' :: rest) (Nat.le_trans (Nat.le_max_left _ _) shallow)
    (endsNumber_of_mark (by decide) rest) (Nat.le_of_lt_succ enough)
  exact readItems?_last read

theorem itemsReread_cons {item next : Value} {others : List Value} (isPlain : next.IsPlain)
    (first : Rereads item) (reread : ItemsReread (next :: others)) :
    ItemsReread (item :: next :: others) := by
  intro fuel depth rest shallow enough
  rw [depthOfItems] at shallow
  rw [encodeItems_cons, List.length_append, List.length_cons] at enough
  obtain ⟨fuel, rfl⟩ : ∃ less, fuel = less + 1 := ⟨fuel - 1, by omega⟩
  have read := first fuel depth _ (by omega)
    (endsNumber_of_mark (c := ',') (by decide) (encodeItems (next :: others) ++ ']' :: rest))
    (by omega)
  have readOthers := reread fuel depth rest (by omega) (by omega)
  rw [encodeItems_cons, List.append_assoc, List.cons_append, positiveZerosOfItems]
  exact readItems?_more read ((startsValue_encodeItems isPlain others).append _) readOthers

theorem entriesReread_singleton {key : String} {value : Value} (isPlain : value.IsPlain)
    (first : Rereads value) : EntriesReread [(key, value)] := by
  intro fuel depth rest shallow enough
  rw [depthOfEntries] at shallow
  rw [encodeEntries, List.length_append, List.length_cons] at enough
  obtain ⟨fuel, rfl⟩ : ∃ less, fuel = less + 1 := ⟨fuel - 1, by omega⟩
  have read := first fuel depth ('\x7d' :: rest)
    (Nat.le_trans (Nat.le_max_left _ _) shallow) (endsNumber_of_mark (by decide) rest) (by omega)
  rw [encodeEntries, List.append_assoc, List.cons_append]
  exact readEntries?_last (by omega) ((startsValue_encode isPlain).append _) read

theorem entriesReread_cons {key : String} {value : Value} {next : String × Value}
    {others : List (String × Value)} (isPlain : value.IsPlain) (first : Rereads value)
    (reread : EntriesReread (next :: others)) : EntriesReread ((key, value) :: next :: others) := by
  intro fuel depth rest shallow enough
  rw [depthOfEntries] at shallow
  simp only [encodeEntries_cons, List.length_append, List.length_cons] at enough
  obtain ⟨fuel, rfl⟩ : ∃ less, fuel = less + 1 := ⟨fuel - 1, by omega⟩
  have read := first fuel depth _ (by omega)
    (endsNumber_of_mark (c := ',') (by decide) (encodeEntries (next :: others) ++ '\x7d' :: rest))
    (by omega)
  have readOthers := reread fuel depth rest (by omega) (by omega)
  rw [encodeEntries_cons, List.append_assoc, List.cons_append, List.append_assoc, List.cons_append]
  exact readEntries?_more (by omega) ((startsValue_encode isPlain).append _) read
    ((startsValue_encodeEntries next others).append _) readOthers

mutual

theorem rereads : ∀ {value : Value}, value.WellFormed → value.IsPlain → Rereads value
  | .undefined, _, isPlain => isPlain.elim
  | .null, _, isPlain => .of_step isPlain fun _ _ _ _ _ _ => rfl
  | .bool true, _, isPlain => .of_step isPlain fun _ _ _ _ _ _ => rfl
  | .bool false, _, isPlain => .of_step isPlain fun _ _ _ _ _ _ => rfl
  | .number _, _, ⟨n, isInt, small⟩ =>
    .of_step ⟨n, isInt, small⟩ fun _ _ _ _ ends _ => readValue?_number isInt small ends
  | .text content, _, isPlain => .of_step isPlain fun _ _ _ _ _ enough =>
    readValue?_text content (by rw [encode_text] at enough; omega)
  | .array [], _, isPlain => .of_step isPlain fun _ depth _ shallow _ _ => by
    rw [Value.depth] at shallow
    obtain ⟨depth, rfl⟩ : ∃ less, depth = less + 1 := ⟨depth - 1, by omega⟩
    exact readValue?_emptyArray
  | .array (_ :: _), formed, isPlain =>
    rereads_array isPlain (itemsReread (List.cons_ne_nil _ _) formed isPlain)
  | .object [], _, isPlain => .of_step isPlain fun _ depth _ shallow _ _ => by
    rw [Value.depth] at shallow
    obtain ⟨depth, rfl⟩ : ∃ less, depth = less + 1 := ⟨depth - 1, by omega⟩
    exact readValue?_emptyObject
  | .object (_ :: _), ⟨distinct, formed⟩, isPlain =>
    rereads_object isPlain distinct (entriesReread (List.cons_ne_nil _ _) formed isPlain)

theorem itemsReread : ∀ {items : List Value}, items ≠ [] → WellFormedItems items →
    ArePlain items → ItemsReread items
  | [], someItems, _, _ => absurd rfl someItems
  | [_], _, ⟨formed, _⟩, ⟨isPlain, _⟩ => itemsReread_singleton (rereads formed isPlain)
  | _ :: _ :: _, _, ⟨formed, formedOthers⟩, ⟨isPlain, arePlain⟩ =>
    itemsReread_cons arePlain.1 (rereads formed isPlain)
      (itemsReread (List.cons_ne_nil _ _) formedOthers arePlain)

theorem entriesReread : ∀ {entries : List (String × Value)}, entries ≠ [] →
    WellFormedEntries entries → EntriesArePlain entries → EntriesReread entries
  | [], someEntries, _, _ => absurd rfl someEntries
  | [(_, _)], _, ⟨formed, _⟩, ⟨isPlain, _⟩ =>
    entriesReread_singleton isPlain (rereads formed isPlain)
  | (_, _) :: _ :: _, _, ⟨formed, formedOthers⟩, ⟨isPlain, arePlain⟩ =>
    entriesReread_cons isPlain (rereads formed isPlain)
      (entriesReread (List.cons_ne_nil _ _) formedOthers arePlain)

end

/-- A plain value comes back from its JSON text, with the keys of its objects in their order: it is
the value itself if no number in it is the negative zero, and in any case one that equals it. -/
theorem read?_write {value : Value} (formed : value.WellFormed) (isPlain : value.IsPlain)
    (shallow : value.depth ≤ maxDepth) :
    read? (write value) = some value.positiveZeros ∧
      value.equals value.positiveZeros = true ∧
      (Number.zero true ∉ value.numbers → value.positiveZeros = value) := by
  refine ⟨?_, equals_positiveZeros formed isPlain, positiveZeros_eq_self⟩
  have read := rereads formed isPlain (2 * (encode value).length + 1) maxDepth [] shallow
    endsNumber_nil (Nat.le_succ _)
  have compact := (startsValue_encode isPlain).skipBlanks
  rw [List.append_nil] at read
  unfold read? decode? write
  rw [String.toList_ofList, compact, read]
  rfl

/-- An object with a text in need of escapes, a negative number and an object inside of an array. -/
theorem read?_write_object :
    let value : Value := .object [("z\n\"", .array [.number (Number.ofInt (-7)), .object [("k", .null)]]),
      ("a", .text "\x01\\"), ("", .bool false)]
    value.WellFormed ∧ value.IsPlain ∧ value.depth ≤ maxDepth ∧
      Number.zero true ∉ value.numbers ∧ read? (write value) = some value := by
  intro value
  have formed : value.WellFormed := by
    refine ⟨by decide, ⟨trivial, ⟨by decide, trivial, trivial⟩, trivial⟩, trivial, trivial, trivial⟩
  have isPlain : value.IsPlain :=
    ⟨⟨⟨-7, by decide +kernel, by decide +kernel⟩, ⟨trivial, trivial⟩, trivial⟩,
      trivial, trivial, trivial⟩
  have shallow : value.depth ≤ maxDepth := by decide
  have noNegativeZero : Number.zero true ∉ value.numbers := by decide +kernel
  obtain ⟨read, -, same⟩ := read?_write formed isPlain shallow
  exact ⟨formed, isPlain, shallow, noNegativeZero, read.trans (congrArg some (same noNegativeZero))⟩

end Json

end TemplateLang
