import TemplateLang.Eval.Expression

/-!
# Changing a slot

Keys lead to a slot if each of them names an entry or an item that is there.  The number in a
slot is changed exactly if the keys lead to a number; then they lead to the changed one, and
what is read along other keys stays the same, but for keys that lead to the slot by other
spellings or to a value that it stands in.  No entry and no item comes or goes.  If the slot
cannot be changed, nothing is.
-/

namespace TemplateLang

namespace Value

/-! ## Slots -/

/-- Keys lead from a value to a slot, through entries and items that are there. -/
inductive Leads : Value → List Key → Value → Prop where
  | here (value : Value) : Leads value [] value
  | entry {entries : Table Value} {key : Key} {child slot : Value} {rest : List Key}
    (isEntry : entries.get? key.text = some child) (deeper : Leads child rest slot) :
    Leads (.object entries) (key :: rest) slot
  | item {items : List Value} {key : Key} {position : Nat} {child slot : Value}
    {rest : List Key} (isPosition : key.position? = some position)
    (isItem : items[position]? = some child) (deeper : Leads child rest slot) :
    Leads (.array items) (key :: rest) slot

/-- The first keys lead to the slot of the second ones, or to a value that it stands in.  Both
may name an entry or an item in different spellings. -/
inductive Above : Value → List Key → List Key → Prop where
  | here (value : Value) (keys : List Key) : Above value [] keys
  | entry {entries : Table Value} {upper lower : Key} {child : Value} {uppers lowers : List Key}
    (same : upper.text = lower.text) (isEntry : entries.get? lower.text = some child)
    (deeper : Above child uppers lowers) :
    Above (.object entries) (upper :: uppers) (lower :: lowers)
  | item {items : List Value} {upper lower : Key} {position : Nat} {child : Value}
    {uppers lowers : List Key} (isPosition : upper.position? = some position)
    (isPosition' : lower.position? = some position) (isItem : items[position]? = some child)
    (deeper : Above child uppers lowers) :
    Above (.array items) (upper :: uppers) (lower :: lowers)

/-- No more keys lead above a slot than lead to it. -/
theorem Above.length_le {value : Value} {uppers lowers : List Key}
    (above : value.Above uppers lowers) : uppers.length ≤ lowers.length := by
  induction above with
  | here => exact Nat.zero_le _
  | entry _ _ _ ih | item _ _ _ _ ih => exact Nat.succ_le_succ ih

/-- Read along keys, each in the member that the one before selects. -/
def readAlong : Value → List Key → Except EvalFault Value
  | value, [] => .ok value
  | value, key :: rest =>
    match value.readMember? key with
    | some member => readAlong member rest
    | none => .error (.noMembers value.typeName key.text)

/-! ## Shapes -/

/-- What is left of a value without its leaves: the lengths of its arrays, and the keys of its
objects in order. -/
inductive Shape where
  | leaf
  | array (items : List Shape)
  | object (entries : List (String × Shape))

mutual

/-- The shape of a value. -/
def shape : Value → Shape
  | array items => .array (itemShapes items)
  | object entries => .object (entryShapes entries)
  | undefined | null | bool _ | number _ | text _ => .leaf

/-- The shapes of an array's items. -/
def itemShapes : List Value → List Shape
  | [] => []
  | item :: rest => item.shape :: itemShapes rest

/-- The shapes of an object's entries, with their keys. -/
def entryShapes : List (String × Value) → List (String × Shape)
  | [] => []
  | (key, value) :: rest => (key, value.shape) :: entryShapes rest

end

theorem itemShapes_set {items : List Value} {position : Nat} {child child' : Value}
    (isItem : items[position]? = some child) (same : child'.shape = child.shape) :
    itemShapes (items.set position child') = itemShapes items := by
  induction items generalizing position with
  | nil => rfl
  | cons item rest ih =>
    cases position with
    | zero =>
      obtain rfl := Option.some.inj isItem
      rw [List.set_cons_zero, itemShapes, itemShapes, same]
    | succ position =>
      rw [List.set_cons_succ, itemShapes, itemShapes, ih (by simpa using isItem)]

theorem entryShapes_insert {entries : Table Value} {name : String} {child child' : Value}
    (isEntry : entries.get? name = some child) (same : child'.shape = child.shape) :
    entryShapes (entries.insert name child') = entryShapes entries := by
  induction entries with
  | nil => simp at isEntry
  | cons entry rest ih =>
    rcases entry with ⟨key, value⟩
    by_cases hit : key = name
    · rw [Table.get?_cons, if_pos hit] at isEntry
      obtain rfl := Option.some.inj isEntry
      rw [Table.insert, if_pos hit, entryShapes, entryShapes, same]
    · rw [Table.get?_cons, if_neg hit] at isEntry
      rw [Table.insert, if_neg hit, entryShapes, entryShapes, ih isEntry]

/-! ## One slot changed -/

/-- A value that differs from the one before in the number of a slot. -/
structure SlotChanged (before : Value) (keys : List Key) (old new : Number) (after : Value) :
    Prop where
  was : before.readAlong keys = .ok (.number old)
  now : after.readAlong keys = .ok (.number new)
  elsewhere : ∀ other, ¬before.Above other keys → after.readAlong other = before.readAlong other
  shape : after.shape = before.shape

variable {keys rest : List Key} {key : Key} {child child' : Value} {old new : Number}

theorem readAlong_object (entries : Table Value) (key : Key) (rest : List Key) :
    (object entries).readAlong (key :: rest) =
      ((entries.get? key.text).getD (text "")).readAlong rest :=
  rfl

theorem readAlong_array (items : List Value) (key : Key) (rest : List Key) :
    (array items).readAlong (key :: rest) =
      ((key.position?.bind fun position => items[position]?).getD (text "")).readAlong rest :=
  rfl

/-- A number in a slot is changed where it stands. -/
theorem slotChanged_here (old new : Number) :
    (number old).SlotChanged [] old new (number new) where
  was := rfl
  now := rfl
  elsewhere other notAbove := by
    cases other with
    | nil => exact absurd (.here _ _) notAbove
    | cons key rest => rfl
  shape := rfl

/-- A slot is changed in an entry of an object. -/
theorem SlotChanged.entry (changed : child.SlotChanged rest old new child')
    {entries : Table Value} (isEntry : entries.get? key.text = some child) :
    (object entries).SlotChanged (key :: rest) old new
      (object (entries.insert key.text child')) where
  was := by
    rw [readAlong_object, isEntry, Option.getD_some]
    exact changed.was
  now := by
    rw [readAlong_object, Table.get?_insert, if_pos rfl, Option.getD_some]
    exact changed.now
  elsewhere other notAbove := by
    cases other with
    | nil => exact absurd (.here _ _) notAbove
    | cons upper uppers =>
      rw [readAlong_object, readAlong_object, Table.get?_insert]
      by_cases same : key.text = upper.text
      · rw [if_pos same, ← same, isEntry, Option.getD_some, Option.getD_some]
        exact changed.elsewhere uppers fun above => notAbove (.entry same.symm isEntry above)
      · rw [if_neg same]
  shape := by
    rw [Value.shape, Value.shape, entryShapes_insert isEntry changed.shape]

/-- A slot is changed in an item of an array. -/
theorem SlotChanged.item (changed : child.SlotChanged rest old new child') {items : List Value}
    {position : Nat} (isPosition : key.position? = some position)
    (isItem : items[position]? = some child) :
    (array items).SlotChanged (key :: rest) old new (array (items.set position child')) where
  was := by
    rw [readAlong_array, isPosition, Option.bind_some, isItem, Option.getD_some]
    exact changed.was
  now := by
    obtain ⟨inside, -⟩ := List.getElem?_eq_some_iff.mp isItem
    rw [readAlong_array, isPosition, Option.bind_some, List.getElem?_set_self inside,
      Option.getD_some]
    exact changed.now
  elsewhere other notAbove := by
    cases other with
    | nil => exact absurd (.here _ _) notAbove
    | cons upper uppers =>
      rw [readAlong_array, readAlong_array]
      cases isUpper : upper.position? with
      | none => rfl
      | some place =>
        rw [Option.bind_some, Option.bind_some]
        by_cases same : position = place
        · subst same
          obtain ⟨inside, -⟩ := List.getElem?_eq_some_iff.mp isItem
          rw [List.getElem?_set_self inside, isItem, Option.getD_some, Option.getD_some]
          exact changed.elsewhere uppers fun above =>
            notAbove (.item isUpper isPosition isItem above)
        · rw [List.getElem?_set_ne same]
  shape := by
    rw [Value.shape, Value.shape, itemShapes_set isItem changed.shape]

/-! ## Changes -/

/-- A value before and after the number in a slot is changed. -/
inductive Changes (change : Number → Number) : Value → List Key → Number → Value → Prop where
  | here (old : Number) : Changes change (.number old) [] old (.number (change old))
  | entry {entries : Table Value} {key : Key} {rest : List Key} {child child' : Value}
    {old : Number} (isEntry : entries.get? key.text = some child)
    (deeper : Changes change child rest old child') :
    Changes change (.object entries) (key :: rest) old
      (.object (entries.insert key.text child'))
  | item {items : List Value} {key : Key} {rest : List Key} {position : Nat}
    {child child' : Value} {old : Number} (isPosition : key.position? = some position)
    (isItem : items[position]? = some child) (deeper : Changes change child rest old child') :
    Changes change (.array items) (key :: rest) old (.array (items.set position child'))

variable {change : Number → Number} {value changed : Value}

/-- A change below a member that is there is a change of the member. -/
theorem changeSlot_of_child (selected : value.child? key = some child) :
    value.changeSlot change (key :: rest) =
      (child.changeSlot change rest).map fun found => (found.1, value.setChild key found.2) := by
  have opened : value.changeSlot change (key :: rest) =
      (child.changeSlot change rest >>= fun found =>
        Except.ok (found.1, value.setChild key found.2)) := by
    cases rest with
    | nil => rw [changeSlot.eq_4, selected]
    | cons next others => rw [changeSlot.eq_3, selected]
  rw [opened]
  cases child.changeSlot change rest <;> rfl

/-- Below a member that is not there nothing can be changed. -/
theorem changeSlot_of_no_child (change : Number → Number) (rest : List Key)
    (missing : value.child? key = none) :
    ∃ fault, value.changeSlot change (key :: rest) = .error fault := by
  cases rest with
  | nil =>
    rw [changeSlot.eq_4, missing]
    dsimp only
    split <;> exact ⟨_, rfl⟩
  | cons next others =>
    rw [changeSlot.eq_3, missing]
    dsimp only
    split <;> exact ⟨_, rfl⟩

/-- A change succeeds where the member that the first key selects is there and the change in
it succeeds. -/
theorem changeSlot_cons_eq_ok :
    value.changeSlot change (key :: rest) = .ok (old, changed) ↔
      ∃ child child', value.child? key = some child ∧
        child.changeSlot change rest = .ok (old, child') ∧ changed = value.setChild key child' := by
  cases selected : value.child? key with
  | none =>
    obtain ⟨fault, failed⟩ := changeSlot_of_no_child change rest selected
    simp [failed]
  | some child =>
    rw [changeSlot_of_child selected]
    simp only [Option.some.injEq, exists_and_left, exists_eq_left']
    cases child.changeSlot change rest with
    | error fault => simp [Except.map]
    | ok found => simp [Except.map, Prod.ext_iff, eq_comm, and_assoc]

theorem changeSlot_eq_ok_iff :
    value.changeSlot change keys = .ok (old, changed) ↔ Changes change value keys old changed := by
  constructor
  · intro ran
    induction keys generalizing value changed with
    | nil =>
      cases value with
      | number n =>
        obtain ⟨rfl, rfl⟩ := Prod.mk.inj (Except.ok.inj ran)
        exact .here n
      | _ => exact nomatch ran
    | cons key rest ih =>
      obtain ⟨child, child', selected, ranRest, rfl⟩ := changeSlot_cons_eq_ok.mp ran
      cases value with
      | object entries => exact .entry selected (ih ranRest)
      | array items =>
        obtain ⟨position, isPosition, isItem⟩ := Option.bind_eq_some_iff.mp selected
        rw [setChild, isPosition]
        exact .item isPosition isItem (ih ranRest)
      | _ => exact nomatch selected
  · intro changes
    induction changes with
    | here old => rfl
    | @entry entries key rest child child' old isEntry _ ih =>
      exact changeSlot_cons_eq_ok.mpr ⟨child, child', isEntry, ih, rfl⟩
    | @item items key rest position child child' old isPosition isItem _ ih =>
      have selected : (array items).child? key = some child := by
        rw [child?, isPosition, Option.bind_some, isItem]
      refine changeSlot_cons_eq_ok.mpr ⟨child, child', selected, ih, ?_⟩
      rw [setChild, isPosition]

theorem Changes.leads (changes : Changes change value keys old changed) :
    value.Leads keys (.number old) := by
  induction changes with
  | here old => exact .here _
  | entry isEntry _ ih => exact .entry isEntry ih
  | item isPosition isItem _ ih => exact .item isPosition isItem ih

theorem Leads.exists_changes (change : Number → Number) {slot : Value}
    (leads : value.Leads keys slot) (isNumber : slot = .number old) :
    ∃ changed, Changes change value keys old changed := by
  induction leads with
  | here value =>
    subst isNumber
    exact ⟨_, .here old⟩
  | entry isEntry _ ih =>
    obtain ⟨child', changes⟩ := ih isNumber
    exact ⟨_, .entry isEntry changes⟩
  | item isPosition isItem _ ih =>
    obtain ⟨child', changes⟩ := ih isNumber
    exact ⟨_, .item isPosition isItem changes⟩

theorem Changes.slotChanged (changes : Changes change value keys old changed) :
    value.SlotChanged keys old (change old) changed := by
  induction changes with
  | here old => exact slotChanged_here old (change old)
  | entry isEntry _ ih => exact ih.entry isEntry
  | item isPosition isItem _ ih => exact ih.item isPosition isItem

/-- Keys to a value above the slot read it with the slot changed in it. -/
theorem Changes.above (changes : Changes change value keys old changed) {front : List Key}
    (above : value.Above front keys) :
    ∃ inner inner', value.readAlong front = .ok inner ∧ changed.readAlong front = .ok inner' ∧
      Changes change inner (keys.drop front.length) old inner' := by
  induction above generalizing changed with
  | here value keys => exact ⟨value, changed, rfl, rfl, changes⟩
  | @entry entries upper lower child uppers lowers same isEntry deeper ih =>
    cases changes with
    | entry isEntry' changesRest =>
      obtain rfl := Option.some.inj (isEntry.symm.trans isEntry')
      obtain ⟨inner, inner', reads, reads', changesInner⟩ := ih changesRest
      refine ⟨inner, inner', ?_, ?_, changesInner⟩
      · rw [readAlong_object, same, isEntry, Option.getD_some, reads]
      · rw [readAlong_object, same, Table.get?_insert, if_pos rfl, Option.getD_some, reads']
  | @item items upper lower position child uppers lowers isPosition isPosition' isItem deeper ih =>
    cases changes with
    | item isPlace isItem' changesRest =>
      obtain rfl := Option.some.inj (isPosition'.symm.trans isPlace)
      obtain rfl := Option.some.inj (isItem.symm.trans isItem')
      obtain ⟨inner, inner', reads, reads', changesInner⟩ := ih changesRest
      obtain ⟨inside, -⟩ := List.getElem?_eq_some_iff.mp isItem
      refine ⟨inner, inner', ?_, ?_, changesInner⟩
      · rw [readAlong_array, isPosition, Option.bind_some, isItem, Option.getD_some, reads]
      · rw [readAlong_array, isPosition, Option.bind_some, List.getElem?_set_self inside,
          Option.getD_some, reads']

end Value

/-! ## Updates of a variable -/

open TemplateLang.Action

namespace Meaning

variable {scopes : Scopes} {name : String} {value : Value} (bound : scopes.get? name = some value)

include bound

/-- An update of a variable writes the variable with its slot changed, and nothing if the slot
cannot be changed. -/
theorem on_updateAt (op : UpdateOp) (order : UpdatePlace) (span nameSpan : Span)
    (keys : List Key) :
    (updateAt op order span ⟨.variable name nameSpan, keys⟩).on scopes =
      match value.changeSlot op.change keys with
      | .ok (old, changed) =>
        (.ok (.number (match order with
          | .before => op.change old
          | .after => old)), scopes.declare name changed)
      | .error fault => (.error ⟨slotFault op fault, span⟩, scopes) := by
  simp only [updateAt, on_bind, on_lookup, bound, checkedAt, on_ofExcept, on_declare, on_pure]
  cases value.changeSlot op.change keys with
  | error fault => rfl
  | ok found => rfl

end Meaning

/-- The number in a slot is changed exactly if the keys lead to a number.  Then they lead to the
changed one, every array has its length and every object its keys in order, and what is read
along other keys stays the same, but that keys to the slot or above it read the slot, or what it
stands in, with the change.  An update of a variable writes the variable so changed, and leaves
all variables as they were if the slot cannot be changed. -/
theorem changeSlot_exact (op : UpdateOp) (value : Value) (keys : List Key) :
    ((∃ old changed, value.changeSlot op.change keys = .ok (old, changed)) ↔
        ∃ old, value.Leads keys (.number old)) ∧
      (∀ old changed, value.changeSlot op.change keys = .ok (old, changed) →
        value.SlotChanged keys old (op.change old) changed ∧
        ∀ other, value.Above other keys → ∃ inner inner',
          value.readAlong other = .ok inner ∧ changed.readAlong other = .ok inner' ∧
            inner.SlotChanged (keys.drop other.length) old (op.change old) inner') ∧
      ∀ (order : UpdatePlace) (span nameSpan : Span) (scopes : Scopes) (name : String),
        scopes.get? name = some value →
          let ran := (Meaning.updateAt op order span ⟨.variable name nameSpan, keys⟩).on scopes
          (∀ old changed, value.changeSlot op.change keys = .ok (old, changed) →
            ran = (.ok (.number (match order with
              | .before => op.change old
              | .after => old)), scopes.declare name changed)) ∧
          ∀ fault, value.changeSlot op.change keys = .error fault →
            ran = (.error ⟨Meaning.slotFault op fault, span⟩, scopes) := by
  refine ⟨⟨?_, ?_⟩, ?_, ?_⟩
  · rintro ⟨old, changed, ran⟩
    exact ⟨old, (Value.changeSlot_eq_ok_iff.mp ran).leads⟩
  · rintro ⟨old, leads⟩
    obtain ⟨changed, changes⟩ := leads.exists_changes op.change rfl
    exact ⟨old, changed, Value.changeSlot_eq_ok_iff.mpr changes⟩
  · intro old changed ran
    have changes := Value.changeSlot_eq_ok_iff.mp ran
    refine ⟨changes.slotChanged, fun other above => ?_⟩
    obtain ⟨inner, inner', reads, reads', changesInner⟩ := changes.above above
    exact ⟨inner, inner', reads, reads', changesInner.slotChanged⟩
  · intro order span nameSpan scopes name bound ran
    have updates := Meaning.on_updateAt bound op order span nameSpan keys
    constructor
    · intro old changed changes
      rw [changes] at updates
      exact updates
    · intro fault fails
      rw [fails] at updates
      exact updates

/-- The second item of an array is changed through the key `+1` and read through `01`. -/
theorem changeSlot_exact_spellings :
    let value : Value := .object [("a", .array [.text "x", .ofNat 5])]
    let changed : Value := .object [("a", .array [.text "x", .ofNat 6])]
    let keys : List Key := [.name "a", .name "+1"]
    value.changeSlot UpdateOp.increment.change keys = .ok (Number.ofInt 5, changed) ∧
      changed.readAlong keys = .ok (.ofNat 6) ∧ changed.shape = value.shape ∧
      ∃ inner inner', changed.readAlong [.name "a", .name "01"] = .ok inner' ∧
        Value.SlotChanged inner [] (Number.ofInt 5) (Number.ofInt 6) inner' := by
  intro value changed keys
  have ran : value.changeSlot UpdateOp.increment.change keys = .ok (Number.ofInt 5, changed) := rfl
  obtain ⟨slotChanged, above⟩ := (changeSlot_exact .increment value keys).2.1 _ _ ran
  have spelled : value.Above [.name "a", .name "01"] keys :=
    .entry rfl rfl (.item rfl rfl rfl (.here _ _))
  obtain ⟨inner, inner', -, reads, changedInner⟩ := above _ spelled
  exact ⟨ran, slotChanged.now, slotChanged.shape, inner, inner', reads, changedInner⟩

/-- A value that a slot stands in is read with the slot changed in it, although its keys lead
neither to the slot nor through it. -/
theorem readAlong_above_changes :
    let value : Value := .object [("b", .object [("c", .ofNat 1)])]
    let changed : Value := .object [("b", .object [("c", .ofNat 2)])]
    let keys : List Key := [.name "b", .name "c"]
    let other : List Key := [.name "b"]
    value.changeSlot UpdateOp.increment.change keys = .ok (Number.ofInt 1, changed) ∧
      ¬value.Above keys other ∧ changed.readAlong other ≠ value.readAlong other := by
  intro value changed keys other
  refine ⟨rfl, fun above => ?_, fun same => ?_⟩
  · exact absurd above.length_le (by decide)
  · have reads : value.readAlong other = .ok (.object [("c", .ofNat 1)]) := rfl
    have reads' : changed.readAlong other = .ok (.object [("c", .ofNat 2)]) := rfl
    rw [reads, reads'] at same
    have sameNumber : Number.ofInt 2 = Number.ofInt 1 := by
      simpa [Value.ofNat] using same
    exact absurd sameNumber (by decide)

end TemplateLang
