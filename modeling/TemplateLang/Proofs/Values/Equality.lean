import Mathlib.Data.List.Forall2
import TemplateLang.Eval.Operator
import TemplateLang.Helper.Collections
import TemplateLang.Proofs.Number.Order
import TemplateLang.Proofs.Tables

/-!
# Equality of values

Equality is symmetric and transitive, and a value equals itself unless it holds NaN at some
depth.  Arrays are equal item by item.  Objects are equal if both have equal values under every
key, whatever the order of their entries: the comparison looks up the entries of the first
object in the second one only, but with as many entries the second has no other keys.

Without reflexivity the laws do not follow from each other.  All of them are inductions over the
members of a value, along one account of what equality compares.
-/

namespace TemplateLang.Value

/-! ## Members -/

/-- The items of an array and the values of an object. -/
def members : Value → List Value
  | array items => items
  | object entries => entries.map (·.2)
  | _ => []

theorem sizeOf_lt_of_mem_members {value member : Value} (isIn : member ∈ value.members) :
    sizeOf member < sizeOf value := by
  cases value with
  | array items =>
    have : sizeOf member < sizeOf items := List.sizeOf_lt_of_mem isIn
    simp only [array.sizeOf_spec]
    omega
  | object entries =>
    rcases List.mem_map.mp isIn with ⟨⟨key, found⟩, isEntry, rfl⟩
    have := List.sizeOf_lt_of_mem isEntry
    simp only [object.sizeOf_spec, Prod.mk.sizeOf_spec] at this ⊢
    omega
  | _ => exact nomatch isIn

/-- What holds of a value if it holds of its members holds of all values. -/
theorem induction_members {Holds : Value → Prop}
    (step : ∀ value : Value, (∀ member ∈ value.members, Holds member) → Holds value)
    (value : Value) : Holds value :=
  step value fun member isIn =>
    have _ : sizeOf member < sizeOf value := sizeOf_lt_of_mem_members isIn
    induction_members step member
termination_by sizeOf value

theorem mem_members_of_getElem? {items : List Value} {i : Nat} {member : Value}
    (found : items[i]? = some member) : member ∈ (array items).members :=
  List.mem_of_getElem? found

theorem mem_members_of_get? {entries : Table Value} {key : String} {member : Value}
    (found : entries.get? key = some member) : member ∈ (object entries).members :=
  List.mem_map.mpr ⟨(key, member), Table.mem_of_get? found, rfl⟩

/-! ### Well-formed members -/

theorem wellFormedItems_iff {items : List Value} :
    WellFormedItems items ↔ ∀ item ∈ items, item.WellFormed := by
  induction items with
  | nil => simp [WellFormedItems]
  | cons item rest ih => simp [WellFormedItems, ih]

theorem wellFormedEntries_iff {entries : List (String × Value)} :
    WellFormedEntries entries ↔ ∀ entry ∈ entries, entry.2.WellFormed := by
  induction entries with
  | nil => simp [WellFormedEntries]
  | cons entry rest ih => simp [WellFormedEntries, ih]

theorem WellFormed.distinct {entries : Table Value} (formed : (object entries).WellFormed) :
    entries.Distinct := by
  rw [WellFormed] at formed
  exact formed.1

/-- The members of a well-formed value are well formed. -/
theorem WellFormed.of_mem_members {value member : Value} (formed : value.WellFormed)
    (isIn : member ∈ value.members) : member.WellFormed := by
  cases value with
  | array items =>
    rw [WellFormed] at formed
    exact wellFormedItems_iff.mp formed member isIn
  | object entries =>
    rw [WellFormed] at formed
    rcases List.mem_map.mp isIn with ⟨entry, isEntry, rfl⟩
    exact wellFormedEntries_iff.mp formed.2 entry isEntry
  | _ => exact nomatch isIn

/-! ### Numbers in members -/

theorem mem_numbersOfItems_iff {items : List Value} {x : Number} :
    x ∈ numbersOfItems items ↔ ∃ item ∈ items, x ∈ item.numbers := by
  induction items with
  | nil => simp [numbersOfItems]
  | cons item rest ih => simp [numbersOfItems, ih]

theorem mem_numbersOfEntries_iff {entries : List (String × Value)} {x : Number} :
    x ∈ numbersOfEntries entries ↔ ∃ member ∈ (object entries).members, x ∈ member.numbers := by
  induction entries with
  | nil => simp [numbersOfEntries, members]
  | cons entry rest ih =>
    rw [numbersOfEntries, List.mem_append, ih]
    simp [members]

/-! ## Related lookups -/

section Lookups

variable {α : Type} {Alike Alike' Alike'' : α → α → Prop} {first second third : Option α}

theorem isSome_eq_of_rel (related : Option.Rel Alike first second) :
    first.isSome = second.isSome := by
  cases related <;> rfl

/-- What is related to something found is found. -/
theorem found_of_rel {x : α} (related : Option.Rel Alike first second) (found : first = some x) :
    ∃ y, second = some y ∧ Alike x y := by
  cases related with
  | none => exact nomatch found
  | some alike =>
    cases found
    exact ⟨_, rfl, alike⟩

theorem rel_symm (related : Option.Rel Alike first second)
    (turn : ∀ x, first = some x → ∀ y, second = some y → Alike x y → Alike' y x) :
    Option.Rel Alike' second first := by
  cases related with
  | none => exact .none
  | some alike => exact .some (turn _ rfl _ rfl alike)

theorem rel_trans (related : Option.Rel Alike first second)
    (related' : Option.Rel Alike' second third)
    (join : ∀ x, first = some x → ∀ y, second = some y → ∀ z, third = some z →
      Alike x y → Alike' y z → Alike'' x z) :
    Option.Rel Alike'' first third := by
  cases related with
  | none =>
    cases related' with
    | none => exact .none
  | some alike =>
    cases related' with
    | some alike' => exact .some (join _ rfl _ rfl _ rfl alike alike')

theorem rel_self_iff : Option.Rel Alike first first ↔ ∀ x, first = some x → Alike x x := by
  constructor
  · rintro related x rfl
    cases related with
    | some alike => exact alike
  · intro onFound
    cases first with
    | none => exact .none
    | some x => exact .some (onFound x rfl)

end Lookups

/-! ## What equality compares -/

/-- Values of one type that are alike where `Alike` is the judgement on their members: arrays
at every position, objects under every key. -/
inductive Matches (Alike : Value → Value → Prop) : Value → Value → Prop where
  | undefined : Matches Alike undefined undefined
  | null : Matches Alike null null
  | bool (value : Bool) : Matches Alike (bool value) (bool value)
  | number {x y : Number} (same : x.equals y = true) : Matches Alike (number x) (number y)
  | text (value : String) : Matches Alike (text value) (text value)
  | array {items others : List Value}
      (same : ∀ i : Nat, Option.Rel Alike items[i]? others[i]?) :
      Matches Alike (array items) (array others)
  | object {entries others : Table Value}
      (same : ∀ key : String, Option.Rel Alike (entries.get? key) (others.get? key)) :
      Matches Alike (object entries) (object others)

/-- Lists are equal item by item. -/
theorem equalItems_iff {items others : List Value} :
    equalItems items others = true ↔ List.Forall₂ (fun a b => a.equals b = true) items others := by
  induction items generalizing others with
  | nil => cases others <;> simp [equalItems]
  | cons item rest ih => cases others <;> simp [equalItems, ih]

/-- Lists are related item by item if they are at every position. -/
theorem forall₂_iff_getElem? {Alike : Value → Value → Prop} {items others : List Value} :
    List.Forall₂ Alike items others ↔ ∀ i : Nat, Option.Rel Alike items[i]? others[i]? := by
  constructor
  · intro same
    induction same with
    | nil => exact fun _ => .none
    | cons first _ ih =>
      rintro (_ | i)
      · exact .some first
      · exact ih i
  · intro same
    induction items generalizing others with
    | nil =>
      cases others with
      | nil => exact .nil
      | cons other rest => exact nomatch same 0
    | cons item rest ih =>
      cases others with
      | nil => exact nomatch same 0
      | cons other others =>
        have first : Option.Rel Alike (some item) (some other) := same 0
        cases first with
        | some alike => exact .cons alike (ih fun i => same (i + 1))

theorem equalEntries_iff {entries : List (String × Value)} {table : Table Value} :
    equalEntries entries table = true ↔ ∀ entry ∈ entries,
      ∃ other, table.get? entry.1 = some other ∧ entry.2.equals other = true := by
  induction entries with
  | nil => simp [equalEntries]
  | cons entry rest ih =>
    rw [equalEntries, Bool.and_eq_true, ih, List.forall_mem_cons]
    apply and_congr_left
    intro _
    cases table.get? entry.1 <;> simp

/-- Objects are equal if they have equal values under every key. -/
theorem equals_object_iff {entries others : Table Value} (distinct : entries.Distinct)
    (distinct' : others.Distinct) :
    (object entries).equals (object others) = true ↔ ∀ key : String,
      Option.Rel (fun a b => a.equals b = true) (entries.get? key) (others.get? key) := by
  rw [equals, Bool.and_eq_true, beq_iff_eq, equalEntries_iff]
  constructor
  · rintro ⟨count, found⟩ key
    have within : entries.names ⊆ others.names := by
      intro name isName
      rcases List.mem_map.mp isName with ⟨entry, isEntry, rfl⟩
      rcases found entry isEntry with ⟨other, isFound, _⟩
      exact Table.isSome_get?_iff.mp (by rw [isFound, Option.isSome_some])
    have sameNames := Table.mem_names_iff_of_subset distinct within count.ge key
    cases first : entries.get? key with
    | none =>
      have absent : others.get? key = none := by
        rw [← Option.not_isSome_iff_eq_none, Table.isSome_get?_iff, ← sameNames,
          ← Table.isSome_get?_iff, first]
        exact Bool.false_ne_true
      rw [absent]
      exact .none
    | some value =>
      rcases found (key, value) (Table.mem_of_get? first) with ⟨other, isFound, same⟩
      rw [isFound]
      exact .some same
  · intro same
    constructor
    · apply Table.length_eq_of_same_names distinct distinct'
      intro name
      rw [← Table.isSome_get?_iff, ← Table.isSome_get?_iff]
      rw [isSome_eq_of_rel (same name)]
    · intro entry isEntry
      exact found_of_rel (same entry.1) (Table.get?_of_mem distinct isEntry)

/-- Equality is the judgement that matches values by itself. -/
theorem equals_iff_matches {a b : Value} (formed : a.WellFormed) (formed' : b.WellFormed) :
    a.equals b = true ↔ Matches (fun x y => x.equals y = true) a b := by
  constructor
  · intro same
    fun_cases equals a b with
    | case1 => exact .undefined
    | case2 => exact .null
    | case3 x y => rw [equals, beq_iff_eq] at same; exact same ▸ .bool x
    | case4 => exact .number same
    | case5 x y => rw [equals, beq_iff_eq] at same; exact same ▸ .text x
    | case6 => exact .array (forall₂_iff_getElem?.mp (equalItems_iff.mp same))
    | case7 => exact .object ((equals_object_iff formed.distinct formed'.distinct).mp same)
    | case8 => simp_all [equals]
  · intro alike
    cases alike with
    | undefined | null => rfl
    | bool | text => exact beq_self_eq_true _
    | number same => exact same
    | array same => exact equalItems_iff.mpr (forall₂_iff_getElem?.mpr same)
    | object same => exact (equals_object_iff formed.distinct formed'.distinct).mpr same

/-- Values of different types never match. -/
theorem Matches.typeName_eq {Alike : Value → Value → Prop} {a b : Value}
    (alike : Matches Alike a b) : a.typeName = b.typeName := by
  cases alike <;> rfl

/-! ## The laws -/

/-- Matching is symmetric where the judgement on members is. -/
theorem Matches.symm {Alike Alike' : Value → Value → Prop} {a b : Value}
    (alike : Matches Alike a b)
    (onMembers : ∀ x ∈ a.members, ∀ y ∈ b.members, Alike x y → Alike' y x) :
    Matches Alike' b a := by
  cases alike with
  | undefined => exact .undefined
  | null => exact .null
  | bool value => exact .bool value
  | number same => exact .number (by rw [Number.equals_comm]; exact same)
  | text value => exact .text value
  | array same =>
    exact .array fun i => rel_symm (same i) fun x isFirst y isSecond =>
      onMembers x (mem_members_of_getElem? isFirst) y (mem_members_of_getElem? isSecond)
  | object same =>
    exact .object fun key => rel_symm (same key) fun x isFirst y isSecond =>
      onMembers x (mem_members_of_get? isFirst) y (mem_members_of_get? isSecond)

theorem equals_symm {a b : Value} (formed : a.WellFormed) (formed' : b.WellFormed)
    (same : a.equals b = true) : b.equals a = true := by
  induction a using induction_members generalizing b with
  | step a ih =>
    rw [equals_iff_matches formed formed'] at same
    rw [equals_iff_matches formed' formed]
    apply same.symm
    intro x isIn y isIn' alike
    exact ih x isIn (formed.of_mem_members isIn) (formed'.of_mem_members isIn') alike

/-- Values that match one value match each other where the judgement on members is transitive. -/
theorem Matches.trans {Alike : Value → Value → Prop} {a b c : Value} (alike : Matches Alike a b)
    (alike' : Matches Alike b c)
    (onMembers : ∀ x ∈ a.members, ∀ y ∈ b.members, ∀ z ∈ c.members,
      Alike x y → Alike y z → Alike x z) :
    Matches Alike a c := by
  cases alike with
  | undefined | null | bool | text => exact alike'
  | number same =>
    cases alike' with
    | number same' => exact .number (Number.equals_trans same same')
  | array same =>
    cases alike' with
    | array same' =>
      exact .array fun i => rel_trans (same i) (same' i) fun x isFirst y isSecond z isThird =>
        onMembers x (mem_members_of_getElem? isFirst) y (mem_members_of_getElem? isSecond)
          z (mem_members_of_getElem? isThird)
  | object same =>
    cases alike' with
    | object same' =>
      exact .object fun key =>
        rel_trans (same key) (same' key) fun x isFirst y isSecond z isThird =>
          onMembers x (mem_members_of_get? isFirst) y (mem_members_of_get? isSecond)
            z (mem_members_of_get? isThird)

theorem equals_trans {a b c : Value} (formed : a.WellFormed) (formed' : b.WellFormed)
    (formed'' : c.WellFormed) (same : a.equals b = true) (same' : b.equals c = true) :
    a.equals c = true := by
  induction a using induction_members generalizing b c with
  | step a ih =>
    rw [equals_iff_matches formed formed'] at same
    rw [equals_iff_matches formed' formed''] at same'
    rw [equals_iff_matches formed formed'']
    apply same.trans same'
    intro x isIn y isIn' z isIn''
    exact ih x isIn (formed.of_mem_members isIn) (formed'.of_mem_members isIn')
      (formed''.of_mem_members isIn'')

/-- A value matches itself if its members are judged alike to themselves and it is not NaN. -/
theorem matches_self_iff {Alike : Value → Value → Prop} {a : Value} (formed : a.WellFormed) :
    Matches Alike a a ↔ a ≠ number Number.nan ∧ ∀ member ∈ a.members, Alike member member := by
  cases a with
  | undefined => exact iff_of_true .undefined ⟨nofun, nofun⟩
  | null => exact iff_of_true .null ⟨nofun, nofun⟩
  | bool value => exact iff_of_true (.bool value) ⟨nofun, nofun⟩
  | text value => exact iff_of_true (.text value) ⟨nofun, nofun⟩
  | number x =>
    constructor
    · intro alike
      cases alike with
      | number same => exact ⟨by rintro ⟨⟩; exact Number.equals_self_iff.mp same rfl, nofun⟩
    · rintro ⟨isNumber, _⟩
      exact .number (Number.equals_self_iff.mpr fun isNaN => isNumber (congrArg number isNaN))
  | array items =>
    constructor
    · intro alike
      cases alike with
      | array same =>
        refine ⟨nofun, fun member isIn => ?_⟩
        rcases List.mem_iff_getElem?.mp isIn with ⟨i, isAt⟩
        exact rel_self_iff.mp (same i) member isAt
    · rintro ⟨_, onMembers⟩
      exact .array fun i => rel_self_iff.mpr fun member isAt =>
        onMembers member (mem_members_of_getElem? isAt)
  | object entries =>
    constructor
    · intro alike
      cases alike with
      | object same =>
        refine ⟨nofun, fun member isIn => ?_⟩
        rcases List.mem_map.mp isIn with ⟨entry, isEntry, rfl⟩
        exact rel_self_iff.mp (same entry.1) entry.2 (Table.get?_of_mem formed.distinct isEntry)
    · rintro ⟨_, onMembers⟩
      exact .object fun key => rel_self_iff.mpr fun member isAt =>
        onMembers member (mem_members_of_get? isAt)

/-- NaN is in a value if it is the value or in a member. -/
theorem nan_mem_numbers_iff {a : Value} :
    Number.nan ∈ a.numbers ↔
      a = number Number.nan ∨ ∃ member ∈ a.members, Number.nan ∈ member.numbers := by
  cases a with
  | number x => simp [numbers, members, eq_comm]
  | array items => simp [numbers, members, mem_numbersOfItems_iff]
  | object entries => rw [numbers, mem_numbersOfEntries_iff]; simp
  | _ => simp [numbers, members]

/-- A value equals itself unless it holds NaN at some depth. -/
theorem equals_self_iff {a : Value} (formed : a.WellFormed) :
    a.equals a = true ↔ Number.nan ∉ a.numbers := by
  induction a using induction_members with
  | step a ih =>
    have onMembers : (∀ member ∈ a.members, member.equals member = true) ↔
        ∀ member ∈ a.members, Number.nan ∉ member.numbers :=
      forall₂_congr fun member isIn => ih member isIn (formed.of_mem_members isIn)
    rw [equals_iff_matches formed formed, matches_self_iff formed, onMembers, nan_mem_numbers_iff]
    simp

/-- Objects are equal if they have the same keys with equal values. -/
theorem equals_object_iff_same_keys {entries others : Table Value} (distinct : entries.Distinct)
    (distinct' : others.Distinct) :
    (object entries).equals (object others) = true ↔
      (∀ key, key ∈ entries.names ↔ key ∈ others.names) ∧
        ∀ key x y, entries.get? key = some x → others.get? key = some y → x.equals y = true := by
  rw [equals_object_iff distinct distinct']
  constructor
  · intro same
    constructor
    · intro key
      rw [← Table.isSome_get?_iff, ← Table.isSome_get?_iff, isSome_eq_of_rel (same key)]
    · intro key x y isFirst isSecond
      rcases found_of_rel (same key) isFirst with ⟨other, found, alike⟩
      rcases Option.some.inj (found.symm.trans isSecond) with rfl
      exact alike
  · rintro ⟨sameKeys, onValues⟩ key
    have sameKey := sameKeys key
    rw [← Table.isSome_get?_iff, ← Table.isSome_get?_iff] at sameKey
    cases first : entries.get? key <;> cases second : others.get? key <;>
      simp only [first, second] at sameKey ⊢
    · exact .none
    · simp at sameKey
    · simp at sameKey
    · exact .some (onValues key _ _ first second)

/-- The order of entries does not matter to equality. -/
theorem equals_perm {entries entries' others others' : Table Value} (distinct : entries.Distinct)
    (distinct' : others.Distinct) (reordered : entries.Perm entries')
    (reordered' : others.Perm others') :
    (object entries').equals (object others') = (object entries).equals (object others) := by
  have distinctOther := (reordered.map Prod.fst).nodup_iff.mp distinct
  have distinctOther' := (reordered'.map Prod.fst).nodup_iff.mp distinct'
  rw [Bool.eq_iff_iff, equals_object_iff distinctOther distinctOther',
    equals_object_iff distinct distinct']
  simp only [Table.get?_perm distinct reordered, Table.get?_perm distinct' reordered']

end TemplateLang.Value

/-! ## Operators and helpers that compare -/

namespace TemplateLang.Helper

open Value

/-- What is kept for the first time stands in the order of the items. -/
theorem firstsAfter_sublist (kept items : List Value) :
    (firstsAfter kept items).Sublist items := by
  fun_induction firstsAfter kept items with
  | case1 => exact .slnil
  | case2 kept item rest _ ih => exact ih.cons item
  | case3 kept item rest _ ih => exact ih.cons_cons item

/-- What is kept equals nothing that was kept before it. -/
theorem firstsAfter_unequal (kept items : List Value) :
    (∀ x ∈ kept, ∀ y ∈ firstsAfter kept items, x.equals y = false) ∧
      (firstsAfter kept items).Pairwise fun x y => x.equals y = false := by
  fun_induction firstsAfter kept items with
  | case1 => exact ⟨fun _ _ => nofun, .nil⟩
  | case2 kept item rest _ ih => exact ih
  | case3 kept item rest isNew ih =>
    rcases ih with ⟨before, after⟩
    have itemIsNew : ∀ x ∈ kept, x.equals item = false := by simpa using isNew
    constructor
    · intro x isKept y isIn
      rcases List.mem_cons.mp isIn with rfl | isLater
      · exact itemIsNew x isKept
      · exact before x (List.mem_append_left _ isKept) y isLater
    · exact .cons (before item (by simp)) after

/-- Every item is kept, or equals one that is. -/
theorem firstsAfter_covers (kept items : List Value) :
    ∀ item ∈ items, item ∈ firstsAfter kept items ∨
      ∃ x ∈ kept ++ firstsAfter kept items, x.equals item = true := by
  fun_induction firstsAfter kept items with
  | case1 => exact nofun
  | case2 kept first rest isOld ih =>
    intro item isIn
    rcases List.mem_cons.mp isIn with rfl | isLater
    · rcases List.any_eq_true.mp isOld with ⟨x, isKept, same⟩
      exact .inr ⟨x, List.mem_append_left _ isKept, same⟩
    · exact ih item isLater
  | case3 kept first rest _ ih =>
    intro item isIn
    rcases List.mem_cons.mp isIn with rfl | isLater
    · exact .inl List.mem_cons_self
    · rcases ih item isLater with isFirst | ⟨x, isKept, same⟩
      · exact .inl (List.mem_cons_of_mem first isFirst)
      · exact .inr ⟨x, by simpa using isKept, same⟩

end TemplateLang.Helper

namespace TemplateLang.Value

/-- Equality is symmetric and transitive, and reflexive on values without NaN.  It holds between
objects with the same keys and equal values, in every order of their entries, between arrays
item by item, and never between values of different types.  `==`, `contains` and `uniq` judge
by it: what `uniq` keeps are items of the array in their order, no two of them equal, such that
every other item equals one of them. -/
theorem equals_laws {a b c : Value} (formed : a.WellFormed) (formed' : b.WellFormed)
    (formed'' : c.WellFormed) :
    a.equals b = b.equals a ∧
      (a.equals b = true → b.equals c = true → a.equals c = true) ∧
      (a.equals a = true ↔ Number.nan ∉ a.numbers) ∧
      (∀ entries others : Table Value, a = object entries → b = object others →
        (a.equals b = true ↔
          (∀ key, key ∈ entries.names ↔ key ∈ others.names) ∧
            ∀ key x y, entries.get? key = some x → others.get? key = some y →
              x.equals y = true) ∧
        ∀ entries' others' : Table Value, entries.Perm entries' → others.Perm others' →
          (object entries').equals (object others') = a.equals b) ∧
      (∀ items others : List Value, (array items).equals (array others) = true ↔
        List.Forall₂ (fun x y => x.equals y = true) items others) ∧
      (a.equals b = true → a.typeName = b.typeName) ∧
      BinaryOp.equal.apply a b = .ok (bool (a.equals b)) ∧
      BinaryOp.notEqual.apply a b = .ok (bool !(a.equals b)) ∧
      (∀ items : List Value,
        Helper.contains [array items, a] =
          .ok (bool (decide (∃ item ∈ items, item.equals a = true))) ∧
        ∃ kept : List Value, Helper.uniq [array items] = .ok (array kept) ∧
          kept.Sublist items ∧ kept.Pairwise (fun x y => x.equals y = false) ∧
          ∀ item ∈ items, item ∈ kept ∨ ∃ x ∈ kept, x.equals item = true) := by
  have symmetric : a.equals b = b.equals a := by
    rw [Bool.eq_iff_iff]
    exact ⟨equals_symm formed formed', equals_symm formed' formed⟩
  have sameType : a.equals b = true → a.typeName = b.typeName := fun same =>
    ((equals_iff_matches formed formed').mp same).typeName_eq
  refine ⟨symmetric, equals_trans formed formed' formed'', equals_self_iff formed, ?_,
    fun _ _ => equalItems_iff, sameType, rfl, rfl, ?_⟩
  · rintro entries others rfl rfl
    exact ⟨equals_object_iff_same_keys formed.distinct formed'.distinct,
      fun _ _ => equals_perm formed.distinct formed'.distinct⟩
  · intro items
    constructor
    · have judged : items.any (·.equals a) = decide (∃ item ∈ items, item.equals a = true) := by
        rw [Bool.eq_iff_iff, List.any_eq_true, decide_eq_true_eq]
      exact congrArg (Except.ok ∘ bool) judged
    · have covers := Helper.firstsAfter_covers [] items
      rw [List.nil_append] at covers
      exact ⟨Helper.firsts items, rfl, Helper.firstsAfter_sublist [] items,
        (Helper.firstsAfter_unequal [] items).2, covers⟩

/-- Two objects with their keys in different orders are equal both ways, and so is each of them
to itself. -/
theorem equals_laws_reordered :
    ∃ first second : Value,
      first = object [("a", null), ("b", array [bool true])] ∧
      second = object [("b", array [bool true]), ("a", null)] ∧
      first.WellFormed ∧ second.WellFormed ∧
      first.equals second = true ∧ second.equals first = true ∧ first.equals first = true ∧
      Number.nan ∉ first.numbers := by
  refine ⟨_, _, rfl, rfl, ?_⟩
  have formed : (object [("a", null), ("b", array [bool true])]).WellFormed := by
    simp [WellFormed, WellFormedItems, WellFormedEntries]
  have formed' : (object [("b", array [bool true]), ("a", null)]).WellFormed := by
    simp [WellFormed, WellFormedItems, WellFormedEntries]
  rcases equals_laws formed formed' formed with ⟨symmetric, transitive, reflexive, _⟩
  have same : (object [("a", null), ("b", array [bool true])]).equals
      (object [("b", array [bool true]), ("a", null)]) = true := by rfl
  have self := transitive same (symmetric.symm.trans same)
  exact ⟨formed, formed', same, symmetric.symm.trans same, self, reflexive.mp self⟩

end TemplateLang.Value
