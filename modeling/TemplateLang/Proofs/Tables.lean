import Mathlib.Data.List.Perm.Subperm
import TemplateLang.Value.Table

/-!
# Tables written over each other

A table of distinct names keeps its names distinct when it is written, and a name written over
it has the value that was written last.  Where a name stands is decided by who wrote it first,
so writing tables over each other is associative, order included: a table over two others is
the two over each other first and then over the base.
-/

namespace TemplateLang

namespace Table

variable {α : Type}

/-! ## Names -/

/-- A name is bound where it is among the names. -/
theorem isSome_get?_iff {table : Table α} {name : String} :
    (table.get? name).isSome = true ↔ name ∈ table.names := by
  induction table with
  | nil => simp [names]
  | cons entry rest ih =>
    by_cases hit : entry.1 = name
    · simp [names, hit]
    · have hit' : ¬ name = entry.1 := fun same => hit same.symm
      simpa [names, hit, hit'] using ih

/-- Which names are bound depends on the names alone. -/
theorem isSome_get?_congr {first second : Table α} (same : first.names = second.names)
    (name : String) : (first.get? name).isSome = (second.get? name).isSome := by
  rw [Bool.eq_iff_iff, isSome_get?_iff, isSome_get?_iff, same]

/-- A write keeps the names that were there, in order. -/
theorem names_prefix_insert (table : Table α) (name : String) (value : α) :
    table.names <+: (table.insert name value).names := by
  rw [names_insert]
  split
  · exact List.prefix_rfl
  · exact List.prefix_append _ _

/-- Writing a name that is bound keeps the names. -/
theorem names_insert_of_binds {table : Table α} {name : String} (bound : table.binds name = true)
    (value : α) : (table.insert name value).names = table.names := by
  rw [names_insert, if_pos (isSome_get?_iff.mp bound)]

theorem mem_names_insert (table : Table α) (name : String) (value : α) :
    name ∈ (table.insert name value).names := by
  rw [names_insert]
  split
  · assumption
  · simp

/-! ## Distinct names -/

theorem distinct_nil : Distinct ([] : Table α) :=
  List.nodup_nil

/-- A write keeps names distinct. -/
theorem Distinct.insert {table : Table α} (distinct : table.Distinct)
    (name : String) (value : α) : (table.insert name value).Distinct := by
  unfold Table.Distinct at distinct ⊢
  rw [Table.names_insert]
  split
  · exact distinct
  · rename_i isNew
    rw [List.nodup_append]
    refine ⟨distinct, List.pairwise_singleton _ name, ?_⟩
    rintro other isName _ isLast rfl
    rw [List.mem_singleton.mp isLast] at isName
    exact isNew isName

/-- Writing entries over a table keeps its names distinct. -/
theorem Distinct.overlay {base : Table α} (distinct : base.Distinct) (entries : Table α) :
    (base.overlay entries).Distinct := by
  induction entries generalizing base with
  | nil => exact distinct
  | cons entry rest ih => exact ih (distinct.insert entry.1 entry.2)

theorem distinct_ofEntries (entries : List (String × α)) : (ofEntries entries).Distinct :=
  distinct_nil.overlay entries

/-! ## What is found -/

/-- Entries written over a table come before those of the table. -/
theorem get?_overlay {entries : Table α} (distinct : entries.Distinct) (base : Table α)
    (name : String) :
    (base.overlay entries).get? name = (entries.get? name).or (base.get? name) := by
  induction entries generalizing base with
  | nil => rfl
  | cons entry rest ih =>
    obtain ⟨isNew, distinctRest⟩ := List.nodup_cons.mp distinct
    have step : (base.overlay (entry :: rest)).get? name =
        ((base.insert entry.1 entry.2).overlay rest).get? name := rfl
    rw [step, ih distinctRest, get?_insert, get?_cons]
    by_cases isEntry : entry.1 = name
    · have noOther : get? rest name = none := by
        rw [← isEntry, ← Option.not_isSome_iff_eq_none, isSome_get?_iff]
        exact isNew
      rw [if_pos isEntry, if_pos isEntry, noOther, Option.none_or, Option.some_or]
    · rw [if_neg isEntry, if_neg isEntry]

/-- Where names are distinct, every entry is found. -/
theorem get?_of_mem {table : Table α} (distinct : table.Distinct) {entry : String × α}
    (isIn : entry ∈ table) : table.get? entry.1 = some entry.2 := by
  induction table with
  | nil => exact nomatch isIn
  | cons first rest ih =>
    obtain ⟨isNew, distinctRest⟩ := List.nodup_cons.mp distinct
    rcases List.mem_cons.mp isIn with rfl | isLater
    · simp
    · have differ : first.1 ≠ entry.1 := fun same =>
        isNew (List.mem_map.mpr ⟨entry, isLater, same.symm⟩)
      rw [get?_cons, if_neg differ, ih distinctRest isLater]

/-- What is found under a name is an entry. -/
theorem mem_of_get? {table : Table α} {name : String} {value : α}
    (found : table.get? name = some value) : (name, value) ∈ table := by
  induction table with
  | nil => exact nomatch found
  | cons first rest ih =>
    rw [get?_cons] at found
    split at found
    · rename_i isFirst
      cases found
      exact isFirst ▸ List.mem_cons_self
    · exact List.mem_cons_of_mem first (ih found)

/-- Where names are distinct, the order of the entries does not matter to what is found. -/
theorem get?_perm {first second : Table α} (distinct : first.Distinct)
    (reordered : first.Perm second) (name : String) : first.get? name = second.get? name := by
  have distinct' : second.Distinct := (reordered.map Prod.fst).nodup_iff.mp distinct
  ext value
  constructor
  · intro found
    exact get?_of_mem distinct' (reordered.mem_iff.mp (mem_of_get? found))
  · intro found
    exact get?_of_mem distinct (reordered.mem_iff.mpr (mem_of_get? found))

/-! ## Counting names -/

theorem length_names (table : Table α) : table.names.length = table.length :=
  List.length_map _

/-- Distinct names among those of a table that is not longer are all of its names. -/
theorem mem_names_iff_of_subset {first second : Table α} (distinct : first.Distinct)
    (within : first.names ⊆ second.names) (noMore : second.length ≤ first.length)
    (name : String) : name ∈ first.names ↔ name ∈ second.names := by
  rw [← length_names, ← length_names] at noMore
  exact ((List.subperm_of_subset distinct within).perm_of_length_le noMore).mem_iff

/-- Tables of the same distinct names have as many entries. -/
theorem length_eq_of_same_names {first second : Table α} (distinct : first.Distinct)
    (distinct' : second.Distinct) (same : ∀ name, name ∈ first.names ↔ name ∈ second.names) :
    first.length = second.length := by
  rw [← length_names, ← length_names]
  exact ((List.perm_ext_iff_of_nodup distinct distinct').mpr same).length_eq

/-! ## The order of names -/

@[simp]
theorem overlay_nil (base : Table α) : base.overlay [] = base :=
  rfl

@[simp]
theorem overlay_cons (base : Table α) (entry : String × α) (rest : Table α) :
    base.overlay (entry :: rest) = (base.insert entry.1 entry.2).overlay rest :=
  rfl

/-- Of two writes of one name the second one counts. -/
@[simp]
theorem insert_insert (table : Table α) (name : String) (old value : α) :
    (table.insert name old).insert name value = table.insert name value := by
  induction table with
  | nil => simp [insert]
  | cons entry rest ih =>
    by_cases hit : entry.1 = name <;> simp [insert, hit, ih]

/-- The write of a name that has its place already can be put off. -/
theorem insert_comm {table : Table α} {name other : String} (bound : name ∈ table.names)
    (differ : name ≠ other) (value value' : α) :
    (table.insert name value).insert other value' =
      (table.insert other value').insert name value := by
  induction table with
  | nil => simp [names] at bound
  | cons entry rest ih =>
    by_cases hit : entry.1 = name
    · simp [insert, hit, differ]
    · have boundRest : name ∈ names rest := (List.mem_cons.mp bound).resolve_left (Ne.symm hit)
      by_cases isOther : entry.1 = other
      · simp [insert, isOther, differ.symm]
      · simp [insert, hit, isOther, ih boundRest]

/-- The write of a name that has its place can be put off until other names are written. -/
theorem overlay_insert_comm {base entries : Table α} {name : String}
    (bound : name ∈ base.names) (absent : name ∉ entries.names) (value : α) :
    (base.insert name value).overlay entries = (base.overlay entries).insert name value := by
  induction entries generalizing base with
  | nil => rfl
  | cons entry rest ih =>
    obtain ⟨differ, absentRest⟩ := not_or.mp fun isIn => absent (List.mem_cons.mpr isIn)
    have stays : name ∈ (base.insert entry.1 entry.2).names :=
      (names_prefix_insert base entry.1 entry.2).subset bound
    rw [overlay_cons, overlay_cons, insert_comm bound differ, ih stays absentRest]

/-- A name can be written among the entries, or over the base after them. -/
theorem overlay_insert {entries : Table α} (distinct : entries.Distinct) (base : Table α)
    (name : String) (value : α) :
    base.overlay (entries.insert name value) = (base.overlay entries).insert name value := by
  induction entries generalizing base with
  | nil => rfl
  | cons entry rest ih =>
    obtain ⟨isNew, distinctRest⟩ := List.nodup_cons.mp distinct
    by_cases hit : entry.1 = name
    · subst hit
      have bound := mem_names_insert base entry.1 entry.2
      rw [overlay_cons, ← overlay_insert_comm bound isNew, insert_insert, insert, if_pos rfl,
        overlay_cons]
    · rw [insert, if_neg hit, overlay_cons, ih distinctRest, overlay_cons]

/-- Tables written over each other may be grouped either way. -/
theorem overlay_overlay {first : Table α} (distinct : first.Distinct) (base second : Table α) :
    (base.overlay first).overlay second = base.overlay (first.overlay second) := by
  induction second generalizing first with
  | nil => rfl
  | cons entry rest ih =>
    rw [overlay_cons, overlay_cons, ← overlay_insert distinct, ih (distinct.insert _ _)]

/-- A new name is written at the end. -/
theorem insert_of_notMem {table : Table α} {name : String} (absent : name ∉ table.names)
    (value : α) : table.insert name value = table ++ [(name, value)] := by
  induction table with
  | nil => rfl
  | cons entry rest ih =>
    obtain ⟨differ, absentRest⟩ := not_or.mp fun isIn => absent (List.mem_cons.mpr isIn)
    rw [insert, if_neg (Ne.symm differ), ih absentRest, List.cons_append]

/-- Entries with new and distinct names are written at the end, in order. -/
theorem overlay_of_distinct {base entries : Table α} (distinct : (base ++ entries).Distinct) :
    base.overlay entries = base ++ entries := by
  induction entries generalizing base with
  | nil => rw [overlay_nil, List.append_nil]
  | cons entry rest ih =>
    have absent : entry.1 ∉ base.names := by
      intro isIn
      rw [Distinct, names, List.map_append] at distinct
      exact (List.nodup_append.mp distinct).2.2 _ isIn _ (by simp) rfl
    have joined : base ++ entry :: rest = (base ++ [entry]) ++ rest := by simp
    rw [overlay_cons, insert_of_notMem absent, ih (joined ▸ distinct), ← joined]

/-- A table of distinct names is the table of its entries. -/
theorem ofEntries_of_distinct {table : Table α} (distinct : table.Distinct) :
    ofEntries table = table :=
  overlay_of_distinct distinct

end Table

end TemplateLang
