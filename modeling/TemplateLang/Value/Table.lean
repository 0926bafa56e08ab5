/-!
# Insertion-ordered tables

A table maps names to values and remembers the order in which the names were
first written.  Writing a name again changes its value in place.
-/

namespace TemplateLang

/-- Names with values, in the order of their first insertion. -/
abbrev Table (α : Type) : Type :=
  List (String × α)

namespace Table

variable {α : Type}

/-- The value of a name. -/
def get? : Table α → String → Option α
  | [], _ => none
  | (key, value) :: rest, name => if key = name then some value else get? rest name

/-- Write a name: in place if it is there, else at the end. -/
def insert : Table α → String → α → Table α
  | [], name, value => [(name, value)]
  | (key, old) :: rest, name, value =>
    if key = name then (key, value) :: rest else (key, old) :: insert rest name value

/-- Write the entries of one table over another, in order. -/
def overlay (base entries : Table α) : Table α :=
  entries.foldl (fun table entry => insert table entry.1 entry.2) base

/-- The table of a list of entries, of which the last with a name counts. -/
def ofEntries (entries : List (String × α)) : Table α :=
  overlay [] entries

/-- The names of a table, in order. -/
def names (table : Table α) : List String :=
  table.map (·.1)

/-- Whether a name is bound. -/
def binds (table : Table α) (name : String) : Bool :=
  (table.get? name).isSome

/-- No name occurs twice. -/
def Distinct (table : Table α) : Prop :=
  table.names.Nodup

@[simp]
theorem get?_nil (name : String) : get? ([] : Table α) name = none :=
  rfl

@[simp]
theorem get?_cons (entry : String × α) (rest : Table α) (name : String) :
    get? (entry :: rest) name = if entry.1 = name then some entry.2 else get? rest name :=
  rfl

/-- A written name has the written value and every other name keeps its own. -/
@[simp]
theorem get?_insert (table : Table α) (name other : String) (value : α) :
    get? (insert table name value) other =
      if name = other then some value else get? table other := by
  induction table with
  | nil => simp [insert]
  | cons entry rest ih =>
    by_cases hit : entry.1 = name
    · subst hit
      by_cases same : entry.1 = other <;> simp [insert, same]
    · by_cases same : name = other
      · subst same
        simp [insert, hit, ih]
      · simp only [insert, hit, if_false, get?_cons, ih, same]

/-- The names after a write. -/
theorem names_insert (table : Table α) (name : String) (value : α) :
    names (insert table name value) =
      if name ∈ names table then names table else names table ++ [name] := by
  induction table with
  | nil => simp [insert, names]
  | cons entry rest ih =>
    simp only [names] at ih
    by_cases hit : entry.1 = name
    · simp [insert, names, hit]
    · have hit' : ¬ name = entry.1 := fun h => hit h.symm
      by_cases inside : name ∈ rest.map (·.1) <;>
        simp_all [insert, names]

end Table

end TemplateLang
