import TemplateLang.Value.Basic

/-!
# Trees of tables

A TOML document writes its tables in pieces: under headers, by keys with dots, and in
braces.  A tree remembers how each table came to be, since that decides what may still
be added: a header names a table once, keys with dots add only to tables that they
made themselves, and a table in braces is complete.
-/

namespace TemplateLang.Toml

/-- How a table came to be: named by a header, on the way to one, or made by a key
with dots. -/
inductive Origin where
  | named
  | onTheWay
  | dotted
deriving DecidableEq, Repr

/-- What a key has in a document. -/
inductive Node where
  | leaf (value : Value)
  | table (origin : Origin) (entries : List (String × Node))
  | tables (earlier : List Node) (last : List (String × Node))

/-- The entries of a table. -/
abbrev Entries : Type :=
  Table Node

namespace Node

/-- Change what is in the table that keys lead to, making the tables on the way.  The
change is told how that table came to be. -/
def changeAt (made : Origin) (change : Origin → Entries → Option Entries) :
    List String → Origin → Entries → Option Entries
  | [], origin, entries => change origin entries
  | key :: rest, _, entries =>
    match Table.get? entries key with
    | none => do
      let inner ← changeAt made change rest made []
      some (Table.insert entries key (.table made inner))
    | some (.table origin inner) =>
      if made = .dotted && origin = .named then none
      else do
        let inner ← changeAt made change rest origin inner
        some (Table.insert entries key (.table origin inner))
    | some (.tables earlier last) => do
      let last ← changeAt made change rest .named last
      some (Table.insert entries key (.tables earlier last))
    | some (.leaf _) => none

/-- Write a value under keys with dots, in the table at a place. -/
def write (place keys : List String) (value : Value) (root : Entries) : Option Entries :=
  match keys.getLast? with
  | none => none
  | some key =>
    let add (origin : Origin) (entries : Entries) : Option Entries :=
      let isDottedPlace := origin = .dotted
      if isDottedPlace != !keys.dropLast.isEmpty || Table.binds entries key then none
      else some (Table.insert entries key (.leaf value))
    changeAt .onTheWay (fun origin entries => changeAt .dotted add keys.dropLast origin entries)
      place .named root

/-- Name a table in a header. -/
def openTable (keys : List String) (root : Entries) : Option Entries :=
  match keys.getLast? with
  | none => none
  | some key =>
    changeAt .onTheWay
      (fun _ entries =>
        match Table.get? entries key with
        | none => some (Table.insert entries key (.table .named []))
        | some (.table .onTheWay inner) => some (Table.insert entries key (.table .named inner))
        | _ => none)
      keys.dropLast .named root

/-- Add a table to the array of tables that a header names. -/
def openItem (keys : List String) (root : Entries) : Option Entries :=
  match keys.getLast? with
  | none => none
  | some key =>
    changeAt .onTheWay
      (fun _ entries =>
        match Table.get? entries key with
        | none => some (Table.insert entries key (.tables [] []))
        | some (.tables earlier last) =>
          some (Table.insert entries key (.tables (earlier ++ [.table .named last]) []))
        | _ => none)
      keys.dropLast .named root

/-- Entries in the order of their keys, by code point. -/
def sortKeys (entries : List (String × Value)) : List (String × Value) :=
  entries.mergeSort fun a b => !(decide (b.1 < a.1))

mutual

/-- The value of a node.  Tables have their keys in order. -/
def value : Node → Value
  | leaf value => value
  | table _ entries => .object (sortKeys (entryValues entries))
  | tables earlier last => .array (itemValues earlier ++ [.object (sortKeys (entryValues last))])

/-- The values of nodes. -/
def itemValues : List Node → List Value
  | [] => []
  | node :: rest => node.value :: itemValues rest

/-- The values of entries. -/
def entryValues : List (String × Node) → List (String × Value)
  | [] => []
  | (key, node) :: rest => (key, node.value) :: entryValues rest

end

end Node

end TemplateLang.Toml
