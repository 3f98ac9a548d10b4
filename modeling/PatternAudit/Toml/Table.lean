import PatternAudit.Toml.Value

/-! Tables under construction. A table remembers how it came to be, because that decides who may
still add to it: a header defines a table once, dotted keys add only to tables that dotted keys
made, and nothing adds to an inline table.
-/

namespace PatternAudit.Toml

/-- How a table came to be. -/
inductive Origin where
  /-- By its own header. -/
  | header
  /-- By the header of a table below it. -/
  | implied
  /-- By a dotted key. -/
  | dotted
  deriving DecidableEq

/-- What a key stands for while a document is read. -/
inductive Item where
  | value (given : Value)
  | table (origin : Origin) (entries : List (String × Item))
  /-- An array of tables, of which only the last can still be added to. -/
  | tables (closed : List Value) (last : List (String × Item))

/-- The entries of a table under construction. -/
abbrev Entries := List (String × Item)

mutual

/-- The value of a finished item. -/
def Item.toValue : Item → Value
  | .value given => given
  | .table _ entries => .table (Item.toValues entries)
  | .tables closed last => .array (closed ++ [.table (Item.toValues last)])

/-- The values of finished entries. -/
def Item.toValues : List (String × Item) → List (String × Value)
  | [] => []
  | (key, item) :: entries => (key, item.toValue) :: toValues entries

end

namespace Entries

/-- Gives a key an item; a new key comes last. -/
def put (key : String) (item : Item) : Entries → Entries
  | [] => [(key, item)]
  | (other, old) :: entries =>
    if other = key then (key, item) :: entries else (other, old) :: put key item entries

/-- Adds a key that is not there yet. -/
def define (key : String) (value : Value) (entries : Entries) : Option Entries :=
  if (entries.lookup key).isSome then none else some (entries ++ [(key, .value value)])

/-- Adds a value under a dotted key, given as the names before the last and the last. The tables
on the way are made as needed; none of them may have a header, and the one that is added to must
come from dotted keys.
-/
def defineDotted (key : String) (value : Value) : List String → Entries → Option Entries
  | [], entries => entries.define key value
  | name :: names, entries =>
    match entries.lookup name with
    | none => do return entries.put name (.table .dotted (← defineDotted key value names []))
    | some (.table origin below) =>
      if origin = .header ∨ (names = [] ∧ origin ≠ .dotted) then none
      else do return entries.put name (.table origin (← defineDotted key value names below))
    | some (.tables closed last) =>
      if names = [] then none
      else do return entries.put name (.tables closed (← defineDotted key value names last))
    | some (.value _) => none

/-- Changes the table that names lead to. Tables on the way that do not exist are implied, and in
an array of tables the last one is meant.
-/
def within (change : Entries → Option Entries) : List String → Entries → Option Entries
  | [], entries => change entries
  | name :: names, entries =>
    match entries.lookup name with
    | none => do return entries.put name (.table .implied (← within change names []))
    | some (.table origin below) => do
      return entries.put name (.table origin (← within change names below))
    | some (.tables closed last) => do
      return entries.put name (.tables closed (← within change names last))
    | some (.value _) => none

/-- Defines a table by its header. It may have been implied before. -/
def openTable (key : String) (entries : Entries) : Option Entries :=
  match entries.lookup key with
  | none => some (entries.put key (.table .header []))
  | some (.table .implied below) => some (entries.put key (.table .header below))
  | some _ => none

/-- Begins the next table of an array of tables. -/
def openNext (key : String) (entries : Entries) : Option Entries :=
  match entries.lookup key with
  | none => some (entries.put key (.tables [] []))
  | some (.tables closed last) =>
    some (entries.put key (.tables (closed ++ [.table (Item.toValues last)]) []))
  | some _ => none

end Entries

end PatternAudit.Toml
