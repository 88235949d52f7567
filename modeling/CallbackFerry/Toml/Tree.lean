import CallbackFerry.Settings.Value

/-!
# The tables of a document

A TOML document builds its tables statement by statement, and what a later statement may still add
to a table depends on how the table came about: because a header named it, because a header passed
through it, or because a dotted key did.  `Item` keeps that with each table, and `Entries.descend`
is the one way down a path.  A list of tables grows by headers, and a path always goes on in its
newest member.
-/

namespace CallbackFerry.Toml

/-- How a table came about. -/
inductive Standing where
  /-- A header names it; so does the document itself. -/
  | named
  /-- A header passes through it. -/
  | passed
  /-- A dotted key passes through it. -/
  | dotted
  deriving DecidableEq, Repr

/-- What a name stands for while the document is being read. -/
inductive Item where
  /-- A value written out in one place, to which nothing is added. -/
  | leaf (value : Value)
  /-- A table. -/
  | table (standing : Standing) (entries : List (String × Item))
  /-- A list of tables, the newest first. -/
  | tables (newestFirst : List (List (String × Item)))

/-- The names of a table and what they stand for. -/
abbrev Entries := List (String × Item)

namespace Entries

/-- The entries with one name given a new meaning. -/
def set (entries : Entries) (name : String) (item : Item) : Entries :=
  if (entries.lookup name).isSome then
    entries.map fun entry => if entry.1 = name then (name, item) else entry
  else entries ++ [(name, item)]

/-- Goes down a path and changes the table it finds there, making the tables that are missing.
`standing` is how the first table came about.  A dotted path does not enter a table that a header
names, and no path enters a value. -/
def descend (byDots : Bool)
    (change : Standing → Entries → Option Entries) :
    (path : List String) → Standing → Entries → Option Entries
  | [], standing, entries => change standing entries
  | name :: path, _, entries =>
    match entries.lookup name with
    | none =>
      let standing : Standing := if byDots then .dotted else .passed
      (descend byDots change path standing []).map fun inner =>
        entries.set name (.table standing inner)
    | some (.leaf _) => none
    | some (.table standing inner) =>
      if byDots ∧ standing = .named then none
      else (descend byDots change path standing inner).map fun inner =>
        entries.set name (.table standing inner)
    | some (.tables []) => none
    | some (.tables (newest :: older)) =>
      (descend byDots change path .named newest).map fun newest =>
        entries.set name (.tables (newest :: older))

/-- Adds a value under a dotted key.  The table it lands in must have come about by dots, and be
the first one exactly if there are no dots; and the name must be free. -/
def addPair (path : List String) (name : String) (value : Value) (standing : Standing)
    (entries : Entries) : Option Entries :=
  entries.descend true (fun standing entries =>
    if standing = .dotted ↔ path = [] then none
    else if (entries.lookup name).isSome then none
    else some (entries.set name (.leaf value))) path standing

/-- Opens the table of a header.  It must be new, or one that headers only passed through. -/
def openTable (name : String) (entries : Entries) : Option Entries :=
  match entries.lookup name with
  | none => some (entries.set name (.table .named []))
  | some (.table .passed inner) => some (entries.set name (.table .named inner))
  | some _ => none

/-- Opens one more table of a list. -/
def openMember (name : String) (entries : Entries) : Option Entries :=
  match entries.lookup name with
  | none => some (entries.set name (.tables [[]]))
  | some (.tables older) => some (entries.set name (.tables ([] :: older)))
  | some _ => none

end Entries

mutual

/-- What an item is as plain data. -/
def Item.value : Item → Value
  | .leaf value => value
  | .table _ entries => .table (entryValues entries)
  | .tables newestFirst => .list (tableValues newestFirst).reverse

/-- The entries of a table as plain data. -/
def entryValues : List (String × Item) → List (String × Value)
  | [] => []
  | (name, item) :: rest => (name, item.value) :: entryValues rest

/-- A list of tables as plain data, in the order they are held. -/
def tableValues : List (List (String × Item)) → List Value
  | [] => []
  | entries :: rest => .table (entryValues entries) :: tableValues rest

end

end CallbackFerry.Toml
