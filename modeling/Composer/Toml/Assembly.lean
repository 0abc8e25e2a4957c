import Composer.Toml.Basic
set_option autoImplicit false

/-!
# From statements to a table

Statements are applied in their order. No key is assigned twice, no table is opened twice, and a
table that was opened by a header is not extended through dotted keys. A path that leads through a
list of tables means the list's last item.
-/

namespace Composer.Toml

/-- How a table came about. -/
inductive Origin where
  /-- As a part of a header's path; a header may still open it. -/
  | implied
  /-- As a part of a dotted key. -/
  | dotted
  /-- Through a header of its own. -/
  | opened
  deriving DecidableEq, Repr

/-- What stands under a key while a document is put together. -/
inductive Entry where
  | value (v : Toml)
  | table (origin : Origin) (entries : List (String × Entry))
  | tables (items : List (List (String × Entry)))
  deriving Repr

/-- The entries of a table in the order in which they were added. -/
abbrev Entries := List (String × Entry)

/-- Replaces the entry under a key, or adds one at the end. -/
def put (key : String) (e : Entry) : Entries → Entries
  | [] => [(key, e)]
  | (k, old) :: rest => if k = key then (k, e) :: rest else (k, old) :: put key e rest

/-- Changes the table at a path below a table, given how that table came about; `dotted` tells
whether the path is part of a dotted key. Tables that are missing on the way are added. -/
def descend (dotted : Bool) (change : Origin → Entries → Option Entries) :
    (path : List String) → Origin → Entries → Option Entries
  | [], origin, entries => change origin entries
  | key :: path, _, entries =>
    match entries.lookup key with
    | none => do
      let origin : Origin := if dotted then .dotted else .implied
      return put key (.table origin (← descend dotted change path origin [])) entries
    | some (.value _) => none
    | some (.table origin inner) => do
      if dotted && origin == .opened then none
      return put key (.table origin (← descend dotted change path origin inner)) entries
    | some (.tables items) => do
      let last ← items.getLast?
      let last ← descend dotted change path .opened last
      return put key (.tables (items.dropLast ++ [last])) entries

/-- Adds a value under a key that is not in use. -/
def addValue (key : String) (v : Toml) (entries : Entries) : Option Entries :=
  if (entries.lookup key).isSome then none else some (put key (.value v) entries)

/-- Assigns a value below a table. A table that is reached through a dotted key must have come about
that way. -/
def assign (path : List String) (v : Toml) (entries : Entries) : Option Entries := do
  let key ← path.getLast?
  let way := path.dropLast
  descend true (fun origin inner =>
    if !way.isEmpty && origin != .dotted then none else addValue key v inner) way .opened entries

/-- Opens the table at a path. -/
def openTable (path : List String) (root : Entries) : Option Entries := do
  let key ← path.getLast?
  descend false (fun _ entries =>
    match entries.lookup key with
    | none => some (put key (.table .opened []) entries)
    | some (.table .implied inner) => some (put key (.table .opened inner) entries)
    | _ => none) path.dropLast .opened root

/-- Adds an item to the list of tables at a path. -/
def openItem (path : List String) (root : Entries) : Option Entries := do
  let key ← path.getLast?
  descend false (fun _ entries =>
    match entries.lookup key with
    | none => some (put key (.tables [[]]) entries)
    | some (.tables items) => some (put key (.tables (items ++ [[]])) entries)
    | _ => none) path.dropLast .opened root

/-- A document while it is put together: its entries, and the path of the table that is open. -/
structure Assembly where
  root : Entries := []
  current : List String := []
  deriving Repr

/-- The document after one more statement. -/
def Assembly.apply (a : Assembly) : Statement → Option Assembly
  | .assign path v => do
    let root ← descend false (fun _ entries => Toml.assign path v entries) a.current .opened a.root
    return { a with root }
  | .openTable path => do
    let root ← Toml.openTable path a.root
    return { root, current := path }
  | .openItem path => do
    let root ← Toml.openItem path a.root
    return { root, current := path }

mutual

/-- The value of an entry. -/
def Entry.toToml : Entry → Toml
  | .value v => v
  | .table _ entries => .table (membersOf entries)
  | .tables items => .array (tablesOf items)

/-- The members of a table. -/
def membersOf : List (String × Entry) → List (String × Toml)
  | [] => []
  | (k, e) :: rest => (k, e.toToml) :: membersOf rest

/-- The tables of a list. -/
def tablesOf : List (List (String × Entry)) → List Toml
  | [] => []
  | entries :: rest => .table (membersOf entries) :: tablesOf rest

end

/-- The table that a sequence of statements describes. -/
def ofStatements (statements : List Statement) : Option Toml := do
  let a ← statements.foldlM Assembly.apply {}
  return .table (membersOf a.root)

/-- The table that the assignments between two braces describe. -/
def ofPairs (pairs : List (List String × Toml)) : Option Toml := do
  let entries ← pairs.foldlM (fun entries (path, v) => assign path v entries) []
  return .table (membersOf entries)

end Composer.Toml
