/-
Module: TypedQuery.Toml.Document
Purpose: TOML documents as trees, and the rules on what may be defined twice.
Trusted boundary: these rules are assumed of the TOML library, as the grammar of Toml.Reader is.
Main exports: Toml.Item, Toml.Table, Table.descend, Table.define, Draft,
  Draft.onEntry, Draft.onHeader, Draft.onArrayHeader, Draft.finish
-/

namespace TypedQuery.Toml

mutual

/-- What a key can stand for. Numbers and dates that are only recognised keep
their text. -/
inductive Item
  | string (text : String)
  | integer (value : Int)
  | float (text : String)
  | boolean (value : Bool)
  | dateTime (text : String)
  | array (items : List Item)
  /-- A table written in one line as a value; it is complete. -/
  | inline (table : Table)
  /-- A table made by a header or by a dotted key. -/
  | table (table : Table)
  /-- Tables made by headers in double brackets. -/
  | tables (elements : List Table)

/-- Keys with what they stand for. -/
structure Table where
  entries : List Entry
  /-- Made on the way to another table, not by a header of its own. -/
  implicit : Bool
  /-- Made by a dotted key. -/
  dotted : Bool

/-- A key with what it stands for. -/
structure Entry where
  key : String
  item : Item

end

instance : Inhabited Item := ⟨.boolean false⟩
instance : Inhabited Table := ⟨⟨[], false, false⟩⟩

namespace Table

/-- A table with a header and nothing in it. -/
def empty : Table := ⟨[], false, false⟩

/-- What the key stands for. -/
def get? (table : Table) (key : String) : Option Item :=
  (table.entries.find? (·.key == key)).map (·.item)

/-- Put an item under a key in an entry list. -/
def setEntry (key : String) (item : Item) : List Entry → List Entry
  | [] => [⟨key, item⟩]
  | entry :: rest =>
    if entry.key = key then ⟨key, item⟩ :: rest else entry :: setEntry key item rest

/-- Put an item under a key, in place of an earlier one. -/
def set (table : Table) (key : String) (item : Item) : Table :=
  { table with entries := setEntry key item table.entries }

/-- Take a key out. -/
def erase (table : Table) (key : String) : Table :=
  { table with entries := table.entries.filter (·.key != key) }

/-- Change the table at the end of a path, making the tables on the way that are
missing. A path leads through the last element of an array of tables; it does not
lead through values, and a dotted one does not through tables with a header of
their own. -/
def descend (dotted : Bool) (change : Table → Option Table) : List String → Table → Option Table
  | [], table => change table
  | key :: path, table =>
    match table.get? key with
    | none => do
      let child ← descend dotted change path ⟨[], true, dotted⟩
      return table.set key (.table child)
    | some (.table child) =>
      if dotted && !child.implicit then none
      else do
        let child ← descend dotted change path child
        return table.set key (.table child)
    | some (.tables elements) => do
      let last ← elements.getLast?
      let last ← descend dotted change path last
      return table.set key (.tables (elements.dropLast ++ [last]))
    | some _ => none

/-- Define a dotted key. A key is defined once, and a dotted key adds only to
tables that dotted keys made. -/
def define (path : List String) (key : String) (item : Item) (table : Table) : Option Table :=
  let add (target : Table) : Option Table :=
    if target.dotted == path.isEmpty then none
    else if (target.get? key).isSome then none
    else some (target.set key item)
  descend true add path table

/-- Define several dotted keys in turn. -/
def defineAll : List (List String × String × Item) → Table → Option Table
  | [], table => some table
  | (path, key, item) :: rest, table => do
    let table ← table.define path key item
    defineAll rest table

end Table

/-! ### Reading headers -/

/-- A document while it is read: the finished part, and the table under the latest
header, which is put in place when the next one comes. -/
structure Draft where
  root : Table
  current : Table
  /-- Path of the current table; empty before the first header. -/
  path : List String
  /-- The current table is an element of an array of tables. -/
  isElement : Bool

namespace Draft

/-- Nothing read yet. -/
def start : Draft := ⟨.empty, .empty, [], false⟩

/-- Put the current table in place. -/
def finish (draft : Draft) : Option Table :=
  match draft.path.getLast? with
  | none => some draft.current
  | some key =>
    let place (parent : Table) : Option Table :=
      if draft.isElement then
        match parent.get? key with
        | some (.tables elements) => some (parent.set key (.tables (elements ++ [draft.current])))
        | none => some (parent.set key (.tables [draft.current]))
        | _ => none
      else some (parent.set key (.table draft.current))
    draft.root.descend false place draft.path.dropLast

/-- An entry below the latest header. -/
def onEntry (draft : Draft) (path : List String) (key : String) (item : Item) : Option Draft := do
  let current ← draft.current.define path key item
  return { draft with current := current }

/-- The table that a header names, if it may be opened: a new one, or one that so
far was only on the way to others. -/
def reopened (root : Table) : List String → Option Table
  | [] => none
  | [key] =>
    match root.get? key with
    | none => some .empty
    | some (.table table) =>
      if table.implicit && !table.dotted then some { table with implicit := false } else none
    | some _ => none
  | key :: path =>
    match root.get? key with
    | none => some .empty
    | some (.table table) => reopened table path
    | some (.tables elements) => elements.getLast?.bind (reopened · path)
    | some _ => none

/-- A header: the table under it is opened and, until it is finished, taken out of
the document. -/
def onHeader (draft : Draft) (path : List String) : Option Draft := do
  let root ← draft.finish
  let current ← reopened root path
  let key ← path.getLast?
  let root ← root.descend false (fun parent => some (parent.erase key)) path.dropLast
  return ⟨root, current, path, false⟩

/-- A header in double brackets: a new element of an array of tables. -/
def onArrayHeader (draft : Draft) (path : List String) : Option Draft := do
  let root ← draft.finish
  let key ← path.getLast?
  let prepare (parent : Table) : Option Table :=
    match parent.get? key with
    | none => some (parent.set key (.tables []))
    | some (.tables _) => some parent
    | some _ => none
  let root ← root.descend false prepare path.dropLast
  return ⟨root, .empty, path, true⟩

end Draft

end TypedQuery.Toml
