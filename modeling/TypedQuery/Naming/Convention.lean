/-
Module: TypedQuery.Naming.Convention
Purpose: Naming conventions: text put in front of every name, and the letter case
  of what follows. A convention is written as a TOML document with four entries.
Main exports: Convention, Convention.resolver, Convention.toToml, Convention.ofToml
-/
import TypedQuery.Error
import TypedQuery.Naming.LetterCase
import TypedQuery.Naming.Resolver
import TypedQuery.Toml.Reader
import TypedQuery.Toml.Writer

namespace TypedQuery

/-- How names in the database are derived from those of models and members. The
lead of a name is not subject to its letter case. -/
structure Convention where
  tableLead : String
  columnLead : String
  tableCase : LetterCase
  columnCase : LetterCase
deriving Repr, DecidableEq

namespace Convention

/-- Names are left as they are. -/
def identity : Convention := ⟨"", "", .preserve, .preserve⟩

instance : Inhabited Convention := ⟨identity⟩

/-- The resolver that follows the convention. -/
def resolver (convention : Convention) : Resolver where
  tableName model := convention.tableLead ++ convention.tableCase.apply model.name
  columnName member := convention.columnLead ++ convention.columnCase.apply member.name

/-! ### Entries of a document -/

def tableLeadKey : String := "table_prefix"
def columnLeadKey : String := "column_prefix"
def tableCaseKey : String := "table_case"
def columnCaseKey : String := "column_case"

/-- The convention as a document: the four entries, one a line. -/
def toToml (convention : Convention) : String :=
  Toml.writeEntry tableLeadKey convention.tableLead ++
    Toml.writeEntry columnLeadKey convention.columnLead ++
    Toml.writeEntry tableCaseKey convention.tableCase.keyword ++
    Toml.writeEntry columnCaseKey convention.columnCase.keyword

/-- Nothing is in the item. -/
def isVacant : Toml.Item → Bool
  | .inline table | .table table => table.entries.isEmpty
  | .array items => items.isEmpty
  | .tables elements => elements.isEmpty
  | _ => false

/-- A letter case: its keyword, or a table that holds the keyword alone with
nothing in it. -/
def readCase : Toml.Item → Option LetterCase
  | .string word => LetterCase.ofKeyword? word
  | .inline table | .table table =>
    match table.entries with
    | [entry] => if isVacant entry.item then LetterCase.ofKeyword? entry.key else none
    | _ => none
  | _ => none

/-- A text. -/
def readLead : Toml.Item → Option String
  | .string text => some text
  | _ => none

/-- An entry of a table, or a default when the table lacks it. -/
def readOr {α : Type} (absent : α) (read : Toml.Item → Option α) (key : String)
    (table : Toml.Table) : Option α :=
  match table.get? key with
  | none => some absent
  | some item => read item

/-- The convention that a table describes. Entries with other keys do not matter. -/
def ofTable? (table : Toml.Table) : Option Convention := do
  let tableLead ← readOr "" readLead tableLeadKey table
  let columnLead ← readOr "" readLead columnLeadKey table
  let tableCase ← readOr .preserve readCase tableCaseKey table
  let columnCase ← readOr .preserve readCase columnCaseKey table
  return ⟨tableLead, columnLead, tableCase, columnCase⟩

/-- Read a convention from a document. -/
def ofToml (text : String) : Except Error Convention :=
  match (Toml.readDocument text).bind ofTable? with
  | some convention => .ok convention
  | none => .error (.config .malformed)

end Convention

end TypedQuery
