/-
Module: TypedQuery.Sql.Parameters
Purpose: The values bound by a command, in the order of their registration.
Main exports: Parameters, Parameters.getThenInsert?, Parameters.insert, Parameters.merge,
  Parameters.ofList, Command
-/
import TypedQuery.Value

namespace TypedQuery

/-- Values by placeholder name, in the order in which the names were first
inserted. -/
structure Parameters where
  entries : List (String × Value)
deriving Repr, Inhabited

namespace Parameters

/-- No values. -/
def empty : Parameters := ⟨[]⟩

/-- Put a value under a name into an entry list: at the name's position if it has
one, else at the end. -/
def insertEntry (name : String) (value : Value) : List (String × Value) → List (String × Value)
  | [] => [(name, value)]
  | (first, held) :: rest =>
    if first = name then (first, value) :: rest
    else (first, held) :: insertEntry name value rest

/-- Value bound to a name. -/
def get? (parameters : Parameters) (name : String) : Option Value :=
  (parameters.entries.find? (·.1 == name)).map Prod.snd

/-- Bind a value to a name, and give the value that it replaces, if there is one. A name
that is bound already keeps its position. -/
def getThenInsert? (parameters : Parameters) (name : String) (value : Value) :
    Option Value × Parameters :=
  (parameters.get? name, ⟨insertEntry name value parameters.entries⟩)

/-- Bind a value to a name, whatever it replaces. -/
def insert (parameters : Parameters) (name : String) (value : Value) : Parameters :=
  (parameters.getThenInsert? name value).2

theorem insert_eq (parameters : Parameters) (name : String) (value : Value) :
    parameters.insert name value = ⟨insertEntry name value parameters.entries⟩ := rfl

/-- Bind the pairs one by one. -/
def insertAll (parameters : Parameters) (pairs : List (String × Value)) : Parameters :=
  pairs.foldl (fun held (name, value) => held.insert name value) parameters

/-- Add all entries of `other`; where both bind a name the value of `other`
counts. -/
def merge (parameters other : Parameters) : Parameters := parameters.insertAll other.entries

/-- The parameters that pairs describe, the last pair of a name counting. -/
def ofList (pairs : List (String × Value)) : Parameters := empty.insertAll pairs

/-- Bound names in order. -/
def names (parameters : Parameters) : List String := parameters.entries.map Prod.fst

/-- Number of bound names. -/
def size (parameters : Parameters) : Nat := parameters.entries.length

/-- Nothing is bound. -/
def isEmpty (parameters : Parameters) : Bool := parameters.entries.isEmpty

/-- The same names bound to the same values, in any order. -/
def same (first second : Parameters) : Bool :=
  first.size == second.size && first.entries.all fun (name, value) =>
    match second.get? name with
    | some other => value.same other
    | none => false

/-- The parameters as a JSON object. -/
def json (parameters : Parameters) : String :=
  Json.object (parameters.entries.map fun (name, value) => (name, value.json))

end Parameters

/-- An SQL text and the values of its placeholders. -/
structure Command where
  text : String
  parameters : Parameters
deriving Repr, Inhabited

namespace Command

/-- A text that binds nothing. -/
def textOnly (text : String) : Command := ⟨text, .empty⟩

/-- Same text, same values. -/
def same (first second : Command) : Bool :=
  first.text == second.text && first.parameters.same second.parameters

/-- The command as a JSON object. -/
def json (command : Command) : String :=
  Json.object [("text", Json.quote command.text), ("parameters", command.parameters.json)]

end Command

end TypedQuery
