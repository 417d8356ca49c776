/-
Module: TypedQuery.Sql.Aliases
Purpose: The aliases of a command's sources. They come from the names of the
  lambda parameters that range over a source; a join also records in which field
  of its result each side's rows are kept.
Main exports: Aliases, Aliases.bindSource, Aliases.bindJoin, Aliases.advance,
  Aliases.ofParam, Aliases.ofMember?
-/
import TypedQuery.Error

namespace TypedQuery.Sql

/-- What is known about aliases at some point of a command. -/
structure Aliases where
  /-- Put in front of every alias of the command. -/
  path : String
  /-- Fields that hold whole rows of a source, the latest first. -/
  registered : List (Member × String)
  /-- Alias of the source bound last, once rows of the first source can be told
  apart. -/
  last : Option String
deriving Inhabited

namespace Aliases

/-- Nothing bound yet. -/
def start (path : String) : Aliases := ⟨path, [], none⟩

/-- Alias made of a name. -/
def named (aliases : Aliases) (name : String) : String := aliases.path ++ name

/-- Record that a field holds the rows of an alias. -/
def register (aliases : Aliases) (member : Option Member) (table : String) : Aliases :=
  match member with
  | some member => { aliases with registered := (member, table) :: aliases.registered }
  | none => aliases

/-- Parameter of a join's result, by side. -/
def resultParam (join : Join) (side : Nat) : Except Error Param :=
  match join.result.params[side]? with
  | some param => .ok param
  | none => .error (.invalidArgument "result" .joinResult)

/-- The expression is just the parameter. -/
def isParam (param : Param) : Expr → Bool
  | .parameter other => other == param
  | _ => false

/-- The field of a join's result that holds the whole row of a side. -/
def rowField? (result : Lambda) (side : Nat) : Option Member :=
  match result.params[side]?, result.body with
  | some param, .construct (.record names) args ty =>
    let position := (args.takeWhile (fun arg => !isParam param arg)).length
    names[position]?.map (⟨ty, ·⟩)
  | _, _ => none

/-! ### Sources without joins -/

/-- Levels of fields searched below the parameters themselves. -/
def expansionLevels : Nat := 1

/-- Of the parameters of each type, the first. -/
def firstOfEachType (params : List Param) : List Param :=
  params.foldl (fun kept param =>
    if kept.any (·.ty == param.ty) then kept else kept ++ [param]) []

/-- The fields of the parameters' types, as parameters. -/
def expand (scope : List Param) : List Param :=
  firstOfEachType (scope.flatMap fun param => param.ty.fields.map fun field => ⟨field.name, field.ty⟩)

/-- Name of the first parameter of the type; without one, of the first field, and
so on down the levels. -/
def search (ty : Ty) : Nat → List Param → Option String
  | 0, scope => (scope.find? (·.ty == ty)).map (·.name)
  | levels + 1, scope =>
    match scope.find? (·.ty == ty) with
    | some param => some param.name
    | none => if scope.isEmpty then none else search ty levels (expand scope)

/-- The lambdas of a node that range over its source, in the order in which their
parameters are asked for a name. -/
def lambdas (node : Select) : List Lambda :=
  node.projection.toList ++ node.groupKey.toList ++ node.groupElement.toList ++
    node.filters ++ node.orderBy.map (·.key)

/-! ### Binding -/

/-- Alias of a node's first source, if any clause names it: the outer parameter of
the first join's result, or else a lambda parameter over the source's rows. -/
def bindSource (path : String) (node : Select) : Except Error (Option String × Aliases) :=
  let aliases := start path
  match node.joins with
  | join :: _ => do
    let param ← resultParam join 0
    let table := aliases.named param.name
    match rowField? join.result 0 with
    | some member =>
      return (some table, { aliases.register (some member) table with last := some table })
    | none => return (some table, aliases)
  | [] =>
    let scope := firstOfEachType ((lambdas node).flatMap (·.params))
    match search node.modelType (expansionLevels + node.joins.length) scope with
    | some name =>
      let table := aliases.named name
      .ok (some table, { aliases with last := some table })
    | none => .ok (none, aliases)

/-- Alias of a joined source: the inner parameter of the join's result. -/
def bindJoin (aliases : Aliases) (join : Join) : Except Error (String × Aliases) := do
  let param ← resultParam join 1
  let table := aliases.named param.name
  return (table, aliases.register (rowField? join.result 1) table)

/-- A join is complete: its source is the last one, provided that rows of the first
source can be told apart. -/
def advance (aliases : Aliases) (table : String) : Aliases :=
  { aliases with last := aliases.last.map fun _ => table }

/-! ### Looking up -/

/-- Alias of the rows that a parameter ranges over. -/
def ofParam (aliases : Aliases) (param : Param) : String :=
  match aliases.last with
  | some table => table
  | none => aliases.named param.name

/-- Alias of the rows that a field holds. -/
def ofMember? (aliases : Aliases) (member : Member) : Option String :=
  match aliases.registered.find? (·.1 == member) with
  | some (_, table) => some table
  | none => aliases.last

end Aliases

end TypedQuery.Sql
