/-
Module: TypedQuery.Query.Draft
Purpose: A query under construction together with the names of its tables and
  columns. The names are settled when the draft is begun on a table and stay,
  whatever other drafts are joined or combined with it.
Main exports: Draft, Draft.table, Draft.grow, Draft.join, Draft.combineWith,
  Draft.toCommand, Draft.executeWith
-/
import TypedQuery.Query.Builder
import TypedQuery.Sql.Compile

namespace TypedQuery

/-- A query under construction and its resolver. -/
structure Draft where
  query : Query
  resolver : Resolver

/-- Why running a draft failed: it has no command, or the executor reported a
failure of its own. -/
inductive Failure
  | query (error : Error)
  | executor (text : String)

namespace Draft

/-- Begin a draft on a table. -/
def table (resolver : Resolver) (model : Model) : Draft := ⟨.ofTable model, resolver⟩

/-- Type of the draft's rows. -/
def rowType (draft : Draft) : Ty := draft.query.rowType

/-- A lambda parameter over the draft's rows. -/
def param (draft : Draft) (name : String) : Param := ⟨name, draft.rowType⟩

/-- Apply a builder call. -/
def grow (draft : Draft) (call : Query → Except Error Query) : Except Error Draft :=
  (call draft.query).map fun query => { draft with query := query }

/-- Join another draft's query. -/
def join (draft : Draft) (kind : JoinKind) (inner : Draft)
    (outerKey innerKey result : Lambda) : Except Error Draft :=
  draft.grow fun query => query.join kind inner.query outerKey innerKey result

/-- Combine with another draft's query. -/
def combineWith (draft : Draft) (op : SetOp) (other : Draft) : Draft :=
  { draft with query := draft.query.combineWith op other.query }

/-- The command of the draft. -/
def toCommand (draft : Draft) : Except Error Command := draft.query.toCommand draft.resolver

/-- Compile the draft and hand its command to an executor. Without a command the
executor is not asked. -/
def executeWith {m : Type → Type} [Monad m] {row : Type}
    (executor : Command → m (Except String (List row))) (draft : Draft) :
    m (Except Failure (List row)) :=
  match draft.toCommand with
  | .error error => return .error (.query error)
  | .ok command => do
    match ← executor command with
    | .ok rows => return .ok rows
    | .error text => return .error (.executor text)

end Draft

end TypedQuery
