/-
Module: TypedQuery.Query.Builder
Purpose: Growing a query call by call. A clause goes to the current select node
  while the node takes it; otherwise the query so far becomes the source of a
  fresh node.
Main exports: Query.ofTable, Query.staged, Query.filter, Query.project,
  Query.sortBy, Query.keep, Query.leaveOut, Query.distinct, Query.join,
  Query.groupBy, Query.groupByElement, Query.combineWith
-/
import TypedQuery.Error
import TypedQuery.Query.RowType

namespace TypedQuery

/-- A node that takes every clause. -/
def Select.isOpen (node : Select) : Bool := node.stage == .opened

/-- A node that takes a grouping. -/
def Select.isOpenUngrouped (node : Select) : Bool := node.isOpen && node.groupKey.isNone

/-- Refuse a lambda with another number of parameters. -/
def Lambda.expectArity (name : String) (function : Lambda) (expected : Nat) : Except Error Unit :=
  if function.params.length = expected then .ok ()
  else .error (.invalidArgument name (.arity expected function.params.length))

/-- A row count, which must not be negative. -/
def rowCount (count : Int) : Except Error Nat :=
  if count < 0 then .error (.invalidArgument "count" (.negative count)) else .ok count.toNat

namespace Query

/-- All rows of a table. -/
def ofTable (model : Model) : Query := .select (.over (.table model))

/-- Apply a change to the node that takes it: the current one if `reuses` accepts
it, else a fresh node over the query so far. -/
def staged (reuses : Select → Bool) (change : Select → Select) : Query → Query
  | .select node =>
    if reuses node then .select (change node) else .select (change (.over (.select node)))
  | query => .select (change (.over query))

/-- Keep the rows that satisfy a predicate; after grouping, the groups. -/
def filter (query : Query) (predicate : Lambda) : Except Error Query := do
  predicate.expectArity "predicate" 1
  return query.staged Select.isOpen fun node =>
    if node.groupKey.isSome then { node with having := node.having ++ [predicate] }
    else { node with filters := node.filters ++ [predicate] }

/-- Install a projection and close the node. -/
def project (query : Query) (projection : Lambda) : Except Error Query := do
  projection.expectArity "projection" 1
  return query.staged Select.isOpen fun node =>
    { node with projection := some projection, stage := .closed }

/-- Sort by a further key. -/
def sortBy (query : Query) (selector : Lambda) (ascending : Bool) : Except Error Query := do
  selector.expectArity "selector" 1
  return query.staged Select.isOpen fun node =>
    { node with orderBy := node.orderBy ++ [⟨selector, ascending⟩] }

/-- Keep at most `count` rows; 0 keeps all. -/
def keep (query : Query) (count : Int) : Except Error Query := do
  let count ← rowCount count
  return query.staged (fun _ => true) fun node => { node with take := count }

/-- Leave out the first `count` rows. -/
def leaveOut (query : Query) (count : Int) : Except Error Query := do
  let count ← rowCount count
  return query.staged (fun _ => true) fun node => { node with skip := count }

/-- Keep one of each set of equal rows. -/
def distinct (query : Query) : Query :=
  query.staged (fun _ => true) fun node => { node with distinct := true }

/-- Pair the rows with those of `inner`; `result` makes the row that goes on. -/
def join (query : Query) (kind : JoinKind) (inner : Query)
    (outerKey innerKey result : Lambda) : Except Error Query := do
  outerKey.expectArity "outer_key" 1
  innerKey.expectArity "inner_key" 1
  result.expectArity "result" 2
  return query.staged Select.isOpen fun node =>
    { node with joins := node.joins ++ [⟨kind, inner, outerKey, innerKey, result⟩] }

/-- Group the rows by a key. Predicates that follow apply to the groups. -/
def groupBy (query : Query) (key : Lambda) : Except Error Query := do
  key.expectArity "key" 1
  return query.staged Select.isOpenUngrouped fun node => { node with groupKey := some key }

/-- Group the rows by a key and keep `element` of each row. -/
def groupByElement (query : Query) (key element : Lambda) : Except Error Query := do
  key.expectArity "key" 1
  element.expectArity "element" 1
  return query.staged Select.isOpenUngrouped fun node =>
    { node with groupKey := some key, groupElement := some element }

/-- A set operation with another query. -/
def combineWith (query : Query) (op : SetOp) (other : Query) : Query := .combine op query other

/-- Membership outside a predicate, which is always refused. -/
def contains (_query : Query) (_value : Value) : Except Error Bool := .error (.misuse .contains)

end Query

end TypedQuery
