/-
Module: TypedQuery.Proofs.BuilderCalls
Purpose: Builder calls as data. One statement says when a call succeeds and what it makes
  of a query, so that no later proof opens the builder. Reachable queries are those that
  finitely many successful calls lead to from tables; what a call combines or captures is
  reachable itself.
Main exports: Query.Clause, Query.Call, Query.Call.apply_eq_ok, Query.run, Query.Reachable
-/
import TypedQuery.Expr.Closure
import TypedQuery.Expr.Combinators
import TypedQuery.Proofs.Operands
import TypedQuery.Query.Builder

namespace TypedQuery

namespace Query

/-! ### Clauses -/

/-- A builder call that goes to a select node. -/
inductive Clause
  | filter (predicate : Lambda)
  | project (projection : Lambda)
  | sortBy (selector : Lambda) (ascending : Bool)
  | keep (count : Int)
  | leaveOut (count : Int)
  | distinct
  | join (kind : JoinKind) (inner : Query) (outerKey innerKey result : Lambda)
  | groupBy (key : Lambda)
  | groupByElement (key element : Lambda)

namespace Clause

/-- Make the call on a query. -/
def apply : Clause → Query → Except Error Query
  | .filter predicate, query => query.filter predicate
  | .project projection, query => query.project projection
  | .sortBy selector ascending, query => query.sortBy selector ascending
  | .keep count, query => query.keep count
  | .leaveOut count, query => query.leaveOut count
  | .distinct, query => .ok query.distinct
  | .join kind inner outerKey innerKey result, query =>
    query.join kind inner outerKey innerKey result
  | .groupBy key, query => query.groupBy key
  | .groupByElement key element, query => query.groupByElement key element

/-- Lambdas of the call, each with the number of parameters that it must have. -/
def functions : Clause → List (Lambda × Nat)
  | .filter predicate => [(predicate, 1)]
  | .project projection => [(projection, 1)]
  | .sortBy selector _ => [(selector, 1)]
  | .keep _ | .leaveOut _ | .distinct => []
  | .join _ _ outerKey innerKey result => [(outerKey, 1), (innerKey, 1), (result, 2)]
  | .groupBy key => [(key, 1)]
  | .groupByElement key element => [(key, 1), (element, 1)]

/-- Row count of the call. -/
def count? : Clause → Option Int
  | .keep count | .leaveOut count => some count
  | _ => none

/-- Query whose rows the call joins. -/
def inner? : Clause → Option Query
  | .join _ inner _ _ _ => some inner
  | _ => none

/-- The arguments pass the checks of the builder. -/
def Accepted (clause : Clause) : Prop :=
  (∀ function ∈ clause.functions, function.1.params.length = function.2) ∧
    ∀ count ∈ clause.count?, 0 ≤ count

instance (clause : Clause) : Decidable clause.Accepted := inferInstanceAs (Decidable (_ ∧ _))

/-- Nodes that take the call; over any other a fresh node is put. -/
def reuses : Clause → Select → Bool
  | .filter _ | .project _ | .sortBy _ _ | .join _ _ _ _ _ => Select.isOpen
  | .groupBy _ | .groupByElement _ _ => Select.isOpenUngrouped
  | .keep _ | .leaveOut _ | .distinct => fun _ => true

/-- What the call makes of the node that takes it. -/
def change : Clause → Select → Select
  | .filter predicate => fun node =>
    if node.groupKey.isSome then { node with having := node.having ++ [predicate] }
    else { node with filters := node.filters ++ [predicate] }
  | .project projection => fun node =>
    { node with projection := some projection, stage := .closed }
  | .sortBy selector ascending => fun node =>
    { node with orderBy := node.orderBy ++ [⟨selector, ascending⟩] }
  | .keep count => fun node => { node with take := count.toNat }
  | .leaveOut count => fun node => { node with skip := count.toNat }
  | .distinct => fun node => { node with distinct := true }
  | .join kind inner outerKey innerKey result => fun node =>
    { node with joins := node.joins ++ [⟨kind, inner, outerKey, innerKey, result⟩] }
  | .groupBy key => fun node => { node with groupKey := some key }
  | .groupByElement key element => fun node =>
    { node with groupKey := some key, groupElement := some element }

end Clause

/-! ### What a call does -/

/-- A change goes to the node of the query if that takes it, else to a fresh node over the
query. -/
theorem staged_cases (reuses : Select → Bool) (change : Select → Select) (query : Query) :
    (∃ node, query = .select node ∧ reuses node = true ∧
        query.staged reuses change = .select (change node)) ∨
      (∀ node, query = .select node → reuses node = false) ∧
        query.staged reuses change = .select (change (.over query)) := by
  cases query with
  | table model => exact .inr ⟨by simp, rfl⟩
  | combine op first second => exact .inr ⟨by simp, rfl⟩
  | select node =>
      cases taken : reuses node with
      | true => exact .inl ⟨node, rfl, taken, by simp [staged, taken]⟩
      | false =>
          refine .inr ⟨?_, by simp [staged, taken]⟩
          rintro _ ⟨⟩
          exact taken

/-- A fresh node takes every call. -/
theorem Clause.reuses_over (clause : Clause) (query : Query) :
    clause.reuses (.over query) = true := by
  cases clause <;> rfl

/-- No call changes the source of a node. -/
theorem Clause.change_source (clause : Clause) (node : Select) :
    (clause.change node).source = node.source := by
  cases clause with
  | filter predicate =>
      simp only [change]
      split <;> rfl
  | _ => rfl

theorem Clause.change_modelType (clause : Clause) (node : Select) :
    (clause.change node).modelType = node.modelType := by
  cases clause with
  | filter predicate =>
      simp only [change]
      split <;> rfl
  | _ => rfl

theorem expectArity_bind_eq_ok {α : Type} {name : String} {function : Lambda} {expected : Nat}
    {next : Except Error α} {result : α} :
    ((do function.expectArity name expected; next) = .ok result) ↔
      function.params.length = expected ∧ next = .ok result := by
  unfold Lambda.expectArity
  by_cases fits : function.params.length = expected
  · simp only [fits, if_true, true_and]
    rfl
  · simp only [fits, if_false, false_and, iff_false]
    intro done
    cases done

theorem rowCount_bind_eq_ok {α : Type} {count : Int} {next : Nat → Except Error α} {result : α} :
    ((do let count ← rowCount count; next count) = .ok result) ↔
      0 ≤ count ∧ next count.toNat = .ok result := by
  unfold rowCount
  by_cases negative : count < 0
  · simp only [negative, if_true]
    constructor
    · intro done
      cases done
    · rintro ⟨fits, -⟩
      omega
  · have fits : 0 ≤ count := by omega
    simp only [negative, if_false, fits, true_and]
    rfl

/-- A call succeeds just when its arguments are accepted, and then the node that takes it is
changed. -/
theorem Clause.apply_eq_ok {clause : Clause} {query result : Query} :
    clause.apply query = .ok result ↔
      clause.Accepted ∧ query.staged clause.reuses clause.change = result := by
  cases clause <;>
    simp [apply, Query.filter, Query.project, Query.sortBy, Query.keep, Query.leaveOut,
      Query.distinct, Query.join, Query.groupBy, Query.groupByElement,
      expectArity_bind_eq_ok, rowCount_bind_eq_ok, Accepted, functions, count?, reuses, change,
      pure, Except.pure, and_assoc]

/-! ### Calls and runs -/

/-- A builder call on a query: a clause, or a set operation with another query. -/
inductive Call
  | add (clause : Clause)
  | combine (op : SetOp) (other : Query)

namespace Call

/-- Make the call on a query. -/
def apply : Call → Query → Except Error Query
  | .add clause, query => clause.apply query
  | .combine op other, query => .ok (query.combineWith op other)

/-- Queries that the call brings in: those that it joins or combines, and those that its
lambdas capture. -/
def operands : Call → List Query
  | .add clause =>
    clause.inner?.toList ++ clause.functions.flatMap fun function => function.1.captured
  | .combine _ other => [other]

/-- What a successful call can do: change the node that takes a clause, or put a set
operation above the query. -/
theorem apply_eq_ok {call : Call} {query result : Query} :
    call.apply query = .ok result ↔
      (∃ clause, call = .add clause ∧ clause.Accepted ∧
        query.staged clause.reuses clause.change = result) ∨
      ∃ op other, call = .combine op other ∧ .combine op query other = result := by
  cases call with
  | add clause => simp [apply, Clause.apply_eq_ok]
  | combine op other => simp [apply, combineWith, and_assoc]

end Call

/-- Make calls one after the other. -/
def run : List Call → Query → Except Error Query
  | [], query => .ok query
  | call :: rest, query => do
    let next ← call.apply query
    run rest next

/-- A run succeeds only if its first call does and the others do from there. -/
theorem run_cons_eq_ok {call : Call} {rest : List Call} {query result : Query} :
    run (call :: rest) query = .ok result ↔
      ∃ next, call.apply query = .ok next ∧ run rest next = .ok result := by
  rw [run]
  cases call.apply query with
  | error error =>
      constructor
      · intro done
        cases done
      · rintro ⟨next, called, -⟩
        cases called
  | ok next =>
      constructor
      · intro done
        exact ⟨next, rfl, done⟩
      · rintro ⟨_, called, done⟩
        cases called
        exact done

/-- A run of one call is that call. -/
theorem run_singleton_eq_ok {call : Call} {query result : Query} :
    run [call] query = .ok result ↔ call.apply query = .ok result := by
  rw [run_cons_eq_ok]
  simp [run]

/-- A run is a run after a run. -/
theorem run_append_eq_ok {calls others : List Call} {query result : Query} :
    run (calls ++ others) query = .ok result ↔
      ∃ next, run calls query = .ok next ∧ run others next = .ok result := by
  induction calls generalizing query with
  | nil => simp [run]
  | cons call rest ih =>
      rw [List.cons_append, run_cons_eq_ok]
      simp only [ih, run_cons_eq_ok]
      grind

/-- A query that finitely many successful calls make from tables, with all queries that
they bring in made in the same way. -/
inductive Reachable : Query → Prop
  | table (model : Model) : Reachable (.ofTable model)
  | call (call : Call) {query result : Query} (reached : Reachable query)
      (operands : ∀ operand ∈ call.operands, Reachable operand)
      (done : call.apply query = .ok result) : Reachable result

/-- Runs lead from reachable queries to reachable queries. -/
theorem Reachable.run {calls : List Call} {query result : Query} (reached : Reachable query)
    (operands : ∀ call ∈ calls, ∀ operand ∈ call.operands, Reachable operand)
    (done : run calls query = .ok result) : Reachable result := by
  induction calls generalizing query with
  | nil =>
      cases done
      exact reached
  | cons call rest ih =>
      obtain ⟨next, called, done⟩ := run_cons_eq_ok.mp done
      have reachedNext := Reachable.call call reached (operands call (by simp)) called
      exact ih reachedNext (fun call present => operands call (by simp [present])) done

/-! ### A run -/

/-- Users. -/
def userTable : Query := .ofTable (.table "User" [⟨"Id", .int⟩, ⟨"Login", .string⟩])

/-- Links from users to roles. -/
def linkTable : Query := .ofTable (.table "UserRoleLink" [⟨"UserId", .int⟩, ⟨"RoleId", .int⟩])

/-- From users to the logins of those with a role, at most five, that stand in a captured
query, and all users. -/
def roleHolders : List Call :=
  let user : Param := ⟨"user", userTable.rowType⟩
  let link : Param := ⟨"link", linkTable.rowType⟩
  let row : Expr := .record [("user", .parameter user), ("link", .parameter link)]
  let joined : Param := ⟨"t", row.ty⟩
  let login : Param := ⟨"login", .string⟩
  [.add (.join .inner linkTable ⟨[user], (Expr.parameter user).field "Id"⟩
      ⟨[link], (Expr.parameter link).field "UserId"⟩ ⟨[user, link], row⟩),
    .add (.project ⟨[joined], ((Expr.parameter joined).field "user").field "Login"⟩),
    .add (.keep 5),
    .add (.filter ⟨[login], userTable.asExpr.contains (.parameter login)⟩),
    .combine .union userTable]

theorem roleHolders_operands :
    ∀ call ∈ roleHolders, ∀ operand ∈ call.operands, Reachable operand := by
  have users : Reachable userTable := .table _
  have links : Reachable linkTable := .table _
  simp [roleHolders, Call.operands, Clause.inner?, Clause.functions, Lambda.captured,
    Expr.captured, Expr.capturedTarget, Expr.capturedAll, Expr.field, Expr.record, Expr.contains,
    asExpr, Closure.var, Closure.capture, Closure.toExpr, Closure.empty, Closure.get?,
    Capture.query?, Capture.name, Capture.ty, Expr.ty, users, links]

end Query

end TypedQuery
