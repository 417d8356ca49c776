/-
Module: TypedQuery.Proofs.TypedCalls
Purpose: Builder calls as a typed surface lets them through: the parameters of every lambda have
  the types of the rows that it is applied to, and its body refers to no others. Reachability by
  calls of a kind is reachability in which every call, of all queries brought in as well, is of
  that kind.
Main exports: Query.Clause.domains, Query.Call.Fits, Query.Call.OwnParams,
  Query.Call.NamesApart, Query.Call.Typed, Query.ReachableBy, Query.ReachableBy.everywhere,
  Query.ReachableBy.run
-/
import TypedQuery.Proofs.NodeInvariant
import TypedQuery.Proofs.TermLeaves

namespace TypedQuery

/-- No two parameters share a name. -/
def Lambda.NamesApart (function : Lambda) : Prop := (function.params.map (·.name)).Nodup

namespace Query

/-! ### Calls that fit their query -/

/-- Lambdas of a call on the query, each with the types of the rows that it is applied to. -/
def Clause.domains (query : Query) : Clause → List (Lambda × List Ty)
  | .filter predicate => [(predicate, [query.rowType])]
  | .project projection => [(projection, [query.rowType])]
  | .sortBy selector _ => [(selector, [query.rowType])]
  | .keep _ | .leaveOut _ | .distinct => []
  | .join _ inner outerKey innerKey result =>
    [(outerKey, [query.rowType]), (innerKey, [inner.rowType]),
      (result, [query.rowType, inner.rowType])]
  | .groupBy key => [(key, [query.rowType])]
  | .groupByElement key element => [(key, [query.rowType]), (element, [query.rowType])]

namespace Call

/-- The parameters of every lambda have the types of the rows that it is applied to. -/
def Fits (query : Query) : Call → Prop
  | .add clause => ∀ entry ∈ clause.domains query, entry.1.params.map (·.ty) = entry.2
  | .combine _ _ => True

/-- Every lambda refers to its own parameters alone, in the lambdas that it holds as well. -/
def OwnParams : Call → Prop
  | .add clause =>
    ∀ function ∈ clause.functions, function.1.body.references ⊆ function.1.params
  | .combine _ _ => True

/-- The result of a join tells its two sides apart by name. -/
def NamesApart : Call → Prop
  | .add (.join _ _ _ _ result) => result.NamesApart
  | _ => True

/-- A call as a typed surface lets it through. -/
structure Typed (query : Query) (call : Call) : Prop where
  fits : call.Fits query
  ownParams : call.OwnParams
  namesApart : call.NamesApart

instance (query : Query) : (call : Call) → Decidable (call.Fits query)
  | .add clause => inferInstanceAs (Decidable (∀ entry ∈ clause.domains query,
      entry.1.params.map (·.ty) = entry.2))
  | .combine _ _ => isTrue trivial

instance : (call : Call) → Decidable call.OwnParams
  | .add clause => inferInstanceAs (Decidable (∀ function ∈ clause.functions,
      function.1.body.references ⊆ function.1.params))
  | .combine _ _ => isTrue trivial

instance : (call : Call) → Decidable call.NamesApart
  | .add (.join _ _ _ _ result) =>
    inferInstanceAs (Decidable (result.params.map (·.name)).Nodup)
  | .add (.filter _) | .add (.project _) | .add (.sortBy _ _) | .add (.keep _)
  | .add (.leaveOut _) | .add .distinct | .add (.groupBy _) | .add (.groupByElement _ _)
  | .combine _ _ => isTrue trivial

instance (query : Query) (call : Call) : Decidable (call.Typed query) :=
  decidable_of_iff (call.Fits query ∧ call.OwnParams ∧ call.NamesApart)
    ⟨fun ⟨fits, ownParams, namesApart⟩ => ⟨fits, ownParams, namesApart⟩,
      fun ⟨fits, ownParams, namesApart⟩ => ⟨fits, ownParams, namesApart⟩⟩

end Call

/-! ### Reachability by calls of a kind -/

/-- A query that finitely many successful calls of a kind make from tables, with all queries that
they bring in made in the same way. -/
inductive ReachableBy (allowed : Query → Call → Prop) : Query → Prop
  | table (model : Model) : ReachableBy allowed (.ofTable model)
  | call (call : Call) {query result : Query} (reached : ReachableBy allowed query)
      (operands : ∀ operand ∈ call.operands, ReachableBy allowed operand)
      (isAllowed : allowed query call) (done : call.apply query = .ok result) :
      ReachableBy allowed result

theorem ReachableBy.reachable {allowed : Query → Call → Prop} {query : Query}
    (reached : query.ReachableBy allowed) : query.Reachable := by
  induction reached with
  | table model => exact .table model
  | call call _ _ _ done reached operands => exact .call call reached operands done

/-- What holds of fresh nodes, and is kept by every call of the kind in the node that takes it,
holds of all nodes of the queries that such calls make. -/
theorem ReachableBy.everywhere {allowed : Query → Call → Prop} {holds : Select → Prop}
    (fresh : ∀ query, holds (.over query))
    (kept : ∀ query clause node, allowed query (.add clause) → clause.Accepted →
      clause.reuses node = true → node.rowType = query.rowType → holds node →
      holds (clause.change node))
    {query : Query} (reached : query.ReachableBy allowed) : query.Everywhere holds := by
  induction reached with
  | table model => exact over_everywhere fresh (everywhere_table model)
  | @call call query result reached operands isAllowed done ofQuery ofOperands =>
      refine Call.apply_everywhere fresh ?_ ofQuery ofOperands done
      rintro clause node rfl accepted taken sameRows
      exact kept query clause node isAllowed accepted taken sameRows

/-- Every call of the run is of the kind on the query that it meets, and brings in only queries
made by such calls. -/
def AllowedRun (allowed : Query → Call → Prop) : List Call → Query → Prop
  | [], _ => True
  | call :: rest, query =>
    allowed query call ∧ (∀ operand ∈ call.operands, operand.ReachableBy allowed) ∧
      ∀ next, call.apply query = .ok next → AllowedRun allowed rest next

/-- Runs of calls of a kind lead from queries made by such calls to queries made by such calls. -/
theorem ReachableBy.run {allowed : Query → Call → Prop} {calls : List Call} {query result : Query}
    (reached : query.ReachableBy allowed) (isAllowed : AllowedRun allowed calls query)
    (done : Query.run calls query = .ok result) : result.ReachableBy allowed := by
  induction calls generalizing query with
  | nil =>
      cases done
      exact reached
  | cons call rest ih =>
      obtain ⟨next, called, done⟩ := run_cons_eq_ok.mp done
      obtain ⟨ofCall, operands, ofRest⟩ := isAllowed
      exact ih (.call call reached operands ofCall called) (ofRest next called) done

end Query

end TypedQuery
