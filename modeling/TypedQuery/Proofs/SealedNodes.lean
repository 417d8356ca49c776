/-
Module: TypedQuery.Proofs.SealedNodes
Purpose: A closed node or a set operation is sealed: whatever calls follow, it stays in the
  query below the nodes that are put over it. Row modifiers are the one thing that a closed
  node still takes.
Main exports: Query.IsSealed, Query.OnSpine, Query.SameUpToRows, Query.run_keeps_sealed
-/
import TypedQuery.Proofs.BuilderCalls

namespace TypedQuery.Query

/-- A closed node, or a set operation. -/
def IsSealed : Query → Prop
  | .table _ => False
  | .select node => node.stage = .closed
  | .combine _ _ _ => True

/-- A query is met on the way from another one down through sources and first operands. -/
inductive OnSpine (inner : Query) : Query → Prop
  | root : OnSpine inner inner
  | source {node : Select} (met : OnSpine inner node.source) : OnSpine inner (.select node)
  | first {op : SetOp} {first second : Query} (met : OnSpine inner first) :
      OnSpine inner (.combine op first second)

/-- The same query, up to the row modifiers of a select node: the rows that it leaves out and
keeps, and whether these are distinct. -/
def SameUpToRows : Query → Query → Prop
  | .select node, .select kept =>
    ∃ skip take distinct, kept = { node with skip := skip, take := take, distinct := distinct }
  | query, kept => kept = query

namespace SameUpToRows

theorem refl (query : Query) : query.SameUpToRows query := by
  cases query with
  | select node =>
      refine ⟨node.skip, node.take, node.distinct, ?_⟩
      cases node
      rfl
  | table model => exact rfl
  | combine op first second => exact rfl

theorem trans {query middle kept : Query} (head : query.SameUpToRows middle)
    (tail : middle.SameUpToRows kept) : query.SameUpToRows kept := by
  cases query with
  | select node =>
      cases middle with
      | select inner =>
          cases kept with
          | select last =>
              obtain ⟨_, _, _, rfl⟩ := head
              obtain ⟨skip, take, distinct, rfl⟩ := tail
              exact ⟨skip, take, distinct, rfl⟩
          | _ => cases tail
      | _ => cases head
  | _ =>
      cases head
      exact tail

theorem isSealed {query kept : Query} (same : query.SameUpToRows kept)
    (isSealed : query.IsSealed) : kept.IsSealed := by
  cases query with
  | select node =>
      cases kept with
      | select last =>
          obtain ⟨_, _, _, rfl⟩ := same
          exact isSealed
      | _ => cases same
  | _ =>
      cases same
      exact isSealed

end SameUpToRows

namespace Clause

/-- The node over a query that holds the clause and nothing else; row modifiers are no
clauses of their own. -/
def alone? : Clause → Query → Option Select
  | .filter predicate, query => some { Select.over query with filters := [predicate] }
  | .project projection, query =>
    some { Select.over query with projection := some projection, stage := .closed }
  | .sortBy selector ascending, query =>
    some { Select.over query with orderBy := [⟨selector, ascending⟩] }
  | .join kind inner outerKey innerKey result, query =>
    some { Select.over query with joins := [⟨kind, inner, outerKey, innerKey, result⟩] }
  | .groupBy key, query => some { Select.over query with groupKey := some key }
  | .groupByElement key element, query =>
    some { Select.over query with groupKey := some key, groupElement := some element }
  | .keep _, _ | .leaveOut _, _ | .distinct, _ => none

theorem change_over {clause : Clause} {query : Query} {node : Select}
    (alone : clause.alone? query = some node) : clause.change (.over query) = node := by
  cases clause <;> simp only [alone?, Option.some.injEq, reduceCtorEq] at alone <;> rw [← alone]
    <;> rfl

/-- A closed node takes row modifiers only. -/
theorem change_closed {clause : Clause} {node : Select} (taken : clause.reuses node = true)
    (closed : node.stage = .closed) :
    (Query.select node).SameUpToRows (.select (clause.change node)) := by
  have refused : node.isOpen = false := by simp [Select.isOpen, closed]
  cases clause with
  | keep count => exact ⟨_, _, _, rfl⟩
  | leaveOut count => exact ⟨_, _, _, rfl⟩
  | distinct => exact ⟨_, _, _, rfl⟩
  | _ => simp [reuses, Select.isOpenUngrouped, refused] at taken

end Clause

/-! ### Calls on sealed queries -/

/-- A sealed query takes no clause: the clause goes to a node of its own over the query. -/
theorem IsSealed.staged_eq {query : Query} (isSealed : query.IsSealed) {clause : Clause}
    {node : Select} (alone : clause.alone? query = some node) :
    query.staged clause.reuses clause.change = .select node := by
  rcases staged_cases clause.reuses clause.change query with
    ⟨inner, rfl, taken, -⟩ | ⟨-, staged⟩
  · have refused : inner.isOpen = false := by
      have closed : inner.stage = .closed := isSealed
      simp [Select.isOpen, closed]
    cases clause <;> simp [Clause.alone?, Clause.reuses, Select.isOpenUngrouped, refused]
      at alone taken
  · rw [staged, Clause.change_over alone]

/-- One call keeps what is sealed on the spine. -/
theorem Call.apply_keeps_sealed {call : Call} {query result inner : Query}
    (isSealed : inner.IsSealed) (met : inner.OnSpine query)
    (done : call.apply query = .ok result) :
    ∃ kept, OnSpine kept result ∧ inner.SameUpToRows kept := by
  rcases Call.apply_eq_ok.mp done with ⟨clause, rfl, -, rfl⟩ | ⟨op, other, rfl, rfl⟩
  · rcases staged_cases clause.reuses clause.change query with
      ⟨node, rfl, taken, staged⟩ | ⟨-, staged⟩
    · rw [staged]
      cases met with
      | root => exact ⟨_, .root, Clause.change_closed taken isSealed⟩
      | source met =>
          rw [← clause.change_source] at met
          exact ⟨inner, .source met, .refl inner⟩
    · rw [staged]
      have below : inner.OnSpine (clause.change (.over query)).source := by
        rw [clause.change_source]
        exact met
      exact ⟨inner, .source below, .refl inner⟩
  · exact ⟨inner, .first met, .refl inner⟩

/-- A run keeps what is sealed on the spine. -/
theorem run_keeps_onSpine {calls : List Call} {query result inner : Query}
    (isSealed : inner.IsSealed) (met : inner.OnSpine query)
    (done : run calls query = .ok result) :
    ∃ kept, OnSpine kept result ∧ inner.SameUpToRows kept := by
  -- The run is taken from its first call on: what that call keeps is sealed again.
  induction calls generalizing query inner with
  | nil =>
      cases done
      exact ⟨inner, met, .refl inner⟩
  | cons call rest ih =>
      obtain ⟨next, called, done⟩ := run_cons_eq_ok.mp done
      obtain ⟨kept, met, same⟩ := Call.apply_keeps_sealed isSealed met called
      obtain ⟨last, met, same'⟩ := ih (same.isSealed isSealed) met done
      exact ⟨last, met, same.trans same'⟩

/-- What is sealed is never changed again but for the row modifiers of a closed node: after
any run it is still met on the way down through sources and first operands. A clause on a sealed
query, if it is accepted, makes a node whose source is that query and whose only clause is the
new one. -/
theorem run_keeps_sealed {query : Query} (isSealed : query.IsSealed) :
    (∀ calls result, run calls query = .ok result →
        ∃ kept, OnSpine kept result ∧ query.SameUpToRows kept) ∧
      ∀ (clause : Clause) (node : Select), clause.alone? query = some node →
        ∀ result, clause.apply query = .ok result ↔ clause.Accepted ∧ result = .select node := by
  constructor
  · intro calls result done
    exact run_keeps_onSpine isSealed .root done
  · intro clause node alone result
    rw [Clause.apply_eq_ok, isSealed.staged_eq alone, eq_comm (b := result)]

/-- The projected node is cut to five rows, filtered from outside and combined. -/
theorem roleHolders_keeps_sealed :
    ∃ query result kept, run (roleHolders.take 2) userTable = .ok query ∧ query.IsSealed ∧
      run (roleHolders.drop 2) query = .ok result ∧ OnSpine kept result ∧
      query.SameUpToRows kept := by
  obtain ⟨query, result, closing, isSealed, done⟩ : ∃ query result,
      run (roleHolders.take 2) userTable = .ok query ∧ query.IsSealed ∧
        run (roleHolders.drop 2) query = .ok result := ⟨_, _, rfl, rfl, rfl⟩
  obtain ⟨kept, met, same⟩ := (run_keeps_sealed isSealed).1 _ _ done
  exact ⟨query, result, kept, closing, isSealed, done, met, same⟩

end TypedQuery.Query
