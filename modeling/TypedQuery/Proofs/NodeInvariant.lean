/-
Module: TypedQuery.Proofs.NodeInvariant
Purpose: What the builder keeps true of the select nodes of a query, wherever they stand: as
  sources, joined sources, operands of set operations or captured in lambdas. A call changes
  one node and brings in nodes of reachable queries, so the invariant of one node carries
  over to all of them.
Main exports: Select.WellFormed, Query.Clause.change_wellFormed,
  Query.Reachable.wellFormed_of_contains
-/
import TypedQuery.Proofs.BuilderCalls

namespace TypedQuery

/-! ### One node -/

/-- What the builder keeps true of a node. -/
structure Select.WellFormed (node : Select) : Prop where
  /-- A projection closes the node, and nothing else does. -/
  closed_iff : node.stage = .closed ↔ node.projection.isSome
  modelType_eq : node.modelType = node.source.rowType
  /-- Predicates on groups and an element of groups need groups. -/
  grouped : node.having ≠ [] ∨ node.groupElement.isSome → node.groupKey.isSome
  unary : ∀ function ∈ node.unaryFunctions, function.params.length = 1
  binary : ∀ join ∈ node.joins, join.result.params.length = 2

/-- Below a fresh node stands the query that it is put over. -/
theorem Select.operands_over (query : Query) : (Select.over query).operands = [query] := by
  simp [Select.over, operands, functions, unaryFunctions]

theorem Select.over_wellFormed (query : Query) : (Select.over query).WellFormed where
  closed_iff := by simp [Select.over]
  modelType_eq := rfl
  grouped := by simp [Select.over]
  unary := by simp [Select.over, unaryFunctions]
  binary := by simp [Select.over]

namespace Select.WellFormed

variable {node : Select}

/-- A node that is open has no projection yet. -/
theorem projection_eq_none (formed : node.WellFormed) (isOpen : node.isOpen = true) :
    node.projection = none := by
  have notClosed : ¬ node.stage = .closed := by
    rw [eq_of_beq isOpen]
    exact Stage.noConfusion
  rw [formed.closed_iff] at notClosed
  simpa using notClosed

/-- A node that takes a grouping has neither a key nor an element of groups yet. -/
theorem group_eq_none (formed : node.WellFormed) (isOpen : node.isOpenUngrouped = true) :
    node.groupKey = none ∧ node.groupElement = none := by
  have noKey : node.groupKey = none :=
    Option.isNone_iff_eq_none.mp (Bool.and_eq_true_iff.mp isOpen).2
  refine ⟨noKey, ?_⟩
  have grouped := formed.grouped
  rw [noKey] at grouped
  simpa using fun isElement => grouped (.inr isElement)

end Select.WellFormed

namespace Query.Clause

variable {clause : Clause} {node : Select}

/-! ### What a call changes -/

/-- A new lambda over single rows is one of the call. -/
theorem mem_unaryFunctions_change {function : Lambda}
    (present : function ∈ (clause.change node).unaryFunctions) :
    function ∈ node.unaryFunctions ∨ (function, 1) ∈ clause.functions := by
  cases clause with
  | filter predicate =>
      simp only [change] at present
      split at present <;> simp [Select.unaryFunctions, functions] at present ⊢ <;> grind
  | _ =>
      simp [change, Select.unaryFunctions, functions] at present ⊢
      grind

/-- A new join is the one of the call. -/
theorem mem_joins_change {join : Join} (present : join ∈ (clause.change node).joins) :
    join ∈ node.joins ∨
      clause.inner? = some join.source ∧ (join.result, 2) ∈ clause.functions := by
  cases clause with
  | join kind inner outerKey innerKey result =>
      simp only [change, List.mem_append, List.mem_singleton] at present
      rcases present with present | rfl
      · exact .inl present
      · exact .inr ⟨rfl, by simp [functions]⟩
  | filter predicate =>
      simp only [change] at present
      split at present <;> exact .inl present
  | _ => exact .inl present

/-- A node changed by a call stays well-formed. -/
theorem change_wellFormed (accepted : clause.Accepted) (formed : node.WellFormed) :
    (clause.change node).WellFormed where
  closed_iff := by
    have closed_iff := formed.closed_iff
    cases clause with
    | filter predicate =>
        simp only [change]
        split <;> exact closed_iff
    | project projection => simp [change]
    | _ => exact closed_iff
  modelType_eq := by rw [change_source, change_modelType, formed.modelType_eq]
  grouped := by
    have grouped := formed.grouped
    cases clause with
    | filter predicate =>
        simp only [change]
        split
        · rename_i isGrouped
          exact fun _ => isGrouped
        · exact grouped
    | groupBy key => simp [change]
    | groupByElement key element => simp [change]
    | _ => exact grouped
  unary := by
    intro function present
    rcases mem_unaryFunctions_change present with present | isNew
    · exact formed.unary function present
    · exact accepted.1 _ isNew
  binary := by
    intro join present
    rcases mem_joins_change present with present | ⟨-, isNew⟩
    · exact formed.binary join present
    · exact accepted.1 _ isNew

/-- A new lambda is one of the call. -/
theorem mem_functions_change {function : Lambda}
    (present : function ∈ (clause.change node).functions) :
    function ∈ node.functions ∨ function ∈ clause.functions.map Prod.fst := by
  simp only [Select.functions, List.mem_append, List.mem_map] at present ⊢
  rcases present with present | ⟨join, present, rfl⟩
  · rcases mem_unaryFunctions_change present with present | isNew
    · exact .inl (.inl present)
    · exact .inr ⟨_, isNew, rfl⟩
  · rcases mem_joins_change present with present | ⟨-, isNew⟩
    · exact .inl (.inr ⟨join, present, rfl⟩)
    · exact .inr ⟨_, isNew, rfl⟩

/-- What stands below a changed node stood there before or comes with the call. -/
theorem mem_operands_change {operand : Query}
    (isOperand : operand ∈ (clause.change node).operands) :
    operand ∈ node.operands ∨ operand ∈ (Call.add clause).operands := by
  simp only [Select.operands, change_source, List.mem_cons, List.mem_append, List.mem_map,
    List.mem_flatMap, Call.operands, Option.mem_toList] at isOperand ⊢
  rcases isOperand with isSource | ⟨join, present, rfl⟩ | ⟨function, present, isCaptured⟩
  · exact .inl (.inl isSource)
  · rcases mem_joins_change present with present | ⟨isInner, -⟩
    · exact .inl (.inr (.inl ⟨join, present, rfl⟩))
    · exact .inr (.inl isInner)
  · rcases mem_functions_change present with present | isNew
    · exact .inl (.inr (.inr ⟨function, present, isCaptured⟩))
    · obtain ⟨slot, isSlot, rfl⟩ := List.mem_map.mp isNew
      exact .inr (.inr ⟨slot, isSlot, isCaptured⟩)

end Query.Clause

/-! ### All nodes

What holds of fresh nodes and is kept by every accepted change of a node holds of all nodes
that calls lead to. -/

namespace Query

variable {holds : Select → Prop}

theorem over_everywhere (fresh : ∀ query, holds (.over query)) {query : Query}
    (below : query.Everywhere holds) : (Query.select (.over query)).Everywhere holds := by
  rw [everywhere_select_iff, Select.operands_over]
  exact ⟨fresh query, List.forall_mem_singleton.mpr below⟩

/-- A changed node stands over what the node stood over and what comes with the call. -/
theorem change_everywhere {clause : Clause} {node : Select} (own : holds (clause.change node))
    (operands : ∀ operand ∈ (Call.add clause).operands, operand.Everywhere holds)
    (below : ∀ operand ∈ node.operands, operand.Everywhere holds) :
    (Query.select (clause.change node)).Everywhere holds := by
  rw [everywhere_select_iff]
  refine ⟨own, ?_⟩
  intro operand isOperand
  rcases Clause.mem_operands_change isOperand with isOld | isNew
  · exact below operand isOld
  · exact operands operand isNew

/-- The step, by where the clause of a call goes: to the node of the query, which takes it, or to a
fresh node that is put over the query. -/
theorem Call.apply_everywhere_of_cases {call : Call} {query result : Query}
    (changed : ∀ clause node, call = .add clause → clause.Accepted → clause.reuses node = true →
      query = .select node → holds node → holds (clause.change node))
    (put : ∀ clause, call = .add clause → clause.Accepted →
      (∀ node, query = .select node → clause.reuses node = false) →
      holds (clause.change (.over query)))
    (all : query.Everywhere holds)
    (operands : ∀ operand ∈ call.operands, operand.Everywhere holds)
    (done : call.apply query = .ok result) : result.Everywhere holds := by
  rcases Call.apply_eq_ok.mp done with ⟨clause, rfl, accepted, rfl⟩ | ⟨op, other, rfl, rfl⟩
  · rcases staged_cases clause.reuses clause.change query with
      ⟨node, rfl, taken, staged⟩ | ⟨refused, staged⟩
    · rw [staged]
      obtain ⟨own, below⟩ := everywhere_select_iff.mp all
      exact change_everywhere (changed clause node rfl accepted taken rfl own) operands below
    · rw [staged]
      refine change_everywhere (put clause rfl accepted refused) operands ?_
      rw [Select.operands_over]
      exact List.forall_mem_singleton.mpr all
  · exact everywhere_combine_iff.mpr ⟨all, operands other (by simp [Call.operands])⟩

/-- The step: one call, with what it brings in. The node that takes a clause is open to it and has
the rows of the query. -/
theorem Call.apply_everywhere (fresh : ∀ query, holds (.over query)) {call : Call}
    {query result : Query}
    (kept : ∀ clause node, call = .add clause → clause.Accepted → clause.reuses node = true →
      node.rowType = query.rowType → holds node → holds (clause.change node))
    (all : query.Everywhere holds)
    (operands : ∀ operand ∈ call.operands, operand.Everywhere holds)
    (done : call.apply query = .ok result) : result.Everywhere holds := by
  refine Call.apply_everywhere_of_cases ?_ ?_ all operands done
  · rintro clause node isCall accepted taken rfl
    exact kept clause node isCall accepted taken (by rw [Query.rowType])
  · intro clause isCall accepted _
    exact kept clause (.over query) isCall accepted (clause.reuses_over query) rfl (fresh query)

/-- The run: all calls that lead to a query, and to the queries that they bring in. -/
theorem Reachable.everywhere (fresh : ∀ query, holds (.over query))
    (kept : ∀ clause : Clause, clause.Accepted → ∀ node, holds node → holds (clause.change node))
    {query : Query} (reachable : query.Reachable) : query.Everywhere holds := by
  induction reachable with
  | table model => exact over_everywhere fresh (everywhere_table model)
  | call call reached operands done ofQuery ofOperands =>
      refine Call.apply_everywhere fresh ?_ ofQuery ofOperands done
      intro clause node _ accepted _ _
      exact kept clause accepted node

/-- Every select node that stands anywhere in a reachable query is well-formed: closed just
when it has a projection, typed by its source's rows, with predicates on groups or an element
of groups only where there is a group key, and with lambdas of the right arities. -/
theorem Reachable.wellFormed_of_contains {query : Query} (reachable : query.Reachable)
    {node : Select} (contained : query.Contains node) : node.WellFormed := by
  have all : query.Everywhere Select.WellFormed := by
    apply reachable.everywhere Select.over_wellFormed
    intro clause accepted node formed
    exact Clause.change_wellFormed accepted formed
  exact all node contained

/-- The node of a query that is captured below a set operation. -/
theorem roleHolders_wellFormed :
    ∃ query node, run roleHolders userTable = .ok query ∧ query.Reachable ∧
      query.Contains node ∧ userTable = .select node ∧ node.WellFormed := by
  have reachable {query : Query} (done : run roleHolders userTable = .ok query) :
      query.Reachable := Reachable.run (.table _) roleHolders_operands done
  obtain ⟨query, node, done, contained, isUsers⟩ : ∃ query node,
      run roleHolders userTable = .ok query ∧ query.Contains node ∧
        userTable = .select node :=
    ⟨_, _, rfl, .first (.under (.tail _ (.head _)) (.node _)), rfl⟩
  exact ⟨query, node, done, reachable done, contained, isUsers,
    Reachable.wellFormed_of_contains (reachable done) contained⟩

end Query

end TypedQuery
