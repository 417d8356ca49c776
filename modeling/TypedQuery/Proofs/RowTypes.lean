/-
Module: TypedQuery.Proofs.RowTypes
Purpose: The type of a query's rows along a chain of calls. In every stage of the current node the
  new row type is settled by the call and the old row type, with one exception: a join on groups
  goes to the grouped node itself. It joins the rows below the grouping, so that the rows of the
  query are still groups and the groups are the source of nothing.
Main exports: Query.Clause.rowsAfter, Query.Call.rowsAfter, Query.IsGrouped,
  Query.Clause.rowType_change, Query.Reachable.rowType_follows, Query.Reachable.join_below_grouping
-/
import TypedQuery.Proofs.SealedNodes
import TypedQuery.Proofs.TypedCalls
import TypedQuery.Sql.Compile

namespace TypedQuery

/-! ### Row types of nodes -/

namespace Select

/-- Type of what the groups of a node hold. -/
def elementType (node : Select) : Ty :=
  (node.groupElement.map Lambda.resultType).getD node.joinedType

theorem rowType_of_ungrouped (node : Select) (noProjection : node.projection = none)
    (noKey : node.groupKey = none) : node.rowType = node.joinedType := by
  simp only [rowType, noProjection, noKey]

theorem rowType_of_grouped (node : Select) (noProjection : node.projection = none) {key : Lambda}
    (isKey : node.groupKey = some key) :
    node.rowType = .group key.resultType node.elementType := by
  simp only [rowType, noProjection, isKey, elementType]
  cases node.groupElement <;> rfl

/-- The last join settles the type of the joined rows. -/
theorem joinedType_concat (node : Select) (join : Join) :
    { node with joins := node.joins ++ [join] }.joinedType = join.result.resultType := by
  simp only [joinedType, List.getLast?_concat]

end Select

namespace Query

/-! ### Row types of calls -/

/-- Type of the rows behind a call, by the type of the rows that it is made on. -/
def Clause.rowsAfter (rows : Ty) : Clause → Ty
  | .filter _ | .sortBy _ _ | .keep _ | .leaveOut _ | .distinct => rows
  | .project projection => projection.resultType
  | .join _ _ _ _ result => result.resultType
  | .groupBy key => .group key.resultType rows
  | .groupByElement key element => .group key.resultType element.resultType

/-- Type of the rows behind a call; a set operation has the rows of its first operand. -/
def Call.rowsAfter (rows : Ty) : Call → Ty
  | .add clause => clause.rowsAfter rows
  | .combine _ _ => rows

/-- The call joins the rows of another query. -/
def Call.IsJoin : Call → Prop
  | .add clause => clause.inner?.isSome
  | .combine _ _ => False

/-- The rows are groups that no projection has closed yet. -/
def IsGrouped : Query → Prop
  | .select node => node.isOpen ∧ node.groupKey.isSome
  | .table _ | .combine _ _ _ => False

instance : (query : Query) → Decidable query.IsGrouped
  | .select _ => inferInstanceAs (Decidable (_ ∧ _))
  | .table _ | .combine _ _ _ => inferInstanceAs (Decidable False)

/-- The step of one node: the call that it takes settles the type of its rows, unless it joins
below a grouping. -/
theorem Clause.rowType_change {clause : Clause} {node : Select} (formed : node.WellFormed)
    (taken : clause.reuses node = true)
    (onRows : clause.inner?.isSome → node.groupKey = none) :
    (clause.change node).rowType = clause.rowsAfter node.rowType := by
  cases clause with
  | filter predicate =>
      simp only [change]
      split <;> rfl
  | join kind inner outerKey innerKey result =>
      let joined := change (.join kind inner outerKey innerKey result) node
      have noProjection := formed.projection_eq_none taken
      rw [joined.rowType_of_ungrouped noProjection (onRows rfl)]
      exact node.joinedType_concat _
  | groupBy key =>
      obtain ⟨noKey, noElement⟩ := formed.group_eq_none taken
      have noProjection := formed.projection_eq_none (Bool.and_eq_true_iff.mp taken).1
      let grouped := change (.groupBy key) node
      rw [grouped.rowType_of_grouped noProjection rfl, rowsAfter,
        node.rowType_of_ungrouped noProjection noKey]
      simp only [grouped, change, Select.elementType, noElement]
      rfl
  | groupByElement key element =>
      let grouped := change (.groupByElement key element) node
      have noProjection := formed.projection_eq_none (Bool.and_eq_true_iff.mp taken).1
      exact grouped.rowType_of_grouped noProjection rfl
  | _ => rfl

/-- The step of a query, whether its node takes the call or a fresh node over it does. -/
theorem Clause.rowType_staged {clause : Clause} {query : Query}
    (formed : query.Everywhere Select.WellFormed)
    (onRows : clause.inner?.isSome → ¬ query.IsGrouped) :
    (query.staged clause.reuses clause.change).rowType = clause.rowsAfter query.rowType := by
  rcases staged_cases clause.reuses clause.change query with
    ⟨node, rfl, taken, staged⟩ | ⟨-, staged⟩
  · rw [staged, Query.rowType, Query.rowType]
    refine Clause.rowType_change (everywhere_select_iff.mp formed).1 taken ?_
    intro isJoin
    have isOpen : node.isOpen = true := by
      cases clause with
      | join kind inner outerKey innerKey result => exact taken
      | _ => cases isJoin
    have ungrouped := onRows isJoin
    simpa [IsGrouped, isOpen] using ungrouped
  -- A fresh node groups nothing, so that any join may go to it.
  · rw [staged, Query.rowType]
    exact Clause.rowType_change (Select.over_wellFormed query) (clause.reuses_over query)
      fun _ => rfl

theorem Reachable.everywhere_wellFormed {query : Query} (reachable : query.Reachable) :
    query.Everywhere Select.WellFormed :=
  reachable.everywhere Select.over_wellFormed
    fun _ accepted _ formed => Clause.change_wellFormed accepted formed

/-- Row types follow the chain: whatever the stage of a reachable query, a successful call that
filters, sorts, counts rows or makes them distinct keeps the type of the rows, and so does a set
operation; a projection gives the type of its body; a grouping gives groups, which have the type of
its key and hold elements of the type it names or else rows as before; and a join gives the type of
its result, unless it is made on groups that no projection has closed. -/
theorem Reachable.rowType_follows {query : Query} (reachable : query.Reachable) {call : Call}
    (onRows : call.IsJoin → ¬ query.IsGrouped) {result : Query}
    (done : call.apply query = .ok result) :
    result.rowType = call.rowsAfter query.rowType := by
  rcases Call.apply_eq_ok.mp done with ⟨clause, rfl, -, rfl⟩ | ⟨op, other, rfl, rfl⟩
  · exact Clause.rowType_staged reachable.everywhere_wellFormed onRows
  · rw [Query.rowType]
    rfl

/-- A row of the links. -/
def linkOfUser : Param := ⟨"link", linkTable.rowType⟩

/-- The links of one user. -/
def linksGroup : Param := ⟨"g", .group .int linkTable.rowType⟩

def linksByUser : Clause := .groupBy ⟨[linkOfUser], (Expr.parameter linkOfUser).field "UserId"⟩

/-- From groups of links to the users that have any. -/
def linkedUserIds : Clause :=
  .project ⟨[linksGroup], .record [("UserId", (Expr.parameter linksGroup).key)]⟩

/-- Rows with the id of a user, with the logins of the users. -/
def withLogins (row : Param) (id : Expr) : Clause :=
  let user : Param := ⟨"user", userTable.rowType⟩
  .join .inner userTable ⟨[row], id⟩ ⟨[user], (Expr.parameter user).field "Id"⟩
    ⟨[row, user], .record [("Login", (Expr.parameter user).field "Login"), ("UserId", id)]⟩

/-- A join on groups that a projection has closed. -/
theorem linkedUserIds_rowType :
    ∃ query join result, run [.add linksByUser, .add linkedUserIds] linkTable = .ok query ∧
      query.Reachable ∧ Call.IsJoin join ∧ ¬ query.IsGrouped ∧ join.apply query = .ok result ∧
      result.rowType = .model (.record [⟨"Login", .string⟩, ⟨"UserId", .int⟩]) := by
  let row : Param := ⟨"ids", .model (.record [⟨"UserId", .int⟩])⟩
  let join : Call := .add (withLogins row ((Expr.parameter row).field "UserId"))
  obtain ⟨groups, query, result, grouped, projected, onRows, joined⟩ : ∃ groups query result,
      (Call.add linksByUser).apply linkTable = .ok groups ∧
        (Call.add linkedUserIds).apply groups = .ok query ∧ ¬ query.IsGrouped ∧
        join.apply query = .ok result :=
    ⟨_, _, _, rfl, rfl, by decide, rfl⟩
  have reachable : query.Reachable :=
    .call (.add linkedUserIds)
      (.call (.add linksByUser) (.table _) (List.forall_mem_nil _) grouped)
      (List.forall_mem_nil _) projected
  have ran : run [.add linksByUser, .add linkedUserIds] linkTable = .ok query :=
    run_cons_eq_ok.mpr ⟨groups, grouped, run_singleton_eq_ok.mpr projected⟩
  exact ⟨query, join, result, ran, reachable, rfl, onRows, joined,
    reachable.rowType_follows (fun _ => onRows) joined⟩

/-! ### Joins on groups -/

/-- What is met on the way down is no larger than where the way begins. -/
theorem OnSpine.sizeOf_le {inner query : Query} (met : inner.OnSpine query) :
    sizeOf inner ≤ sizeOf query := by
  induction met with
  | root => exact Nat.le_refl _
  | @source node met ih =>
      have smaller := Select.sizeOf_operand node.source_mem_operands
      simp only [Query.select.sizeOf_spec]
      omega
  | first met ih =>
      simp only [Query.combine.sizeOf_spec]
      omega

/-- A node that gets a further join no longer has its former self below it. -/
theorem not_onSpine_joined (node : Select) (join : Join) :
    ¬ (Query.select node).OnSpine (.select { node with joins := node.joins ++ [join] }) := by
  intro met
  generalize isJoined : { node with joins := node.joins ++ [join] } = joined at met
  cases met with
  | root =>
      have longer := congrArg (fun node => node.joins.length) isJoined
      simp at longer
  | source met =>
      have source : joined.source = node.source := by rw [← isJoined]
      have smaller := Select.sizeOf_operand node.source_mem_operands
      have notLarger := met.sizeOf_le
      rw [source, Query.select.sizeOf_spec] at notLarger
      omega

/-- A join on groups that no projection has closed goes below the grouping: it is appended to the
joins of the grouped node itself. The rows are still groups by the same key, of the element if the
grouping names one and else of the joined rows, and the groups that the call was made on are met
nowhere below. A second grouping, in contrast, has the groups as its source. -/
theorem Reachable.join_below_grouping {node : Select} (reachable : (Query.select node).Reachable)
    (isOpen : node.isOpen = true) {key : Lambda} (isKey : node.groupKey = some key)
    (kind : JoinKind) (inner : Query) (outerKey innerKey result : Lambda) :
    let clause : Clause := .join kind inner outerKey innerKey result
    let joined : Select :=
      { node with joins := node.joins ++ [⟨kind, inner, outerKey, innerKey, result⟩] }
    (∀ query, clause.apply (.select node) = .ok query ↔
      clause.Accepted ∧ query = .select joined) ∧
    joined.rowType = .group key.resultType
      ((node.groupElement.map Lambda.resultType).getD result.resultType) ∧
    joined.source = node.source ∧ ¬ (Query.select node).OnSpine (.select joined) ∧
    ∀ (other : Lambda) (query : Query), (Clause.groupBy other).apply (.select node) = .ok query ↔
      (Clause.groupBy other).Accepted ∧
        query = .select { Select.over (.select node) with groupKey := some other } := by
  have formed := (everywhere_select_iff.mp reachable.everywhere_wellFormed).1
  have noProjection := formed.projection_eq_none isOpen
  intro clause joined
  refine ⟨?_, ?_, rfl, not_onSpine_joined node _, ?_⟩
  · intro query
    have staged : (Query.select node).staged clause.reuses clause.change = .select joined :=
      if_pos isOpen
    rw [Clause.apply_eq_ok, staged, eq_comm (b := query)]
  · rw [joined.rowType_of_grouped noProjection isKey, Select.elementType]
    congr 2
    exact node.joinedType_concat _
  · intro other query
    have refused : node.isOpenUngrouped = false := by simp [Select.isOpenUngrouped, isKey]
    have staged : (Query.select node).staged (Clause.groupBy other).reuses
        (Clause.groupBy other).change =
          .select ((Clause.groupBy other).change (.over (.select node))) :=
      if_neg (by simp [Clause.reuses, refused])
    rw [Clause.apply_eq_ok, staged, eq_comm (b := query)]
    rfl

/-- The join of groups of links with users is a join of links with users. -/
theorem linksByUser_join :
    ∃ node key query, run [.add linksByUser] linkTable = .ok (.select node) ∧
      (Query.select node).Reachable ∧ node.isOpen = true ∧ node.groupKey = some key ∧
      (withLogins linksGroup (Expr.parameter linksGroup).key).apply (.select node) = .ok query ∧
      query.rowType = .group .int (.model (.record [⟨"Login", .string⟩, ⟨"UserId", .int⟩])) ∧
      ¬ (Query.select node).OnSpine query := by
  obtain ⟨node, key, grouped, isOpen, isKey, accepted, keyType, noElement⟩ : ∃ node key,
      (Call.add linksByUser).apply linkTable = .ok (.select node) ∧ node.isOpen = true ∧
        node.groupKey = some key ∧
        (withLogins linksGroup (Expr.parameter linksGroup).key).Accepted ∧
        key.resultType = .int ∧ node.groupElement = none :=
    ⟨_, _, rfl, rfl, rfl, by decide, rfl, rfl⟩
  have reachable : (Query.select node).Reachable :=
    .call (.add linksByUser) (.table _) (List.forall_mem_nil _) grouped
  obtain ⟨done, rows, -, apart, -⟩ :=
    reachable.join_below_grouping isOpen isKey .inner userTable _ _ _
  refine ⟨node, key, _, run_singleton_eq_ok.mpr grouped, reachable, isOpen, isKey,
    (done _).mpr ⟨accepted, rfl⟩, ?_, apart⟩
  rw [Query.rowType, rows, keyType, noElement]
  rfl

theorem linksByUser_typed : AllowedRun Call.Typed
    [.add linksByUser, .add (withLogins linksGroup (Expr.parameter linksGroup).key)] linkTable := by
  refine ⟨by decide, List.forall_mem_nil _, ?_⟩
  rintro _ ⟨⟩
  exact ⟨by decide, List.forall_mem_singleton.mpr (.table _), fun _ _ => trivial⟩

/-- The rows are no results of the join, the groups are not its source, and the command reads the
key off a link and groups under a name that no source has. -/
theorem linksByUser_join_mismatch :
    ∃ node joined result command,
      run [.add linksByUser] linkTable = .ok (.select node) ∧ (Query.select node).IsGrouped ∧
      (Call.add (withLogins linksGroup (Expr.parameter linksGroup).key)).apply (.select node) =
        .ok (.select joined) ∧
      (Query.select joined).ReachableBy Call.Typed ∧
      joined.joins.map (·.result) = [result] ∧ joined.rowType ≠ result.resultType ∧
      joined.source ≠ .select node ∧
      (Query.select joined).toCommand .identity = .ok command ∧
      command.text = "SELECT [user].[Login] AS [Login], [link].[UserId] AS [UserId] " ++
        "FROM [UserRoleLink] [g]  JOIN [User] [user] ON [g].[Key] = [user].[Id] " ++
        "GROUP BY [link].[UserId]" := by
  obtain ⟨node, joined, result, command, grouped, isGrouped, done, isResult, otherRows, notSource,
      compiled, isText⟩ : ∃ node joined result command,
      (Call.add linksByUser).apply linkTable = .ok (.select node) ∧
        (Query.select node).IsGrouped ∧
        (Call.add (withLogins linksGroup (Expr.parameter linksGroup).key)).apply (.select node) =
          .ok (.select joined) ∧
        joined.joins.map (·.result) = [result] ∧ joined.rowType ≠ result.resultType ∧
        joined.source ≠ .select node ∧
        (Query.select joined).toCommand .identity = .ok command ∧
        command.text = "SELECT [user].[Login] AS [Login], [link].[UserId] AS [UserId] " ++
          "FROM [UserRoleLink] [g]  JOIN [User] [user] ON [g].[Key] = [user].[Id] " ++
          "GROUP BY [link].[UserId]" :=
    ⟨_, _, _, _, rfl, ⟨rfl, rfl⟩, rfl, rfl, by decide, nofun, rfl, by decide +kernel⟩
  have links : linkTable.ReachableBy Call.Typed := .table _
  have ran := run_cons_eq_ok.mpr ⟨_, grouped, run_singleton_eq_ok.mpr done⟩
  exact ⟨node, joined, result, command, run_singleton_eq_ok.mpr grouped, isGrouped, done,
    links.run linksByUser_typed ran, isResult, otherRows, notSource, compiled, isText⟩

end Query

end TypedQuery
