/-
Module: TypedQuery.Proofs.GroupElements
Purpose: What aggregates read of the rows of a group. A selector that takes a column of its
  parameter reads it from the source bound last, whatever the elements of the groups are. Behind a
  chain of joins that is the last joined source, so that elements are read aright only if they are
  the rows of that source.
Main exports: Sql.Scope.Gives.selected, Expr.SelectorsRead, Select.JoinsInChain.last_eq,
  Select.JoinsInChain.aggregates_read_last
-/
import TypedQuery.Proofs.GroupKeys

namespace TypedQuery

open Sql Sql.Compile

/-! ### Selectors -/

/-- The selector takes a column of its parameter. -/
def Lambda.column (param : Param) (column : String) : Lambda :=
  ⟨[param], (Expr.parameter param).field column⟩

/-- A quoted selector that takes a column reads it from what its parameter stands for; no
condition is wanted there. -/
theorem Lambda.compile_quote_column (scope : Scope) {param : Param}
    (isRow : param.ty.kind = .model) (column : String) (condition : Bool) (progress : Progress) :
    (Lambda.column param column).quote.compile scope condition progress =
      .ok (.unary .plain (.column (scope.aliases.ofParam param)
        (scope.resolver.columnName ⟨param.ty, column⟩)), progress) := by
  rw [Lambda.quote, Lambda.column, Expr.compile, Expr.compile]
  rw [bind_of_ok (Expr.compile_paramColumn scope isRow column progress)]
  rfl

/-- The place of what a selector takes, in the term of its aggregate: behind the group, inside
the quote. -/
def selectedPlace : List Nat := [1, 0]

/-- An aggregate over a column reads it from what the parameter of the selector stands for. -/
theorem Sql.Scope.Gives.selected {scope : Scope} {target : Expr} {name : String} {param : Param}
    {column : String} {ty : Ty} {term : Term} (isRow : param.ty.kind = .model)
    (gives : scope.Gives (target.aggregate name (.column param column) ty) term) :
    term.partAt? selectedPlace = some (.column (scope.aliases.ofParam param)
      (scope.resolver.columnName ⟨param.ty, column⟩)) := by
  obtain ⟨callee, terms, parts, -, ofArgs⟩ := gives.call
  obtain ⟨selector, others, ⟨condition, progress, progress', done⟩, -, rfl⟩ :=
    List.forall₂_cons_left_iff.mp ofArgs
  rw [Lambda.compile_quote_column scope isRow] at done
  cases done
  rw [selectedPlace, Term.partAt?_cons (by rw [parts]; rfl)]
  rfl

/-! ### Chains of joins -/

/-- Wherever the expression renders an aggregate over a column, the term reads the column under the
alias. -/
def Expr.SelectorsRead (resolver : Resolver) (table : String) (expr : Expr) (term : Term) : Prop :=
  ∀ (target : Expr) name param column ty place, param.ty.kind = .model →
    expr.Renders place (target.aggregate name (.column param column) ty) →
      term.partAt? (place ++ selectedPlace) =
        some (.column table (resolver.columnName ⟨param.ty, column⟩))

namespace Select.JoinsInChain

variable {node : Select} {joins : List RowJoin}

/-- The sources of a chain are named after the outer side of the first join and the inner sides of
all joins. -/
theorem sourceNames_eq (chain : node.JoinsInChain joins) :
    node.sourceNames =
      (joins.head?.map (·.outer.name)).toList ++ joins.map (·.inner.name) := by
  have inner : (joins.map RowJoin.toJoin).filterMap (Join.sideName? 1) =
      joins.map (·.inner.name) := by
    rw [List.filterMap_map]
    exact congrFun List.filterMap_eq_map' joins
  rw [sourceNames, chain.joins_eq, inner, List.head?_map]
  cases joins.head? <;> rfl

/-- Behind a chain of joins, the alias bound last is that of the last joined source. -/
theorem last_eq (chain : node.JoinsInChain joins) {last : RowJoin}
    (isLast : joins.getLast? = some last) {resolver : Resolver} {path : String}
    {first joined : Aliases} {key : Option Term} {body : Body}
    (compiled : node.CompiledTo resolver path first joined key body) :
    joined.last = some (path ++ last.inner.name) := by
  obtain ⟨start, rest, rfl⟩ := List.exists_cons_of_ne_nil chain.nonempty
  have kept : Aliases.rowField? start.toJoin.result 0 = some start.outerRow.1 :=
    Aliases.rowField?_record rfl start.keeps_outer
  have hasJoins : node.joins ≠ [] := by simp [chain.joins_eq]
  have lastName : ((start :: rest).map (·.inner.name)).getLast? = some last.inner.name := by
    rw [List.getLast?_map, isLast]
    rfl
  rw [compiled.last_of_kept chain.joins_eq kept, compiled.tables_eq hasJoins,
    chain.sourceNames_eq, List.getLast?_map, List.getLast?_append, lastName]
  rfl

/-- The field that keeps the rows of the last joined source belongs to no other source. -/
theorem param_of_innerRow (chain : node.JoinsInChain joins) {last : RowJoin} (isLast : last ∈ joins)
    {param : Param} (present : (last.innerRow.1, param) ∈ RowJoin.keptRows joins) :
    param = last.inner := by
  have inner : last.innerRow ∈ RowJoin.keptRows joins := by
    cases joins with
    | nil => cases isLast
    | cons first rest => exact .tail _ (List.mem_map_of_mem isLast)
  have same := List.inj_on_of_nodup_map chain.linked.keptRows_nodup present inner rfl
  exact congrArg Prod.snd same

/-- Behind a chain of joins, every aggregate over a column, in all clauses that range over groups,
reads the column from the source joined last; what the elements of the groups are plays no part. So
the elements are what aggregates read where they are the rows that the last join adds. -/
theorem aggregates_read_last (chain : node.JoinsInChain joins) {last : RowJoin}
    (isLast : joins.getLast? = some last) {resolver : Resolver} {path : String} {body : Body}
    (gives : node.GivesBody resolver path body) :
    node.OnGroups (Expr.SelectorsRead resolver (path ++ last.inner.name)) body ∧
      ∀ (row : Param) member param,
        node.groupElement = some ⟨[row], (Expr.parameter row).field member.name⟩ →
        row.ty = member.owner → (member, param) ∈ RowJoin.keptRows joins →
        member = last.innerRow.1 →
          node.OnGroups (Expr.SelectorsRead resolver (path ++ param.name)) body := by
  obtain ⟨first, joined, key, compiled⟩ := gives.compiledTo
  have readsLast : node.OnGroups (Expr.SelectorsRead resolver (path ++ last.inner.name)) body := by
    apply compiled.onGroups.mono
    intro expr term ofExpr target name param column ty place isRow placed
    obtain ⟨found, foundAt, ofAggregate⟩ := ofExpr.rendered placed
    rw [Term.partAt?_append, foundAt, Option.bind_some, ofAggregate.selected isRow,
      Aliases.ofParam, chain.last_eq isLast compiled]
  refine ⟨readsLast, ?_⟩
  rintro row _ param isElement isRow present rfl
  rw [chain.param_of_innerRow (List.mem_of_getLast? isLast) present]
  exact readsLast

end Select.JoinsInChain

namespace Query

/-- Groups by the id of a role, of rows like the given one. -/
def roleGroup (row : Param) : Param := ⟨"g", .group .int row.ty⟩

/-- The sum of a column over the elements of a group. -/
def total (row : Param) (column : String) : Lambda :=
  ⟨[roleGroup row], .record [("Total",
    (Expr.parameter (roleGroup row)).sum (.column ⟨"x", row.ty⟩ column))]⟩

/-- From users and their links to groups by role, with one of the rows so far as elements, and to
the sums of a column of these. -/
def sumsByRole (kept : String) (row : Param) (column : String) : List Call :=
  [.add (.join .left linkTable userLinks.outerKey userLinks.innerKey userLinks.toJoin.result),
    .add (.groupByElement ⟨[pairRow], ((Expr.parameter pairRow).field "link").field "RoleId"⟩
      ⟨[pairRow], (Expr.parameter pairRow).field kept⟩),
    .add (.project (total row column))]

/-- With links as elements, the sum reads a column of links. -/
theorem sumsByRole_links :
    ∃ node body parameters nested term,
      run (sumsByRole "link" linkRow "UserId") userTable = .ok (.select node) ∧
      node.compile .identity "" 0 = .ok ((body, parameters), nested) ∧
      body.selection = .terms term ∧ term.partAt? [0, 1, 0] = some (.column "link" "UserId") := by
  obtain ⟨node, body, parameters, nested, ran, compiled, isChain, isElement, isProjection⟩ :
      ∃ node body parameters nested,
        run (sumsByRole "link" linkRow "UserId") userTable = .ok (.select node) ∧
        node.compile .identity "" 0 = .ok ((body, parameters), nested) ∧
        node.joins = [userLinks].map RowJoin.toJoin ∧
        node.groupElement = some ⟨[pairRow], (Expr.parameter pairRow).field "link"⟩ ∧
        node.projection = some (total linkRow "UserId") :=
    ⟨_, _, _, _, rfl, rfl, rfl, rfl, rfl⟩
  have chain : node.JoinsInChain [userLinks] := ⟨by simp, .singleton _, isChain⟩
  have gives : node.GivesBody .identity "" body := ⟨_, _, _, compiled⟩
  obtain ⟨-, ofElements⟩ := Select.JoinsInChain.aggregates_read_last chain rfl gives
  have reads := ofElements pairRow userLinks.innerRow.1 linkRow isElement rfl
    (.tail _ (.head _)) rfl
  obtain ⟨term, isSelection, selected⟩ := reads.columns (total linkRow "UserId")
    (by simp [isProjection])
  have isSum : (total linkRow "UserId").body.Renders [0]
      ((Expr.parameter (roleGroup linkRow)).sum (.column ⟨"x", linkRow.ty⟩ "UserId")) :=
    .field (by decide) rfl (.whole _)
  exact ⟨node, body, parameters, nested, term, ran, compiled, isSelection,
    selected _ _ _ _ _ _ rfl isSum⟩

/-! ### Elements from an earlier source -/

theorem sumsByRole_fits : AllowedRun Call.Fits (sumsByRole "user" userRow "Id") userTable := by
  refine ⟨by decide, List.forall_mem_singleton.mpr (.table _), ?_⟩
  rintro _ ⟨⟩
  refine ⟨by decide, List.forall_mem_nil _, ?_⟩
  rintro _ ⟨⟩
  exact ⟨by decide, List.forall_mem_nil _, fun _ _ => trivial⟩

/-- With users as elements, the sum still reads a column of links. -/
theorem sumsByRole_users_mismatch :
    ∃ query body parameters nested,
      run (sumsByRole "user" userRow "Id") userTable = .ok query ∧
      query.ReachableBy Call.Fits ∧
      query.compile .identity "" 0 = .ok ((.select body, parameters), nested) ∧
      body.tables = ["user", "link"] ∧
      ∃ term, body.selection = .terms term ∧
        term.partAt? [0, 1, 0] = some (.column "link" "Id") := by
  obtain ⟨query, body, parameters, nested, term, ran, compiled, tables, selection, selected⟩ :
      ∃ query body parameters nested term,
        run (sumsByRole "user" userRow "Id") userTable = .ok query ∧
        query.compile .identity "" 0 = .ok ((.select body, parameters), nested) ∧
        body.tables = ["user", "link"] ∧ body.selection = .terms term ∧
        term.partAt? [0, 1, 0] = some (.column "link" "Id") :=
    ⟨_, _, _, _, _, rfl, rfl, rfl, rfl, rfl⟩
  have users : userTable.ReachableBy Call.Fits := .table _
  exact ⟨query, body, parameters, nested, ran, users.run sumsByRole_fits ran, compiled, tables,
    term, selection, selected⟩

end Query

end TypedQuery
