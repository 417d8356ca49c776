/-
Module: TypedQuery.Proofs.Qualifiers
Purpose: The aliases under which the clauses of a select command with joins read rows and columns.
  They are aliases that the command declares, with one exception: where the result of the first
  join keeps no whole row of the first source, parameters stand for themselves.
Main exports: Sql.Body.Reads, Select.CompiledTo.reads_cases, Query.GivesCommand.reads_declared
-/
import TypedQuery.Proofs.SourceAliases

namespace TypedQuery

open Sql Sql.Compile

/-- In one of its own clauses, the command reads a row or a column under the alias. -/
def Sql.Body.Reads (body : Body) (table : String) : Prop :=
  ∃ term ∈ body.terms, ∃ leaf, term.HasLeaf leaf ∧ leaf.table? = some table

/-- A parameter that a lambda of the node refers to stands for itself under the prefix. -/
def Select.NamesParam (path : String) (node : Select) (table : String) : Prop :=
  ∃ function ∈ node.functions, ∃ param ∈ function.body.references, table = path ++ param.name

/-- What a parameter or field stands for at a point of a node with joins is an alias of one of the
sources, or the parameter itself if the first join's result keeps no row of the first source. -/
theorem Select.table_of_leafIn {node : Select} {join : Join} {rest : List Join}
    (joins : node.joins = join :: rest) {path : String} {count : Nat} {aliases : Aliases}
    (isAt : node.aliasesAt path count = .ok aliases) {resolver : Resolver} {function : Lambda}
    (present : function ∈ node.functions) {leaf : Term} {table : String}
    (leafIn : function.body.LeafIn ⟨resolver, path, aliases, none⟩ leaf)
    (isTable : leaf.table? = some table) :
    table ∈ node.sourceNames.map (path ++ ·) ∨
      Aliases.rowField? join.result 0 = none ∧ node.NamesParam path table := by
  obtain ⟨named, unkept⟩ := Select.aliasesAt_named joins isAt
  have declared {table : String} (isNamed : Aliases.IsNamed (· ∈ node.sourceNames) path table) :
      table ∈ node.sourceNames.map (path ++ ·) := by
    obtain ⟨name, isName, rfl⟩ := isNamed
    exact List.mem_map_of_mem isName
  cases leafIn with
  | key isKey isLeaf => cases isKey
  | plain noTable noCommand =>
      rw [noTable] at isTable
      cases isTable
  | captured isCaptured gives => cases isTable
  | kept found =>
      cases isTable
      exact .inl (declared (Aliases.ofMember?_named named found))
  | @param param _ referred isAlias noCommand =>
      obtain rfl : aliases.ofParam param = table := Option.some.inj (isAlias.symm.trans isTable)
      cases isLast : aliases.last with
      | some last =>
          refine .inl (declared ?_)
          rw [Aliases.ofParam, isLast]
          exact named.last last isLast
      | none =>
          refine .inr ⟨unkept isLast, function, present, param, referred, ?_⟩
          rw [Aliases.ofParam, isLast]
          exact congrArg (· ++ param.name) named.path_eq

/-- The clauses of a command with joins read under declared aliases, or under the names of
parameters if the first join's result keeps no row of the first source. -/
theorem Select.CompiledTo.reads_cases {resolver : Resolver} {path : String} {node : Select}
    {first joined : Aliases} {key : Option Term} {body : Body}
    (compiled : node.CompiledTo resolver path first joined key body) {join : Join}
    {rest : List Join} (joins : node.joins = join :: rest) {table : String}
    (reads : body.Reads table) :
    table ∈ body.tables ∨
      Aliases.rowField? join.result 0 = none ∧ node.NamesParam path table := by
  obtain ⟨term, isTerm, leaf, hasLeaf, isTable⟩ := reads
  rcases compiled.leaf_cases isTerm hasLeaf with
    ⟨clause, isClause, column, rfl⟩ | ⟨function, present, count, aliases, isAt, leafIn⟩
  · cases isTable
    exact .inl (List.mem_append_right _ (List.mem_map_of_mem isClause))
  · rw [compiled.tables_eq (by simp [joins])]
    exact Select.table_of_leafIn joins isAt present leafIn isTable

/-- In every select command with joins of a compiled query, each alias under which a clause reads
a row or a column is declared by the source or a join of that command. Only where the result of the
first join assigns its outer parameter to no field, it may instead be the name of a parameter that
a lambda of the node refers to, under the prefix of the command. -/
theorem Query.GivesCommand.reads_declared {resolver : Resolver} {query : Query}
    {statement : Statement} (gives : query.GivesCommand resolver statement) {body : Body}
    (contains : statement.Contains body) (hasJoins : body.joins ≠ []) :
    ∃ node path join rest, query.Contains node ∧ node.GivesBody resolver path body ∧
      node.joins = join :: rest ∧
      ∀ table, body.Reads table →
        table ∈ body.tables ∨
          Aliases.rowField? join.result 0 = none ∧ node.NamesParam path table := by
  obtain ⟨node, path, isNode, givesBody⟩ := gives.node_of_contains contains
  obtain ⟨first, joined, key, compiled⟩ := givesBody.compiledTo
  have nodeJoins : node.joins ≠ [] := by
    intro noJoins
    apply hasJoins
    rw [← List.length_eq_zero_iff, compiled.length_joins, noJoins]
    rfl
  obtain ⟨join, rest, joins⟩ := List.exists_cons_of_ne_nil nodeJoins
  exact ⟨node, path, join, rest, isNode, givesBody, joins,
    fun table reads => compiled.reads_cases joins reads⟩

namespace Query

/-- The chain of joins keeps the rows of users, so every alias that it reads under is declared. -/
theorem loginsOfRole_reads :
    ∃ query statement body, run loginsOfRole userTable = .ok query ∧
      query.GivesCommand .identity statement ∧ statement.Contains body ∧ body.joins ≠ [] ∧
      ∃ node path join rest, query.Contains node ∧ node.GivesBody .identity path body ∧
        node.joins = join :: rest ∧
        ∀ table, body.Reads table →
          table ∈ body.tables ∨
            Aliases.rowField? join.result 0 = none ∧ node.NamesParam path table := by
  obtain ⟨query, body, parameters, nested, ran, compiled, hasJoins⟩ :
      ∃ query body parameters nested, run loginsOfRole userTable = .ok query ∧
        query.compile .identity "" 0 = .ok ((.select body, parameters), nested) ∧
        body.joins ≠ [] :=
    ⟨_, _, _, _, rfl, rfl, List.cons_ne_nil _ _⟩
  have gives : query.GivesCommand .identity (.select body) := ⟨_, _, _, _, compiled⟩
  have contains := Statement.Contains.body body
  exact ⟨query, _, body, ran, gives, contains, hasJoins,
    Query.GivesCommand.reads_declared gives contains hasJoins⟩

/-! ### A join without whole rows -/

/-- From users to the ids of their links to role 5. The result of the join keeps no whole row. -/
def linkedIds : List Call :=
  let ids : Expr := .record [("UserId", (Expr.parameter userRow).field "Id"),
    ("RoleId", (Expr.parameter linkRow).field "RoleId")]
  let joined : Param := ⟨"t", ids.ty⟩
  [.add (.join .inner linkTable userLinks.outerKey userLinks.innerKey ⟨[userRow, linkRow], ids⟩),
    .add (.filter ⟨[joined], ((Expr.parameter joined).field "RoleId").equals
      (.literal (.int 5))⟩)]

theorem linkedIds_typed : AllowedRun Call.Typed linkedIds userTable := by
  refine ⟨by decide, List.forall_mem_singleton.mpr (.table _), ?_⟩
  rintro _ ⟨⟩
  exact ⟨by decide, List.forall_mem_nil _, fun _ _ => trivial⟩

/-- The filter reads under the name of its parameter, which no source has. -/
theorem linkedIds_reads_undeclared :
    ∃ query body parameters nested, run linkedIds userTable = .ok query ∧
      query.ReachableBy Call.Typed ∧
      query.compile .identity "" 0 = .ok ((.select body, parameters), nested) ∧
      body.joins ≠ [] ∧ body.tables = ["user", "link"] ∧ body.Reads "t" ∧
      "t" ∉ body.tables := by
  obtain ⟨query, body, parameters, nested, ran, compiled, hasJoins, tables, filters⟩ :
      ∃ query body parameters nested, run linkedIds userTable = .ok query ∧
        query.compile .identity "" 0 = .ok ((.select body, parameters), nested) ∧
        body.joins ≠ [] ∧ body.tables = ["user", "link"] ∧
        body.filters = [.binary .eq (.column "t" "RoleId") (.placeholder "@p0")] :=
    ⟨_, _, _, _, rfl, rfl, List.cons_ne_nil _ _, rfl, rfl⟩
  have users : userTable.ReachableBy Call.Typed := .table _
  refine ⟨query, body, parameters, nested, ran, users.run linkedIds_typed ran, compiled, hasJoins,
    tables, ?_, by simp [tables]⟩
  have isTerm : Term.binary .eq (.column "t" "RoleId") (.placeholder "@p0") ∈ body.terms := by
    simp [Body.terms, filters]
  exact ⟨_, isTerm, .column "t" "RoleId", .part (.head _) (.whole rfl), rfl⟩

end Query

end TypedQuery
