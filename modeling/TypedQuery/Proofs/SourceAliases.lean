/-
Module: TypedQuery.Proofs.SourceAliases
Purpose: The aliases that a select command declares: that of its source and those of its joins.
  With joins they are the names of parameters of the joins' results under the prefix of the
  command, and so are all aliases known while it is compiled. Nothing sets aliases of two joins
  apart but these names.
Main exports: Sql.Body.tables, Select.sourceNames, Select.CompiledTo.tables_eq,
  Select.aliasesAt_named, Select.CompiledTo.getLast?_tables,
  Query.GivesCommand.tables_distinct_iff
-/
import TypedQuery.Proofs.AliasNames
import TypedQuery.Proofs.CommandNodes
import TypedQuery.Proofs.JoinChains
import TypedQuery.Proofs.TypedCalls

namespace TypedQuery

open Sql Sql.Compile

/-- The aliases that a command declares: of its source, if it has one, and of its joins. -/
def Sql.Body.tables (body : Body) : List String := body.table.toList ++ body.joins.map (·.table)

/-- The names that the sources of a node with joins go by: of the outer side of the first join,
and of the inner sides of all joins. -/
def Select.sourceNames (node : Select) : List String :=
  (node.joins.head?.bind (Join.sideName? 0)).toList ++ node.joins.filterMap (Join.sideName? 1)

/-! ### Aliases along the joins -/

namespace Sql.Aliases

variable {permitted : String → Prop} {path : String} {aliases : Aliases}

/-- What binding a join and completing it preserve holds all along the joins. -/
theorem along_preserves (holds : Aliases → Prop) {joins : List Join} {count : Nat}
    {result : Aliases} (before : holds aliases)
    (step : ∀ join ∈ joins, ∀ before bound table, holds before →
      before.bindJoin join = .ok (table, bound) → holds bound ∧ holds (bound.advance table))
    (done : aliases.along joins count = .ok result) : holds result := by
  induction joins generalizing aliases count with
  | nil =>
      cases done
      exact before
  | cons join rest ih =>
      rw [along] at done
      cases binds : aliases.bindJoin join with
      | error error =>
          rw [binds] at done
          cases done
      | ok pair =>
          obtain ⟨table, bound⟩ := pair
          rw [binds] at done
          obtain ⟨ofBound, ofAdvanced⟩ := step join (.head _) aliases bound table before binds
          cases count with
          | zero =>
              cases done
              exact ofBound
          | succ count =>
              exact ih ofAdvanced (fun join present => step join (.tail _ present)) done

theorem last_register (member : Option Member) (table : String) :
    (aliases.register member table).last = aliases.last := by
  cases member <;> rfl

theorem path_register (member : Option Member) (table : String) :
    (aliases.register member table).path = aliases.path := by
  cases member <;> rfl

/-- Joins bind permitted names if their inner sides have such, and leave a last alias where there
was one. -/
theorem along_named {joins : List Join} {count : Nat} {result : Aliases}
    (known : Named permitted path aliases)
    (permits : ∀ join ∈ joins, ∀ name ∈ join.sideName? 1, permitted name)
    (done : aliases.along joins count = .ok result) :
    Named permitted path result ∧ (result.last = none → aliases.last = none) := by
  refine along_preserves
    (fun reached => Named permitted path reached ∧ (reached.last = none → aliases.last = none))
    ⟨known, id⟩ ?_ done
  rintro join present before bound table ⟨known, keepsLast⟩ binds
  obtain ⟨name, isName, rfl, rfl⟩ := bindJoin_eq_ok binds
  have named : IsNamed permitted path (before.path ++ name) :=
    ⟨name, permits join present name isName, by rw [known.path_eq]⟩
  have registered := register_named known (rowField? join.result 1) named
  refine ⟨⟨registered, ?_⟩, advance_named registered named, ?_⟩
  · rw [last_register]
    exact keepsLast
  · rw [advance, Option.map_eq_none_iff, last_register]
    exact keepsLast

end Sql.Aliases

/-! ### Aliases of a node -/

/-- All aliases known at a point of a node with joins are those of its sources. The last one is
missing only if the first join's result keeps no row of the first source. -/
theorem Select.aliasesAt_named {node : Select} {join : Join} {rest : List Join}
    (joins : node.joins = join :: rest) {path : String} {count : Nat} {aliases : Aliases}
    (isAt : node.aliasesAt path count = .ok aliases) :
    Aliases.Named (· ∈ node.sourceNames) path aliases ∧
      (aliases.last = none → Aliases.rowField? join.result 0 = none) := by
  obtain ⟨table, first, binds, ofAll⟩ := Select.aliasesAt_eq_ok isAt
  obtain ⟨name, isName, -, rfl⟩ := Aliases.bindSource_of_join joins binds
  have outer : Aliases.IsNamed (· ∈ node.sourceNames) path (path ++ name) :=
    ⟨name, by simp [sourceNames, joins, isName], rfl⟩
  have inner : ∀ join ∈ node.joins, ∀ name ∈ join.sideName? 1, name ∈ node.sourceNames := by
    intro join present name isName
    exact List.mem_append_right _ (List.mem_filterMap.mpr ⟨join, present, isName⟩)
  obtain ⟨ofJoins, keepsLast⟩ :=
    Aliases.along_named (Aliases.beforeJoin_named outer join) inner ofAll
  refine ⟨ofJoins, ?_⟩
  intro noLast
  -- Joins never take the last alias away, so it was missing from the start.
  have noneBefore := keepsLast noLast
  rwa [Aliases.last_beforeJoin, Option.map_eq_none_iff] at noneBefore

/-- The clauses of joins go by the names of the joins' inner sides. -/
theorem Join.tables_of_compileAll {scope final : Scope} {joins : List Join}
    {clauses : List JoinClause} {progress progress' : Progress}
    (done : Join.compileAll scope joins progress = .ok ((clauses, final), progress')) :
    clauses.map (·.table) =
      (joins.filterMap (Join.sideName? 1)).map (scope.aliases.path ++ ·) := by
  induction joins generalizing scope clauses progress with
  | nil =>
      rw [Join.compileAll] at done
      cases done
      rfl
  | cons join rest ih =>
      obtain ⟨bound, clause, others, later, compiled, rfl, after⟩ := Join.compileAll_cons done
      obtain ⟨name, isName, isTable, rfl⟩ := Aliases.bindJoin_eq_ok compiled.binds
      have ofRest := ih after
      simp only [Aliases.advance, Aliases.path_register] at ofRest
      rw [List.map_cons, ofRest, List.filterMap_cons_some isName, List.map_cons, isTable]

namespace Select.CompiledTo

variable {resolver : Resolver} {path : String} {node : Select} {first joined : Aliases}
  {key : Option Term} {body : Body}

/-- With joins, the aliases that a command declares are the names of its sources. -/
theorem tables_eq (compiled : node.CompiledTo resolver path first joined key body)
    (hasJoins : node.joins ≠ []) : body.tables = node.sourceNames.map (path ++ ·) := by
  obtain ⟨join, rest, joins⟩ := List.exists_cons_of_ne_nil hasJoins
  obtain ⟨name, isName, isTable, rfl⟩ := Aliases.bindSource_of_join joins compiled.binds
  obtain ⟨progress, progress', ofJoins⟩ := compiled.joins
  have ofClauses := Join.tables_of_compileAll ofJoins
  simp only [Aliases.path_beforeJoin] at ofClauses
  have ofHead : node.joins.head?.bind (Join.sideName? 0) = some name := by
    rw [joins]
    exact isName
  rw [Body.tables, sourceNames, ofHead, isTable, ofClauses, List.map_append]
  rfl

/-- Without joins, at most the source has an alias. -/
theorem tables_of_no_joins (compiled : node.CompiledTo resolver path first joined key body)
    (noJoins : node.joins = []) : body.tables = body.table.toList := by
  have noClauses : body.joins = [] := by
    rw [← List.length_eq_zero_iff, compiled.length_joins, noJoins]
    rfl
  rw [Body.tables, noClauses]
  exact List.append_nil _

/-- The aliases of a command are distinct just when the names of its sources are. -/
theorem tables_nodup_iff (compiled : node.CompiledTo resolver path first joined key body) :
    body.tables.Nodup ↔ node.sourceNames.Nodup := by
  by_cases joins : node.joins = []
  · have single : body.table.toList.Nodup := by cases body.table <;> simp
    rw [compiled.tables_of_no_joins joins]
    simp [single, sourceNames, joins]
  · rw [compiled.tables_eq joins]
    refine List.nodup_map_iff ?_
    intro name name' same
    exact String.append_right_inj path |>.mp same

end Select.CompiledTo

/-- A single join whose result tells its sides apart has sources of different names. -/
theorem Select.sourceNames_nodup_of_single {node : Select} (few : node.joins.length ≤ 1)
    (apart : ∀ join ∈ node.joins, join.result.NamesApart) : node.sourceNames.Nodup := by
  cases joins : node.joins with
  | nil => simp [sourceNames, joins]
  | cons join rest =>
      obtain rfl : rest = [] := by
        rw [joins, List.length_cons] at few
        exact List.length_eq_zero_iff.mp (by omega)
      have namesApart := apart join (by simp [joins])
      unfold Lambda.NamesApart at namesApart
      rw [sourceNames, joins]
      cases params : join.result.params with
      | nil => simp [Join.sideName?, params]
      | cons outer others =>
          cases others with
          | nil => simp [Join.sideName?, params]
          | cons inner others =>
              rw [params] at namesApart
              simp only [List.map_cons, List.nodup_cons, List.mem_cons, not_or] at namesApart
              simpa [Join.sideName?, params] using namesApart.1.1

/-! ### The alias bound last -/

/-- After the source is bound, the last alias, if there is one, is that of the source. -/
theorem Sql.Aliases.last_of_bindSource {path : String} {node : Select} {table : Option String}
    {aliases : Aliases} (binds : bindSource path node = .ok (table, aliases)) {last : String}
    (isLast : aliases.last = some last) : table = some last := by
  cases joins : node.joins with
  | nil =>
      rw [bindSource_of_no_joins joins binds] at isLast
      exact isLast
  | cons join rest =>
      obtain ⟨name, -, rfl, rfl⟩ := bindSource_of_join joins binds
      rw [last_beforeJoin] at isLast
      obtain ⟨member, -, rfl⟩ := Option.map_eq_some_iff.mp isLast
      rfl

/-- A last alias behind the joins is that of the last of them; there was one before them. -/
theorem Join.last_of_compileAll {scope final : Scope} {joins : List Join}
    {clauses : List JoinClause} {progress progress' : Progress}
    (done : Join.compileAll scope joins progress = .ok ((clauses, final), progress'))
    {last : String} (isLast : final.aliases.last = some last) :
    ∃ before, scope.aliases.last = some before ∧
      (before :: clauses.map (·.table)).getLast? = some last := by
  induction joins generalizing scope clauses progress with
  | nil =>
      rw [Join.compileAll] at done
      cases done
      exact ⟨last, isLast, rfl⟩
  | cons join rest ih =>
      obtain ⟨bound, clause, others, later, compiled, rfl, after⟩ := Join.compileAll_cons done
      obtain ⟨name, -, -, rfl⟩ := Aliases.bindJoin_eq_ok compiled.binds
      obtain ⟨table, isTable, isGetLast⟩ := ih after
      obtain ⟨before, isBefore, rfl⟩ := Option.map_eq_some_iff.mp isTable
      rw [Aliases.last_register] at isBefore
      refine ⟨before, isBefore, ?_⟩
      rw [List.map_cons, List.getLast?_cons_cons]
      exact isGetLast

namespace Select.CompiledTo

variable {resolver : Resolver} {path : String} {node : Select} {first joined : Aliases}
  {key : Option Term} {body : Body}

/-- The alias bound last is the last one that the command declares. -/
theorem getLast?_tables (compiled : node.CompiledTo resolver path first joined key body)
    {last : String} (isLast : joined.last = some last) : body.tables.getLast? = some last := by
  obtain ⟨progress, progress', ofJoins⟩ := compiled.joins
  obtain ⟨before, isBefore, isGetLast⟩ := Join.last_of_compileAll ofJoins isLast
  rw [Body.tables, Aliases.last_of_bindSource compiled.binds isBefore]
  exact isGetLast

/-- If the first join's result keeps the rows of the first source, some alias is bound last. -/
theorem last_of_kept (compiled : node.CompiledTo resolver path first joined key body)
    {join : Join} {rest : List Join} (joins : node.joins = join :: rest) {member : Member}
    (kept : Aliases.rowField? join.result 0 = some member) :
    joined.last = body.tables.getLast? := by
  obtain ⟨-, unkept⟩ := Select.aliasesAt_named joins compiled.aliasesAt_length
  cases isLast : joined.last with
  | none =>
      rw [unkept isLast] at kept
      cases kept
  | some last => exact (compiled.getLast?_tables isLast).symm

end Select.CompiledTo

/-! ### All select commands -/

/-- In every select command of a compiled query, the aliases of the sources are the names of
parameters of the joins' results: of the outer side of the first join and of the inner sides of
all joins, under the prefix of the command. They are distinct just when these names are; with at
most one join, it is enough that the join's result tells its sides apart. -/
theorem Query.GivesCommand.tables_distinct_iff {resolver : Resolver} {query : Query}
    {statement : Statement} (gives : query.GivesCommand resolver statement) {body : Body}
    (contains : statement.Contains body) :
    ∃ node path, query.Contains node ∧ node.GivesBody resolver path body ∧
      (node.joins ≠ [] → body.tables = node.sourceNames.map (path ++ ·)) ∧
      (body.tables.Nodup ↔ node.sourceNames.Nodup) ∧
      (node.joins.length ≤ 1 → (∀ join ∈ node.joins, join.result.NamesApart) →
        body.tables.Nodup) := by
  obtain ⟨node, path, isNode, givesBody⟩ := gives.node_of_contains contains
  obtain ⟨first, joined, key, compiled⟩ := givesBody.compiledTo
  refine ⟨node, path, isNode, givesBody, compiled.tables_eq, compiled.tables_nodup_iff, ?_⟩
  intro few apart
  exact compiled.tables_nodup_iff.mpr (Select.sourceNames_nodup_of_single few apart)

/-- The users, links and roles of the chain of joins have aliases of their own. -/
theorem Query.loginsOfRole_tables :
    ∃ query statement body, run loginsOfRole userTable = .ok query ∧
      query.GivesCommand .identity statement ∧ statement.Contains body ∧
      body.tables = ["user", "link", "role"] ∧
      ∃ node path, query.Contains node ∧ node.GivesBody .identity path body ∧
        (body.tables.Nodup ↔ node.sourceNames.Nodup) := by
  obtain ⟨query, body, parameters, nested, ran, compiled, tables⟩ :
      ∃ query body parameters nested, run loginsOfRole userTable = .ok query ∧
        query.compile .identity "" 0 = .ok ((.select body, parameters), nested) ∧
        body.tables = ["user", "link", "role"] :=
    ⟨_, _, _, _, rfl, rfl, rfl⟩
  have gives : query.GivesCommand .identity (.select body) := ⟨_, _, _, _, compiled⟩
  have contains := Statement.Contains.body body
  obtain ⟨node, path, isNode, givesBody, -, distinct, -⟩ :=
    Query.GivesCommand.tables_distinct_iff gives contains
  exact ⟨query, _, body, ran, gives, contains, tables, node, path, isNode, givesBody, distinct⟩

/-! ### Two joins of one name -/

namespace Query

/-- Users and their links with the links to the same role. -/
def linkPairs : RowJoin where
  kind := .inner
  source := linkTable
  outerKey := ⟨[pairRow], ((Expr.parameter pairRow).field "link").field "RoleId"⟩
  innerKey := ⟨[linkRow], (Expr.parameter linkRow).field "RoleId"⟩
  outer := pairRow
  inner := linkRow
  fields := [("pair", .parameter pairRow), ("other", .parameter linkRow)]
  outerField := "pair"
  innerField := "other"
  named_apart := by decide
  distinct := by decide
  keeps_outer := by simp [pairRow, linkRow]
  keeps_inner := by simp [pairRow, linkRow]
  outer_model := linkRoles.outer_model
  inner_model := userLinks.inner_model

/-- From users to those that share a role. Both joins call a link a link. -/
def roleMates : List Call :=
  [.add (.join .left linkTable userLinks.outerKey userLinks.innerKey userLinks.toJoin.result),
    .add (.join .inner linkTable linkPairs.outerKey linkPairs.innerKey linkPairs.toJoin.result)]

theorem roleMates_typed : AllowedRun Call.Typed roleMates userTable := by
  have links : ∀ operand ∈ [linkTable],
      operand.ReachableBy Call.Typed :=
    List.forall_mem_singleton.mpr (.table _)
  refine ⟨by decide, links, ?_⟩
  rintro _ ⟨⟩
  exact ⟨by decide, links, fun _ _ => trivial⟩

/-- Every join tells its own sides apart, and yet two sources share an alias. -/
theorem roleMates_tables :
    ∃ query body parameters nested, run roleMates userTable = .ok query ∧
      query.ReachableBy Call.Typed ∧
      query.compile .identity "" 0 = .ok ((.select body, parameters), nested) ∧
      body.tables = ["user", "link", "link"] ∧ ¬ body.tables.Nodup := by
  obtain ⟨query, body, parameters, nested, ran, compiled, tables⟩ :
      ∃ query body parameters nested, run roleMates userTable = .ok query ∧
        query.compile .identity "" 0 = .ok ((.select body, parameters), nested) ∧
        body.tables = ["user", "link", "link"] :=
    ⟨_, _, _, _, rfl, rfl, rfl⟩
  have users : userTable.ReachableBy Call.Typed := .table _
  exact ⟨query, body, parameters, nested, ran, users.run roleMates_typed ran, compiled, tables,
    by simp [tables]⟩

end Query

end TypedQuery
