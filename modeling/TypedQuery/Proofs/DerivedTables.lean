/-
Module: TypedQuery.Proofs.DerivedTables
Purpose: Commands in the place of a source. Such a derived table has an alias just when the
  select node over it joins or a lambda that is asked for a name ranges over its rows, at most
  one field down. The builder puts a node over another one only for a call with a lambda, so a
  derived table is without an alias only where row modifiers alone are put over a set operation.
Main exports: Select.NamesRows, Sql.Aliases.search_isSome_iff, Select.table_isSome_iff,
  Select.AddsLambda, Query.Reachable.addsLambda, Query.GivesCommand.table_of_derived
-/
import TypedQuery.Proofs.SoleSources
import TypedQuery.Proofs.TermTokens

namespace TypedQuery

open Sql Sql.Compile

/-! ### When the search finds a name -/

/-- A lambda that is asked for a name has a parameter over the rows of the source, or over
values with a field that holds such a row. -/
def Select.NamesRows (node : Select) : Prop :=
  ∃ function ∈ Aliases.lambdas node, ∃ param ∈ function.params,
    param.ty = node.modelType ∨ ∃ field ∈ param.ty.fields, field.ty = node.modelType

namespace Sql.Aliases

theorem find?_isSome_iff (ty : Ty) (params : List Param) :
    (params.find? (·.ty == ty)).isSome = true ↔ ∃ param ∈ params, param.ty = ty := by
  simp [List.find?_isSome]

/-- The first of each type are of all types that occur. -/
theorem exists_firstOfEachType_iff (holds : Ty → Prop) (params : List Param) :
    (∃ param ∈ firstOfEachType params, holds param.ty) ↔ ∃ param ∈ params, holds param.ty := by
  constructor
  · rintro ⟨param, kept, ofType⟩
    exact ⟨param, mem_of_mem_firstOfEachType kept, ofType⟩
  · rintro ⟨param, present, ofType⟩
    have found := (find?_isSome_iff param.ty params).mpr ⟨param, present, rfl⟩
    rw [← find?_firstOfEachType, find?_isSome_iff] at found
    obtain ⟨first, kept, sameType⟩ := found
    exact ⟨first, kept, sameType ▸ ofType⟩

/-- One level down are the types of the fields. -/
theorem exists_expand_iff (ty : Ty) (scope : List Param) :
    (∃ param ∈ expand scope, param.ty = ty) ↔
      ∃ param ∈ scope, ∃ field ∈ param.ty.fields, field.ty = ty := by
  rw [expand, exists_firstOfEachType_iff (· = ty)]
  simp only [List.mem_flatMap, List.mem_map]
  constructor
  · rintro ⟨_, ⟨param, present, field, isField, rfl⟩, sameType⟩
    exact ⟨param, present, field, isField, sameType⟩
  · rintro ⟨param, present, field, isField, sameType⟩
    exact ⟨_, ⟨param, present, field, isField, rfl⟩, sameType⟩

/-- The search succeeds just when the type is that of a parameter or of a parameter's field. -/
theorem search_isSome_iff (ty : Ty) (params : List Param) :
    (search ty expansionLevels (firstOfEachType params)).isSome = true ↔
      ∃ param ∈ params, param.ty = ty ∨ ∃ field ∈ param.ty.fields, field.ty = ty := by
  have own := exists_firstOfEachType_iff (· = ty) params
  have below := exists_firstOfEachType_iff (fun held => ∃ field ∈ held.fields, field.ty = ty) params
  rw [← find?_isSome_iff] at own
  rw [← exists_expand_iff, ← find?_isSome_iff] at below
  simp only [and_or_left, exists_or, ← own, ← below]
  rw [expansionLevels, search]
  cases found : (firstOfEachType params).find? (·.ty == ty) with
  | some param => simp
  | none =>
      rw [search]
      cases isEmpty : firstOfEachType params with
      | nil => simp [expand, firstOfEachType]
      | cons first rest => simp

end Sql.Aliases

/-- A source has an alias just when its node joins or names its rows. -/
theorem Select.table_isSome_iff {path : String} {node : Select} {table : Option String}
    {aliases : Aliases} (binds : Aliases.bindSource path node = .ok (table, aliases)) :
    table.isSome = true ↔ node.joins ≠ [] ∨ node.NamesRows := by
  cases joins : node.joins with
  | cons join rest =>
      obtain ⟨name, -, rfl, -⟩ := Aliases.bindSource_of_join joins binds
      simp
  | nil =>
      have found := Aliases.search_isSome_iff node.modelType
        ((Aliases.lambdas node).flatMap (·.params))
      have names : node.NamesRows ↔ ∃ param ∈ (Aliases.lambdas node).flatMap (·.params),
          param.ty = node.modelType ∨ ∃ field ∈ param.ty.fields, field.ty = node.modelType := by
        simp only [NamesRows, List.mem_flatMap]
        grind
      rw [Aliases.bindSource_eq_search joins] at binds
      cases binds
      rw [names, ← found, Option.isSome_map]
      simp

/-! ### Nodes over nodes -/

/-- A node over another select node has a lambda. -/
def Select.AddsLambda (node : Select) : Prop :=
  ∀ inner, node.source = .select inner → node.functions ≠ []

namespace Query

namespace Clause

variable {clause : Clause} {node : Select}

/-- A call with a lambda leaves one in the node that takes it. -/
theorem change_functions_ne_nil (hasLambda : clause.functions ≠ []) (node : Select) :
    (clause.change node).functions ≠ [] := by
  cases clause with
  | keep count => exact absurd rfl hasLambda
  | leaveOut count => exact absurd rfl hasLambda
  | distinct => exact absurd rfl hasLambda
  | filter predicate =>
      simp only [change]
      split <;> simp [Select.functions, Select.unaryFunctions]
  | _ => simp [change, Select.functions, Select.unaryFunctions]

/-- A call without a lambda changes none. -/
theorem change_functions_of_none (noLambda : clause.functions = []) :
    (clause.change node).functions = node.functions := by
  cases clause with
  | keep count => rfl
  | leaveOut count => rfl
  | distinct => rfl
  | _ => cases noLambda

/-- Every node takes a call without a lambda. -/
theorem functions_ne_nil_of_refused (refused : clause.reuses node = false) :
    clause.functions ≠ [] := by
  intro noLambda
  cases clause with
  | keep count => cases refused
  | leaveOut count => cases refused
  | distinct => cases refused
  | _ => cases noLambda

end Clause

/-- The run: wherever calls put a node over another one, it has a lambda. -/
theorem Reachable.addsLambda {query : Query} (reachable : query.Reachable) :
    query.Everywhere Select.AddsLambda := by
  induction reachable with
  | table model =>
      rw [ofTable, everywhere_select_iff, Select.operands_over, List.forall_mem_singleton]
      refine ⟨?_, everywhere_table model⟩
      rintro inner ⟨⟩
  | call call reached operands done ofQuery ofOperands =>
      refine Call.apply_everywhere_of_cases ?_ ?_ ofQuery ofOperands done
      · intro clause node _ _ _ _ addsLambda inner isSelect
        rw [Clause.change_source] at isSelect
        by_cases noLambda : clause.functions = []
        · rw [Clause.change_functions_of_none noLambda]
          exact addsLambda inner isSelect
        · exact Clause.change_functions_ne_nil noLambda node
      · intro clause _ _ refused inner isSelect
        rw [Clause.change_source] at isSelect
        exact Clause.change_functions_ne_nil
          (Clause.functions_ne_nil_of_refused (refused inner isSelect)) _

/-- A derived table under a node without lambdas is a set operation. -/
theorem GivesSource.combine_of_no_functions {resolver : Resolver} {node : Select}
    {statement : Statement} (addsLambda : node.AddsLambda) (noLambda : node.functions = [])
    (gives : node.source.GivesSource resolver (.derived statement)) :
    ∃ op first second, statement = .combine op first second := by
  cases source : node.source with
  | table model =>
      rw [source] at gives
      obtain ⟨path, nested, parameters, nested', done⟩ := gives
      rw [Query.compileSource] at done
      cases done
  | select inner => exact absurd noLambda (addsLambda inner source)
  | combine op first second =>
      rw [source] at gives
      obtain ⟨_, isStatement, ofCommand⟩ := gives.combine
      cases isStatement
      obtain ⟨firstCommand, secondCommand, isCombine, -, -⟩ := ofCommand.combine
      exact ⟨op, firstCommand, secondCommand, isCombine⟩

end Query

/-! ### All derived tables -/

/-- The source of a select command is followed by its alias, if it has one. -/
theorem Sql.Body.text_source (body : Body) :
    ∃ before after, body.text = before ++ " FROM " ++ body.source.text ++ aliasText body.table ++
      after := by
  refine ⟨"SELECT " ++ (if body.distinct then "DISTINCT " else "") ++ body.selection.text,
    JoinClause.texts body.joins ++ conjunctionText " WHERE " (Term.texts body.filters) ++
      groupText body.groupBy ++ conjunctionText " HAVING " (Term.texts body.having) ++
      orderText (SortKey.texts body.orderBy) ++ pagingText body.skip body.take, ?_⟩
  rw [Body.text_eq]
  simp only [String.append_assoc]

/-- In every select command of a compiled query that reads from a command in parentheses, this
source is followed by an alias just when the node of the command joins, or when a lambda that is
asked for a name has a parameter over the rows of the source or with a field that holds one. In a
query whose lambdas fit the rows that they are applied to, an alias is missing only from a set
operation under a node without joins and lambdas, that is, with nothing but row modifiers. -/
theorem Query.GivesCommand.table_of_derived {resolver : Resolver} {query : Query}
    {statement : Statement} (gives : query.GivesCommand resolver statement) {body : Body}
    (contains : statement.Contains body) {inner : Statement}
    (derived : body.source = .derived inner) :
    ∃ node path, query.Contains node ∧ node.GivesBody resolver path body ∧
      (∃ before after, body.text =
        before ++ " FROM " ++ body.source.text ++ aliasText body.table ++ after) ∧
      (body.table.isSome = true ↔ node.joins ≠ [] ∨ node.NamesRows) ∧
      (query.ReachableBy Call.Fits → body.table = none →
        node.functions = [] ∧ ∃ op first second, inner = .combine op first second) := by
  obtain ⟨node, path, isNode, givesBody⟩ := gives.node_of_contains contains
  obtain ⟨first, joined, key, compiled⟩ := givesBody.compiledTo
  have named := Select.table_isSome_iff compiled.binds
  refine ⟨node, path, isNode, givesBody, body.text_source, named, ?_⟩
  intro reached noTable
  rw [noTable] at named
  have noJoins : node.joins = [] := by
    by_contra joins
    cases named.mpr (.inl joins)
  have noLambda : node.functions = [] := by
    by_contra hasLambda
    obtain ⟨function, -, param, -, -, binds⟩ :=
      (reached.namesSource isNode).bindSource noJoins hasLambda path
    have isTable := congrArg Prod.fst (Except.ok.inj (compiled.binds.symm.trans binds))
    rw [noTable] at isTable
    cases isTable
  refine ⟨noLambda, ?_⟩
  have ofSource := compiled.source
  rw [derived] at ofSource
  exact Query.GivesSource.combine_of_no_functions (reached.reachable.addsLambda node isNode)
    noLambda ofSource

namespace Query

/-- The first five of all users, twice over. -/
def firstOfUnion : List Call := [.combine .union userTable, .add (.keep 5)]

theorem firstOfUnion_allowed {allowed : Query → Call → Prop}
    (combines : allowed userTable (.combine .union userTable))
    (keeps : ∀ query, allowed query (.add (.keep 5))) :
    AllowedRun allowed firstOfUnion userTable := by
  have users : ∀ operand ∈ [userTable], operand.ReachableBy allowed :=
    List.forall_mem_singleton.mpr (.table _)
  exact ⟨combines, users, fun next _ => ⟨keeps next, List.forall_mem_nil _, fun _ _ => trivial⟩⟩

/-- Its derived table has no alias, as there is no lambda to take one from; so it is a set
operation. -/
theorem firstOfUnion_source :
    ∃ query statement body inner, run firstOfUnion userTable = .ok query ∧
      query.ReachableBy Call.Fits ∧ query.GivesCommand .identity statement ∧
      statement.Contains body ∧ body.source = .derived inner ∧ body.table = none ∧
      ∃ op first second, inner = .combine op first second := by
  obtain ⟨query, body, inner, parameters, nested, ran, compiled, derived, noTable⟩ :
      ∃ query body inner parameters nested, run firstOfUnion userTable = .ok query ∧
        query.compile .identity "" 0 = .ok ((.select body, parameters), nested) ∧
        body.source = .derived inner ∧ body.table = none :=
    ⟨_, _, _, _, _, rfl, rfl, rfl, rfl⟩
  have users : userTable.ReachableBy Call.Fits := .table _
  have isAllowed : AllowedRun Call.Fits firstOfUnion userTable :=
    firstOfUnion_allowed trivial fun _ => List.forall_mem_nil _
  have reached := users.run isAllowed ran
  have gives : query.GivesCommand .identity (.select body) := ⟨_, _, _, _, compiled⟩
  obtain ⟨node, path, -, -, -, -, unnamed⟩ := gives.table_of_derived (.body body) derived
  obtain ⟨-, isCombine⟩ := unnamed reached noTable
  exact ⟨query, _, body, inner, ran, reached, gives, .body body, derived, noTable, isCombine⟩

/-- A page of a set operation reads from a command in parentheses without an alias. -/
theorem firstOfUnion_unnamed :
    ∃ query body inner parameters nested, run firstOfUnion userTable = .ok query ∧
      query.ReachableBy Call.Typed ∧
      query.compile .identity "" 0 = .ok ((.select body, parameters), nested) ∧
      body.source = .derived inner ∧ body.table = none ∧
      body.text = "SELECT * FROM (SELECT * FROM [User] UNION SELECT * FROM [User])" ++
        " OFFSET 0 ROWS FETCH NEXT 5 ROWS ONLY" := by
  obtain ⟨query, body, inner, parameters, nested, ran, compiled, derived, noTable, text⟩ :
      ∃ query body inner parameters nested, run firstOfUnion userTable = .ok query ∧
        query.compile .identity "" 0 = .ok ((.select body, parameters), nested) ∧
        body.source = .derived inner ∧ body.table = none ∧
        body.text = "SELECT * FROM (SELECT * FROM [User] UNION SELECT * FROM [User])" ++
          " OFFSET 0 ROWS FETCH NEXT 5 ROWS ONLY" :=
    ⟨_, _, _, _, _, rfl, rfl, rfl, rfl, by decide +kernel⟩
  have users : userTable.ReachableBy Call.Typed := .table _
  have isAllowed : AllowedRun Call.Typed firstOfUnion userTable :=
    firstOfUnion_allowed (by decide) fun _ =>
      ⟨List.forall_mem_nil _, List.forall_mem_nil _, trivial⟩
  exact ⟨query, body, inner, parameters, nested, ran, users.run isAllowed ran, compiled, derived,
    noTable, text⟩

end Query

end TypedQuery
