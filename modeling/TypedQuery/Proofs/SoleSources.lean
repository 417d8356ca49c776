/-
Module: TypedQuery.Proofs.SoleSources
Purpose: Select nodes without joins. Where the parameters of lambdas have the types of the rows
  that they are applied to, such a node has a lambda over the rows of its source as soon as it has
  any lambda. So the search for a name of the source succeeds, and all that the clauses of its
  command read, they read under that name.
Main exports: Sql.Aliases.find?_firstOfEachType, Sql.Aliases.bindSource_of_param,
  Select.NamesSource, Select.CompiledTo.reads_source, Query.ReachableBy.namesSource,
  Query.ReachableBy.reads_own_source
-/
import TypedQuery.Proofs.Qualifiers

namespace TypedQuery

open Sql Sql.Compile

/-! ### The search for a name -/

namespace Sql.Aliases

/-- Whatever is found in parameters by their types alone, is found among the first of each type, and
in the same order. -/
theorem findSome?_firstOfEachType {α : Type} {found : Param → Option α}
    (byType : ∀ first second : Param, first.ty = second.ty → found first = none →
      found second = none)
    (params : List Param) :
    (firstOfEachType params).findSome? found = params.findSome? found := by
  -- In the middle of the scan, what was kept stands in front of what is still to come.
  have scanned (params kept : List Param) : (params.foldl (fun kept param =>
      if kept.any (·.ty == param.ty) then kept else kept ++ [param]) kept).findSome? found =
        (kept ++ params).findSome? found := by
    induction params generalizing kept with
    | nil => rw [List.foldl_nil, List.append_nil]
    | cons param rest ih =>
        rw [List.foldl_cons, ih]
        split
        · rename_i present
          obtain ⟨earlier, isKept, sameType⟩ := List.any_eq_true.mp present
          rw [List.findSome?_append, List.findSome?_append]
          cases hit : kept.findSome? found with
          | some first => rfl
          | none =>
              have missed := List.findSome?_eq_none_iff.mp hit earlier isKept
              rw [List.findSome?_cons, byType earlier param (eq_of_beq sameType) missed]
        · rw [List.append_assoc, List.singleton_append]
  exact scanned params []

/-- Of the parameters of a type, the first is kept. -/
theorem find?_firstOfEachType (ty : Ty) (params : List Param) :
    (firstOfEachType params).find? (·.ty == ty) = params.find? (·.ty == ty) := by
  rw [← List.findSome?_guard, ← List.findSome?_guard]
  refine findSome?_firstOfEachType ?_ params
  intro first second sameType missed
  simpa [Option.guard, sameType] using missed

/-- Without joins, the source goes by the name of the first parameter over its rows. -/
theorem bindSource_of_param {node : Select} {param : Param} (noJoins : node.joins = [])
    (found : ((lambdas node).flatMap (·.params)).find? (·.ty == node.modelType) = some param)
    (path : String) :
    bindSource path node = .ok (some (path ++ param.name),
      { start path with last := some (path ++ param.name) }) := by
  have isName : search node.modelType expansionLevels
      (firstOfEachType ((lambdas node).flatMap (·.params))) = some param.name := by
    rw [expansionLevels, search, find?_firstOfEachType, found]
  rw [bindSource_eq_search noJoins, isName]
  rfl

/-- While the source is the only one with an alias, every field is one of its rows. -/
theorem ofMember?_of_unregistered {aliases : Aliases} (noFields : aliases.registered = [])
    (member : Member) : aliases.ofMember? member = aliases.last := by
  rw [ofMember?, noFields, List.find?_nil]

end Sql.Aliases

/-! ### What a command reads -/

/-- Without joins, the clauses of a command read under the alias of its source alone. -/
theorem Select.CompiledTo.reads_source {resolver : Resolver} {path : String} {node : Select}
    {first joined : Aliases} {key : Option Term} {body : Body}
    (compiled : node.CompiledTo resolver path first joined key body) (noJoins : node.joins = [])
    {source : String} (isSource : body.table = some source) {table : String}
    (reads : body.Reads table) : table = source := by
  have isFirst := Aliases.bindSource_of_no_joins noJoins compiled.binds
  have isLast : first.last = some source := by rw [isFirst, isSource]
  have noFields : first.registered = [] := by rw [isFirst, Aliases.start]
  have noClauses : body.joins = [] := by
    rw [← List.length_eq_zero_iff, compiled.length_joins, noJoins]
    rfl
  obtain ⟨term, isTerm, leaf, hasLeaf, isTable⟩ := reads
  rcases compiled.leaf_cases isTerm hasLeaf with
    ⟨clause, isClause, -⟩ | ⟨function, -, count, aliases, isAt, leafIn⟩
  · rw [noClauses] at isClause
    cases isClause
  · -- There is no join to change the aliases of the source.
    rw [compiled.aliasesAt_eq, noJoins] at isAt
    cases isAt
    cases leafIn with
    | key isKey isLeaf => cases isKey
    | plain noTable noCommand =>
        rw [noTable] at isTable
        cases isTable
    | captured isCaptured gives => cases isTable
    | kept found =>
        cases isTable
        dsimp only at found
        rw [Aliases.ofMember?_of_unregistered noFields, isLast] at found
        exact (Option.some.inj found).symm
    | @param param _ referred isAlias noCommand =>
        dsimp only at isAlias
        rw [Aliases.ofParam, isLast, isTable] at isAlias
        exact Option.some.inj isAlias

/-! ### Nodes of a typed surface -/

/-- If the node has a lambda and no join, one of the lambdas that are asked for a name has a
parameter over the rows of the source. -/
def Select.NamesSource (node : Select) : Prop :=
  node.joins = [] → node.functions ≠ [] →
    ∃ function ∈ Aliases.lambdas node, ∃ param ∈ function.params, param.ty = node.modelType

theorem Select.lambdas_subset_functions (node : Select) :
    Aliases.lambdas node ⊆ node.functions := by
  intro function present
  simp only [Aliases.lambdas, functions, unaryFunctions, List.mem_append] at present ⊢
  tauto

/-- A node that names its source finds an alias for it. -/
theorem Select.NamesSource.bindSource {node : Select} (names : node.NamesSource)
    (noJoins : node.joins = []) (hasLambda : node.functions ≠ []) (path : String) :
    ∃ function ∈ node.functions, ∃ param ∈ function.params, param.ty = node.modelType ∧
      Aliases.bindSource path node = .ok (some (path ++ param.name),
        { Aliases.start path with last := some (path ++ param.name) }) := by
  obtain ⟨asked, isAsked, row, isRow, isType⟩ := names noJoins hasLambda
  have present : (((Aliases.lambdas node).flatMap (·.params)).find?
      (·.ty == node.modelType)).isSome :=
    List.find?_isSome.mpr ⟨row, List.mem_flatMap.mpr ⟨asked, isAsked, isRow⟩, by simp [isType]⟩
  obtain ⟨param, found⟩ := Option.isSome_iff_exists.mp present
  obtain ⟨function, isFunction, isParam⟩ :=
    List.mem_flatMap.mp (List.mem_of_find?_eq_some found)
  have sameType := List.find?_some found
  exact ⟨function, node.lambdas_subset_functions isFunction, param, isParam, eq_of_beq sameType,
    Aliases.bindSource_of_param noJoins found path⟩

theorem Select.over_namesSource (query : Query) : (Select.over query).NamesSource := by
  intro _ hasLambda
  exact absurd rfl hasLambda

/-- A node without lambdas has the rows of its source. -/
theorem Select.rowType_of_no_functions {node : Select} (noLambda : node.functions = []) :
    node.rowType = node.modelType := by
  simp only [functions, unaryFunctions, List.append_eq_nil_iff, Option.toList_eq_nil_iff,
    List.map_eq_nil_iff] at noLambda
  obtain ⟨⟨⟨⟨⟨⟨⟨-, -⟩, noProjection⟩, noKey⟩, -⟩, -⟩, -⟩, noJoins⟩ := noLambda
  rw [rowType, noProjection, noKey, joinedType, noJoins]
  rfl

namespace Query

namespace Clause

variable {clause : Clause} {node : Select}

theorem joins_of_change (noJoins : (clause.change node).joins = []) : node.joins = [] := by
  cases clause with
  | filter predicate =>
      simp only [change] at noJoins
      split at noJoins <;> exact noJoins
  | join kind inner outerKey innerKey result => simp [change] at noJoins
  | _ => exact noJoins

/-- A call keeps the lambdas that are asked for a name. It replaces none: a node that takes a
projection or a grouping does not have one. -/
theorem lambdas_subset_change (formed : node.WellFormed) (taken : clause.reuses node = true) :
    Aliases.lambdas node ⊆ Aliases.lambdas (clause.change node) := by
  intro function present
  simp only [Aliases.lambdas, List.mem_append] at present ⊢
  cases clause with
  | filter predicate =>
      simp only [change]
      split
      · exact present
      · simp only [List.mem_append]
        tauto
  | project projection =>
      rw [formed.projection_eq_none taken] at present
      simp only [Option.toList_none, List.not_mem_nil, false_or] at present
      simp only [change]
      tauto
  | sortBy selector ascending =>
      simp only [change, List.map_append, List.mem_append]
      tauto
  | groupBy key =>
      obtain ⟨noKey, -⟩ := formed.group_eq_none taken
      rw [noKey] at present
      simp only [Option.toList_none, List.not_mem_nil, or_false] at present
      simp only [change]
      tauto
  | groupByElement key element =>
      obtain ⟨noKey, noElement⟩ := formed.group_eq_none taken
      rw [noKey, noElement] at present
      simp only [Option.toList_none, List.not_mem_nil, or_false] at present
      simp only [change]
      tauto
  | _ => exact present

/-- The first lambda of a node, if it is no join, is asked for a name and ranges over the rows of
the query. -/
theorem first_lambda (noLambda : node.functions = [])
    (noJoins : (clause.change node).joins = []) (hasLambda : (clause.change node).functions ≠ [])
    (query : Query) :
    ∃ function ∈ Aliases.lambdas (clause.change node),
      (function, [query.rowType]) ∈ clause.domains query := by
  cases clause with
  | filter predicate =>
      have ungrouped : node.groupKey = none := by
        simp only [Select.functions, Select.unaryFunctions, List.append_eq_nil_iff,
          Option.toList_eq_nil_iff] at noLambda
        exact noLambda.1.1.1.1.2
      refine ⟨predicate, ?_, .head _⟩
      simp [change, ungrouped, Aliases.lambdas]
  | project projection => exact ⟨projection, by simp [change, Aliases.lambdas], .head _⟩
  | sortBy selector ascending => exact ⟨selector, by simp [change, Aliases.lambdas], .head _⟩
  | groupBy key => exact ⟨key, by simp [change, Aliases.lambdas], .head _⟩
  | groupByElement key element => exact ⟨key, by simp [change, Aliases.lambdas], .head _⟩
  | join kind inner outerKey innerKey result => simp [change] at noJoins
  | _ => exact absurd noLambda hasLambda

/-- The step: a call whose lambdas fit keeps the source named. -/
theorem change_namesSource {query : Query} (fits : (Call.add clause).Fits query)
    (taken : clause.reuses node = true) (sameRows : node.rowType = query.rowType)
    (formed : node.WellFormed) (names : node.NamesSource) :
    (clause.change node).NamesSource := by
  intro noJoins hasLambda
  rw [change_modelType]
  by_cases noLambda : node.functions = []
  · obtain ⟨function, isAsked, isNew⟩ := first_lambda noLambda noJoins hasLambda query
    have isRow : query.rowType ∈ function.params.map (·.ty) := by
      rw [fits _ isNew]
      exact .head _
    obtain ⟨param, isParam, isType⟩ := List.mem_map.mp isRow
    refine ⟨function, isAsked, param, isParam, ?_⟩
    rw [isType, ← sameRows, Select.rowType_of_no_functions noLambda]
  · obtain ⟨function, isAsked, ranges⟩ := names (joins_of_change noJoins) noLambda
    exact ⟨function, lambdas_subset_change formed taken isAsked, ranges⟩

end Clause

/-- The run: where all lambdas fit, every node without joins names its source. -/
theorem ReachableBy.namesSource {query : Query} (reached : query.ReachableBy Call.Fits)
    {node : Select} (contained : query.Contains node) : node.NamesSource := by
  have all : query.Everywhere fun node => node.WellFormed ∧ node.NamesSource := by
    refine reached.everywhere ?_ ?_
    · intro query
      exact ⟨Select.over_wellFormed query, Select.over_namesSource query⟩
    · rintro query clause node fits accepted taken sameRows ⟨formed, names⟩
      exact ⟨Clause.change_wellFormed accepted formed,
        Clause.change_namesSource fits taken sameRows formed names⟩
  exact (all node contained).2

/-- In a query whose lambdas fit the rows that they are applied to, every node without joins that
has a lambda finds an alias for its source: the name of a parameter over the rows of the source,
under the prefix of the command. All rows and columns that the clauses of its command read, they
read under this alias, whatever the parameters of the lambdas are called. -/
theorem ReachableBy.reads_own_source {query : Query} (reached : query.ReachableBy Call.Fits)
    {node : Select} (contained : query.Contains node) (noJoins : node.joins = [])
    (hasLambda : node.functions ≠ []) (path : String) :
    ∃ function ∈ node.functions, ∃ param ∈ function.params, param.ty = node.modelType ∧
      (∃ aliases, Aliases.bindSource path node = .ok (some (path ++ param.name), aliases)) ∧
      ∀ resolver body, node.GivesBody resolver path body →
        body.table = some (path ++ param.name) ∧
          ∀ table, body.Reads table → table = path ++ param.name := by
  obtain ⟨function, isFunction, param, isParam, isType, binds⟩ :=
    (reached.namesSource contained).bindSource noJoins hasLambda path
  refine ⟨function, isFunction, param, isParam, isType, ⟨_, binds⟩, ?_⟩
  intro resolver body gives
  obtain ⟨first, joined, key, compiled⟩ := gives.compiledTo
  have isSource : body.table = some (path ++ param.name) :=
    congrArg Prod.fst (Except.ok.inj (compiled.binds.symm.trans binds))
  exact ⟨isSource, fun table reads => compiled.reads_source noJoins isSource reads⟩

/-- From users to the logins that several of them share, with the highest id of each, where that is
above ten. Every lambda has a name of its own for what it ranges over. -/
def sharedLogins : List Call :=
  let row (name : String) : Param := ⟨name, userTable.rowType⟩
  let key : Expr := .record [("Login", (Expr.parameter (row "v")).field "Login")]
  let group (name : String) : Param := ⟨name, .group key.ty userTable.rowType⟩
  let shared : Expr := .record [("Login", (Expr.parameter (group "s")).key.field "Login"),
    ("Highest", (Expr.parameter (group "s")).maximum
      ⟨[row "x"], (Expr.parameter (row "x")).field "Id"⟩)]
  let highest : Param := ⟨"w", shared.ty⟩
  [.add (.filter ⟨[row "u"], (Expr.parameter (row "u")).field "Id" |>.notEquals
      (.literal (.int 0))⟩),
    .add (.groupBy ⟨[row "v"], key⟩),
    .add (.filter ⟨[group "g"], (Expr.parameter (group "g")).count.greaterThan
      (.literal (.int 1))⟩),
    .add (.sortBy ⟨[group "h"], (Expr.parameter (group "h")).key.field "Login"⟩ true),
    .add (.project ⟨[group "s"], shared⟩),
    .add (.filter ⟨[highest], (Expr.parameter highest).field "Highest" |>.greaterThan
      (.literal (.int 10))⟩)]

theorem sharedLogins_fits : AllowedRun Call.Fits sharedLogins userTable := by
  refine ⟨by decide, List.forall_mem_nil _, ?_⟩
  rintro _ ⟨⟩
  refine ⟨by decide, List.forall_mem_nil _, ?_⟩
  rintro _ ⟨⟩
  refine ⟨by decide, List.forall_mem_nil _, ?_⟩
  rintro _ ⟨⟩
  refine ⟨by decide, List.forall_mem_nil _, ?_⟩
  rintro _ ⟨⟩
  refine ⟨by decide, List.forall_mem_nil _, ?_⟩
  rintro _ ⟨⟩
  exact ⟨by decide, List.forall_mem_nil _, fun _ _ => trivial⟩

/-- The grouped node below the last filter reads under the name that its group key gives to users,
in the filter before the grouping as in the columns. -/
theorem sharedLogins_reads :
    ∃ query node body, run sharedLogins userTable = .ok query ∧
      query.ReachableBy Call.Fits ∧ query.Contains node ∧ node.joins = [] ∧
      node.functions ≠ [] ∧ node.GivesBody .identity "sq0_" body ∧
      body.table = some "sq0_v" ∧ ∀ table, body.Reads table → table = "sq0_v" := by
  obtain ⟨query, node, body, parameters, nested, ran, contained, noJoins, hasLambda, compiled,
      isTable⟩ : ∃ query node body parameters nested, run sharedLogins userTable = .ok query ∧
        query.Contains node ∧ node.joins = [] ∧ node.functions ≠ [] ∧
        node.compile .identity "sq0_" 1 = .ok ((body, parameters), nested) ∧
        body.table = some "sq0_v" :=
    ⟨_, _, _, _, _, rfl, .under (.head _) (.node _), rfl, List.cons_ne_nil _ _, rfl, rfl⟩
  have users : userTable.ReachableBy Call.Fits := .table _
  have reached := users.run sharedLogins_fits ran
  have gives : node.GivesBody .identity "sq0_" body := ⟨_, _, _, compiled⟩
  obtain ⟨function, -, param, -, -, -, reads⟩ :=
    ReachableBy.reads_own_source reached contained noJoins hasLambda "sq0_"
  obtain ⟨isSource, reads⟩ := reads .identity body gives
  rw [isTable, Option.some_inj] at isSource
  rw [← isSource] at reads
  exact ⟨query, node, body, ran, reached, contained, noJoins, hasLambda, gives, isTable, reads⟩

end Query

end TypedQuery
