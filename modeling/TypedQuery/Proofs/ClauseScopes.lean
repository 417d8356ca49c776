/-
Module: TypedQuery.Proofs.ClauseScopes
Purpose: The scopes in which the clauses of a select node are compiled. The aliases known to a
  clause depend on the joins before it alone: an outer key sees those of the joins up to its
  own, every other clause those of all joins. Predicates are compiled as conditions, all other
  clauses as values.
Main exports: Select.aliasesAt, Select.Clausewise, Select.Conditionwise, Select.OnGroups,
  Join.CompiledTo, Select.Steps, Select.CompiledTo, Select.steps_of_compile,
  Select.compile_conditionwise, Select.compile_clausewise
-/
import TypedQuery.Proofs.RenderedParts

namespace TypedQuery

open Sql Sql.Compile

/-! ### Aliases along the joins -/

/-- Aliases once the given number of joins is complete. The next join, if there is one, has its
alias already: its outer key is compiled before it is complete. -/
def Sql.Aliases.along (aliases : Aliases) : List Join → Nat → Except Error Aliases
  | [], _ => .ok aliases
  | join :: rest, count => do
    let (table, bound) ← aliases.bindJoin join
    match count with
    | 0 => return bound
    | count + 1 => (bound.advance table).along rest count

/-- Aliases of a node once the given number of its joins is complete. -/
def Select.aliasesAt (path : String) (node : Select) (count : Nat) : Except Error Aliases := do
  let (_, aliases) ← Aliases.bindSource path node
  aliases.along node.joins count

/-- The aliases of a node are those of its source, carried along the joins. -/
theorem Select.aliasesAt_eq_ok {path : String} {node : Select} {count : Nat} {aliases : Aliases}
    (isAt : node.aliasesAt path count = .ok aliases) :
    ∃ table first, Aliases.bindSource path node = .ok (table, first) ∧
      first.along node.joins count = .ok aliases := by
  rw [aliasesAt] at isAt
  cases binds : Aliases.bindSource path node with
  | error error =>
      rw [binds] at isAt
      cases isAt
  | ok pair =>
      obtain ⟨table, first⟩ := pair
      rw [binds] at isAt
      exact ⟨table, first, rfl, isAt⟩

/-! ### Clauses -/

/-- The term of a predicate is related to its body, up to the parentheses that a disjunction
needs. -/
def Lambda.PredicateTerm (related : Expr → Term → Prop) (predicate : Lambda) (term : Term) :
    Prop :=
  ∃ inner, term = encloseDisjunction predicate.body inner ∧ related predicate.body inner

theorem Lambda.PredicateTerm.mono {related related' : Expr → Term → Prop} {predicate : Lambda}
    {term : Term} (weaker : ∀ expr term, related expr term → related' expr term)
    (isTerm : predicate.PredicateTerm related term) : predicate.PredicateTerm related' term := by
  obtain ⟨inner, encloses, holds⟩ := isTerm
  exact ⟨inner, encloses, weaker _ _ holds⟩

/-- The clauses of a command stand for those of a node, one by one. What relates an expression to
its term may depend on the number of joins before the clause. -/
structure Select.Clausewise (related : Nat → Expr → Term → Prop) (node : Select) (body : Body) :
    Prop where
  outerKeys : ∀ index join, node.joins[index]? = some join →
    ∃ clause, body.joins[index]? = some clause ∧ related index join.outerKey.body clause.outer
  filters : List.Forall₂ (Lambda.PredicateTerm (related node.joins.length))
    node.filters body.filters
  groupKey : ∀ key ∈ node.groupKey, ∃ terms, body.groupBy = some terms ∧
    List.Forall₂ (related node.joins.length) key.body.groupFields terms
  having : List.Forall₂ (Lambda.PredicateTerm (related node.joins.length))
    node.having body.having
  orderBy : List.Forall₂ (fun order key => related node.joins.length order.key.body key.term)
    node.orderBy body.orderBy
  /-- Without a projection, the result of the last join is selected. -/
  columns : ∀ function ∈ node.projection.or (node.joins.getLast?.map (·.result)), ∃ term,
    body.selection = selectionOf function.body term ∧
      related node.joins.length function.body term

theorem Select.Clausewise.mono {related related' : Nat → Expr → Term → Prop} {node : Select}
    {body : Body} (clausewise : node.Clausewise related body)
    (weaker : ∀ count expr term, related count expr term → related' count expr term) :
    node.Clausewise related' body where
  outerKeys := by
    intro index join present
    obtain ⟨clause, found, holds⟩ := clausewise.outerKeys index join present
    exact ⟨clause, found, weaker _ _ _ holds⟩
  filters := clausewise.filters.imp fun _ _ => .mono (weaker _)
  groupKey := by
    intro key present
    obtain ⟨terms, found, holds⟩ := clausewise.groupKey key present
    exact ⟨terms, found, holds.imp fun _ _ => weaker _ _ _⟩
  having := clausewise.having.imp fun _ _ => .mono (weaker _)
  orderBy := clausewise.orderBy.imp fun _ _ => weaker _ _ _
  columns := by
    intro function present
    obtain ⟨term, found, holds⟩ := clausewise.columns function present
    exact ⟨term, found, weaker _ _ _ holds⟩

/-- The clauses of a command stand for those of a node, one by one: the predicates as conditions,
all others as values. -/
structure Select.Conditionwise (related : Bool → Nat → Expr → Term → Prop) (node : Select)
    (body : Body) : Prop where
  outerKeys : ∀ index join, node.joins[index]? = some join →
    ∃ clause, body.joins[index]? = some clause ∧
      related false index join.outerKey.body clause.outer
  filters : List.Forall₂ (Lambda.PredicateTerm (related true node.joins.length))
    node.filters body.filters
  groupKey : ∀ key ∈ node.groupKey, ∃ terms, body.groupBy = some terms ∧
    List.Forall₂ (related false node.joins.length) key.body.groupFields terms
  having : List.Forall₂ (Lambda.PredicateTerm (related true node.joins.length))
    node.having body.having
  orderBy : List.Forall₂ (fun order key =>
    related false node.joins.length order.key.body key.term) node.orderBy body.orderBy
  columns : ∀ function ∈ node.projection.or (node.joins.getLast?.map (·.result)), ∃ term,
    body.selection = selectionOf function.body term ∧
      related false node.joins.length function.body term

/-- What relates the clauses with conditions told apart may do so with values. -/
theorem Select.Conditionwise.mono {related related' : Bool → Nat → Expr → Term → Prop}
    {node : Select} {body : Body} (conditionwise : node.Conditionwise related body)
    (weaker : ∀ condition count expr term, related condition count expr term →
      related' condition count expr term) : node.Conditionwise related' body where
  outerKeys := by
    intro index join present
    obtain ⟨clause, found, holds⟩ := conditionwise.outerKeys index join present
    exact ⟨clause, found, weaker _ _ _ _ holds⟩
  filters := conditionwise.filters.imp fun _ _ => .mono (weaker _ _)
  groupKey := by
    intro key present
    obtain ⟨terms, found, holds⟩ := conditionwise.groupKey key present
    exact ⟨terms, found, holds.imp fun _ _ => weaker _ _ _ _⟩
  having := conditionwise.having.imp fun _ _ => .mono (weaker _ _)
  orderBy := conditionwise.orderBy.imp fun _ _ => weaker _ _ _ _
  columns := by
    intro function present
    obtain ⟨term, found, holds⟩ := conditionwise.columns function present
    exact ⟨term, found, weaker _ _ _ _ holds⟩

/-- What holds of conditions and of values alike holds clause by clause. -/
theorem Select.Conditionwise.clausewise {related : Nat → Expr → Term → Prop} {node : Select}
    {body : Body} (conditionwise : node.Conditionwise (fun _ => related) body) :
    node.Clausewise related body where
  outerKeys := conditionwise.outerKeys
  filters := conditionwise.filters
  groupKey := conditionwise.groupKey
  having := conditionwise.having
  orderBy := conditionwise.orderBy
  columns := conditionwise.columns

/-- The clauses of a command that range over groups, or over rows if there is no grouping, stand
for those of a node. -/
structure Select.OnGroups (related : Expr → Term → Prop) (node : Select) (body : Body) : Prop where
  having : List.Forall₂ (Lambda.PredicateTerm related) node.having body.having
  orderBy : List.Forall₂ (fun order key => related order.key.body key.term)
    node.orderBy body.orderBy
  columns : ∀ function ∈ node.projection.or (node.joins.getLast?.map (·.result)), ∃ term,
    body.selection = selectionOf function.body term ∧ related function.body term

theorem Select.OnGroups.mono {related related' : Expr → Term → Prop} {node : Select} {body : Body}
    (onGroups : node.OnGroups related body)
    (weaker : ∀ expr term, related expr term → related' expr term) :
    node.OnGroups related' body where
  having := onGroups.having.imp fun _ _ => .mono weaker
  orderBy := onGroups.orderBy.imp fun _ _ => weaker _ _
  columns := by
    intro function present
    obtain ⟨term, found, holds⟩ := onGroups.columns function present
    exact ⟨term, found, weaker _ _ holds⟩

/-! ### The scope of a clause -/

variable {scope : Scope} {progress progress' : Progress}

theorem Lambda.givesAs_of_compileBody {function : Lambda} {term : Term}
    (done : Lambda.compileBody scope function progress = .ok (term, progress')) :
    scope.GivesAs false function.body term := by
  obtain ⟨params, body⟩ := function
  rw [Lambda.compileBody] at done
  exact ⟨_, _, done⟩

theorem Lambda.givesAs_of_compileAll {predicates : List Lambda} {terms : List Term}
    (done : Lambda.compileAll scope predicates progress = .ok (terms, progress')) :
    List.Forall₂ (Lambda.PredicateTerm (scope.GivesAs true)) predicates terms := by
  induction predicates generalizing terms progress with
  | nil =>
      rw [Lambda.compileAll] at done
      cases done
      exact .nil
  | cons predicate rest ih =>
      obtain ⟨params, body⟩ := predicate
      rw [Lambda.compileAll] at done
      obtain ⟨inner, _, ofBody, done⟩ := bind_eq_ok done
      obtain ⟨terms, _, ofRest, done⟩ := bind_eq_ok done
      cases done
      exact .cons ⟨inner, rfl, _, _, ofBody⟩ (ih ofRest)

theorem Order.givesAs_of_compileAll {orders : List Order} {keys : List SortKey}
    (done : Order.compileAll scope orders progress = .ok (keys, progress')) :
    List.Forall₂ (fun order key => scope.GivesAs false order.key.body key.term) orders keys := by
  induction orders generalizing keys progress with
  | nil =>
      rw [Order.compileAll] at done
      cases done
      exact .nil
  | cons order rest ih =>
      obtain ⟨key, ascending⟩ := order
      rw [Order.compileAll] at done
      obtain ⟨term, _, ofKey, done⟩ := bind_eq_ok done
      obtain ⟨keys, _, ofRest, done⟩ := bind_eq_ok done
      cases done
      exact .cons (Lambda.givesAs_of_compileBody ofKey) (ih ofRest)

/-- Grouping is compiled in the scope of the joins, and changes nothing but the key. -/
theorem Lambda.compileGroupKey_cases {key : Option Lambda} {groupBy : Option (List Term)}
    {final : Scope}
    (done : Lambda.compileGroupKey scope key progress = .ok ((groupBy, final), progress')) :
    (key = none → groupBy = none ∧ final = scope) ∧
      ∀ function ∈ key, ∃ terms, groupBy = some terms ∧
        final = { scope with groupKey := (function.body.keyTerm? terms).or scope.groupKey } ∧
        Expr.compileAll scope function.body.groupFields progress = .ok (terms, progress') := by
  cases key with
  | none =>
      rw [Lambda.compileGroupKey] at done
      cases done
      exact ⟨fun _ => ⟨rfl, rfl⟩, by simp⟩
  | some function =>
      rw [Lambda.compileGroupKey_some] at done
      obtain ⟨terms, _, ofFields, done⟩ := bind_eq_ok done
      cases done
      refine ⟨by simp, ?_⟩
      rintro _ ⟨⟩
      exact ⟨terms, rfl, rfl, ofFields⟩

theorem Select.givesAs_of_compileColumns {projection : Option Lambda} {joins : List Join}
    {selection : Selection}
    (done : Select.compileColumns scope projection joins progress = .ok (selection, progress')) :
    (projection.or (joins.getLast?.map (·.result)) = none → selection = .all) ∧
      ∀ function ∈ projection.or (joins.getLast?.map (·.result)), ∃ term,
        selection = selectionOf function.body term ∧ scope.GivesAs false function.body term := by
  rw [Select.compileColumns_eq] at done
  cases selected : projection.or (joins.getLast?.map (·.result)) with
  | none =>
      rw [selected] at done
      cases done
      exact ⟨fun _ => rfl, by simp⟩
  | some function =>
      rw [selected] at done
      obtain ⟨params, body⟩ := function
      dsimp only at done
      rw [Lambda.compileSelection] at done
      obtain ⟨term, _, ofBody, done⟩ := bind_eq_ok done
      cases done
      refine ⟨by simp, ?_⟩
      rintro _ ⟨⟩
      exact ⟨term, rfl, _, _, ofBody⟩

/-- A term that stands for the whole key is the one that is grouped by. -/
theorem Expr.mem_of_keyTerm? {key : Expr} {terms : List Term} {term : Term}
    (isTerm : key.keyTerm? terms = some term) : term ∈ terms := by
  unfold Expr.keyTerm? at isTerm
  split at isTerm
  · cases isTerm
  · exact List.mem_of_head? isTerm

/-! ### Joins -/

/-- The source is what the query is compiled to as a source, under some prefix. -/
def Query.GivesSource (resolver : Resolver) (query : Query) (source : Source) : Prop :=
  ∃ path nested parameters nested',
    query.compileSource resolver path nested = .ok ((source, parameters), nested')

/-- The clause is what the join is compiled to in the scope. The outer key sees the alias of the
join, which is not complete yet. -/
structure Join.CompiledTo (scope : Scope) (join : Join) (bound : Aliases) (clause : JoinClause) :
    Prop where
  binds : scope.aliases.bindJoin join = .ok (clause.table, bound)
  source : join.source.GivesSource scope.resolver clause.source
  outer : Scope.GivesAs { scope with aliases := bound } false join.outerKey.body clause.outer
  /-- Whatever the inner key selects is taken for a column of the joined source. -/
  inner : ∃ member, keyMember? join.innerKey = some member ∧
    clause.inner = .column clause.table (scope.resolver.columnName member)

/-- One join: the other joins are compiled once it is complete. -/
theorem Join.compileAll_cons {join : Join} {rest : List Join} {clauses : List JoinClause}
    {final : Scope}
    (done : Join.compileAll scope (join :: rest) progress = .ok ((clauses, final), progress')) :
    ∃ bound clause others later, join.CompiledTo scope bound clause ∧ clauses = clause :: others ∧
      Join.compileAll { scope with aliases := bound.advance clause.table } rest later =
        .ok ((others, final), progress') := by
  obtain ⟨kind, source, outerKey, innerKey, result⟩ := join
  rw [Join.compileAll] at done
  obtain ⟨⟨table, bound⟩, _, binds, done⟩ := bind_eq_ok done
  obtain ⟨path, _, -, done⟩ := bind_eq_ok done
  obtain ⟨source, _, ofSource, done⟩ := bind_eq_ok done
  obtain ⟨outer, _, ofOuter, done⟩ := bind_eq_ok done
  cases selects : keyMember? innerKey with
  | none =>
      simp only [selects] at done
      cases done
  | some member =>
      simp only [selects] at done
      obtain ⟨⟨others, final⟩, _, ofRest, done⟩ := bind_eq_ok done
      cases done
      obtain ⟨parameters, nested, ofSource⟩ := embed_eq_ok ofSource
      refine ⟨bound, _, others, _, ⟨liftM_eq_ok binds, ⟨path, _, parameters, nested, ofSource⟩,
        Lambda.givesAs_of_compileBody ofOuter, ⟨member, selects, rfl⟩⟩, rfl, ofRest⟩

/-- All joins: each one is compiled with the aliases of its place, and the scope that is left has
those of all joins. -/
theorem Join.compileAll_along {joins : List Join} {clauses : List JoinClause} {final : Scope}
    (done : Join.compileAll scope joins progress = .ok ((clauses, final), progress')) :
    (∃ aliases, scope.aliases.along joins joins.length = .ok aliases ∧
      final = { scope with aliases := aliases }) ∧
      clauses.length = joins.length ∧
      ∀ index join clause, joins[index]? = some join → clauses[index]? = some clause →
        ∃ before bound, scope.aliases.along joins index = .ok bound ∧
          join.CompiledTo { scope with aliases := before } bound clause := by
  induction joins generalizing scope clauses progress with
  | nil =>
      rw [Join.compileAll] at done
      cases done
      exact ⟨⟨_, rfl, rfl⟩, rfl, by simp⟩
  | cons first rest ih =>
      obtain ⟨bound, clause, others, later, compiled, rfl, after⟩ := Join.compileAll_cons done
      have along (count : Nat) : scope.aliases.along (first :: rest) count =
          match count with
          | 0 => .ok bound
          | count + 1 => (bound.advance clause.table).along rest count := by
        rw [Aliases.along, compiled.binds]
        cases count <;> rfl
      obtain ⟨left, sameLength, ofRest⟩ := ih after
      refine ⟨?_, by simp [sameLength], ?_⟩
      · rw [List.length_cons, along]
        exact left
      · intro index join found isJoin isClause
        cases index with
        | zero =>
            cases isJoin
            cases isClause
            exact ⟨scope.aliases, bound, along 0, compiled⟩
        | succ index =>
            rw [along]
            exact ofRest index join found isJoin isClause

/-! ### Whole nodes -/

/-- The body is what the node is compiled to, each clause in the scope of its place: `first` are
the aliases of the source, `joined` those of all joins, and `key` is the term that stands for the
group key, if there is one. -/
structure Select.CompiledTo (resolver : Resolver) (path : String) (node : Select)
    (first joined : Aliases) (key : Option Term) (body : Body) : Prop where
  binds : Aliases.bindSource path node = .ok (body.table, first)
  source : node.source.GivesSource resolver body.source
  joins : ∃ progress progress', Join.compileAll ⟨resolver, path, first, none⟩ node.joins progress =
    .ok ((body.joins, ⟨resolver, path, joined, none⟩), progress')
  filters : List.Forall₂ (Lambda.PredicateTerm (Scope.Gives ⟨resolver, path, joined, none⟩))
    node.filters body.filters
  ungrouped : node.groupKey = none → body.groupBy = none ∧ key = none
  grouped : ∀ function ∈ node.groupKey, ∃ terms progress progress', body.groupBy = some terms ∧
    key = function.body.keyTerm? terms ∧
    Expr.compileAll ⟨resolver, path, joined, none⟩ function.body.groupFields progress =
      .ok (terms, progress')
  onGroups : node.OnGroups (Scope.Gives ⟨resolver, path, joined, key⟩) body
  allColumns : node.projection.or (node.joins.getLast?.map (·.result)) = none →
    body.selection = .all

/-- The steps in which a node is compiled, each in the scope of its place. -/
structure Select.Steps (resolver : Resolver) (path : String) (node : Select)
    (first joined : Aliases) (key : Option Term) (body : Body) : Prop where
  binds : Aliases.bindSource path node = .ok (body.table, first)
  source : node.source.GivesSource resolver body.source
  joins : ∃ progress progress', Join.compileAll ⟨resolver, path, first, none⟩ node.joins progress =
    .ok ((body.joins, ⟨resolver, path, joined, none⟩), progress')
  filters : ∃ progress progress', Lambda.compileAll ⟨resolver, path, joined, none⟩ node.filters
    progress = .ok (body.filters, progress')
  groupKey : ∃ progress progress', Lambda.compileGroupKey ⟨resolver, path, joined, none⟩
    node.groupKey progress = .ok ((body.groupBy, ⟨resolver, path, joined, key⟩), progress')
  having : ∃ progress progress', Lambda.compileAll ⟨resolver, path, joined, key⟩ node.having
    progress = .ok (body.having, progress')
  orderBy : ∃ progress progress', Order.compileAll ⟨resolver, path, joined, key⟩ node.orderBy
    progress = .ok (body.orderBy, progress')
  columns : ∃ progress progress', Select.compileColumns ⟨resolver, path, joined, key⟩
    node.projection node.joins progress = .ok (body.selection, progress')

/-- A node is compiled step by step. -/
theorem Select.steps_of_compile {resolver : Resolver} {path : String} {node : Select}
    {nested nested' : Nat} {body : Body} {parameters : Parameters}
    (done : node.compile resolver path nested = .ok ((body, parameters), nested')) :
    ∃ first joined key, node.Steps resolver path first joined key body := by
  rw [Select.compile_eq] at done
  obtain ⟨progress, done⟩ := toNested_eq_ok done
  obtain ⟨⟨table, first⟩, _, binds, done⟩ := bind_eq_ok done
  obtain ⟨sourcePath, _, -, done⟩ := bind_eq_ok done
  obtain ⟨source, _, ofSource, done⟩ := bind_eq_ok done
  obtain ⟨⟨joinClauses, joined⟩, _, ofJoins, done⟩ := bind_eq_ok done
  obtain ⟨filters, _, ofFilters, done⟩ := bind_eq_ok done
  obtain ⟨⟨groupBy, grouped⟩, _, ofGroupKey, done⟩ := bind_eq_ok done
  obtain ⟨having, _, ofHaving, done⟩ := bind_eq_ok done
  obtain ⟨sortKeys, _, ofOrderBy, done⟩ := bind_eq_ok done
  obtain ⟨selection, _, ofColumns, done⟩ := bind_eq_ok done
  cases done
  obtain ⟨parameters, count, ofSource⟩ := embed_eq_ok ofSource
  obtain ⟨⟨all, -, rfl⟩, -⟩ := Join.compileAll_along ofJoins
  obtain ⟨ungrouped, isGrouped⟩ := Lambda.compileGroupKey_cases ofGroupKey
  -- Grouping leaves the scope of the joins, up to the key.
  have isScope : grouped = ⟨resolver, path, all, grouped.groupKey⟩ := by
    cases isKey : node.groupKey with
    | none => rw [(ungrouped isKey).2]
    | some function =>
        obtain ⟨terms, -, isFinal, -⟩ := isGrouped function isKey
        rw [isFinal]
  rw [isScope] at ofGroupKey ofHaving ofOrderBy ofColumns
  exact ⟨first, all, grouped.groupKey, liftM_eq_ok binds, ⟨_, _, _, _, ofSource⟩, ⟨_, _, ofJoins⟩,
    ⟨_, _, ofFilters⟩, ⟨_, _, ofGroupKey⟩, ⟨_, _, ofHaving⟩, ⟨_, _, ofOrderBy⟩, ⟨_, _, ofColumns⟩⟩

/-- The steps lead clause by clause from the node to its body. -/
theorem Select.Steps.compiledTo {resolver : Resolver} {path : String} {node : Select}
    {first joined : Aliases} {key : Option Term} {body : Body}
    (steps : node.Steps resolver path first joined key body) :
    node.CompiledTo resolver path first joined key body := by
  obtain ⟨_, _, ofFilters⟩ := steps.filters
  obtain ⟨_, _, ofGroupKey⟩ := steps.groupKey
  obtain ⟨_, _, ofHaving⟩ := steps.having
  obtain ⟨_, _, ofOrderBy⟩ := steps.orderBy
  obtain ⟨_, _, ofColumns⟩ := steps.columns
  obtain ⟨ungrouped, isGrouped⟩ := Lambda.compileGroupKey_cases ofGroupKey
  obtain ⟨allColumns, columns⟩ := Select.givesAs_of_compileColumns ofColumns
  have given {key : Option Term} {condition : Bool} (expr : Expr) (term : Term) :
      Scope.GivesAs ⟨resolver, path, joined, key⟩ condition expr term →
        Scope.Gives ⟨resolver, path, joined, key⟩ expr term := Scope.GivesAs.gives
  refine ⟨steps.binds, steps.source, steps.joins,
    (Lambda.givesAs_of_compileAll ofFilters).imp fun _ _ => .mono given, ?_, ?_,
    ⟨(Lambda.givesAs_of_compileAll ofHaving).imp fun _ _ => .mono given,
      (Order.givesAs_of_compileAll ofOrderBy).imp fun _ _ => given _ _, ?_⟩, allColumns⟩
  · intro isKey
    exact ⟨(ungrouped isKey).1, congrArg Scope.groupKey (ungrouped isKey).2⟩
  · intro function isKey
    obtain ⟨terms, isTerms, isFinal, ofFields⟩ := isGrouped function isKey
    exact ⟨terms, _, _, isTerms, (congrArg Scope.groupKey isFinal).trans Option.or_none, ofFields⟩
  · intro function selected
    obtain ⟨term, isSelection, gives⟩ := columns function selected
    exact ⟨term, isSelection, given _ _ gives⟩

/-- A node is compiled clause by clause. -/
theorem Select.compiledTo_of_compile {resolver : Resolver} {path : String} {node : Select}
    {nested nested' : Nat} {body : Body} {parameters : Parameters}
    (done : node.compile resolver path nested = .ok ((body, parameters), nested')) :
    ∃ first joined key, node.CompiledTo resolver path first joined key body := by
  obtain ⟨first, joined, key, steps⟩ := Select.steps_of_compile done
  exact ⟨first, joined, key, steps.compiledTo⟩

namespace Select.CompiledTo

variable {resolver : Resolver} {path : String} {node : Select} {first joined : Aliases}
  {key : Option Term} {body : Body}

theorem aliasesAt_eq (compiled : node.CompiledTo resolver path first joined key body)
    (count : Nat) : node.aliasesAt path count = first.along node.joins count := by
  rw [aliasesAt, compiled.binds]
  rfl

/-- The clauses behind the joins see the aliases of all joins. -/
theorem aliasesAt_length (compiled : node.CompiledTo resolver path first joined key body) :
    node.aliasesAt path node.joins.length = .ok joined := by
  obtain ⟨progress, progress', ofJoins⟩ := compiled.joins
  obtain ⟨⟨all, ofAll, isFinal⟩, -⟩ := Join.compileAll_along ofJoins
  obtain rfl : joined = all := congrArg Scope.aliases isFinal
  rw [compiled.aliasesAt_eq]
  exact ofAll

/-- Every join has its clause. -/
theorem length_joins (compiled : node.CompiledTo resolver path first joined key body) :
    body.joins.length = node.joins.length := by
  obtain ⟨progress, progress', ofJoins⟩ := compiled.joins
  exact (Join.compileAll_along ofJoins).2.1

/-- The clause of a join sees the aliases of its place. -/
theorem joinAt (compiled : node.CompiledTo resolver path first joined key body) {index : Nat}
    {join : Join} {clause : JoinClause} (isJoin : node.joins[index]? = some join)
    (isClause : body.joins[index]? = some clause) :
    ∃ before bound, node.aliasesAt path index = .ok bound ∧
      join.CompiledTo ⟨resolver, path, before, none⟩ bound clause := by
  obtain ⟨progress, progress', ofJoins⟩ := compiled.joins
  rw [compiled.aliasesAt_eq]
  exact (Join.compileAll_along ofJoins).2.2 index join clause isJoin isClause

/-- Every clause comes from a join, by the aliases of its place. -/
theorem join_of_clause (compiled : node.CompiledTo resolver path first joined key body)
    {clause : JoinClause} (isClause : clause ∈ body.joins) :
    ∃ join ∈ node.joins, ∃ index before bound, node.aliasesAt path index = .ok bound ∧
      join.CompiledTo ⟨resolver, path, before, none⟩ bound clause := by
  obtain ⟨index, isIndex⟩ := List.mem_iff_getElem?.mp isClause
  have inside : index < node.joins.length := by
    rw [← compiled.length_joins]
    exact (List.getElem?_eq_some_iff.mp isIndex).1
  exact ⟨node.joins[index], List.getElem_mem inside, index,
    compiled.joinAt (List.getElem?_eq_getElem inside) isIndex⟩

/-- The term that stands for the group key is one of those that are grouped by. -/
theorem key_mem (compiled : node.CompiledTo resolver path first joined key body) :
    ∀ term ∈ key, ∃ terms ∈ body.groupBy, term ∈ terms := by
  intro term isKey
  cases grouped : node.groupKey with
  | none =>
      rw [(compiled.ungrouped grouped).2] at isKey
      cases isKey
  | some function =>
      obtain ⟨terms, _, _, isTerms, isKeyTerm, -⟩ := compiled.grouped function grouped
      rw [isKeyTerm] at isKey
      exact ⟨terms, isTerms, Expr.mem_of_keyTerm? isKey⟩

end Select.CompiledTo

/-- The clauses of the command of a node are those of the node, each compiled with the aliases of
the joins before it, the predicates as conditions. -/
theorem Select.compile_conditionwise {resolver : Resolver} {path : String} {node : Select}
    {nested nested' : Nat} {body : Body} {parameters : Parameters}
    (done : node.compile resolver path nested = .ok ((body, parameters), nested')) :
    node.Conditionwise (fun condition count expr term => ∃ aliases groupKey,
      node.aliasesAt path count = .ok aliases ∧
        (∀ key ∈ groupKey, ∃ terms ∈ body.groupBy, key ∈ terms) ∧
        Scope.GivesAs ⟨resolver, path, aliases, groupKey⟩ condition expr term) body := by
  obtain ⟨first, joined, key, steps⟩ := Select.steps_of_compile done
  have compiled := steps.compiledTo
  obtain ⟨_, _, ofFilters⟩ := steps.filters
  obtain ⟨_, _, ofHaving⟩ := steps.having
  obtain ⟨_, _, ofOrderBy⟩ := steps.orderBy
  obtain ⟨_, _, ofColumns⟩ := steps.columns
  -- Up to the group key, all clauses behind the joins share one scope.
  have later {key : Option Term} {condition : Bool}
      (isKey : ∀ term ∈ key, ∃ terms ∈ body.groupBy, term ∈ terms) (expr : Expr) (term : Term)
      (gives : Scope.GivesAs ⟨resolver, path, joined, key⟩ condition expr term) :
      ∃ aliases groupKey, node.aliasesAt path node.joins.length = .ok aliases ∧
        (∀ key ∈ groupKey, ∃ terms ∈ body.groupBy, key ∈ terms) ∧
        Scope.GivesAs ⟨resolver, path, aliases, groupKey⟩ condition expr term :=
    ⟨joined, key, compiled.aliasesAt_length, isKey, gives⟩
  have noKey : ∀ term ∈ (none : Option Term), ∃ terms ∈ body.groupBy, term ∈ terms := nofun
  constructor
  · intro index join isJoin
    have inside : index < body.joins.length := by
      rw [compiled.length_joins]
      exact (List.getElem?_eq_some_iff.mp isJoin).1
    have isClause := List.getElem?_eq_getElem inside
    obtain ⟨before, bound, isAt, joinCompiled⟩ := compiled.joinAt isJoin isClause
    exact ⟨_, isClause, bound, none, isAt, noKey, joinCompiled.outer⟩
  · exact (Lambda.givesAs_of_compileAll ofFilters).imp fun _ _ => .mono (later noKey)
  · intro function present
    obtain ⟨terms, _, _, found, -, ofFields⟩ := compiled.grouped function present
    exact ⟨terms, found, (Scope.GivesAs.all ofFields).imp (later noKey)⟩
  · exact (Lambda.givesAs_of_compileAll ofHaving).imp fun _ _ => .mono (later compiled.key_mem)
  · exact (Order.givesAs_of_compileAll ofOrderBy).imp fun _ _ => later compiled.key_mem _ _
  · intro function selected
    obtain ⟨term, isSelection, gives⟩ :=
      (Select.givesAs_of_compileColumns ofColumns).2 function selected
    exact ⟨term, isSelection, later compiled.key_mem _ _ gives⟩

/-- The clauses of the command of a node are those of the node, each compiled with the aliases of
the joins before it. -/
theorem Select.compile_clausewise {resolver : Resolver} {path : String} {node : Select}
    {nested nested' : Nat} {body : Body} {parameters : Parameters}
    (done : node.compile resolver path nested = .ok ((body, parameters), nested')) :
    node.Clausewise (fun count expr term => ∃ aliases groupKey,
      node.aliasesAt path count = .ok aliases ∧
        Scope.Gives ⟨resolver, path, aliases, groupKey⟩ expr term) body := by
  refine ((Select.compile_conditionwise done).mono ?_).clausewise
  rintro condition count expr term ⟨aliases, groupKey, isAt, -, gives⟩
  exact ⟨aliases, groupKey, isAt, gives.gives⟩

end TypedQuery
