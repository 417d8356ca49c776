/-
Module: TypedQuery.Proofs.Trace
Purpose: Compilation with a record of what it does on the way: which select nodes it
  starts on and under which prefixes, which aliases it binds, and each change of
  the bound values. The record goes up to the point of failure, if there is one.
Main exports: Event, Trace, Traced, Expr.traced, Select.traced, Query.traced
-/
import TypedQuery.Sql.Compile

namespace TypedQuery

namespace Sql

/-- One thing that compilation does. -/
inductive Event
  /-- A select node is begun under a prefix. -/
  | opened (path : String)
  /-- The node under the prefix gives a source an alias. -/
  | aliased (path table : String)
  /-- A value is bound to a name, on top of what is held. -/
  | bound (held : Parameters) (name : String) (value : Value)
  /-- The values of a nested command, or of a second operand, are taken over. -/
  | merged (held other : Parameters)

/-- What happened, and how it ended. -/
structure Trace (α : Type) where
  events : List Event
  outcome : Except Error α

/-- A compilation that keeps a record. -/
def Traced (σ α : Type) : Type := σ → Trace (α × σ)

namespace Traced

variable {σ α β : Type}

/-- Nothing happens. -/
def pure (result : α) : Traced σ α := fun state => ⟨[], .ok (result, state)⟩

/-- One compilation after the other; a failure is the end of the record. -/
def bind (first : Traced σ α) (next : α → Traced σ β) : Traced σ β := fun state =>
  match (first state).outcome with
  | .ok (result, state') =>
    ⟨(first state).events ++ (next result state').events, (next result state').outcome⟩
  | .error error => ⟨(first state).events, .error error⟩

instance : Monad (Traced σ) where
  pure := Traced.pure
  bind := Traced.bind

/-- A step of which no record is kept. -/
def silent (step : StateT σ (Except Error) α) : Traced σ α := fun state => ⟨[], step state⟩

/-- Bind a value to the next placeholder. -/
def bindValue (scope : Scope) (value : Value) : Traced Progress Term := fun progress =>
  let name := "@" ++ scope.path ++ "p" ++ toString progress.parameters.size
  ⟨[.bound progress.parameters name value], Compile.bindValue scope value progress⟩

/-- Compile a nested command under the next prefix and take over its values. -/
def nest (scope : Scope) (command : String → Traced Nat (α × Parameters)) :
    Traced Progress α := fun progress =>
  let path := scope.path ++ "sq" ++ toString progress.nested ++ "_"
  let inner := command path (progress.nested + 1)
  match inner.outcome with
  | .ok ((result, parameters), nested) =>
    ⟨inner.events ++ [.merged progress.parameters parameters],
      .ok (result, ⟨nested, progress.parameters.merge parameters⟩)⟩
  | .error error => ⟨inner.events, .error error⟩

/-- Begin a select node under a prefix and run its parts from no values on. -/
def openNode (path : String) (parts : Traced Progress α) : Traced Nat (α × Parameters) :=
  fun nested =>
    let inner := parts ⟨nested, .empty⟩
    ⟨.opened path :: inner.events,
      match inner.outcome with
      | .ok (result, progress) => .ok ((result, progress.parameters), progress.nested)
      | .error error => .error error⟩

/-- Take over the values of a second operand. -/
def mergeOperands (held other : Parameters) : Traced Nat Parameters := fun nested =>
  ⟨[.merged held other], .ok (held.merge other, nested)⟩

/-- Find the alias of a node's first source. -/
def bindSource (path : String) (node : Select) : Traced Progress (Option String × Aliases) :=
  fun progress =>
    match Aliases.bindSource path node with
    | .ok (table, aliases) =>
      ⟨table.toList.map (.aliased path), .ok ((table, aliases), progress)⟩
    | .error error => ⟨[], .error error⟩

/-- Find the alias of a joined source. -/
def bindJoin (scope : Scope) (join : Join) : Traced Progress (String × Aliases) :=
  fun progress =>
    match scope.aliases.bindJoin join with
    | .ok (table, aliases) =>
      ⟨[.aliased scope.path table], .ok ((table, aliases), progress)⟩
    | .error error => ⟨[], .error error⟩

end Traced

end Sql

open Sql Sql.Compile

mutual

/-- Compile an expression with a record. -/
def Expr.traced (scope : Scope) (condition : Bool) : Expr → Traced Progress Term
  | .binary op left right ty => do
    let left ← left.traced scope ty.isBool
    let right ← right.traced scope ty.isBool
    .silent (binaryTerm op left right)
  | .unary op operand ty => do
    let operand ← operand.traced scope ty.isBool
    .silent (unaryTerm op operand ty)
  | .conditional test ifTrue ifFalse _ => do
    let test ← test.traced scope true
    let ifTrue ← ifTrue.traced scope false
    let ifFalse ← ifFalse.traced scope false
    return .iif test ifTrue ifFalse
  | .member target name ty =>
    match scope.groupKeyOf? name with
    | some key => return key
    | none =>
      if name.owner = .timeSpan then
        match durationUnit? name.name, target with
        | some unit, some (.call callee method args _) =>
          match method.template? with
          | some template => do
            let callee ← Expr.tracedTarget scope callee
            let args ← Expr.tracedAll scope args
            return durationTerm ty (.apply template (.word unit :: callee :: args))
          | none => .silent (unsupported (.method method))
        | _, other => .silent (unsupported (.expression (.member other name ty)))
      else
        match target with
        | some (.closure captures _) => Capture.traced scope name.name captures
        | other =>
          match propertyTemplate? name.owner.kind name.name with
          | some template => do
            let callee ← Expr.tracedTarget scope other
            return .apply template [callee]
          | none => .silent (memberColumn scope condition other name ty)
  | .call target method args _ => do
    let callee ← Expr.tracedTarget scope target
    let args ← Expr.tracedAll scope args
    .silent (callTerm method (callee :: args))
  | .construct ctor args _ => do
    let args ← Expr.tracedAll scope args
    .silent (constructTerm ctor args)
  | .constant .null _ => return .null
  | .constant value _ => .bindValue scope value
  | .closure captures ty => .silent (unsupported (.expression (.closure captures ty)))
  | .parameter param => return .row (scope.aliases.ofParam param)
  | .lambda ⟨_, body⟩ => body.traced scope false
termination_by structural expr => expr

/-- Compile the target of a call with a record. -/
def Expr.tracedTarget (scope : Scope) : Option Expr → Traced Progress Term
  | some target => target.traced scope false
  | none => return .nothing
termination_by structural target => target

/-- Compile several expressions with a record. -/
def Expr.tracedAll (scope : Scope) : List Expr → Traced Progress (List Term)
  | [] => return []
  | expr :: rest => do
    let term ← expr.traced scope false
    let terms ← Expr.tracedAll scope rest
    return term :: terms
termination_by structural exprs => exprs

/-- Compile a captured variable with a record. -/
def Capture.traced (scope : Scope) (name : String) : List Capture → Traced Progress Term
  | [] => .silent (unsupported (.captured name))
  | .value held value :: rest =>
    if held = name then .bindValue scope value else Capture.traced scope name rest
  | .query held query :: rest =>
    if held = name then do
      let statement ← Traced.nest scope fun path => query.traced scope.resolver path
      return .subquery statement
    else Capture.traced scope name rest
termination_by structural captures => captures

/-- Compile predicates with a record. -/
def Lambda.tracedAll (scope : Scope) : List Lambda → Traced Progress (List Term)
  | [] => return []
  | ⟨_, body⟩ :: rest => do
    let term ← body.traced scope true
    let terms ← Lambda.tracedAll scope rest
    return encloseDisjunction body term :: terms
termination_by structural predicates => predicates

/-- Compile joins with a record. -/
def Join.tracedAll (scope : Scope) : List Join → Traced Progress (List JoinClause × Scope)
  | [] => return ([], scope)
  | ⟨kind, source, outerKey, innerKey, result⟩ :: rest => do
    let (table, aliases) ← Traced.bindJoin scope ⟨kind, source, outerKey, innerKey, result⟩
    let scope := { scope with aliases := aliases }
    let source ← Traced.nest scope fun path => source.tracedSource scope.resolver path
    let outer ← Lambda.tracedBody scope outerKey
    match keyMember? innerKey with
    | none => .silent (unsupported (.expression innerKey.body))
    | some member =>
      let inner := Term.column table (scope.resolver.columnName member)
      let scope := { scope with aliases := aliases.advance table }
      let (clauses, scope) ← Join.tracedAll scope rest
      return (⟨kind, source, table, outer, inner⟩ :: clauses, scope)
termination_by structural joins => joins

/-- Compile what a lambda returns, with a record. -/
def Lambda.tracedBody (scope : Scope) : Lambda → Traced Progress Term
  | ⟨_, body⟩ => body.traced scope false
termination_by structural function => function

/-- Compile the grouping clause with a record. -/
def Lambda.tracedGroupKey (scope : Scope) :
    Option Lambda → Traced Progress (Option (List Term) × Scope)
  | none => return (none, scope)
  | some ⟨_, .construct (.record _) args _⟩ => do
    let keys ← Expr.tracedAll scope args
    return (some keys, scope)
  | some ⟨_, body⟩ => do
    let key ← body.traced scope false
    return (some [key], { scope with groupKey := some key })
termination_by structural key => key

/-- Compile the sort keys with a record. -/
def Order.tracedAll (scope : Scope) : List Order → Traced Progress (List SortKey)
  | [] => return []
  | ⟨key, ascending⟩ :: rest => do
    let term ← Lambda.tracedBody scope key
    let keys ← Order.tracedAll scope rest
    return ⟨term, ascending⟩ :: keys
termination_by structural orders => orders

/-- Compile a projection with a record. -/
def Lambda.tracedSelection (scope : Scope) : Lambda → Traced Progress Selection
  | ⟨_, body⟩ => do
    let term ← body.traced scope false
    return selectionOf body term
termination_by structural function => function

/-- Compile the result of the last join with a record. -/
def Join.tracedLast (scope : Scope) : List Join → Traced Progress Selection
  | [] => return .all
  | [⟨_, _, _, _, result⟩] => Lambda.tracedSelection scope result
  | _ :: join :: rest => Join.tracedLast scope (join :: rest)
termination_by structural joins => joins

/-- Compile a select node with a record. -/
def Select.traced (resolver : Resolver) (path : String) :
    Select → Traced Nat (Body × Parameters)
  | ⟨source, modelType, filters, having, projection, groupKey, groupElement, joins, orderBy,
      skip, take, distinct, stage⟩ => Traced.openNode path do
    let (table, aliases) ← Traced.bindSource path ⟨source, modelType, filters, having,
      projection, groupKey, groupElement, joins, orderBy, skip, take, distinct, stage⟩
    let scope : Scope := ⟨resolver, path, aliases, none⟩
    let source ← Traced.nest scope fun sourcePath => source.tracedSource resolver sourcePath
    let (joinClauses, scope) ← Join.tracedAll scope joins
    let filterTerms ← Lambda.tracedAll scope filters
    let (groupBy, scope) ← Lambda.tracedGroupKey scope groupKey
    let havingTerms ← Lambda.tracedAll scope having
    let sortKeys ← Order.tracedAll scope orderBy
    let selection ←
      match projection with
      | some function => Lambda.tracedSelection scope function
      | none => Join.tracedLast scope joins
    return {
      distinct := distinct
      selection := selection
      source := source
      table := table
      joins := joinClauses
      filters := filterTerms
      groupBy := groupBy
      having := havingTerms
      orderBy := sortKeys
      skip := skip
      take := take }
termination_by structural node => node

/-- Compile a query as a whole command with a record. -/
def Query.traced (resolver : Resolver) (path : String) :
    Query → Traced Nat (Statement × Parameters)
  | .table model => return (.table (resolver.tableName model), .empty)
  | .select node => do
    let (body, parameters) ← node.traced resolver path
    return (.select body, parameters)
  | .combine op first second => do
    let (first, parameters) ← first.traced resolver (path ++ "so0_")
    let (second, others) ← second.traced resolver (path ++ "so1_")
    let parameters ← Traced.mergeOperands parameters others
    return (.combine op first second, parameters)
termination_by structural query => query

/-- Compile a query as a source with a record. -/
def Query.tracedSource (resolver : Resolver) (path : String) :
    Query → Traced Nat (Source × Parameters)
  | .table model => return (.table (resolver.tableName model), .empty)
  | .select ⟨source, modelType, filters, having, projection, groupKey, groupElement, joins,
      orderBy, skip, take, distinct, stage⟩ =>
    if Select.isTrivial ⟨source, modelType, filters, having, projection, groupKey,
        groupElement, joins, orderBy, skip, take, distinct, stage⟩ then
      source.tracedSource resolver path
    else do
      let (body, parameters) ← Select.traced resolver path ⟨source, modelType, filters, having,
        projection, groupKey, groupElement, joins, orderBy, skip, take, distinct, stage⟩
      return (.derived (.select body), parameters)
  | .combine op first second => do
    let (first, parameters) ← first.traced resolver (path ++ "so0_")
    let (second, others) ← second.traced resolver (path ++ "so1_")
    let parameters ← Traced.mergeOperands parameters others
    return (.derived (.combine op first second), parameters)
termination_by structural query => query

end

end TypedQuery
