/-
Module: TypedQuery.Sql.Compile
Purpose: From a query to an SQL command. Literals become placeholders numbered in
  the order in which they are met; nested sources and captured queries are
  compiled under prefixes of their own, numbered through the whole command.
Main exports: Expr.compile, Select.compile, Query.compile, Query.compileSource,
  Query.toCommand
-/
import TypedQuery.Naming.Resolver
import TypedQuery.Query.RowType
import TypedQuery.Sql.Aliases
import TypedQuery.Sql.Parameters
import TypedQuery.Sql.Statement

namespace TypedQuery

namespace Sql

/-- What a term's form depends on, apart from the expression. -/
structure Scope where
  resolver : Resolver
  /-- Put in front of the aliases and placeholders of the command. -/
  path : String
  aliases : Aliases
  /-- The term that the rows are grouped by, once known. -/
  groupKey : Option Term

/-- What compilation of one command threads along. -/
structure Progress where
  /-- Nested commands so far, counted through the whole command. -/
  nested : Nat
  /-- Values bound so far in this command. -/
  parameters : Parameters

/-- Compilation of a part of one command. -/
abbrev Compile := StateT Progress (Except Error)

/-- Compilation of a whole command, which binds values of its own; the state counts
the nested commands. -/
abbrev Nested := StateT Nat (Except Error)

namespace Compile

/-- Give up: the fragment has no SQL form. -/
def unsupported {α : Type} (fragment : Fragment) : Compile α :=
  throw (.unsupported fragment)

/-- Bind a value to the next placeholder of the command. -/
def bindValue (scope : Scope) (value : Value) : Compile Term := do
  let progress ← get
  let name := "@" ++ scope.path ++ "p" ++ toString progress.parameters.size
  set { progress with parameters := progress.parameters.insert name value }
  return .placeholder name

/-- Prefix of the next nested command. -/
def nextPath (scope : Scope) : Compile String := do
  let progress ← get
  set { progress with nested := progress.nested + 1 }
  return scope.path ++ "sq" ++ toString progress.nested ++ "_"

/-- Run the compilation of a nested command and take over its values. -/
def embed {α : Type} (command : Nested (α × Parameters)) : Compile α := fun progress => do
  let ((result, parameters), nested) ← command progress.nested
  return (result, ⟨nested, progress.parameters.merge parameters⟩)

/-- Run the parts of a command from no values on. -/
def toNested {α : Type} (parts : Compile α) : Nested (α × Parameters) := fun nested => do
  let (result, progress) ← parts ⟨nested, .empty⟩
  return ((result, progress.parameters), progress.nested)

end Compile

open Compile

/-! ### Forms of single nodes -/

/-- A binary operator on compiled operands. -/
def binaryTerm (op : BinaryOp) (left right : Term) : Compile Term :=
  match op.sqlOperator? (left.isNull || right.isNull) with
  | some operator => return .binary operator left right
  | none => unsupported (.binaryOperator op)

/-- An operator with one, compiled operand. -/
def unaryTerm (op : UnaryOp) (operand : Term) (ty : Ty) : Compile Term :=
  if op = .convert then
    match ty.sqlType? with
    | some target => return .convert target operand
    | none => unsupported (.conversion ty)
  else
    match op.sqlModifier? with
    | some modifier => return .unary modifier operand
    | none => unsupported (.unaryOperator op)

/-- A method call on compiled slots. -/
def callTerm (method : Method) (slots : List Term) : Compile Term :=
  match method.template? with
  | some template => return .apply template slots
  | none => unsupported (.method method)

/-- Parts of a point in time. -/
def dateTimeParts : Nat := 7

/-- Missing parts of a point in time are zero. -/
def padParts (parts : List Term) : List Term :=
  parts ++ List.replicate (dateTimeParts - parts.length) .zero

/-- Terms under their labels; surplus terms or labels are left out. -/
def label : List Term → List String → List Labelled
  | term :: terms, name :: names => ⟨term, name⟩ :: label terms names
  | _, _ => []

/-- A construction from compiled arguments. -/
def constructTerm (ctor : Constructor) (args : List Term) : Compile Term :=
  match ctor with
  | .record names => return .columns (label args names)
  | .dateTime => return .dateTime (padParts args)
  | .random => return .nothing
  | .named name => unsupported (.construction name)

/-- The cached group key, when the member is the key of a group. -/
def Scope.groupKeyOf? (scope : Scope) (name : Member) : Option Term :=
  if name.name = "Key" ∧ name.owner.isGroup then scope.groupKey else none

/-- A column of a lambda parameter; a boolean one is compared explicitly where a
condition is wanted. -/
def paramColumn (scope : Scope) (condition : Bool) (param : Param) (name : Member) (ty : Ty) :
    Term :=
  let table := scope.aliases.ofParam param
  let column := scope.resolver.columnName name
  if condition && ty.isBool then .flag table column else .column table column

/-- A member as a column: of a lambda parameter, or of a field that holds the rows
of a source. -/
def memberColumn (scope : Scope) (condition : Bool) (target : Option Expr) (name : Member)
    (ty : Ty) : Compile Term :=
  match target with
  | some (.parameter param) => return paramColumn scope condition param name ty
  | some (.member _ inner _) =>
    match scope.aliases.ofMember? inner with
    | some table => return .column table (scope.resolver.columnName name)
    | none => unsupported (.expression (.member target name ty))
  | _ => unsupported (.expression (.member target name ty))

/-- A duration read as a double is converted explicitly. -/
def durationTerm (ty : Ty) (term : Term) : Term :=
  if ty = .double then .convert .float term else term

/-- The single member that a join's inner key selects. -/
def keyMember? (key : Lambda) : Option Member :=
  match key.body with
  | .member _ name _ => some name
  | _ => none

/-- Parentheses around a disjunction, because predicates are joined by a
conjunction. -/
def encloseDisjunction (predicate : Expr) (term : Term) : Term :=
  match predicate with
  | .binary op _ _ _ => if op.isDisjunction then .enclosed term else term
  | _ => term

/-- The selection of a compiled projection: a whole row stands for its columns. -/
def selectionOf (projection : Expr) (term : Term) : Selection :=
  match projection with
  | .parameter _ => .allOf term
  | _ => .terms term

end Sql

open Sql Sql.Compile

mutual

/-- Compile an expression. `condition` marks a place where SQL wants a condition. -/
def Expr.compile (scope : Scope) (condition : Bool) : Expr → Compile Term
  | .binary op left right ty => do
    let left ← left.compile scope ty.isBool
    let right ← right.compile scope ty.isBool
    binaryTerm op left right
  | .unary op operand ty => do
    let operand ← operand.compile scope ty.isBool
    unaryTerm op operand ty
  | .conditional test ifTrue ifFalse _ => do
    let test ← test.compile scope true
    let ifTrue ← ifTrue.compile scope false
    let ifFalse ← ifFalse.compile scope false
    return .iif test ifTrue ifFalse
  | .member target name ty =>
    match scope.groupKeyOf? name with
    | some key => return key
    | none =>
      if name.owner = .timeSpan then
        -- The unit goes into the subtraction that the accessor reads.
        match durationUnit? name.name, target with
        | some unit, some (.call callee method args _) =>
          match method.template? with
          | some template => do
            let callee ← Expr.compileTarget scope callee
            let args ← Expr.compileAll scope args
            return durationTerm ty (.apply template (.word unit :: callee :: args))
          | none => unsupported (.method method)
        | _, other => unsupported (.expression (.member other name ty))
      else
        match target with
        | some (.closure captures _) => Capture.compile scope name.name captures
        | other =>
          match propertyTemplate? name.owner.kind name.name with
          | some template => do
            let callee ← Expr.compileTarget scope other
            return .apply template [callee]
          | none => memberColumn scope condition other name ty
  | .call target method args _ => do
    let callee ← Expr.compileTarget scope target
    let args ← Expr.compileAll scope args
    callTerm method (callee :: args)
  | .construct ctor args _ => do
    let args ← Expr.compileAll scope args
    constructTerm ctor args
  | .constant .null _ => return .null
  | .constant value _ => bindValue scope value
  | .closure captures ty => unsupported (.expression (.closure captures ty))
  | .parameter param => return .row (scope.aliases.ofParam param)
  | .lambda ⟨_, body⟩ => body.compile scope false
termination_by structural expr => expr

/-- Compile the target of a call, which a method of a type does not have. -/
def Expr.compileTarget (scope : Scope) : Option Expr → Compile Term
  | some target => target.compile scope false
  | none => return .nothing
termination_by structural target => target

/-- Compile several expressions from left to right. -/
def Expr.compileAll (scope : Scope) : List Expr → Compile (List Term)
  | [] => return []
  | expr :: rest => do
    let term ← expr.compile scope false
    let terms ← Expr.compileAll scope rest
    return term :: terms
termination_by structural exprs => exprs

/-- Compile the captured variable of a name: a value is bound to a placeholder, a
query becomes a nested command. -/
def Capture.compile (scope : Scope) (name : String) : List Capture → Compile Term
  | [] => unsupported (.captured name)
  | .value held value :: rest =>
    if held = name then bindValue scope value else Capture.compile scope name rest
  | .query held query :: rest =>
    if held = name then do
      let path ← nextPath scope
      let statement ← embed (query.compile scope.resolver path)
      return .subquery statement
    else Capture.compile scope name rest
termination_by structural captures => captures

/-- Compile predicates, each where SQL wants a condition. -/
def Lambda.compileAll (scope : Scope) : List Lambda → Compile (List Term)
  | [] => return []
  | ⟨_, body⟩ :: rest => do
    let term ← body.compile scope true
    let terms ← Lambda.compileAll scope rest
    return encloseDisjunction body term :: terms
termination_by structural predicates => predicates

/-- Compile joins one after the other. A join's keys see the sources before it;
what it binds holds from the next one on. -/
def Join.compileAll (scope : Scope) : List Join → Compile (List JoinClause × Scope)
  | [] => return ([], scope)
  | ⟨kind, source, outerKey, innerKey, result⟩ :: rest => do
    let join : Join := ⟨kind, source, outerKey, innerKey, result⟩
    let (table, aliases) ← (scope.aliases.bindJoin join : Except Error _)
    let scope := { scope with aliases := aliases }
    let path ← nextPath scope
    let source ← embed (source.compileSource scope.resolver path)
    let outer ← Lambda.compileBody scope outerKey
    match keyMember? innerKey with
    | none => unsupported (.expression innerKey.body)
    | some member =>
      let inner := Term.column table (scope.resolver.columnName member)
      let scope := { scope with aliases := aliases.advance table }
      let (clauses, scope) ← Join.compileAll scope rest
      return (⟨kind, source, table, outer, inner⟩ :: clauses, scope)
termination_by structural joins => joins

/-- Compile what a lambda returns, as a value. -/
def Lambda.compileBody (scope : Scope) : Lambda → Compile Term
  | ⟨_, body⟩ => body.compile scope false
termination_by structural function => function

/-- Compile the grouping clause and remember a key that is a single term. A row as
key groups by each of its fields. -/
def Lambda.compileGroupKey (scope : Scope) :
    Option Lambda → Compile (Option (List Term) × Scope)
  | none => return (none, scope)
  | some ⟨_, .construct (.record _) args _⟩ => do
    let keys ← Expr.compileAll scope args
    return (some keys, scope)
  | some ⟨_, body⟩ => do
    let key ← body.compile scope false
    return (some [key], { scope with groupKey := some key })
termination_by structural key => key

/-- Compile the sort keys. -/
def Order.compileAll (scope : Scope) : List Order → Compile (List SortKey)
  | [] => return []
  | ⟨key, ascending⟩ :: rest => do
    let term ← Lambda.compileBody scope key
    let keys ← Order.compileAll scope rest
    return ⟨term, ascending⟩ :: keys
termination_by structural orders => orders

/-- Compile a projection. -/
def Lambda.compileSelection (scope : Scope) : Lambda → Compile Selection
  | ⟨_, body⟩ => do
    let term ← body.compile scope false
    return selectionOf body term
termination_by structural function => function

/-- Compile the result of the last join as the selection; without joins, all
columns. -/
def Join.compileLast (scope : Scope) : List Join → Compile Selection
  | [] => return .all
  | [⟨_, _, _, _, result⟩] => Lambda.compileSelection scope result
  | _ :: join :: rest => Join.compileLast scope (join :: rest)
termination_by structural joins => joins

/-- Compile a select node: sources, then the clauses in the order in which SQL
evaluates them, the selection last. -/
def Select.compile (resolver : Resolver) (path : String) : Select → Nested (Body × Parameters)
  | ⟨source, modelType, filters, having, projection, groupKey, groupElement, joins, orderBy,
      skip, take, distinct, stage⟩ => toNested do
    let node : Select := ⟨source, modelType, filters, having, projection, groupKey,
      groupElement, joins, orderBy, skip, take, distinct, stage⟩
    let (table, aliases) ← (Aliases.bindSource path node : Except Error _)
    let scope : Scope := ⟨resolver, path, aliases, none⟩
    let sourcePath ← nextPath scope
    let source ← embed (source.compileSource resolver sourcePath)
    let (joinClauses, scope) ← Join.compileAll scope joins
    let filterTerms ← Lambda.compileAll scope filters
    let (groupBy, scope) ← Lambda.compileGroupKey scope groupKey
    let havingTerms ← Lambda.compileAll scope having
    let sortKeys ← Order.compileAll scope orderBy
    let selection ←
      match projection with
      | some function => Lambda.compileSelection scope function
      | none => Join.compileLast scope joins
    return {
      distinct := distinct
      selection := selection
      source := source
      table := table
      joins := joinClauses
      filters := filterTerms
      groupBy := groupBy
      having := havingTerms
      orderBy := sortKeys
      skip := skip
      take := take }
termination_by structural node => node

/-- Compile a query as a whole command under a prefix. -/
def Query.compile (resolver : Resolver) (path : String) : Query → Nested (Statement × Parameters)
  | .table model => return (.table (resolver.tableName model), .empty)
  | .select node => do
    let (body, parameters) ← node.compile resolver path
    return (.select body, parameters)
  | .combine op first second => do
    let (first, parameters) ← first.compile resolver (path ++ "so0_")
    let (second, others) ← second.compile resolver (path ++ "so1_")
    return (.combine op first second, parameters.merge others)
termination_by structural query => query

/-- Compile a query as a source: a bare table when nothing is added to it, else a
derived table. -/
def Query.compileSource (resolver : Resolver) (path : String) :
    Query → Nested (Source × Parameters)
  | .table model => return (.table (resolver.tableName model), .empty)
  | .select ⟨source, modelType, filters, having, projection, groupKey, groupElement, joins,
      orderBy, skip, take, distinct, stage⟩ => do
    let node : Select := ⟨source, modelType, filters, having, projection, groupKey,
      groupElement, joins, orderBy, skip, take, distinct, stage⟩
    if node.isTrivial then source.compileSource resolver path
    else do
      let (body, parameters) ← Select.compile resolver path ⟨source, modelType, filters, having,
        projection, groupKey, groupElement, joins, orderBy, skip, take, distinct, stage⟩
      return (.derived (.select body), parameters)
  | .combine op first second => do
    let (first, parameters) ← first.compile resolver (path ++ "so0_")
    let (second, others) ← second.compile resolver (path ++ "so1_")
    return (.derived (.combine op first second), parameters.merge others)
termination_by structural query => query

end

/-- The command of a query: its text and the values of its placeholders. -/
def Query.toCommand (resolver : Resolver) (query : Query) : Except Error Command :=
  match query.compile resolver "" 0 with
  | .ok ((statement, parameters), _) => .ok ⟨statement.text, parameters⟩
  | .error error => .error error

end TypedQuery
