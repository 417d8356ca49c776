/-
Module: TypedQuery.Expr.Same
Purpose: Equality of expressions and queries as trees. It differs from Lean's
  equality only at literals, which compare by `Value.same`: a tree with a nan in
  it differs from itself.
Main exports: Expr.same, Query.same
-/
import TypedQuery.Expr.Basic

namespace TypedQuery

mutual

/-- Equality of expressions. -/
def Expr.same : Expr → Expr → Bool
  | .member none name ty, .member none name' ty' => name == name' && ty == ty'
  | .member (some target) name ty, .member (some target') name' ty' =>
    target.same target' && name == name' && ty == ty'
  | .constant value ty, .constant value' ty' => value.same value' && ty == ty'
  | .closure captures ty, .closure captures' ty' =>
    Capture.sameAll captures captures' && ty == ty'
  | .parameter param, .parameter param' => param == param'
  | .unary op operand ty, .unary op' operand' ty' =>
    op == op' && operand.same operand' && ty == ty'
  | .binary op left right ty, .binary op' left' right' ty' =>
    op == op' && left.same left' && right.same right' && ty == ty'
  | .conditional test ifTrue ifFalse ty, .conditional test' ifTrue' ifFalse' ty' =>
    test.same test' && ifTrue.same ifTrue' && ifFalse.same ifFalse' && ty == ty'
  | .call none method args ty, .call none method' args' ty' =>
    method == method' && Expr.sameAll args args' && ty == ty'
  | .call (some target) method args ty, .call (some target') method' args' ty' =>
    target.same target' && method == method' && Expr.sameAll args args' && ty == ty'
  | .construct ctor args ty, .construct ctor' args' ty' =>
    ctor == ctor' && Expr.sameAll args args' && ty == ty'
  | .lambda function, .lambda function' => function.same function'
  | _, _ => false
termination_by structural expr => expr

/-- Equality of expression lists, member by member. -/
def Expr.sameAll : List Expr → List Expr → Bool
  | [], [] => true
  | expr :: rest, expr' :: rest' => expr.same expr' && Expr.sameAll rest rest'
  | _, _ => false
termination_by structural exprs => exprs

/-- Equality of lambdas: parameter names count. -/
def Lambda.same : Lambda → Lambda → Bool
  | ⟨params, body⟩, ⟨params', body'⟩ => params == params' && body.same body'
termination_by structural function => function

/-- Equality of captures. -/
def Capture.same : Capture → Capture → Bool
  | .value name value, .value name' value' => name == name' && value.same value'
  | .query name query, .query name' query' => name == name' && query.same query'
  | _, _ => false
termination_by structural capture => capture

/-- Equality of environments, capture by capture. -/
def Capture.sameAll : List Capture → List Capture → Bool
  | [], [] => true
  | capture :: rest, capture' :: rest' => capture.same capture' && Capture.sameAll rest rest'
  | _, _ => false
termination_by structural captures => captures

/-- Equality of queries. -/
def Query.same : Query → Query → Bool
  | .table model, .table model' => model == model'
  | .select node, .select node' => node.same node'
  | .combine op first second, .combine op' first' second' =>
    op == op' && first.same first' && second.same second'
  | _, _ => false
termination_by structural query => query

/-- Equality of select nodes, clause by clause. -/
def Select.same : Select → Select → Bool
  | ⟨source, modelType, filters, having, projection, groupKey, groupElement, joins, orderBy,
      skip, take, distinct, stage⟩,
    ⟨source', modelType', filters', having', projection', groupKey', groupElement', joins',
      orderBy', skip', take', distinct', stage'⟩ =>
    source.same source' && modelType == modelType' &&
      Lambda.sameAll filters filters' && Lambda.sameAll having having' &&
      Lambda.sameOption projection projection' && Lambda.sameOption groupKey groupKey' &&
      Lambda.sameOption groupElement groupElement' && Join.sameAll joins joins' &&
      Order.sameAll orderBy orderBy' && skip == skip' && take == take' &&
      distinct == distinct' && stage == stage'
termination_by structural node => node

/-- Equality of lambda lists. -/
def Lambda.sameAll : List Lambda → List Lambda → Bool
  | [], [] => true
  | function :: rest, function' :: rest' => function.same function' && Lambda.sameAll rest rest'
  | _, _ => false
termination_by structural functions => functions

/-- Equality of optional lambdas. -/
def Lambda.sameOption : Option Lambda → Option Lambda → Bool
  | none, none => true
  | some function, some function' => function.same function'
  | _, _ => false
termination_by structural function => function

/-- Equality of joins. -/
def Join.same : Join → Join → Bool
  | ⟨kind, source, outerKey, innerKey, result⟩, ⟨kind', source', outerKey', innerKey', result'⟩ =>
    kind == kind' && source.same source' && outerKey.same outerKey' &&
      innerKey.same innerKey' && result.same result'
termination_by structural join => join

/-- Equality of join lists. -/
def Join.sameAll : List Join → List Join → Bool
  | [], [] => true
  | join :: rest, join' :: rest' => join.same join' && Join.sameAll rest rest'
  | _, _ => false
termination_by structural joins => joins

/-- Equality of sort keys. -/
def Order.same : Order → Order → Bool
  | ⟨key, ascending⟩, ⟨key', ascending'⟩ => key.same key' && ascending == ascending'
termination_by structural order => order

/-- Equality of sort key lists. -/
def Order.sameAll : List Order → List Order → Bool
  | [], [] => true
  | order :: rest, order' :: rest' => order.same order' && Order.sameAll rest rest'
  | _, _ => false
termination_by structural orders => orders

end

end TypedQuery
