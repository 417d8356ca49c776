/-
Module: TypedQuery.Proofs.RenderedLiterals
Purpose: When every literal of a query stands in a part that its command renders. Not
  rendered are the slots that a template does not have, the arguments of a row beyond
  its labels, and the arguments of a random source.
Main exports: Constructor.renders, Method.renders, Expr.keepsLiterals, Select.keepsLiterals,
  Query.keepsLiterals, Select.keeps_of_keepsLiterals
-/
import TypedQuery.Proofs.Literals
import TypedQuery.Proofs.TermTokens

namespace TypedQuery

open Sql

/-- Is the argument at a position rendered? -/
def Constructor.renders : Constructor → Nat → Bool
  | .record names, position => position < names.length
  | .dateTime, _ => true
  | .random, _ => false
  -- A construction without an SQL form has no rendered arguments to lose.
  | .named _, _ => true

/-- Is the slot of a number rendered? -/
def Method.renders (method : Method) : Nat → Bool :=
  match method.template? with
  | some template => template.mentions
  -- A method without an SQL form has no rendered slots to lose.
  | none => fun _ => true

theorem Method.renders_of_template? {method : Method} {template : Template}
    (found : method.template? = some template) : method.renders = template.mentions := by
  rw [Method.renders, found]

mutual

/-- No literal of the expression is in a part that is not rendered. -/
def Expr.keepsLiterals (grouped : Bool) : Expr → Bool
  | .binary _ left right _ => left.keepsLiterals grouped && right.keepsLiterals grouped
  | .unary _ operand _ => operand.keepsLiterals grouped
  | .conditional test ifTrue ifFalse _ =>
    test.keepsLiterals grouped && ifTrue.keepsLiterals grouped && ifFalse.keepsLiterals grouped
  | .member target name _ =>
    if grouped ∧ name.name = "Key" ∧ name.owner.isGroup then true
    else if name.owner = .timeSpan then
      match target with
      | some (.call callee method args _) =>
        Expr.keepsTarget grouped (method.renders 1) callee &&
          Expr.keepsAll grouped method.renders 2 args
      | _ => true
    else
      match target with
      | some (.closure captures _) => Capture.keepsLiterals name.name captures
      | other =>
        match propertyTemplate? name.owner.kind name.name with
        | some template => Expr.keepsTarget grouped (template.mentions 0) other
        | none => true
  | .call target method args _ =>
    Expr.keepsTarget grouped (method.renders 0) target &&
      Expr.keepsAll grouped method.renders 1 args
  | .construct ctor args _ => Expr.keepsAll grouped ctor.renders 0 args
  | .constant _ _ => true
  | .closure _ _ => true
  | .parameter _ => true
  | .lambda ⟨_, body⟩ => body.keepsLiterals grouped
termination_by structural expr => expr

/-- The same of a target; one that is not rendered has no literals at all. -/
def Expr.keepsTarget (grouped rendered : Bool) : Option Expr → Bool
  | none => true
  | some target =>
    if rendered then target.keepsLiterals grouped else (target.literals grouped).isEmpty
termination_by structural target => target

/-- The same of arguments from a position on. -/
def Expr.keepsAll (grouped : Bool) (rendered : Nat → Bool) : Nat → List Expr → Bool
  | _, [] => true
  | position, expr :: rest =>
    (if rendered position then expr.keepsLiterals grouped
      else (expr.literals grouped).isEmpty) &&
      Expr.keepsAll grouped rendered (position + 1) rest
termination_by structural _ exprs => exprs

/-- The same of the captured variable of a name. -/
def Capture.keepsLiterals (name : String) : List Capture → Bool
  | [] => true
  | .value held _ :: rest => if held = name then true else Capture.keepsLiterals name rest
  | .query held query :: rest =>
    if held = name then query.keepsLiterals else Capture.keepsLiterals name rest
termination_by structural captures => captures

/-- The same of what a lambda returns. -/
def Lambda.keepsLiterals (grouped : Bool) : Lambda → Bool
  | ⟨_, body⟩ => body.keepsLiterals grouped
termination_by structural function => function

/-- The same of predicates. -/
def Lambda.keepsAll (grouped : Bool) : List Lambda → Bool
  | [] => true
  | function :: rest => function.keepsLiterals grouped && Lambda.keepsAll grouped rest
termination_by structural functions => functions

/-- The same of a grouping clause, which renders every argument of a row. -/
def Lambda.keepsKey : Option Lambda → Bool
  | none => true
  | some ⟨_, .construct (.record _) args _⟩ => Expr.keepsAll false (fun _ => true) 0 args
  | some ⟨_, body⟩ => body.keepsLiterals false
termination_by structural key => key

/-- The same of joins. -/
def Join.keepsAll : List Join → Bool
  | [] => true
  | ⟨_, source, outerKey, _, _⟩ :: rest =>
    source.keepsLiterals && outerKey.keepsLiterals false && Join.keepsAll rest
termination_by structural joins => joins

/-- The same of the last join's result. -/
def Join.keepsLast (grouped : Bool) : List Join → Bool
  | [] => true
  | [⟨_, _, _, _, result⟩] => result.keepsLiterals grouped
  | _ :: join :: rest => Join.keepsLast grouped (join :: rest)
termination_by structural joins => joins

/-- The same of sort keys. -/
def Order.keepsAll (grouped : Bool) : List Order → Bool
  | [] => true
  | ⟨key, _⟩ :: rest => key.keepsLiterals grouped && Order.keepsAll grouped rest
termination_by structural orders => orders

/-- The same of a select node. -/
def Select.keepsLiterals : Select → Bool
  | ⟨source, _, filters, having, projection, groupKey, _, joins, orderBy, _, _, _, _⟩ =>
    source.keepsLiterals && Join.keepsAll joins && Lambda.keepsAll false filters &&
      Lambda.keepsKey groupKey && Lambda.keepsAll (Lambda.givesKey groupKey) having &&
      Order.keepsAll (Lambda.givesKey groupKey) orderBy &&
      match projection with
      | some function => function.keepsLiterals (Lambda.givesKey groupKey)
      | none => Join.keepsLast (Lambda.givesKey groupKey) joins
termination_by structural node => node

/-- No literal of the query is in a part that its command does not render. -/
def Query.keepsLiterals : Query → Bool
  | .table _ => true
  | .select node => node.keepsLiterals
  | .combine _ first second => first.keepsLiterals && second.keepsLiterals
termination_by structural query => query

end

/-- The same of a select node, clause by clause. -/
structure Select.Keeps (node : Select) : Prop where
  source : node.source.keepsLiterals = true
  joins : Join.keepsAll node.joins = true
  filters : Lambda.keepsAll false node.filters = true
  groupKey : Lambda.keepsKey node.groupKey = true
  having : Lambda.keepsAll (Lambda.givesKey node.groupKey) node.having = true
  orderBy : Order.keepsAll (Lambda.givesKey node.groupKey) node.orderBy = true
  columns : node.projection.elim (Join.keepsLast (Lambda.givesKey node.groupKey) node.joins)
    (Lambda.keepsLiterals (Lambda.givesKey node.groupKey)) = true

theorem Select.keeps_of_keepsLiterals {node : Select} (kept : node.keepsLiterals = true) :
    node.Keeps := by
  obtain ⟨source, modelType, filters, having, projection, groupKey, groupElement, joins, orderBy,
    skip, take, distinct, stage⟩ := node
  rw [Select.keepsLiterals.eq_def] at kept
  simp only [Bool.and_eq_true] at kept
  obtain ⟨⟨⟨⟨⟨⟨ofSource, ofJoins⟩, ofFilters⟩, ofKey⟩, ofHaving⟩, ofOrder⟩, ofColumns⟩ := kept
  refine ⟨ofSource, ofJoins, ofFilters, ofKey, ofHaving, ofOrder, ?_⟩
  cases projection with
  | some function => exact ofColumns
  | none => exact ofColumns

example : (usersByLogin (.int 7) (.string "x")).keepsLiterals = true := rfl

example : (Expr.construct .random [.constant (.int 7) .int] .object).keepsLiterals false = false :=
  rfl

end TypedQuery
