/-
Module: TypedQuery.Proofs.Identifiers
Purpose: The identifiers that a resolver gives to the tables and columns of a query. A member
  that is a captured variable, a property of the catalogue or a duration has no column.
Main exports: Expr.identifiers, Select.identifiers, Query.identifiers,
  Expr.columnName_mem_identifiers, Expr.identifiersTarget_subset
-/
import TypedQuery.Sql.Compile

namespace TypedQuery

open Sql

/-- The column of a member, unless the member is computed from its target. -/
def Resolver.columnOf (resolver : Resolver) (name : Member) : List String :=
  if name.owner = .timeSpan ∨ (propertyTemplate? name.owner.kind name.name).isSome then []
  else [resolver.columnName name]

mutual

/-- Tables and columns that an expression refers to. -/
def Expr.identifiers (resolver : Resolver) : Expr → List String
  | .member target name _ =>
    match target with
    | some (.closure captures _) => Capture.identifiersAll resolver captures
    | other => resolver.columnOf name ++ Expr.identifiersTarget resolver other
  | .constant _ _ => []
  | .closure captures _ => Capture.identifiersAll resolver captures
  | .parameter _ => []
  | .unary _ operand _ => operand.identifiers resolver
  | .binary _ left right _ => left.identifiers resolver ++ right.identifiers resolver
  | .conditional test ifTrue ifFalse _ =>
    test.identifiers resolver ++ ifTrue.identifiers resolver ++ ifFalse.identifiers resolver
  | .call target _ args _ =>
    Expr.identifiersTarget resolver target ++ Expr.identifiersAll resolver args
  | .construct _ args _ => Expr.identifiersAll resolver args
  | .lambda function => function.identifiers resolver
termination_by structural expr => expr

/-- Tables and columns that the target of a call or member refers to. -/
def Expr.identifiersTarget (resolver : Resolver) : Option Expr → List String
  | none => []
  | some target => target.identifiers resolver
termination_by structural target => target

/-- Tables and columns that several expressions refer to. -/
def Expr.identifiersAll (resolver : Resolver) : List Expr → List String
  | [] => []
  | expr :: rest => expr.identifiers resolver ++ Expr.identifiersAll resolver rest
termination_by structural exprs => exprs

/-- Tables and columns that the queries of an environment refer to. -/
def Capture.identifiersAll (resolver : Resolver) : List Capture → List String
  | [] => []
  | .value _ _ :: rest => Capture.identifiersAll resolver rest
  | .query _ query :: rest => query.identifiers resolver ++ Capture.identifiersAll resolver rest
termination_by structural captures => captures

/-- Tables and columns that a lambda refers to. -/
def Lambda.identifiers (resolver : Resolver) : Lambda → List String
  | ⟨_, body⟩ => body.identifiers resolver
termination_by structural function => function

/-- Tables and columns that a clause refers to that may be missing. -/
def Lambda.identifiersOption (resolver : Resolver) : Option Lambda → List String
  | none => []
  | some function => function.identifiers resolver
termination_by structural function => function

/-- Tables and columns that several lambdas refer to. -/
def Lambda.identifiersAll (resolver : Resolver) : List Lambda → List String
  | [] => []
  | function :: rest => function.identifiers resolver ++ Lambda.identifiersAll resolver rest
termination_by structural functions => functions

/-- Tables and columns that joins refer to. Of an inner key only the member counts. -/
def Join.identifiersAll (resolver : Resolver) : List Join → List String
  | [] => []
  | ⟨_, source, outerKey, innerKey, result⟩ :: rest =>
    source.identifiers resolver ++ outerKey.identifiers resolver ++
      (keyMember? innerKey).toList.map resolver.columnName ++ result.identifiers resolver ++
      Join.identifiersAll resolver rest
termination_by structural joins => joins

/-- Tables and columns that sort keys refer to. -/
def Order.identifiersAll (resolver : Resolver) : List Order → List String
  | [] => []
  | ⟨key, _⟩ :: rest => key.identifiers resolver ++ Order.identifiersAll resolver rest
termination_by structural orders => orders

/-- Tables and columns that a select node refers to. -/
def Select.identifiers (resolver : Resolver) : Select → List String
  | ⟨source, _, filters, having, projection, groupKey, _, joins, orderBy, _, _, _, _⟩ =>
    source.identifiers resolver ++ Lambda.identifiersAll resolver filters ++
      Lambda.identifiersAll resolver having ++ Lambda.identifiersOption resolver projection ++
      Lambda.identifiersOption resolver groupKey ++ Join.identifiersAll resolver joins ++
      Order.identifiersAll resolver orderBy
termination_by structural node => node

/-- Tables and columns that a query refers to, in itself and in the queries that it captures. -/
def Query.identifiers (resolver : Resolver) : Query → List String
  | .table model => [resolver.tableName model]
  | .select node => node.identifiers resolver
  | .combine _ first second => first.identifiers resolver ++ second.identifiers resolver
termination_by structural query => query

end

/-! ### Members -/

theorem Expr.identifiers_member (resolver : Resolver) {target : Option Expr} (name : Member)
    (ty : Ty) (notClosure : ∀ captures ty, target ≠ some (.closure captures ty)) :
    (Expr.member target name ty).identifiers resolver =
      resolver.columnOf name ++ Expr.identifiersTarget resolver target := by
  rw [Expr.identifiers.eq_def]
  cases target with
  | none => rfl
  | some expr =>
      cases expr with
      | closure captures ty => exact absurd rfl (notClosure captures ty)
      | _ => rfl

/-- A member that is rendered as a column counts with that column. -/
theorem Expr.columnName_mem_identifiers (resolver : Resolver) {target : Option Expr}
    {name : Member} (ty : Ty) (untimed : name.owner ≠ .timeSpan)
    (notClosure : ∀ captures ty, target ≠ some (.closure captures ty))
    (noProperty : propertyTemplate? name.owner.kind name.name = none) :
    resolver.columnName name ∈ (Expr.member target name ty).identifiers resolver := by
  rw [Expr.identifiers_member resolver name ty notClosure, Resolver.columnOf,
    if_neg (by simp [untimed, noProperty])]
  exact List.mem_append_left _ (List.mem_singleton_self _)

/-- What its target refers to, a member refers to, whether it is a column or not. -/
theorem Expr.identifiersTarget_subset (resolver : Resolver) (target : Option Expr) (name : Member)
    (ty : Ty) :
    Expr.identifiersTarget resolver target ⊆ (Expr.member target name ty).identifiers resolver := by
  rw [Expr.identifiers.eq_def]
  cases target with
  | none => exact List.nil_subset _
  | some expr =>
      cases expr with
      | closure captures ty =>
          rw [Expr.identifiersTarget, Expr.identifiers]
          exact List.Subset.refl _
      | _ => exact List.subset_append_right _ _

end TypedQuery
