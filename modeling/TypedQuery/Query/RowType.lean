/-
Module: TypedQuery.Query.RowType
Purpose: The type of a query's rows, and the select nodes that leave their source
  as it is.
Main exports: Query.rowType, Select.rowType, Select.joinedType, Select.over,
  Select.isTrivial
-/
import TypedQuery.Expr.Basic

namespace TypedQuery

namespace Select

/-- Type of the rows before grouping and projection: the result of the last join,
or else the source's rows. -/
def joinedType (node : Select) : Ty :=
  match node.joins.getLast? with
  | some join => join.result.resultType
  | none => node.modelType

/-- Type of the rows of a select node: what the projection makes, or else the
groups, or else the joined rows. -/
def rowType (node : Select) : Ty :=
  match node.projection, node.groupKey with
  | some projection, _ => projection.resultType
  | none, some key =>
    let element :=
      match node.groupElement with
      | some element => element.resultType
      | none => node.joinedType
    .group key.resultType element
  | none, none => node.joinedType

/-- No clause changes the rows of the source, so that the node can be written as
its source. -/
def isTrivial (node : Select) : Bool :=
  node.filters.isEmpty && node.having.isEmpty && node.projection.isNone &&
    node.groupKey.isNone && node.joins.isEmpty && node.orderBy.isEmpty &&
    node.skip == 0 && node.take == 0 && !node.distinct

end Select

/-- Type of the rows of a query; a set operation has the rows of its first
operand. -/
def Query.rowType : Query → Ty
  | .table model => .model model
  | .select node => node.rowType
  | .combine _ first _ => first.rowType
termination_by structural query => query

/-- A select node over `source` without clauses. -/
def Select.over (source : Query) : Select :=
  { source := source
    modelType := source.rowType
    filters := []
    having := []
    projection := none
    groupKey := none
    groupElement := none
    joins := []
    orderBy := []
    skip := 0
    take := 0
    distinct := false
    stage := .opened }

end TypedQuery
