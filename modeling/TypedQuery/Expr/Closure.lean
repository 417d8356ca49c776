/-
Module: TypedQuery.Expr.Closure
Purpose: Environments of captured values and queries, and the expressions that
  read them.
Main exports: Closure, Closure.capture, Closure.get?, Closure.var, Query.asExpr
-/
import TypedQuery.Query.RowType

namespace TypedQuery

/-- Type of what is captured. -/
def Capture.ty : Capture → Ty
  | .value _ literal => literal.ty
  | .query _ source => .query source.rowType

/-- An environment: captures under distinct names, the latest last. -/
structure Closure where
  captures : List Capture
deriving Inhabited

namespace Closure

/-- The environment without captures. -/
def empty : Closure := ⟨[]⟩

/-- Add a capture; an earlier one of the same name goes. -/
def capture (closure : Closure) (item : Capture) : Closure :=
  ⟨closure.captures.filter (·.name != item.name) ++ [item]⟩

/-- The capture of a name. -/
def get? (closure : Closure) (name : String) : Option Capture :=
  closure.captures.find? (·.name == name)

/-- The environment itself as an expression. -/
def toExpr (closure : Closure) : Expr := .closure closure.captures .closure

/-- A captured variable inside an expression; an unknown name has type
`object`. -/
def var (closure : Closure) (name : String) : Expr :=
  let ty :=
    match closure.get? name with
    | some item => item.ty
    | none => .object
  .member (some closure.toExpr) ⟨.closure, name⟩ ty

end Closure

/-- The query captured as a sub-query. -/
def Query.asExpr (query : Query) : Expr :=
  (Closure.empty.capture (.query "query" query)).var "query"

end TypedQuery
