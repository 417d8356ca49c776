/-
Module: TypedQuery.Naming.Resolver
Purpose: The names of tables and columns in the database.
Main exports: Resolver, Resolver.identity
-/
import TypedQuery.Expr.Basic

namespace TypedQuery

/-- Takes models to table names and members to column names. Every identifier of
the database goes through a resolver. -/
structure Resolver where
  tableName : Model → String
  columnName : Member → String

/-- Tables and columns are called like models and members. -/
def Resolver.identity : Resolver where
  tableName := Model.name
  columnName := Member.name

end TypedQuery
