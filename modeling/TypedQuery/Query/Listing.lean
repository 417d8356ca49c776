/-
Module: TypedQuery.Query.Listing
Purpose: How queries and their makers appear in developer listings.
Main exports: Query.listingHead, Listing.tail, Listing.builder, Listing.compiler
-/
import TypedQuery.Expr.Basic

namespace TypedQuery

namespace Listing

/-- The end of a listing that leaves fields out. -/
def tail : String := ", .. \x7d"

/-- The entry point, all fields left out. -/
def builder : String := "QueryBuilder \x7b .. \x7d"

/-- The compiler, all fields left out. -/
def compiler : String := "SqlCompiler \x7b .. \x7d"

end Listing

/-- The listing of a query up to the contents of its outermost node. -/
def Query.listingHead : Query → String
  | .table _ => "Query \x7b node: Table("
  | .select _ => "Query \x7b node: Select("
  | .combine _ _ _ => "Query \x7b node: SetOp("

end TypedQuery
