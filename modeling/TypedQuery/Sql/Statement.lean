/-
Module: TypedQuery.Sql.Statement
Purpose: SQL commands as trees, between the query they come from and their text.
Main exports: Sql.Term, Sql.Statement, Sql.Body, Sql.Source, Statement.text
-/
import TypedQuery.Sql.Catalog

namespace TypedQuery.Sql

mutual

/-- A part of a clause. -/
inductive Term
  | null
  /-- A placeholder for a bound value. -/
  | placeholder (name : String)
  /-- All columns of a source, by the source's alias. -/
  | row (table : String)
  | column (table name : String)
  /-- A boolean column where SQL wants a condition. -/
  | flag (table name : String)
  | enclosed (term : Term)
  | binary (op : Operator) (left right : Term)
  | unary (op : Modifier) (operand : Term)
  | convert (target : SqlType) (operand : Term)
  | iif (test ifTrue ifFalse : Term)
  /-- A method or property: its template and what goes into the slots. -/
  | apply (template : Template) (slots : List Term)
  /-- The fields of a row. -/
  | columns (fields : List Labelled)
  | dateTime (parts : List Term)
  | zero
  /-- A unit of time. -/
  | word (text : String)
  /-- The place of a target that a call does not have. -/
  | nothing
  | subquery (statement : Statement)

/-- A term under a column label. -/
structure Labelled where
  term : Term
  label : String

/-- A whole command. -/
inductive Statement
  /-- All rows of a table. -/
  | table (name : String)
  | select (body : Body)
  | combine (op : SetOp) (first second : Statement)

/-- What a command reads from. -/
inductive Source
  | table (name : String)
  | derived (statement : Statement)

/-- The columns of a command. -/
inductive Selection
  /-- Every column of every source. -/
  | all
  /-- Every column of one source. -/
  | allOf (row : Term)
  | terms (term : Term)

/-- A joined source with the condition that pairs the rows. -/
structure JoinClause where
  kind : JoinKind
  source : Source
  table : String
  outer : Term
  inner : Term

/-- One sort key. -/
structure SortKey where
  term : Term
  ascending : Bool

/-- A select command, clause by clause. -/
structure Body where
  distinct : Bool
  selection : Selection
  source : Source
  /-- Alias of the source. -/
  table : Option String
  joins : List JoinClause
  filters : List Term
  /-- `none` without grouping. -/
  groupBy : Option (List Term)
  having : List Term
  orderBy : List SortKey
  skip : Nat
  take : Nat

end

instance : Inhabited Term := ⟨.nothing⟩
instance : Inhabited Statement := ⟨.table ""⟩

/-- The term null itself. -/
def Term.isNull : Term → Bool
  | .null => true
  | _ => false

/-! ### Text -/

/-- An identifier between square brackets. -/
def bracketed (name : String) : String := "[" ++ name ++ "]"

/-- Predicates joined by `AND` behind a keyword; nothing without predicates. -/
def conjunctionText (keyword : String) : List String → String
  | [] => ""
  | predicates => keyword ++ String.intercalate " AND " predicates

/-- Rows left out and rows kept; nothing when both counts are 0. -/
def pagingText (skip take : Nat) : String :=
  let offset :=
    if skip ≠ 0 ∨ take ≠ 0 then " OFFSET " ++ toString skip ++ " ROWS" else ""
  let fetch := if take ≠ 0 then " FETCH NEXT " ++ toString take ++ " ROWS ONLY" else ""
  offset ++ fetch

mutual

/-- Text of a term. -/
def Term.text : Term → String
  | .null => "NULL"
  | .placeholder name => name
  | .row table => bracketed table
  | .column table name => bracketed table ++ "." ++ bracketed name
  | .flag table name => bracketed table ++ "." ++ bracketed name ++ " = 1"
  | .enclosed term => "(" ++ term.text ++ ")"
  | .binary op left right => "(" ++ left.text ++ ") " ++ op.text ++ " (" ++ right.text ++ ")"
  | .unary op operand => op.text ++ " (" ++ operand.text ++ ")"
  | .convert target operand => "CONVERT(" ++ target.text ++ ", " ++ operand.text ++ ")"
  | .iif test ifTrue ifFalse =>
    "IIF(" ++ test.text ++ ", " ++ ifTrue.text ++ ", " ++ ifFalse.text ++ ")"
  | .apply template slots => template.fill (Term.texts slots)
  | .columns fields => String.intercalate ", " (Labelled.texts fields)
  | .dateTime parts => "DATETIMEFROMPARTS(" ++ String.intercalate ", " (Term.texts parts) ++ ")"
  | .zero => "0"
  | .word text => text
  | .nothing => ""
  | .subquery statement => statement.text
termination_by structural term => term

/-- Texts of terms. -/
def Term.texts : List Term → List String
  | [] => []
  | term :: rest => term.text :: Term.texts rest
termination_by structural terms => terms

/-- Texts of labelled terms. -/
def Labelled.texts : List Labelled → List String
  | [] => []
  | ⟨term, label⟩ :: rest => (term.text ++ " AS " ++ bracketed label) :: Labelled.texts rest
termination_by structural fields => fields

/-- Text of a command; a set operation stands in parentheses. -/
def Statement.text : Statement → String
  | .table name => "SELECT * FROM " ++ bracketed name
  | .select body => body.text
  | .combine op first second =>
    "(" ++ first.text ++ " " ++ op.keyword ++ " " ++ second.text ++ ")"
termination_by structural statement => statement

/-- Text of a source: a table's name, or a command in parentheses. -/
def Source.text : Source → String
  | .table name => bracketed name
  | .derived (.combine op first second) => (Statement.combine op first second).text
  | .derived statement => "(" ++ statement.text ++ ")"
termination_by structural source => source

/-- Text of the columns of a command. -/
def Selection.text : Selection → String
  | .all => "*"
  | .allOf row => row.text ++ ".*"
  | .terms term => term.text
termination_by structural selection => selection

/-- Text of the joins, one behind the other. -/
def JoinClause.texts : List JoinClause → String
  | [] => ""
  | ⟨kind, source, table, outer, inner⟩ :: rest =>
    " " ++ kind.keyword ++ " JOIN " ++ source.text ++ " " ++ bracketed table ++
      " ON " ++ outer.text ++ " = " ++ inner.text ++ JoinClause.texts rest
termination_by structural joins => joins

/-- Texts of the sort keys. -/
def SortKey.texts : List SortKey → List String
  | [] => []
  | ⟨term, ascending⟩ :: rest =>
    (if ascending then term.text else term.text ++ " DESC") :: SortKey.texts rest
termination_by structural keys => keys

/-- Text of the grouping clause. -/
def groupText : Option (List Term) → String
  | none => ""
  | some keys => " GROUP BY " ++ String.intercalate ", " (Term.texts keys)
termination_by structural keys => keys

/-- Text of a select command. -/
def Body.text : Body → String
  | ⟨distinct, selection, source, table, joins, filters, groupBy, having, orderBy, skip, take⟩ =>
    let distinctText := if distinct then "DISTINCT " else ""
    let aliasText :=
      match table with
      | some name => " " ++ bracketed name
      | none => ""
    let orderText :=
      match SortKey.texts orderBy with
      | [] => ""
      | keys => " ORDER BY " ++ String.intercalate ", " keys
    "SELECT " ++ distinctText ++ selection.text ++ " FROM " ++ source.text ++ aliasText ++
      JoinClause.texts joins ++ conjunctionText " WHERE " (Term.texts filters) ++
      groupText groupBy ++ conjunctionText " HAVING " (Term.texts having) ++
      orderText ++ pagingText skip take
termination_by structural body => body

end

end TypedQuery.Sql
