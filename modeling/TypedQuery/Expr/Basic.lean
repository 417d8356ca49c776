/-
Module: TypedQuery.Expr.Basic
Purpose: The trees that describe a query: expressions over lambda parameters, and
  queries made of tables, select nodes and set operations. The two are one family
  of types because an expression may capture a query.
Main exports: Param, Member, Method, Expr, Lambda, Capture, Query, Select, Join,
  Order, Expr.ty
-/
import TypedQuery.Value

namespace TypedQuery

/-! ### Parts without subtrees -/

/-- A named, typed lambda parameter. -/
structure Param where
  name : String
  ty : Ty
deriving DecidableEq, Inhabited

/-- A member together with the type that declares it. -/
structure Member where
  owner : Ty
  name : String
deriving DecidableEq, Inhabited

/-- Types that declare methods with an SQL form. -/
inductive Owner
  | string
  | int
  | long
  | double
  | decimal
  | dateTime
  | math
  | random
  | group
  | query
deriving Repr, DecidableEq, Inhabited

namespace Owner

/-- Name of the declaring type. -/
def name : Owner → String
  | .string => "String"
  | .int => "Int"
  | .long => "Long"
  | .double => "Double"
  | .decimal => "Decimal"
  | .dateTime => "DateTime"
  | .math => "Math"
  | .random => "Random"
  | .group => "Group"
  | .query => "Query"

/-- Methods of groups and queries take arguments of any type; they are told apart
by name and number of arguments. -/
def isGeneric : Owner → Bool
  | .group | .query => true
  | _ => false

end Owner

/-- A method signature: declaring type, name and the kinds of its arguments. -/
structure Method where
  owner : Owner
  name : String
  params : List Kind
deriving Repr, DecidableEq, Inhabited

/-- The signature as readers see it. -/
def Method.text (method : Method) : String :=
  method.owner.name ++ "." ++ method.name ++
    "(" ++ String.intercalate ", " (method.params.map Kind.name) ++ ")"

/-- What a construction makes. -/
inductive Constructor
  /-- A row with the given field names, in the order of the arguments. -/
  | record (names : List String)
  | dateTime
  | random
  /-- Any other object; it has no SQL form. -/
  | named (name : String)
deriving Repr, DecidableEq, Inhabited

/-- The constructor as readers see it. -/
def Constructor.text : Constructor → String
  | .record names => "\x7b " ++ String.intercalate ", " names ++ " \x7d"
  | .dateTime => "DateTime"
  | .random => "Random"
  | .named name => name

/-- Operators with one operand. -/
inductive UnaryOp
  | not
  | negate
  /-- Conversion to the type of the node. -/
  | convert
  /-- Marks a lambda that is passed as an argument. -/
  | quote
  | plus
deriving Repr, DecidableEq, Inhabited

/-- Name of the operator. -/
def UnaryOp.name : UnaryOp → String
  | .not => "Not"
  | .negate => "Negate"
  | .convert => "Convert"
  | .quote => "Quote"
  | .plus => "Plus"

/-- Operators with two operands. -/
inductive BinaryOp
  | eq
  | notEq
  | lt
  | ltEq
  | gt
  | gtEq
  | and
  | or
  | bitAnd
  | bitOr
  | plus
  | minus
  | multiply
  | divide
  | modulo
  | bitXor
  | coalesce
deriving Repr, DecidableEq, Inhabited

namespace BinaryOp

/-- Name of the operator. -/
def name : BinaryOp → String
  | .eq => "Eq"
  | .notEq => "NotEq"
  | .lt => "Lt"
  | .ltEq => "LtEq"
  | .gt => "Gt"
  | .gtEq => "GtEq"
  | .and => "And"
  | .or => "Or"
  | .bitAnd => "BitAnd"
  | .bitOr => "BitOr"
  | .plus => "Plus"
  | .minus => "Minus"
  | .multiply => "Multiply"
  | .divide => "Divide"
  | .modulo => "Modulo"
  | .bitXor => "BitXor"
  | .coalesce => "Coalesce"

/-- The operator between its operands, as readers see it. -/
def symbol : BinaryOp → String
  | .eq => "=="
  | .notEq => "!="
  | .lt => "<"
  | .ltEq => "<="
  | .gt => ">"
  | .gtEq => ">="
  | .and => "&&"
  | .or => "||"
  | .bitAnd => "&"
  | .bitOr => "|"
  | .plus => "+"
  | .minus => "-"
  | .multiply => "*"
  | .divide => "/"
  | .modulo => "%"
  | .bitXor => "^"
  | .coalesce => "??"

/-- A disjunction: it binds weaker than the conjunction of predicates. -/
def isDisjunction : BinaryOp → Bool
  | .or | .bitOr => true
  | _ => false

end BinaryOp

/-- How the rows of two sources are paired. -/
inductive JoinKind
  | inner
  | left
  | right
deriving Repr, DecidableEq, Inhabited

/-- Word in front of `JOIN`; an inner join has none. -/
def JoinKind.keyword : JoinKind → String
  | .inner => ""
  | .left => "LEFT"
  | .right => "RIGHT"

/-- Set operations on the rows of two queries. -/
inductive SetOp
  | union
  | intersect
  | except
deriving Repr, DecidableEq, Inhabited

/-- SQL word of the set operation. -/
def SetOp.keyword : SetOp → String
  | .union => "UNION"
  | .intersect => "INTERSECT"
  | .except => "EXCEPT"

/-- Whether a select node still takes clauses that change its rows' shape. -/
inductive Stage
  | opened
  /-- A projection is installed; further clauses go to a node around this one. -/
  | closed
deriving Repr, DecidableEq, Inhabited

/-! ### Trees -/

mutual

/-- An expression. Every node carries its static type. -/
inductive Expr
  /-- A member of a value, or of a type when there is no target. -/
  | member (target : Option Expr) (name : Member) (ty : Ty)
  | constant (value : Value) (ty : Ty)
  /-- An environment of captured values. -/
  | closure (captures : List Capture) (ty : Ty)
  | parameter (param : Param)
  | unary (op : UnaryOp) (operand : Expr) (ty : Ty)
  | binary (op : BinaryOp) (left right : Expr) (ty : Ty)
  | conditional (test ifTrue ifFalse : Expr) (ty : Ty)
  /-- A method of a value, or of a type when there is no target. -/
  | call (target : Option Expr) (method : Method) (args : List Expr) (ty : Ty)
  | construct (ctor : Constructor) (args : List Expr) (ty : Ty)
  | lambda (function : Lambda)

/-- Parameters and a body that may use them. -/
structure Lambda where
  params : List Param
  body : Expr

/-- A named value or query taken from the surroundings of an expression. -/
inductive Capture
  | value (name : String) (value : Value)
  | query (name : String) (query : Query)

/-- A query: a table, a select node over another query, or a set operation. -/
inductive Query
  | table (model : Model)
  | select (node : Select)
  | combine (op : SetOp) (first second : Query)

/-- A source and the clauses collected on it. -/
structure Select where
  source : Query
  /-- Type of the source's rows, the type that lambda parameters range over. -/
  modelType : Ty
  /-- Predicates on rows, all of which must hold, in call order. -/
  filters : List Lambda
  /-- Predicates on groups, all of which must hold, in call order. -/
  having : List Lambda
  projection : Option Lambda
  groupKey : Option Lambda
  groupElement : Option Lambda
  joins : List Join
  orderBy : List Order
  /-- Rows left out at the front; 0 for none. -/
  skip : Nat
  /-- Rows kept after those; 0 for all. -/
  take : Nat
  distinct : Bool
  stage : Stage

/-- Another source whose rows are paired with the rows so far. -/
structure Join where
  kind : JoinKind
  source : Query
  outerKey : Lambda
  /-- Selects a single member of the joined rows. -/
  innerKey : Lambda
  /-- Takes a row so far and a joined row to the row that goes on. -/
  result : Lambda

/-- One sort key. -/
structure Order where
  key : Lambda
  ascending : Bool

end

instance : Inhabited Expr := ⟨.constant .null .object⟩
instance : Inhabited Lambda := ⟨⟨[], default⟩⟩
instance : Inhabited Capture := ⟨.value "" .null⟩
instance : Inhabited Query := ⟨.table default⟩

/-- Static type of an expression; a lambda has the type of its body. -/
def Expr.ty : Expr → Ty
  | .member _ _ ty => ty
  | .constant _ ty => ty
  | .closure _ ty => ty
  | .parameter param => param.ty
  | .unary _ _ ty => ty
  | .binary _ _ _ ty => ty
  | .conditional _ _ _ ty => ty
  | .call _ _ _ ty => ty
  | .construct _ _ ty => ty
  | .lambda ⟨_, body⟩ => body.ty
termination_by structural expr => expr

/-- The constant null. -/
def Expr.isNullConstant : Expr → Bool
  | .constant .null _ => true
  | _ => false

/-- Type of what a lambda returns. -/
def Lambda.resultType (function : Lambda) : Ty := function.body.ty

/-- Name under which something is captured. -/
def Capture.name : Capture → String
  | .value name _ => name
  | .query name _ => name

end TypedQuery
