/-
Module: TypedQuery.Sql.Catalog
Purpose: The SQL forms of operators, conversions, methods and properties.
Main exports: Operator, Modifier, SqlType, BinaryOp.sqlOperator?,
  UnaryOp.sqlModifier?, Ty.sqlType?, Method.template?, propertyTemplate?,
  durationUnit?
-/
import TypedQuery.Expr.Basic
import TypedQuery.Sql.Template

namespace TypedQuery

namespace Sql

/-! ### Operators and types of SQL -/

/-- An SQL operator between two operands. -/
inductive Operator
  | is
  | isNot
  | eq
  | notEq
  | lt
  | ltEq
  | gt
  | gtEq
  | and
  | or
  | add
  | subtract
  | multiply
  | divide
deriving Repr, DecidableEq, Inhabited

/-- Text of the operator. -/
def Operator.text : Operator → String
  | .is => "IS"
  | .isNot => "IS NOT"
  | .eq => "="
  | .notEq => "<>"
  | .lt => "<"
  | .ltEq => "<="
  | .gt => ">"
  | .gtEq => ">="
  | .and => "AND"
  | .or => "OR"
  | .add => "+"
  | .subtract => "-"
  | .multiply => "*"
  | .divide => "/"

/-- What stands in front of a single operand. -/
inductive Modifier
  | not
  | negate
  /-- Nothing: the operand is passed on. -/
  | plain
deriving Repr, DecidableEq, Inhabited

/-- Text of the modifier. -/
def Modifier.text : Modifier → String
  | .not => "NOT"
  | .negate => "-"
  | .plain => ""

/-- SQL types that conversions lead to. -/
inductive SqlType
  | int
  | bigInt
  | real
  | float
  | varChar
  | dateTime
  | decimal
deriving Repr, DecidableEq, Inhabited

/-- Text of the type. -/
def SqlType.text : SqlType → String
  | .int => "INT"
  | .bigInt => "BIGINT"
  | .real => "REAL"
  | .float => "FLOAT"
  | .varChar => "VARCHAR(MAX)"
  | .dateTime => "DATETIME"
  | .decimal => "DECIMAL(10, 8)"

end Sql

/-! ### From expressions to SQL -/

/-- SQL form of an operator; equality with null has one of its own. -/
def BinaryOp.sqlOperator? (op : BinaryOp) (anyNull : Bool) : Option Sql.Operator :=
  match op with
  | .eq => some (if anyNull then .is else .eq)
  | .notEq => some (if anyNull then .isNot else .notEq)
  | .lt => some .lt
  | .ltEq => some .ltEq
  | .gt => some .gt
  | .gtEq => some .gtEq
  | .and | .bitAnd => some .and
  | .or | .bitOr => some .or
  | .plus => some .add
  | .minus => some .subtract
  | .multiply => some .multiply
  | .divide => some .divide
  | .modulo | .bitXor | .coalesce => none

/-- SQL form of an operator with one operand. -/
def UnaryOp.sqlModifier? : UnaryOp → Option Sql.Modifier
  | .not => some .not
  | .negate => some .negate
  | .quote => some .plain
  | .convert | .plus => none

/-- SQL type of conversions to a type. -/
def Ty.sqlType? : Ty → Option Sql.SqlType
  | .int => some .int
  | .long => some .bigInt
  | .float => some .real
  | .double => some .float
  | .string => some .varChar
  | .dateTime => some .dateTime
  | .decimal => some .decimal
  | _ => none

namespace Sql

/-- Signatures with their templates. Slot 0 is the target, empty for a method of a
type, and the slots from 1 on are the arguments. -/
def methods : List (Method × String) := [
  (⟨.string, "StartsWith", [.string]⟩, "({0}) LIKE (({1}) + '%')"),
  (⟨.string, "Contains", [.string]⟩, "({0}) LIKE ('%' + ({1}) + '%')"),
  (⟨.string, "Substring", [.int, .int]⟩, "SUBSTRING({0}, {1} + 1, {2})"),
  (⟨.string, "Replace", [.string, .string]⟩, "REPLACE({0}, {1}, {2})"),
  (⟨.string, "TrimStart", [.chars]⟩, "LTRIM({0})"),
  (⟨.string, "TrimEnd", [.chars]⟩, "RTRIM({0})"),
  (⟨.string, "Trim", []⟩, "LTRIM(RTRIM({0}))"),
  (⟨.string, "ToUpper", []⟩, "UPPER({0})"),
  (⟨.string, "ToLower", []⟩, "LOWER({0})"),
  (⟨.string, "IndexOf", [.string]⟩, "CHARINDEX({1}, {0}) - 1"),
  (⟨.int, "ToString", []⟩, "CONVERT(VARCHAR(MAX), {0})"),
  (⟨.long, "ToString", []⟩, "CONVERT(VARCHAR(MAX), {0})"),
  (⟨.double, "ToString", []⟩, "CONVERT(VARCHAR(MAX), {0})"),
  (⟨.decimal, "ToString", []⟩, "CONVERT(VARCHAR(MAX), {0})"),
  (⟨.int, "Parse", [.string]⟩, "CONVERT(INT, {1})"),
  (⟨.long, "Parse", [.string]⟩, "CONVERT(BIGINT, {1})"),
  (⟨.double, "Parse", [.string]⟩, "CONVERT(FLOAT, {1})"),
  (⟨.decimal, "Parse", [.string]⟩, "CONVERT(DECIMAL, {1})"),
  (⟨.dateTime, "Parse", [.string]⟩, "CONVERT(DATETIME, {1})"),
  (⟨.dateTime, "Subtract", [.dateTime]⟩, "DATEDIFF({0}, {2}, {1})"),
  (⟨.dateTime, "AddDays", [.int]⟩, "DATEADD(day, {1}, {0})"),
  (⟨.dateTime, "AddMonths", [.int]⟩, "DATEADD(month, {1}, {0})"),
  (⟨.dateTime, "AddYears", [.int]⟩, "DATEADD(year, {1}, {0})"),
  (⟨.dateTime, "AddHours", [.int]⟩, "DATEADD(hour, {1}, {0})"),
  (⟨.dateTime, "AddMinutes", [.int]⟩, "DATEADD(minute, {1}, {0})"),
  (⟨.dateTime, "AddSeconds", [.int]⟩, "DATEADD(second, {1}, {0})"),
  (⟨.dateTime, "AddMilliseconds", [.int]⟩, "DATEADD(millisecond, {1}, {0})"),
  (⟨.math, "Abs", [.int]⟩, "ABS({1})"),
  (⟨.math, "Abs", [.long]⟩, "ABS({1})"),
  (⟨.math, "Abs", [.float]⟩, "ABS({1})"),
  (⟨.math, "Abs", [.double]⟩, "ABS({1})"),
  (⟨.math, "Abs", [.decimal]⟩, "ABS({1})"),
  (⟨.math, "Acos", [.double]⟩, "ACOS({1})"),
  (⟨.math, "Asin", [.double]⟩, "ASIN({1})"),
  (⟨.math, "Atan", [.double]⟩, "ATAN({1})"),
  (⟨.math, "Atan2", [.double, .double]⟩, "ATN2({1}, {2})"),
  (⟨.math, "Ceiling", [.decimal]⟩, "CEILING({1})"),
  (⟨.math, "Ceiling", [.double]⟩, "CEILING({1})"),
  (⟨.math, "Cos", [.double]⟩, "COS({1})"),
  (⟨.math, "Exp", [.double]⟩, "EXP({1})"),
  (⟨.math, "Floor", [.decimal]⟩, "FLOOR({1})"),
  (⟨.math, "Floor", [.double]⟩, "FLOOR({1})"),
  (⟨.math, "Log", [.double]⟩, "LOG({1})"),
  (⟨.math, "Log10", [.double]⟩, "LOG10({1})"),
  (⟨.math, "Pow", [.double, .double]⟩, "POWER({1}, {2})"),
  (⟨.math, "Round", [.decimal, .int]⟩, "ROUND({1}, {2})"),
  (⟨.math, "Sign", [.int]⟩, "SIGN({1})"),
  (⟨.math, "Sign", [.long]⟩, "SIGN({1})"),
  (⟨.math, "Sign", [.float]⟩, "SIGN({1})"),
  (⟨.math, "Sign", [.double]⟩, "SIGN({1})"),
  (⟨.math, "Sign", [.decimal]⟩, "SIGN({1})"),
  (⟨.math, "Sqrt", [.double]⟩, "SQRT({1})"),
  (⟨.math, "Tan", [.double]⟩, "TAN({1})"),
  (⟨.random, "NextDouble", []⟩, "RAND()"),
  (⟨.random, "Next", [.int]⟩, "FLOOR(RAND()*{1})"),
  (⟨.group, "Count", []⟩, "COUNT(*)"),
  (⟨.group, "Count", [.lambda]⟩, "COUNT({1})"),
  (⟨.group, "Sum", [.lambda]⟩, "SUM({1})"),
  (⟨.group, "Average", [.lambda]⟩, "AVG({1})"),
  (⟨.group, "Min", [.lambda]⟩, "MIN({1})"),
  (⟨.group, "Max", [.lambda]⟩, "MAX({1})"),
  (⟨.query, "Contains", [.object]⟩, "{1} IN ({0})")]

/-- Does an entry of the catalogue apply to a method? Owner and name agree, and so
do the argument kinds; for generic methods their number is enough. -/
def answers (entry method : Method) : Bool :=
  entry.owner == method.owner && entry.name == method.name &&
    (entry.params == method.params ||
      (method.owner.isGeneric && entry.params.length == method.params.length))

/-- Properties with their templates. Slot 0 is the target, empty for a property of
a type. -/
def properties : List (Kind × String × String) := [
  (.string, "Length", "LEN({0})"),
  (.dateTime, "Year", "YEAR({0})"),
  (.dateTime, "Month", "MONTH({0})"),
  (.dateTime, "Day", "DAY({0})"),
  (.dateTime, "DayOfWeek", "DATEPART(weekday, {0}) - 1"),
  (.dateTime, "DayOfYear", "DATEPART(dayofyear, {0})"),
  (.dateTime, "Hour", "DATEPART(hour, {0})"),
  (.dateTime, "Minute", "DATEPART(minute, {0})"),
  (.dateTime, "Second", "DATEPART(second, {0})"),
  (.dateTime, "Millisecond", "DATEPART(millisecond, {0})"),
  (.dateTime, "Now", "GETDATE()"),
  (.dateTime, "UtcNow", "GETUTCDATE()"),
  (.dateTime, "Today", "GETDATE()")]

/-- Duration accessors with the unit in which they measure. -/
def durations : List (String × String) := [
  ("Days", "day"),
  ("TotalDays", "day"),
  ("TotalHours", "hour"),
  ("TotalMinutes", "minute"),
  ("TotalSeconds", "second"),
  ("TotalMilliseconds", "millisecond")]

/-- Template of a property of the kind. -/
def propertyTemplate? (owner : Kind) (name : String) : Option Template :=
  (properties.find? fun (kind, property, _) => kind == owner && property == name).map
    fun (_, _, template) => Template.parse template

/-- Unit of a duration accessor. -/
def durationUnit? (name : String) : Option String :=
  (durations.find? fun (accessor, _) => accessor == name).map Prod.snd

end Sql

/-- Template of a method. -/
def Method.template? (method : Method) : Option Sql.Template :=
  (Sql.methods.find? fun (entry, _) => Sql.answers entry method).map
    fun (_, template) => Sql.Template.parse template

end TypedQuery
