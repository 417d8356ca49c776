/-
Module: TypedQuery.Expr.Combinators
Purpose: The vocabulary in which expressions are written: columns, comparisons,
  connectives, arithmetic, and the string, date, random, group and mathematical
  functions.
Main exports: Expr.field, Expr.equals, Expr.record, Expr.iif, Math.abs
-/
import TypedQuery.Expr.Basic

namespace TypedQuery

/-- The lambda as a marked argument. -/
def Lambda.quote (function : Lambda) : Expr := .unary .quote (.lambda function) .object

namespace Expr

/-! ### Literals and rows -/

/-- A literal with the type of its value. -/
def literal (value : Value) : Expr := .constant value value.ty

/-- The literal null. -/
def null : Expr := .constant .null .object

/-- An anonymous row from named expressions; its type lists them. -/
def record (fields : List (String × Expr)) : Expr :=
  let row := Model.record (fields.map fun (name, value) => ⟨name, value.ty⟩)
  .construct (.record (fields.map Prod.fst)) (fields.map Prod.snd) (.model row)

/-- A row of the given model from named expressions. -/
def init (model : Model) (fields : List (String × Expr)) : Expr :=
  .construct (.record (fields.map Prod.fst)) (fields.map Prod.snd) (.model model)

/-- A named member of a row or group; an unknown name has type `object`. -/
def field (target : Expr) (name : String) : Expr :=
  .member (some target) ⟨target.ty, name⟩ (target.ty.fieldType name)

/-! ### Operators -/

def equals (left right : Expr) : Expr := .binary .eq left right .bool
def notEquals (left right : Expr) : Expr := .binary .notEq left right .bool
def lessThan (left right : Expr) : Expr := .binary .lt left right .bool
def lessOrEqual (left right : Expr) : Expr := .binary .ltEq left right .bool
def greaterThan (left right : Expr) : Expr := .binary .gt left right .bool
def greaterOrEqual (left right : Expr) : Expr := .binary .gtEq left right .bool
def both (left right : Expr) : Expr := .binary .and left right .bool
def either (left right : Expr) : Expr := .binary .or left right .bool

/-- An operator whose result has the type of the left operand. -/
def arithmetic (op : BinaryOp) (left right : Expr) : Expr := .binary op left right left.ty

/-- The left operand unless it is null; it has no SQL form. -/
def coalesce (left right : Expr) : Expr := arithmetic .coalesce left right
def add (left right : Expr) : Expr := arithmetic .plus left right
def subtractNumber (left right : Expr) : Expr := arithmetic .minus left right
def multiply (left right : Expr) : Expr := arithmetic .multiply left right
def divide (left right : Expr) : Expr := arithmetic .divide left right
def remainder (left right : Expr) : Expr := arithmetic .modulo left right
def bitAnd (left right : Expr) : Expr := arithmetic .bitAnd left right
def bitOr (left right : Expr) : Expr := arithmetic .bitOr left right
def bitXor (left right : Expr) : Expr := arithmetic .bitXor left right

def negation (operand : Expr) : Expr := .unary .not operand operand.ty
def negative (operand : Expr) : Expr := .unary .negate operand operand.ty

/-- Explicit conversion. -/
def cast (operand : Expr) (ty : Ty) : Expr := .unary .convert operand ty

/-- The second operand where the first holds, else the third; of the type of the
second. -/
def iif (test ifTrue ifFalse : Expr) : Expr := .conditional test ifTrue ifFalse ifTrue.ty

/-! ### Strings -/

/-- A method of a string. -/
def stringCall (target : Expr) (name : String) (params : List Kind) (args : List Expr)
    (ty : Ty) : Expr :=
  .call (some target) ⟨.string, name, params⟩ args ty

def startsWith (target beginning : Expr) : Expr :=
  target.stringCall "StartsWith" [.string] [beginning] .bool

/-- Membership in a captured query, else a substring test. -/
def contains (target item : Expr) : Expr :=
  match target.ty with
  | .query _ => .call (some target) ⟨.query, "Contains", [.object]⟩ [item] .bool
  | _ => target.stringCall "Contains" [.string] [item] .bool

/-- The `length` characters from the zero-based position `start`. -/
def substring (target start length : Expr) : Expr :=
  target.stringCall "Substring" [.int, .int] [start, length] .string

def replace (target old new : Expr) : Expr :=
  target.stringCall "Replace" [.string, .string] [old, new] .string

def trim (target : Expr) : Expr := target.stringCall "Trim" [] [] .string
def trimStart (target : Expr) : Expr := target.stringCall "TrimStart" [.chars] [] .string
def trimEnd (target : Expr) : Expr := target.stringCall "TrimEnd" [.chars] [] .string
def toUpper (target : Expr) : Expr := target.stringCall "ToUpper" [] [] .string
def toLower (target : Expr) : Expr := target.stringCall "ToLower" [] [] .string

/-- Zero-based position of the first occurrence, -1 without one. -/
def indexOf (target needle : Expr) : Expr :=
  target.stringCall "IndexOf" [.string] [needle] .int

def length (target : Expr) : Expr := .member (some target) ⟨.string, "Length"⟩ .int

/-- The declaring type of the text form of a value: only four number types have
one of their own. -/
def textOwner : Ty → Owner
  | .int => .int
  | .long => .long
  | .double => .double
  | .decimal => .decimal
  | _ => .string

/-- Text form of a number. -/
def toText (target : Expr) : Expr :=
  .call (some target) ⟨textOwner target.ty, "ToString", []⟩ [] .string

/-! ### Dates and lengths of time -/

/-- A static member of the calendar. -/
def clock (name : String) : Expr := .member none ⟨.dateTime, name⟩ .dateTime

def now : Expr := clock "Now"
def utcNow : Expr := clock "UtcNow"
def today : Expr := clock "Today"

/-- A point in time from year, month, day and, if given, the parts of the day. -/
def newDateTime (parts : List Expr) : Expr := .construct .dateTime parts .dateTime

/-- A whole-number part of a point in time. -/
def datePart (target : Expr) (name : String) : Expr :=
  .member (some target) ⟨.dateTime, name⟩ .int

def year (target : Expr) : Expr := target.datePart "Year"
def month (target : Expr) : Expr := target.datePart "Month"
def day (target : Expr) : Expr := target.datePart "Day"

/-- Day of the week; Sunday is 0. -/
def dayOfWeek (target : Expr) : Expr := target.datePart "DayOfWeek"
def dayOfYear (target : Expr) : Expr := target.datePart "DayOfYear"
def hour (target : Expr) : Expr := target.datePart "Hour"
def minute (target : Expr) : Expr := target.datePart "Minute"
def second (target : Expr) : Expr := target.datePart "Second"
def millisecond (target : Expr) : Expr := target.datePart "Millisecond"

/-- Time from the argument to the target; it is read through a duration
accessor. -/
def subtract (target earlier : Expr) : Expr :=
  .call (some target) ⟨.dateTime, "Subtract", [.dateTime]⟩ [earlier] .timeSpan

/-- A point in time moved by a whole number of units. -/
def dateAdd (target : Expr) (name : String) (amount : Expr) : Expr :=
  .call (some target) ⟨.dateTime, name, [.int]⟩ [amount] .dateTime

def addDays (target amount : Expr) : Expr := target.dateAdd "AddDays" amount
def addMonths (target amount : Expr) : Expr := target.dateAdd "AddMonths" amount
def addYears (target amount : Expr) : Expr := target.dateAdd "AddYears" amount
def addHours (target amount : Expr) : Expr := target.dateAdd "AddHours" amount
def addMinutes (target amount : Expr) : Expr := target.dateAdd "AddMinutes" amount
def addSeconds (target amount : Expr) : Expr := target.dateAdd "AddSeconds" amount
def addMilliseconds (target amount : Expr) : Expr := target.dateAdd "AddMilliseconds" amount

/-- A length of time read in some unit. -/
def duration (target : Expr) (name : String) (ty : Ty) : Expr :=
  .member (some target) ⟨.timeSpan, name⟩ ty

def days (target : Expr) : Expr := target.duration "Days" .int
def totalDays (target : Expr) : Expr := target.duration "TotalDays" .double
def totalHours (target : Expr) : Expr := target.duration "TotalHours" .double
def totalMinutes (target : Expr) : Expr := target.duration "TotalMinutes" .double
def totalSeconds (target : Expr) : Expr := target.duration "TotalSeconds" .double
def totalMilliseconds (target : Expr) : Expr := target.duration "TotalMilliseconds" .double

/-! ### Random numbers -/

def newRandom : Expr := .construct .random [] .random

def nextDouble (target : Expr) : Expr :=
  .call (some target) ⟨.random, "NextDouble", []⟩ [] .double

/-- A whole number from 0 up to, and not including, the bound. -/
def next (target bound : Expr) : Expr :=
  .call (some target) ⟨.random, "Next", [.int]⟩ [bound] .int

/-! ### Groups -/

/-- What the rows of a group share. -/
def key (target : Expr) : Expr := target.field "Key"

/-- Number of rows of a group. -/
def count (target : Expr) : Expr := .call (some target) ⟨.group, "Count", []⟩ [] .int

/-- An aggregate over what `selector` takes from each row of a group. -/
def aggregate (target : Expr) (name : String) (selector : Lambda) (ty : Ty) : Expr :=
  .call (some target) ⟨.group, name, [.lambda]⟩ [selector.quote] ty

def countOf (target : Expr) (selector : Lambda) : Expr := target.aggregate "Count" selector .int
def sum (target : Expr) (selector : Lambda) : Expr :=
  target.aggregate "Sum" selector selector.resultType
def average (target : Expr) (selector : Lambda) : Expr :=
  target.aggregate "Average" selector selector.resultType
def minimum (target : Expr) (selector : Lambda) : Expr :=
  target.aggregate "Min" selector selector.resultType
def maximum (target : Expr) (selector : Lambda) : Expr :=
  target.aggregate "Max" selector selector.resultType

/-! ### Reading texts -/

/-- The value that a text stands for. -/
def parse (owner : Owner) (ty : Ty) (source : Expr) : Expr :=
  .call none ⟨owner, "Parse", [.string]⟩ [source] ty

def parseInt (source : Expr) : Expr := parse .int .int source
def parseLong (source : Expr) : Expr := parse .long .long source
def parseDouble (source : Expr) : Expr := parse .double .double source
def parseDecimal (source : Expr) : Expr := parse .decimal .decimal source
def parseDateTime (source : Expr) : Expr := parse .dateTime .dateTime source

end Expr

/-! ### Mathematical functions

A function that is not defined on the type of its argument takes the argument
converted to a double. -/

namespace Math

/-- Every number type. -/
def anyNumber : List Kind := [.int, .long, .float, .double, .decimal]

/-- Number types with a fractional part to round. -/
def roundable : List Kind := [.double, .decimal]

/-- The argument and its kind, converted to a double when the kind is not
accepted. -/
def numeric (argument : Expr) (accepted : List Kind) : Expr × Kind :=
  if argument.ty.kind ∈ accepted then (argument, argument.ty.kind)
  else (argument.cast .double, .double)

/-- Type of numbers of the kind. -/
def numberType : Kind → Ty
  | .int => .int
  | .long => .long
  | .float => .float
  | .decimal => .decimal
  | _ => .double

/-- A function with one signature for each accepted kind and a result of the same
kind. -/
def overloaded (name : String) (argument : Expr) (accepted : List Kind) : Expr :=
  let (argument, kind) := numeric argument accepted
  .call none ⟨.math, name, [kind]⟩ [argument] (numberType kind)

/-- A function on doubles. -/
def onDoubles (name : String) (args : List Expr) : Expr :=
  let converted := args.map fun argument => (numeric argument [.double]).1
  .call none ⟨.math, name, List.replicate args.length .double⟩ converted .double

def abs (x : Expr) : Expr := overloaded "Abs" x anyNumber

/-- The sign as a whole number. -/
def sign (x : Expr) : Expr :=
  let (argument, kind) := numeric x anyNumber
  .call none ⟨.math, "Sign", [kind]⟩ [argument] .int

def ceiling (x : Expr) : Expr := overloaded "Ceiling" x roundable
def floor (x : Expr) : Expr := overloaded "Floor" x roundable

/-- A decimal rounded to a number of places. -/
def round (x digits : Expr) : Expr :=
  let argument := if x.ty = .decimal then x else x.cast .decimal
  .call none ⟨.math, "Round", [.decimal, .int]⟩ [argument, digits] .decimal

def acos (x : Expr) : Expr := onDoubles "Acos" [x]
def asin (x : Expr) : Expr := onDoubles "Asin" [x]
def atan (x : Expr) : Expr := onDoubles "Atan" [x]
def atan2 (y x : Expr) : Expr := onDoubles "Atan2" [y, x]
def cos (x : Expr) : Expr := onDoubles "Cos" [x]
def tan (x : Expr) : Expr := onDoubles "Tan" [x]
def exp (x : Expr) : Expr := onDoubles "Exp" [x]
def log (x : Expr) : Expr := onDoubles "Log" [x]
def log10 (x : Expr) : Expr := onDoubles "Log10" [x]
def pow (x y : Expr) : Expr := onDoubles "Pow" [x, y]
def sqrt (x : Expr) : Expr := onDoubles "Sqrt" [x]

end Math

end TypedQuery
