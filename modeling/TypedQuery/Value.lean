/-
Module: TypedQuery.Value
Purpose: Literal values, their types and their texts.
Main exports: Value, Value.ty, Value.text, Value.json, Value.same
-/
import TypedQuery.Calendar
import TypedQuery.Numeral.FixedPoint
import TypedQuery.Numeral.Layout
import TypedQuery.Text.Json
import TypedQuery.Ty

namespace TypedQuery

/-- A literal that a command binds to a placeholder. Floating-point values are
held as their bit patterns. -/
inductive Value
  | null
  | bool (value : Bool)
  | int (value : Int32)
  | long (value : Int64)
  | float (bits : UInt32)
  | double (bits : UInt64)
  | decimal (value : FixedPoint)
  | string (value : String)
  | dateTime (value : DateTime)
deriving Repr, DecidableEq, Inhabited

namespace Value

/-- The null value. -/
def isNull : Value → Bool
  | .null => true
  | _ => false

/-- Static type of the value. -/
def ty : Value → Ty
  | .null => .object
  | .bool _ => .bool
  | .int _ => .int
  | .long _ => .long
  | .float _ => .float
  | .double _ => .double
  | .decimal _ => .decimal
  | .string _ => .string
  | .dateTime _ => .dateTime

/-- The value as readers see it; a string stands between quotes as it is. -/
def text : Value → String
  | .null => "null"
  | .bool value => if value then "true" else "false"
  | .int value => toString value.toInt
  | .long value => toString value.toInt
  | .float bits => Layout.plain.write Binary.single (Binary.single.decode bits.toNat)
  | .double bits => Layout.plain.write Binary.double (Binary.double.decode bits.toNat)
  | .decimal value => value.text
  | .string value => "\"" ++ value ++ "\""
  | .dateTime value => value.write " "

/-- The value in JSON. Decimals and points in time are JSON strings. -/
def json : Value → String
  | .null => "null"
  | .bool value => if value then "true" else "false"
  | .int value => toString value.toInt
  | .long value => toString value.toInt
  | .float bits => Layout.jsonSingle.write Binary.single (Binary.single.decode bits.toNat)
  | .double bits => Layout.jsonDouble.write Binary.double (Binary.double.decode bits.toNat)
  | .decimal value => Json.quote value.text
  | .string value => Json.quote value
  | .dateTime value => Json.quote (value.write "T")

/-- Equality of values: numbers of one type compare as numbers, so that nan
differs from itself, the zeros agree and decimals may differ in places. -/
def same : Value → Value → Bool
  | .null, .null => true
  | .bool first, .bool second => first == second
  | .int first, .int second => first == second
  | .long first, .long second => first == second
  | .float first, .float second =>
    (Binary.single.decode first.toNat).same (Binary.single.decode second.toNat)
  | .double first, .double second =>
    (Binary.double.decode first.toNat).same (Binary.double.decode second.toNat)
  | .decimal first, .decimal second => first.same second
  | .string first, .string second => first == second
  | .dateTime first, .dateTime second => first == second
  | _, _ => false

end Value

end TypedQuery
