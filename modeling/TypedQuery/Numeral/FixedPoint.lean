/-
Module: TypedQuery.Numeral.FixedPoint
Purpose: Decimal numbers that keep the number of places they were given with.
Main exports: FixedPoint, FixedPoint.text, FixedPoint.same
-/

namespace TypedQuery

/-- The number `mantissa / 10 ^ places`, written with exactly `places` decimal
places. -/
structure FixedPoint where
  mantissa : Int
  places : Nat
deriving Repr, DecidableEq, Inhabited

namespace FixedPoint

/-- All digits of the mantissa, the last `places` of them behind a point. -/
def text (number : FixedPoint) : String :=
  let sign := if number.mantissa < 0 then "-" else ""
  let digits := Nat.toDigits 10 number.mantissa.natAbs
  if number.places = 0 then sign ++ String.ofList digits
  else
    -- At least one digit stands before the point.
    let padding := List.replicate (number.places + 1 - digits.length) '0'
    let padded := padding ++ digits
    let whole := padded.length - number.places
    sign ++ String.ofList (padded.take whole) ++ "." ++ String.ofList (padded.drop whole)

/-- Equality as numbers, whatever the places. -/
def same (first second : FixedPoint) : Bool :=
  first.mantissa * Nat.pow 10 second.places == second.mantissa * Nat.pow 10 first.places

end FixedPoint

end TypedQuery
