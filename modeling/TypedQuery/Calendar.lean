/-
Module: TypedQuery.Calendar
Purpose: Points in time on the calendar and their text.
Main exports: DateTime, DateTime.write
-/

namespace TypedQuery

/-- A calendar date with a time of day. A leap second is second 59 with a billion
or more nanoseconds. -/
structure DateTime where
  year : Int
  month : Nat
  day : Nat
  hour : Nat
  minute : Nat
  second : Nat
  nanosecond : Nat
deriving Repr, DecidableEq, Inhabited

namespace DateTime

/-- Decimal digits of `number`, zero-padded on the left to `width`. -/
def padded (width number : Nat) : String :=
  let digits := Nat.toDigits 10 number
  String.ofList (List.replicate (width - digits.length) '0' ++ digits)

/-- Four digits, with a sign in front of years outside 0 to 9999. -/
def yearText (year : Int) : String :=
  if year < 0 then "-" ++ padded 4 year.natAbs
  else if year ≤ 9999 then padded 4 year.natAbs
  else "+" ++ padded 4 year.natAbs

/-- Nothing for a whole second, else the fewest of three, six and nine places
that are exact. -/
def fractionText (nanosecond : Nat) : String :=
  if nanosecond = 0 then ""
  else if nanosecond % 1000000 = 0 then "." ++ padded 3 (nanosecond / 1000000)
  else if nanosecond % 1000 = 0 then "." ++ padded 6 (nanosecond / 1000)
  else "." ++ padded 9 nanosecond

/-- Nanoseconds in a second. -/
def billion : Nat := 1000000000

/-- Date and time of day with `separator` between them. -/
def write (separator : String) (moment : DateTime) : String :=
  let second := moment.second + moment.nanosecond / billion
  let date := yearText moment.year ++ "-" ++ padded 2 moment.month ++ "-" ++ padded 2 moment.day
  let time := padded 2 moment.hour ++ ":" ++ padded 2 moment.minute ++ ":" ++ padded 2 second
  date ++ separator ++ time ++ fractionText (moment.nanosecond % billion)

end DateTime

end TypedQuery
