/-
Module: TypedQuery.Numeral.Shortest
Purpose: The shortest decimal that reads back as a given binary number.
Main exports: Shortest.Tie, Shortest.Decimal, Shortest.ofBinary
-/
import TypedQuery.Numeral.Binary

namespace TypedQuery.Shortest

open Binary (Format)

/-- Which of two equally near decimals is taken. -/
inductive Tie
  /-- The one of larger magnitude. -/
  | away
  /-- The one whose last digit is even. -/
  | toEven
deriving Repr, DecidableEq

/-- A positive decimal `coefficient * 10 ^ exponent`. -/
structure Decimal where
  coefficient : Nat
  exponent : Int
deriving Repr, DecidableEq, Inhabited

/-- `2 ^ twos * 10 ^ (-tens)` as a fraction: numerator and denominator. -/
def scale (twos tens : Int) : Nat × Nat :=
  (Nat.pow 2 twos.toNat * Nat.pow 10 (-tens).toNat,
    Nat.pow 2 (-twos).toNat * Nat.pow 10 tens.toNat)

/-- The reals that round to `significand * 2 ^ exponent`, in quarters of the
last bit: both ends and the number itself. The lower end is nearer below a power
of two, where the numbers lie twice as dense. -/
structure Interval where
  lower : Nat
  value : Nat
  upper : Nat
  /-- The ends themselves round to the number: its significand is even. -/
  closed : Bool
  /-- Exponent of one quarter. -/
  exponent : Int
deriving Repr

/-- The rounding interval of a positive number of the format. -/
def Interval.of (format : Format) (significand : Nat) (exponent : Int) : Interval :=
  { lower := 4 * significand - (if significand = format.leadingBit then 1 else 2)
    value := 4 * significand
    upper := 4 * significand + 2
    closed := significand % 2 == 0
    exponent := exponent - 2 }

namespace Interval

/-- Whether `candidate * 10 ^ tens` rounds to the number. -/
def contains (interval : Interval) (tens : Int) (candidate : Nat) : Bool :=
  let (numerator, denominator) := scale interval.exponent tens
  let point := candidate * denominator
  if interval.closed then
    interval.lower * numerator ≤ point && point ≤ interval.upper * numerator
  else
    interval.lower * numerator < point && point < interval.upper * numerator

/-- The number divided by `10 ^ tens`, rounded down. -/
def floor (interval : Interval) (tens : Int) : Nat :=
  let (numerator, denominator) := scale interval.exponent tens
  interval.value * numerator / denominator

/-- Of the two neighbours of the number among the multiples of `10 ^ tens`, the
one that rounds to the number, the nearer one when both do. -/
def nearest? (tie : Tie) (interval : Interval) (tens : Int) : Option Nat :=
  let below := interval.floor tens
  let above := below + 1
  match interval.contains tens below, interval.contains tens above with
  | false, false => none
  | true, false => some below
  | false, true => some above
  | true, true =>
    let (numerator, denominator) := scale interval.exponent tens
    let remainder := interval.value * numerator - below * denominator
    if 2 * remainder < denominator then some below
    else if denominator < 2 * remainder then some above
    else match tie with
      | .away => some above
      | .toEven => if below % 2 = 0 then some below else some above

/-- Far below every positive number of the formats in use. -/
def smallestPower : Int := -400

/-- Exponent of the leading decimal digit of the number. -/
def leadingExponent (interval : Interval) : Int :=
  smallestPower + ((Nat.toDigits 10 (interval.floor smallestPower)).length - 1 : Nat)

/-- Try the grids `10 ^ tens`, `10 ^ (tens - 1)`, … until one has a hit. -/
def search (tie : Tie) (interval : Interval) : Nat → Int → Decimal
  | 0, tens => ⟨interval.floor tens, tens⟩
  | attempts + 1, tens =>
    match interval.nearest? tie tens with
    | some coefficient => ⟨coefficient, tens⟩
    | none => search tie interval attempts (tens - 1)

end Interval

/-- Move trailing zeros of the coefficient, at most `fuel` of them, into the
exponent. -/
def Decimal.strip : Nat → Decimal → Decimal
  | 0, decimal => decimal
  | fuel + 1, decimal =>
    if decimal.coefficient % 10 = 0 && decimal.coefficient != 0 then
      Decimal.strip fuel ⟨decimal.coefficient / 10, decimal.exponent + 1⟩
    else decimal

/-- More digits than any number of the formats in use needs to be told apart
from its neighbours. -/
def maximalDigits : Nat := 17

/-- The decimal with the fewest digits that rounds to
`significand * 2 ^ exponent`, and the nearest of those. -/
def ofBinary (tie : Tie) (format : Format) (significand : Nat) (exponent : Int) : Decimal :=
  let interval := Interval.of format significand exponent
  (interval.search tie maximalDigits interval.leadingExponent).strip (maximalDigits + 1)

end TypedQuery.Shortest
