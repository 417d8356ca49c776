/-
Module: TypedQuery.Numeral.Layout
Purpose: The written form of binary numbers: positional or with an exponent.
Main exports: Layout, Layout.write, Layout.plain, Layout.json
-/
import TypedQuery.Numeral.Shortest

namespace TypedQuery

open Binary (Format Number)

/-- The decisions that fix the text of a binary number, given its shortest
digits. -/
structure Layout where
  /-- Which of two equally near shortest decimals is written. -/
  tie : Shortest.Tie
  /-- Exponents of the leading digit that are written without an exponent part;
  `none` when every exponent is. -/
  positional : Option (Int × Int)
  /-- Whole numbers written positionally end in `.0`. -/
  keepsPoint : Bool
  /-- Text of a not-a-number. -/
  nan : String
  /-- Text of the infinite numbers, by sign. -/
  infinite : Bool → String

namespace Layout

/-- `count` zeros. -/
def zeros (count : Nat) : String := String.ofList (List.replicate count '0')

/-- Digits without an exponent part; `leading` is the exponent of the first
digit. -/
def positionalText (keepsPoint : Bool) (digits : List Char) (leading : Int) : String :=
  if leading < 0 then
    "0." ++ zeros (-leading - 1).toNat ++ String.ofList digits
  else
    let whole := leading.toNat + 1
    if digits.length ≤ whole then
      String.ofList digits ++ zeros (whole - digits.length) ++ (if keepsPoint then ".0" else "")
    else
      String.ofList (digits.take whole) ++ "." ++ String.ofList (digits.drop whole)

/-- One digit, the others behind a point, and a signed exponent. -/
def exponentText (digits : List Char) (leading : Int) : String :=
  let mantissa :=
    match digits with
    | [] => ""
    | [digit] => String.ofList [digit]
    | digit :: others => String.ofList [digit] ++ "." ++ String.ofList others
  let sign := if leading < 0 then "-" else "+"
  mantissa ++ "e" ++ sign ++ toString leading.natAbs

/-- The digits of a shortest decimal under the layout. -/
def digitsText (layout : Layout) (decimal : Shortest.Decimal) : String :=
  let digits := Nat.toDigits 10 decimal.coefficient
  let leading := decimal.exponent + (digits.length - 1 : Nat)
  match layout.positional with
  | none => positionalText layout.keepsPoint digits leading
  | some (low, high) =>
    if low ≤ leading && leading ≤ high then positionalText layout.keepsPoint digits leading
    else exponentText digits leading

/-- The text of a number of the format. -/
def write (layout : Layout) (format : Format) : Number → String
  | .nan => layout.nan
  | .infinite negative => layout.infinite negative
  | .finite negative significand exponent =>
    let sign := if negative then "-" else ""
    let body :=
      if significand = 0 then
        if layout.keepsPoint then "0.0" else "0"
      else layout.digitsText (Shortest.ofBinary layout.tie format significand exponent)
    sign ++ body

/-- Numbers for reading: never an exponent, no point on whole numbers, a tie goes
away from zero. -/
def plain : Layout :=
  { tie := .away
    positional := none
    keepsPoint := false
    nan := "NaN"
    infinite := fun negative => if negative then "-inf" else "inf" }

/-- Numbers in JSON: positional while the leading digit's exponent lies within
the bounds, a tie goes to the even digit, and no text for numbers that JSON
lacks. -/
def json (low high : Int) : Layout :=
  { tie := .toEven
    positional := some (low, high)
    keepsPoint := true
    nan := "null"
    infinite := fun _ => "null" }

/-- JSON layout of single-precision numbers. -/
def jsonSingle : Layout := json (-6) 12

/-- JSON layout of double-precision numbers. -/
def jsonDouble : Layout := json (-5) 15

end Layout

end TypedQuery
