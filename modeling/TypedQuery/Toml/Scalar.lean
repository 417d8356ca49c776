/-
Module: TypedQuery.Toml.Scalar
Purpose: Reading the numbers, dates and truth values of TOML.
Trusted boundary: their grammar is assumed of the TOML library, as that of Toml.Reader is.
Main exports: Toml.readInteger, Toml.readFloat, Toml.readDateTime, Toml.readNumber
-/
import TypedQuery.Toml.Document

namespace TypedQuery.Toml

/-- Leave a fixed text out at the front. -/
def expect : List Char → List Char → Option (List Char)
  | [], input => some input
  | _ :: _, [] => none
  | wanted :: others, character :: rest =>
    if wanted = character then expect others rest else none

/-- What was read from `input`, given what is left of it. -/
def consumed (input rest : List Char) : String :=
  String.ofList (input.take (input.length - rest.length))

/-! ### Digits -/

/-- Value of digits in a base. -/
def digitsValue (base : Nat) (digits : List Nat) : Nat :=
  digits.foldl (fun value digit => base * value + digit) 0

/-- Value of a decimal digit. -/
def decimalDigit? (character : Char) : Option Nat :=
  if character.isDigit then some (character.toNat - '0'.toNat) else none

/-- Value of a digit in a base up to sixteen. -/
def baseDigit? (base : Nat) (character : Char) : Option Nat :=
  let value? : Option Nat :=
    if character.isDigit then some (character.toNat - '0'.toNat)
    else if 'a' ≤ character ∧ character ≤ 'f' then some (character.toNat - 'a'.toNat + 10)
    else if 'A' ≤ character ∧ character ≤ 'F' then some (character.toNat - 'A'.toNat + 10)
    else none
  value?.filter (· < base)

/-- Further digits, with single underscores between digits; `pending` tells that an
underscore was read last. -/
def moreDigits (digit? : Char → Option Nat) (pending : Bool) :
    List Char → Option (List Nat × List Char)
  | [] => if pending then none else some ([], [])
  | character :: rest =>
    match digit? character with
    | some digit =>
      (moreDigits digit? false rest).map fun (digits, rest) => (digit :: digits, rest)
    | none =>
      if pending then none
      else if character = '_' then moreDigits digit? true rest
      else some ([], character :: rest)

/-- One or more digits, with single underscores between digits. -/
def readDigits (digit? : Char → Option Nat) (input : List Char) :
    Option (List Nat × List Char) :=
  match input with
  | [] => none
  | character :: rest => do
    let digit ← digit? character
    let (digits, rest) ← moreDigits digit? false rest
    return (digit :: digits, rest)

/-- An optional sign; true for minus. -/
def readSign : List Char → Bool × List Char
  | '-' :: rest => (true, rest)
  | '+' :: rest => (false, rest)
  | rest => (false, rest)

/-- A decimal whole number: sign and digits, without leading zeros. -/
def readDecimal (input : List Char) : Option (Bool × List Nat × List Char) :=
  let (negative, rest) := readSign input
  match rest with
  | '0' :: rest => some (negative, [0], rest)
  | rest => (readDigits decimalDigit? rest).map fun (digits, rest) => (negative, digits, rest)

/-! ### Integers -/

/-- Least and greatest integers. -/
def integerBounds : Int × Int := (-9223372036854775808, 9223372036854775807)

/-- An integer within the bounds. -/
def boundedInteger (value : Int) (rest : List Char) : Option (Item × List Char) :=
  if integerBounds.1 ≤ value ∧ value ≤ integerBounds.2 then some (.integer value, rest) else none

/-- An integer in a base, behind its mark. -/
def readBased (base : Nat) (input : List Char) : Option (Item × List Char) := do
  let (digits, rest) ← readDigits (baseDigit? base) input
  boundedInteger (digitsValue base digits) rest

/-- Read an integer: decimal, or in base 16, 8 or 2. -/
def readInteger : List Char → Option (Item × List Char)
  | '0' :: 'x' :: rest => readBased 16 rest
  | '0' :: 'o' :: rest => readBased 8 rest
  | '0' :: 'b' :: rest => readBased 2 rest
  | input => do
    let (negative, digits, rest) ← readDecimal input
    let value : Int := digitsValue 10 digits
    boundedInteger (if negative then -value else value) rest

/-! ### Floating-point numbers -/

/-- Half a step above the greatest double: from here on a number rounds to
infinity. -/
def overflowBound : Nat := Nat.pow 2 1024 - Nat.pow 2 970

/-- Does `digits * 10 ^ exponent` round to infinity? Decided by the position of the
first digit, exactly only near the bound. -/
def overflows (digits : List Nat) (exponent : Int) : Bool :=
  let significant := digits.dropWhile (· == 0)
  let leading : Int := significant.length + exponent
  if significant.isEmpty || leading < 309 then false
  else if 309 < leading then true
  else
    let value := digitsValue 10 significant
    overflowBound * Nat.pow 10 (-exponent).toNat ≤ value * Nat.pow 10 exponent.toNat

/-- An exponent, if there is one. -/
def readExponent? : List Char → Option (Option Int × List Char)
  | character :: rest =>
    if character = 'e' ∨ character = 'E' then do
      let (negative, rest) := readSign rest
      let (digits, rest) ← readDigits decimalDigit? rest
      let value : Int := digitsValue 10 digits
      return (some (if negative then -value else value), rest)
    else some (none, character :: rest)
  | [] => some (none, [])

/-- Decimal places, if there are any. -/
def readPlaces? : List Char → Option (Option (List Nat) × List Char)
  | '.' :: rest => (readDigits decimalDigit? rest).map fun (digits, rest) => (some digits, rest)
  | rest => some (none, rest)

/-- A number with decimal places or an exponent; one that rounds to positive
infinity is refused. -/
def readFractional (input : List Char) : Option (Item × List Char) := do
  let (negative, whole, rest) ← readDecimal input
  let (places, rest) ← readPlaces? rest
  let (exponent, rest) ← readExponent? rest
  if places.isNone && exponent.isNone then none
  else
    let digits := whole ++ places.getD []
    let exponent := exponent.getD 0 - (places.getD []).length
    if !negative && overflows digits exponent then none
    else some (.float (consumed input rest), rest)

/-- Infinity or nan, with an optional sign. -/
def readSpecial (input : List Char) : Option (Item × List Char) :=
  let (_, rest) := readSign input
  match expect ['i', 'n', 'f'] rest with
  | some rest => some (.float (consumed input rest), rest)
  | none => (expect ['n', 'a', 'n'] rest).map fun rest => (.float (consumed input rest), rest)

/-- Read a floating-point number. -/
def readFloat (input : List Char) : Option (Item × List Char) :=
  (readFractional input).orElse fun _ => readSpecial input

/-! ### Dates and times -/

/-- A number of exactly `count` digits between two bounds. -/
def readFixed (count low high : Nat) (input : List Char) : Option (Nat × List Char) := do
  let digits ← (input.take count).mapM decimalDigit?
  let value := digitsValue 10 digits
  if digits.length = count ∧ low ≤ value ∧ value ≤ high then some (value, input.drop count)
  else none

/-- Every fourth year, but of the full centuries only every fourth. -/
def isLeapYear (year : Nat) : Bool :=
  year % 4 == 0 && (year % 100 != 0 || year % 400 == 0)

/-- Days of a month. -/
def daysIn (year month : Nat) : Nat :=
  if month = 2 then (if isLeapYear year then 29 else 28)
  else if month = 4 ∨ month = 6 ∨ month = 9 ∨ month = 11 then 30
  else 31

/-- Year, month and day of the calendar. -/
def readDate (input : List Char) : Option (List Char) := do
  let (year, rest) ← readFixed 4 0 9999 input
  let rest ← expect ['-'] rest
  let (month, rest) ← readFixed 2 1 12 rest
  let rest ← expect ['-'] rest
  let (_, rest) ← readFixed 2 1 (daysIn year month) rest
  return rest

/-- Decimal places of a second, if there are any. -/
def readSecondPlaces : List Char → List Char
  | '.' :: rest =>
    if (rest.head?.map Char.isDigit).getD false then rest.dropWhile Char.isDigit else '.' :: rest
  | rest => rest

/-- Hour, minute and second; a leap second is second 60. -/
def readTime (input : List Char) : Option (List Char) := do
  let (_, rest) ← readFixed 2 0 23 input
  let rest ← expect [':'] rest
  let (_, rest) ← readFixed 2 0 59 rest
  let rest ← expect [':'] rest
  let (_, rest) ← readFixed 2 0 60 rest
  return readSecondPlaces rest

/-- Distance from universal time, as a letter or as hours and minutes. -/
def readOffset : List Char → Option (List Char)
  | [] => none
  | sign :: rest =>
    if sign = 'Z' ∨ sign = 'z' then some rest
    else if sign = '+' ∨ sign = '-' then do
      let (_, rest) ← readFixed 2 0 23 rest
      let rest ← expect [':'] rest
      let (_, rest) ← readFixed 2 0 59 rest
      return rest
    else none

/-- The time behind a date, if there is one. -/
def readTimeOfDay : List Char → Option (List Char)
  | [] => none
  | separator :: rest =>
    if separator = 'T' ∨ separator = 't' ∨ separator = ' ' then do
      let rest ← readTime rest
      return (readOffset rest).getD rest
    else none

/-- Read a date, a time, or both. -/
def readDateTime (input : List Char) : Option (Item × List Char) :=
  let rest? :=
    match readDate input with
    | some rest => some ((readTimeOfDay rest).getD rest)
    | none => readTime input
  rest?.map fun rest => (.dateTime (consumed input rest), rest)

/-! ### All of them -/

/-- Read a date, a time or a number. -/
def readNumber (input : List Char) : Option (Item × List Char) :=
  (readDateTime input).orElse fun _ => (readFloat input).orElse fun _ => readInteger input

/-- Read a truth value. -/
def readBoolean (input : List Char) : Option (Item × List Char) :=
  match expect "true".toList input with
  | some rest => some (.boolean true, rest)
  | none => (expect "false".toList input).map fun rest => (.boolean false, rest)

end TypedQuery.Toml
