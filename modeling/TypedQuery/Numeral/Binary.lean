/-
Module: TypedQuery.Numeral.Binary
Purpose: Binary floating-point numbers read from their bit patterns.
Main exports: Binary.Format, Binary.Number, Binary.Format.decode, Binary.Number.same
-/

namespace TypedQuery.Binary

/-- Widths of the two fields below the sign bit of an interchange format. -/
structure Format where
  /-- Bits of the biased exponent. -/
  exponentBits : Nat
  /-- Bits of the trailing fraction. -/
  fractionBits : Nat
deriving Repr, DecidableEq

/-- Single precision: eight exponent bits, twenty-three fraction bits. -/
def single : Format := ⟨8, 23⟩

/-- Double precision: eleven exponent bits, fifty-two fraction bits. -/
def double : Format := ⟨11, 52⟩

/-- What a bit pattern stands for. A finite number is
`significand * 2 ^ exponent` with the given sign; every not-a-number pattern is
one value. -/
inductive Number
  | nan
  | infinite (negative : Bool)
  | finite (negative : Bool) (significand : Nat) (exponent : Int)
deriving Repr, DecidableEq, Inhabited

namespace Format

/-- Distance between the biased and the true exponent of the leading bit. -/
def bias (format : Format) : Nat := Nat.pow 2 (format.exponentBits - 1) - 1

/-- Exponent of the last bit of the smallest numbers. -/
def leastExponent (format : Format) : Int := 1 - (format.bias : Int) - format.fractionBits

/-- The significand whose only set bit is the leading one; the number below it
stands at half the usual distance. -/
def leadingBit (format : Format) : Nat := Nat.pow 2 format.fractionBits

/-- Number of biased exponents. -/
def exponents (format : Format) : Nat := Nat.pow 2 format.exponentBits

/-- Read a bit pattern: sign, biased exponent and fraction, most significant
field first. -/
def decode (format : Format) (bits : Nat) : Number :=
  let fraction := bits % format.leadingBit
  let biased := bits / format.leadingBit % format.exponents
  let negative := bits / (format.leadingBit * format.exponents) % 2 == 1
  if biased = format.exponents - 1 then
    if fraction = 0 then .infinite negative else .nan
  else if biased = 0 then
    .finite negative fraction format.leastExponent
  else
    .finite negative (fraction + format.leadingBit) (format.leastExponent + (biased - 1 : Nat))

end Format

/-- Numerical equality of two numbers read from one format: nan differs from
everything, itself included, and the two zeros are equal. -/
def Number.same : Number → Number → Bool
  | .infinite first, .infinite second => first == second
  | .finite first significand exponent, .finite second significand' exponent' =>
    (significand == 0 && significand' == 0) ||
      (first == second && significand == significand' && exponent == exponent')
  | _, _ => false

end TypedQuery.Binary
