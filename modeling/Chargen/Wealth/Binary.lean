/-!
# The exact value of a floating-point number

A finite floating-point number is a whole mantissa times a power of two. `Binary.ofBits` takes the
bits of one apart, so that it can be rounded and written in whole-number arithmetic.
-/

namespace Chargen

/-- A floating-point number taken apart. -/
inductive Binary where
  /-- the number `mantissa * 2 ^ exponent` with its sign -/
  | finite (negative : Bool) (mantissa : Nat) (exponent : Int)
  /-- beyond all numbers, on one side -/
  | infinite (negative : Bool)
  /-- not a number -/
  | nan
deriving DecidableEq, Repr

namespace Binary

/-- The number of different exponent fields, of eleven bits. -/
def exponentCount : Nat := 2048

/-- The number of different mantissa fields, of 52 bits. -/
def mantissaCount : Nat := 4503599627370496

/-- The number with the given 64 bits: sign, eleven bits of exponent and 52 bits of mantissa. -/
def ofBits (bits : Nat) : Binary :=
  let negative := bits >>> 63 % 2 == 1
  let exponent : Nat := bits >>> 52 % exponentCount
  let mantissa : Nat := bits % mantissaCount
  if exponent = exponentCount - 1 then if mantissa = 0 then infinite negative else nan
  else if exponent = 0 then finite negative mantissa (-1074)
  else finite negative (mantissaCount + mantissa) ((exponent : Int) - 1075)

/-- The exact value of a floating-point number. -/
def ofFloat (x : Float) : Binary :=
  ofBits x.toBits.toNat

/-- The size of a finite number as a fraction. -/
def fraction (mantissa : Nat) : Int → Nat × Nat
  | .ofNat e => (mantissa <<< e, 1)
  | .negSucc e => (mantissa, 1 <<< (e + 1))

/-- A fraction rounded to a whole number, a half going to the even neighbour. -/
def roundHalfEven (numerator denominator : Nat) : Nat :=
  let quotient := numerator / denominator
  let twice := 2 * (numerator % denominator)
  if denominator < twice || twice == denominator && quotient % 2 == 1 then quotient + 1
  else quotient

end Binary

end Chargen
