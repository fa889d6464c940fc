/-!
# JSON values

A document as a tree. Whole numerals are kept apart from numerals with a fraction or an exponent,
because a field that asks for a whole number takes no other spelling. A numeral becomes a
floating-point number in two steps: its digits are gathered in a 64-bit word, and the word is scaled
by one power of ten.
-/

namespace Chargen

/-- A numeral with a fraction, an exponent or a negative zero. -/
structure Decimal where
  /-- whether a minus sign stands before it -/
  negative : Bool
  /-- the digits before the point -/
  whole : List Nat
  /-- the digits after the point -/
  fraction : List Nat
  /-- the exponent, zero if none is written -/
  exponent : Int
deriving DecidableEq, Repr

namespace Decimal

/-- The first number that does not fit the word in which digits are gathered. -/
def wordLimit : Nat := 18446744073709551616

/-- Digits gathered into a word for as long as it holds them, and the digits left over. -/
def gather : List Nat → Nat → Nat × List Nat
  | [], word => (word, [])
  | d :: ds, word =>
    if 10 * word + d < wordLimit then gather ds (10 * word + d) else (word, d :: ds)

/-- The greatest exponent of a power of ten that is a floating-point number. -/
def maxExponent : Nat := 308

/-- A power of ten. -/
def powerOfTen (e : Nat) : Float :=
  Float.ofScientific 1 false e

/-- A number divided by a power of ten, in two steps if the power is not a floating-point number.
Beyond two steps nothing is left of a 64-bit word. -/
def scaleDown (x : Float) (e : Nat) : Float :=
  if e ≤ maxExponent then x / powerOfTen e
  else if e ≤ 2 * maxExponent then x / powerOfTen maxExponent / powerOfTen (e - maxExponent)
  else 0

/-- A number multiplied by a power of ten; none if the product is not finite. -/
def scaleUp? (x : Float) (e : Nat) : Option Float :=
  if e ≤ maxExponent then
    if (x * powerOfTen e).isInf then none else some (x * powerOfTen e)
  else if x == 0 then some x else none

/-- The floating-point number of a numeral; none if it is too great. Digits after a point that the
word does not hold are dropped; digits before it count in the exponent. -/
def toFloat? (d : Decimal) : Option Float :=
  let (word, wholeLeft) := gather d.whole 0
  let (word, fractionLeft) := gather d.fraction word
  let exponent :=
    d.exponent + wholeLeft.length - (d.fraction.length - fractionLeft.length : Nat)
  let magnitude? := match exponent with
    | .ofNat e => scaleUp? word.toUInt64.toFloat e
    | .negSucc e => some (scaleDown word.toUInt64.toFloat (e + 1))
  magnitude?.map fun x => if d.negative then -x else x

/-- The numeral of a whole number. -/
def ofInt (n : Int) : Decimal where
  negative := n < 0
  whole := (Nat.toDigits 10 n.natAbs).map fun c => c.toNat - '0'.toNat
  fraction := []
  exponent := 0

end Decimal

/-- The name of a member of an object. -/
structure MemberName where
  /-- the name -/
  text : String
  /-- whether it is written without escapes -/
  plain : Bool
deriving DecidableEq, Repr, Inhabited

/-- A name written without escapes. -/
instance : Coe String MemberName := ⟨fun text => ⟨text, true⟩⟩

/-- A JSON document. -/
inductive Json where
  /-- the null value -/
  | null
  /-- true or false -/
  | bool (b : Bool)
  /-- a whole number, other than a negative zero -/
  | integer (n : Int)
  /-- any other number -/
  | decimal (d : Decimal)
  /-- a text -/
  | string (s : String)
  /-- a string, or an object with a name, in which half of a surrogate pair stands alone, so that it
  names no text -/
  | broken
  /-- a list of values -/
  | array (items : List Json)
  /-- named values, in the order written; a name may occur twice -/
  | object (members : List (MemberName × Json))
deriving Repr, Inhabited

namespace Json

/-- The text of a string. -/
def asString? : Json → Option String
  | .string s => some s
  | _ => none

/-- A truth value. -/
def asBool? : Json → Option Bool
  | .bool b => some b
  | _ => none

/-- A whole number between two limits. -/
def asIntIn? (lo hi : Int) : Json → Option Int
  | .integer n => if lo ≤ n ∧ n ≤ hi then some n else none
  | _ => none

/-- A signed whole number of 32 bits. -/
def asNumber? : Json → Option Int :=
  asIntIn? (-2147483648) 2147483647

/-- A whole number of 32 bits, not negative. -/
def asCount? (j : Json) : Option Nat :=
  (j.asIntIn? 0 4294967295).map Int.toNat

/-- A whole number of 64 bits, not negative. -/
def asIndex? (j : Json) : Option Nat :=
  (j.asIntIn? 0 18446744073709551615).map Int.toNat

/-- A floating-point number. -/
def asFloat? : Json → Option Float
  | .integer n => (Decimal.ofInt n).toFloat?
  | .decimal d => d.toFloat?
  | _ => none

/-- The items of a list, each read in the same way. -/
def asList? {α : Type} (item : Json → Option α) : Json → Option (List α)
  | .array items => items.mapM item
  | _ => none

/-- The members of an object. -/
def asObject? : Json → Option (List (MemberName × Json))
  | .object members => some members
  | _ => none

/-- A value that may be null. -/
def asOption? {α : Type} (value : Json → Option α) : Json → Option (Option α)
  | .null => some none
  | j => (value j).map some

end Json

end Chargen
