import Chargen.Wealth.Binary

/-!
# Money as written on the sheet

An amount with a fraction has two decimals, a half going to the even neighbour. Any other amount is
a whole number with commas between groups of three; the places counted include that of a minus sign.
An amount that a signed 64-bit word does not hold is written as the nearest one that it does.
-/

namespace Chargen.Money

/-- The least whole amount. -/
def minAmount : Int := -9223372036854775808

/-- The greatest whole amount. -/
def maxAmount : Int := 9223372036854775807

/-- A text with a comma before every third place from its end. -/
def grouped : List Char → List Char
  | [] => []
  | [c] => [c]
  | c :: rest => if rest.length % 3 = 0 then c :: ',' :: grouped rest else c :: grouped rest

/-- A whole amount as written. -/
def wholeText (n : Int) : String :=
  "$" ++ String.ofList (grouped (toString n).toList)

/-- An amount in hundredths as written, with its sign. -/
def centsText (negative : Bool) (cents : Nat) : String :=
  let sign := if negative then "-" else ""
  let tens := if cents % 100 < 10 then "0" else ""
  s!"${sign}{cents / 100}.{tens}{cents % 100}"

/-- The whole amount nearest to `n`. -/
def clipAmount (n : Int) : Int :=
  if n < minAmount then minAmount else if maxAmount < n then maxAmount else n

/-- Whether the fraction of `numerator / denominator` exceeds the least one that shows, two to the
power of minus 52. -/
def hasFraction (numerator denominator : Nat) : Bool :=
  denominator < (numerator % denominator) <<< 52

/-- An exact amount as written. What is no number is written as nothing. -/
def textOf : Binary → String
  | .nan => wholeText 0
  | .infinite negative => wholeText (if negative then minAmount else maxAmount)
  | .finite negative mantissa exponent =>
    let (numerator, denominator) := Binary.fraction mantissa exponent
    if hasFraction numerator denominator then
      centsText negative (Binary.roundHalfEven (100 * numerator) denominator)
    else
      let size : Int := numerator / denominator
      wholeText (clipAmount (if negative then -size else size))

/-- An amount as written. -/
def text (amount : Float) : String :=
  textOf (Binary.ofFloat amount)

end Chargen.Money
