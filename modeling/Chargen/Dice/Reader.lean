import Chargen.Dice
import Chargen.Numeral
import Chargen.Text.Alphabetic
import Chargen.Text.Blank

/-!
# Reading dice

A dice text, its blanks removed, is `NdS` or `(NdS+K)`, with `d` in either case, then perhaps one of
`x X × *` and a multiplier. The reader first takes the text apart into its numerals, written in the
digits of any script, and then reads the numerals, which have to be written in `0` to `9` and fit 32
bits.

* `Dice.parse`: reads a text.
* `Dice.Shape`: a text taken apart.
-/

namespace Chargen

namespace Dice

/-- A dice text taken apart into its numerals as written. -/
structure Shape where
  /-- the number of dice -/
  count : List Char
  /-- the number of sides -/
  sides : List Char
  /-- the modifier, if the dice stand in parentheses -/
  modifier : Option (List Char)
  /-- the multiplier, if there is one -/
  multiplier : Option (List Char)
deriving DecidableEq, Repr

/-- The digits at the start of a text, of which there has to be one, and the rest. -/
def takeNumeral (cs : List Char) : Option (List Char × List Char) :=
  match cs.takeWhile Text.isDecimalDigit with
  | [] => none
  | ds => some (ds, cs.dropWhile Text.isDecimalDigit)

/-- The text after the letter between the number of dice and the number of sides. -/
def takeLetter : List Char → Option (List Char)
  | 'd' :: rest => some rest
  | 'D' :: rest => some rest
  | _ => none

/-- The number of dice and of sides at the start of a text, and the rest. -/
def takePair (cs : List Char) : Option (List Char × List Char × List Char) := do
  let (count, afterCount) ← takeNumeral cs
  let afterLetter ← takeLetter afterCount
  let (sides, rest) ← takeNumeral afterLetter
  return (count, sides, rest)

/-- The multiplier that a whole text holds, the empty text holding none. -/
def readMultiplier : List Char → Option (Option (List Char))
  | [] => some none
  | c :: rest =>
    if isTimes c then
      match takeNumeral rest with
      | some (ds, []) => some (some ds)
      | _ => none
    else none

/-- A text without blanks, taken apart. -/
def readShape : List Char → Option Shape
  | '(' :: inner => do
    let (count, sides, afterPair) ← takePair inner
    match afterPair with
    | '+' :: afterPlus =>
      let (modifier, afterModifier) ← takeNumeral afterPlus
      match afterModifier with
      | ')' :: rest => return ⟨count, sides, some modifier, ← readMultiplier rest⟩
      | _ => none
    | _ => none
  | cs => do
    let (count, sides, rest) ← takePair cs
    return ⟨count, sides, none, ← readMultiplier rest⟩

/-- The first number that does not fit the numerals of a dice text. -/
def numeralLimit : Nat := 4294967296

/-- The dice whose numerals a shape holds; a missing modifier is zero and a missing
multiplier one. -/
def Shape.dice? (s : Shape) : Option Dice := do
  let count ← numeral? numeralLimit s.count
  let sides ← numeral? numeralLimit s.sides
  let modifier ← numeral? numeralLimit (s.modifier.getD ['0'])
  let multiplier ← numeral? numeralLimit (s.multiplier.getD ['1'])
  return { count, sides, modifier, multiplier }

/-- The dice that a text names. -/
def parse (text : String) : Except DiceFault Dice :=
  match readShape (Text.strip text.toList) with
  | none => .error (.unsupported text)
  | some shape =>
    match shape.dice? with
    | none => .error (.unreadableNumber text)
    | some d =>
      if d.count = 0 ∨ maxCount < d.count ∨ d.sides = 0 ∨ d.multiplier = 0 then
        .error (.notPositive text)
      else if maxSides < d.sides ∨ maxModifier < d.modifier ∨ maxMultiplier < d.multiplier then
        .error (.tooLarge text)
      else .ok d

/-- Dice that were read are within their limits. -/
theorem legal_of_parse {text : String} {d : Dice} (h : parse text = .ok d) : d.Legal := by
  unfold parse at h
  split at h
  · cases h
  · split at h
    · cases h
    · split at h
      · cases h
      · split at h
        · cases h
        · cases h
          constructor <;> omega

end Dice

end Chargen
