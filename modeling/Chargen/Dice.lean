/-!
# Dice

A `Dice` says how many dice of how many sides are thrown, what is added to their sum and by what the
result is multiplied: `(2D6+6)x5`. Its total lies between `minTotal` and `maxTotal`.
-/

namespace Chargen

/-- Dice of one kind with a modifier and a multiplier. -/
structure Dice where
  /-- the number of dice -/
  count : Nat
  /-- the number of sides of each -/
  sides : Nat
  /-- what is added to the sum of the dice -/
  modifier : Nat
  /-- by what the sum is multiplied -/
  multiplier : Nat
deriving DecidableEq, Repr, Inhabited

/-- Why a text names no dice. Each cause holds the text. -/
inductive DiceFault where
  /-- the text does not have the form of dice -/
  | unsupported (text : String)
  /-- a numeral is too long, or written in digits other than `0` to `9` -/
  | unreadableNumber (text : String)
  /-- no dice, too many dice, dice without sides, or nothing to multiply by -/
  | notPositive (text : String)
  /-- too many sides, or a modifier or multiplier too great -/
  | tooLarge (text : String)
deriving DecidableEq, Repr

/-- What is wrong with the text. -/
def DiceFault.message : DiceFault → String
  | .unsupported text => s!"Unsupported dice formula: {text}"
  | .unreadableNumber text => s!"Number out of range in {text}"
  | .notPositive text => s!"Dice count, sides and multiplier must be positive in {text}"
  | .tooLarge text => s!"Dice sides, modifier or multiplier out of range in {text}"

namespace Dice

/-- The greatest number of dice. -/
def maxCount : Nat := 100

/-- The greatest number of sides. -/
def maxSides : Nat := 1000

/-- The greatest modifier. -/
def maxModifier : Nat := 1000

/-- The greatest multiplier. -/
def maxMultiplier : Nat := 100

/-- One die of one hundred sides. -/
def percentile : Dice := ⟨1, 100, 0, 1⟩

/-- One die of ten sides. -/
def ten : Dice := ⟨1, 10, 0, 1⟩

/-- All parts lie within their limits. -/
structure Legal (d : Dice) : Prop where
  count_pos : 1 ≤ d.count
  count_le : d.count ≤ maxCount
  sides_pos : 1 ≤ d.sides
  sides_le : d.sides ≤ maxSides
  modifier_le : d.modifier ≤ maxModifier
  multiplier_pos : 1 ≤ d.multiplier
  multiplier_le : d.multiplier ≤ maxMultiplier

/-- The total when every die shows one. -/
def minTotal (d : Dice) : Nat :=
  (d.count + d.modifier) * d.multiplier

/-- The total when every die shows its highest side. -/
def maxTotal (d : Dice) : Nat :=
  (d.count * d.sides + d.modifier) * d.multiplier

/-- The written form: a modifier in parentheses unless it is zero, a multiplier unless it is one. -/
def text (d : Dice) : String :=
  let thrown := s!"{d.count}D{d.sides}"
  let sum := if d.modifier = 0 then thrown else s!"({thrown}+{d.modifier})"
  if d.multiplier = 1 then sum else s!"{sum}x{d.multiplier}"

theorem percentile_legal : percentile.Legal := by constructor <;> decide

theorem ten_legal : ten.Legal := by constructor <;> decide

end Dice

end Chargen
