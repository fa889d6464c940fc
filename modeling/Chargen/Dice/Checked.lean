import Chargen.Dice.Roll

/-!
# Totals in signed words

The dice of a text are counted in unsigned 32-bit words, and their totals are computed in signed
ones. Here every sum and every product is tested: one that the signed word does not hold has no
result. Only the last product of a roll is clipped instead.

* `Dice.roll?`: throws dice and adds them up in signed words.
* `Dice.minTotal?`, `Dice.maxTotal?`: the bounds of a roll in signed words.
-/

namespace Chargen

/-- A number, if the signed word holds it. -/
def inWord? (n : Int) : Option Int :=
  if minNumber ≤ n ∧ n ≤ maxNumber then some n else none

namespace Dice

/-- The sum of dice, added one after the other to what was added before. -/
def sumFrom? (start : Int) (dice : List Nat) : Option Int :=
  dice.foldlM (fun sum (die : Nat) => inWord? (sum + word die)) start

/-- The roll in which the dice show the given sides. -/
def rollOf? (d : Dice) (dice : List Nat) : Option Roll := do
  let sum ← sumFrom? 0 dice
  let subtotal ← inWord? (sum + word d.modifier)
  return { formula := d, dice, subtotal, total := clip (subtotal * word d.multiplier) }

/-- The total when every die shows one. -/
def minTotal? (d : Dice) : Option Int := do
  let sum ← inWord? (word d.count + word d.modifier)
  inWord? (sum * word d.multiplier)

/-- The total when every die shows its highest side. -/
def maxTotal? (d : Dice) : Option Int := do
  let product ← inWord? (word d.count * word d.sides)
  let sum ← inWord? (product + word d.modifier)
  inWord? (sum * word d.multiplier)

variable {σ : Type} [DieSource σ]

/-- Throws dice and adds them up. -/
def roll? (d : Dice) : StateM σ (Option Roll) := do
  return d.rollOf? (← throwDice d.sides d.count)

end Dice

end Chargen
