import Chargen.Clip
import Chargen.Dice

/-!
# Throwing dice

A `DieSource` is a state from which dice of any number of sides can be thrown; a lawful one throws
values from one to the number of sides. `Dice.roll` throws all dice of a `Dice` before it adds them
up, and its `Roll` keeps every die.
-/

namespace Chargen

/-- A state from which dice are thrown. -/
class DieSource (σ : Type) where
  /-- throws a die with the given number of sides -/
  throwDie : Nat → StateM σ Nat

/-- A source whose dice show their sides and nothing else. -/
class LawfulDieSource (σ : Type) [DieSource σ] : Prop where
  one_le_throwDie : ∀ (sides : Nat) (s : σ), 1 ≤ sides → 1 ≤ (DieSource.throwDie sides s).1
  throwDie_le : ∀ (sides : Nat) (s : σ), 1 ≤ sides → (DieSource.throwDie sides s).1 ≤ sides

/-- A throw of dice with all its parts. -/
structure Roll where
  /-- the dice thrown -/
  formula : Dice
  /-- the side that each die shows, in the order thrown -/
  dice : List Nat
  /-- the sum of the dice and the modifier -/
  subtotal : Int
  /-- the subtotal multiplied -/
  total : Int
deriving DecidableEq, Repr

namespace Dice

variable {σ : Type} [DieSource σ]

/-- Throws a number of dice with the same number of sides. -/
def throwDice (sides : Nat) : Nat → StateM σ (List Nat)
  | 0 => pure []
  | count + 1 => do
    let die ← DieSource.throwDie sides
    let others ← throwDice sides count
    return die :: others

/-- The roll in which the dice show the given sides. -/
def rollOf (d : Dice) (dice : List Nat) : Roll :=
  let subtotal : Nat := dice.foldr (· + ·) 0 + d.modifier
  { formula := d, dice, subtotal, total := clip (subtotal * d.multiplier) }

/-- Throws dice. -/
def roll (d : Dice) : StateM σ Roll := do
  return d.rollOf (← throwDice d.sides d.count)

end Dice

end Chargen
