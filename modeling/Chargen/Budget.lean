import Chargen.Draft
import Chargen.Rulebook

/-!
# Budgets

The points that a pool has, those spent from it and those left. The occupation's pool is sized by
its points formula and pays for the credit rating; the personal pool is twice the intelligence.
-/

namespace Chargen

/-- A pool of points. -/
structure Budget where
  /-- the points that there are -/
  total : Int
  /-- the points spent -/
  spent : Int
deriving DecidableEq, Repr

namespace Budget

/-- The points left. -/
def remaining (b : Budget) : Int :=
  clip (b.total - b.spent)

/-- Whether more is spent than there is. -/
def isExceeded (b : Budget) : Bool :=
  b.total < b.spent

end Budget

namespace Draft

/-- The occupation points of an occupation for a block and the options picked. -/
def occupationPoints (o : Occupation) (b : Block) (picks : Points.Picks) : Int :=
  (Points.Formula.parse o.pointsFormula).value b picks

/-- The occupation's pool, if the rulebook lists the selected occupation. -/
def occupationBudget? (r : Rulebook) (d : Draft) : Option Budget :=
  match d.selection with
  | none => none
  | some s =>
    (r.occupation? s.name).map fun o =>
      { total := occupationPoints o d.blockOrZero s.formulaPicks
        spent := clip (d.spending.occupation.spent + s.creditRating) }

/-- The personal pool. -/
def personalBudget (d : Draft) : Budget where
  total := word (2 * d.blockOrZero.int)
  spent := d.spending.personal.spent

/-- The personal pool of an intelligence that can be doubled. -/
theorem total_personalBudget {d : Draft} (hlo : minNumber ≤ 2 * d.blockOrZero.int)
    (hhi : 2 * d.blockOrZero.int ≤ maxNumber) : d.personalBudget.total = 2 * d.blockOrZero.int :=
  word_of_mem hlo hhi

end Draft

end Chargen
