/-!
# Wealth

A finance band covers a range of credit ratings and says what an investigator in it spends and owns.
Cash and assets are a fixed amount and an amount for every point of the rating.
-/

namespace Chargen

/-- An amount of money that depends on the credit rating. -/
structure MoneyRule where
  /-- the part that is always there -/
  fixed : Float
  /-- the part for every point of the rating -/
  perPoint : Float
deriving Repr, Inhabited

/-- What a range of credit ratings means in money. -/
structure FinanceBand where
  /-- the least rating covered -/
  min : Int
  /-- the greatest rating covered -/
  max : Int
  /-- what is spent without counting -/
  spendingLevel : Float
  /-- cash at hand -/
  cash : MoneyRule
  /-- other assets -/
  assets : MoneyRule
deriving Repr, Inhabited

/-- The money of an investigator. -/
structure Wealth where
  /-- the credit rating it follows from -/
  creditRating : Int
  /-- what is spent without counting -/
  spendingLevel : Float
  /-- cash at hand -/
  cash : Float
  /-- other assets -/
  assets : Float
deriving Repr

namespace MoneyRule

/-- No money. -/
def nothing : MoneyRule := ⟨0, 0⟩

/-- The amount for a credit rating. -/
def amount (r : MoneyRule) (rating : Int) : Float :=
  r.fixed + r.perPoint * Float.ofInt rating

end MoneyRule

/-- The wealth that the first band covering a credit rating gives. -/
def Wealth.find? (bands : List FinanceBand) (rating : Int) : Option Wealth :=
  (bands.find? fun band => band.min ≤ rating && rating ≤ band.max).map fun band =>
    { creditRating := rating
      spendingLevel := band.spendingLevel
      cash := band.cash.amount rating
      assets := band.assets.amount rating }

end Chargen
