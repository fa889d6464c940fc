/-!
# Entries of a rulebook

The skills, skill families and occupations that a rulebook lists.
-/

namespace Chargen

/-- A skill of the catalog. -/
structure Skill where
  /-- its name -/
  name : String
  /-- its value before any points -/
  base : Int
  /-- whether no personal points go to it when an investigator is created -/
  forbidden : Bool
deriving DecidableEq, Repr

/-- A family of skills, which gives a base to specializations that the catalog does not list. -/
structure SkillFamily where
  /-- its name -/
  name : String
  /-- the value before any points -/
  base : Int
deriving DecidableEq, Repr

/-- A range of credit ratings, both ends included. -/
structure CreditRange where
  /-- the least rating -/
  min : Int
  /-- the greatest rating -/
  max : Int
deriving DecidableEq, Repr

/-- Whether a rating lies in a range. -/
def CreditRange.contains (r : CreditRange) (rating : Int) : Bool :=
  r.min ≤ rating && rating ≤ r.max

/-- A number of skills to be picked from a list of options. -/
structure PickGroup where
  /-- how it is called -/
  label : String
  /-- how many skills are picked -/
  count : Nat
  /-- the entries to pick from -/
  options : List String
deriving DecidableEq, Repr

/-- An occupation. -/
structure Occupation where
  /-- its name -/
  name : String
  /-- the credit ratings that it allows -/
  credit : CreditRange
  /-- the formula of its skill points -/
  pointsFormula : String
  /-- the entries that it grants -/
  grants : List String
  /-- the picks that it grants -/
  pickGroups : List PickGroup
deriving DecidableEq, Repr

end Chargen
