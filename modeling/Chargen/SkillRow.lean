import Chargen.Draft
import Chargen.Grant

/-!
# Skill rows

The skill part of a sheet has a row for every skill of the catalog, every skill that the occupation
grants and every skill that received points, each skill once. A row adds the points of both pools to
the base.

* `baseValue`: the value of a skill before any points.
* `rows`: the rows of a block and the points spent.
* `Draft.rows`: the rows of a draft, in which the credit rating stands for the occupation points of
  the skill that it feeds.
-/

namespace Chargen

/-- One row of the skill part of a sheet. -/
structure SkillRow where
  /-- the skill -/
  name : String
  /-- its value before any points -/
  base : Int
  /-- the points of the occupation -/
  occupation : Int
  /-- the points of personal interests -/
  personal : Int
  /-- the sum of these -/
  total : Int
  /-- half of the total -/
  hard : Int
  /-- a fifth of the total -/
  extreme : Int
deriving DecidableEq, Repr

namespace SkillRow

/-- Whether a key names a skill, alone or as a family. -/
def names (skill key : String) (family : Option String) : Bool :=
  key == SkillName.key skill || family == some (SkillName.key skill)

/-- The base that the rulebook's families give to a key: that of the family in it, or else that of
itself as a family; zero for an unknown name. -/
def familyBase (r : Rulebook) (key : String) (family : Option String) : Int :=
  match (family.bind r.family?).or (r.family? key) with
  | some f => f.base
  | none => 0

/-- The value of a skill before any points. -/
def baseValue (r : Rulebook) (b : Block) (name : String) : Int :=
  let key := SkillName.key name
  let family := (SkillName.family? key).map Prod.fst
  if names SkillName.ownLanguage key family then b.edu
  else if names SkillName.dodge key family then b.des.tdiv 2
  else match r.skill? key with
    | some s => s.base
    | none => familyBase r key family

/-- The row of a skill. -/
def ofSkill (r : Rulebook) (b : Block) (spending : Spending) (name : String) : SkillRow :=
  let base := baseValue r b name
  let occupation := spending.occupation.points name
  let personal := spending.personal.points name
  let total := clip (clip (base + occupation) + personal)
  { name, base, occupation, personal, total, hard := total.tdiv 2, extreme := total.tdiv 5 }

/-- The names of the rows: the catalog, further skills that are granted, and those that received
points. -/
def rowNames (r : Rulebook) (spending : Spending) (granted : List String) : List String :=
  SkillName.distinct (r.skillNames ++ granted ++
    (spending.occupation.merged.map Prod.fst ++ spending.personal.merged.map Prod.fst))

/-- The rows of a block and the points spent, with rows for further skills that are granted. -/
def rows (r : Rulebook) (b : Block) (spending : Spending) (granted : List String) : List SkillRow :=
  (rowNames r spending granted).map (ofSkill r b spending)

end SkillRow

namespace Draft

/-- The points spent, with the credit rating as the occupation points of the skill that it feeds. -/
def sheetSpending (d : Draft) : Spending :=
  match d.selection with
  | none => d.spending
  | some s =>
    { d.spending with
      occupation := d.spending.occupation.assign SkillName.credit s.creditRating.toNat }

/-- The skills that the selected occupation grants; none if the rulebook does not list it. -/
def granted (r : Rulebook) (d : Draft) : List String :=
  match d.selection with
  | none => []
  | some s =>
    match r.occupation? s.name with
    | none => []
    | some o => Grant.listed r o s

/-- The rows of a draft. -/
def rows (r : Rulebook) (d : Draft) : List SkillRow :=
  SkillRow.rows r d.blockOrZero d.sheetSpending (d.granted r)

end Draft

end Chargen
