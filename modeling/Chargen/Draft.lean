import Chargen.Age
import Chargen.Profile
import Chargen.Selection
import Chargen.Spending

/-!
# Drafts

A draft is an investigator under construction: plain data that says what the player has entered so
far, right or wrong.
-/

namespace Chargen

/-- Who the investigator is. -/
structure Identity where
  /-- the investigator's name -/
  name : String
  /-- the player's name -/
  player : String
  /-- gender -/
  gender : String
  /-- where the investigator lives -/
  residence : String
  /-- where the investigator was born -/
  birthplace : String
deriving DecidableEq, Repr

/-- The investigator's background: six categories and the core bond. -/
structure Background where
  /-- looks -/
  description : String
  /-- beliefs -/
  ideology : String
  /-- important people -/
  significantPeople : String
  /-- important places -/
  meaningfulLocations : String
  /-- dear possessions -/
  treasuredPossessions : String
  /-- traits of character -/
  traits : String
  /-- the one bond above all others -/
  coreBond : String
deriving DecidableEq, Repr

/-- Someone at the investigator's side. -/
structure Companion where
  /-- the companion's name -/
  name : String
  /-- how the two are related -/
  relationship : String
  /-- anything else -/
  notes : String
deriving DecidableEq, Repr

/-- What the investigator has. -/
structure Equipment where
  /-- what is spent without counting -/
  spendingLevel : String
  /-- cash at hand -/
  cash : String
  /-- other assets -/
  assets : String
  /-- anything else -/
  notes : String
  /-- things carried -/
  items : List String
deriving DecidableEq, Repr

/-- An investigator under construction. -/
structure Draft where
  /-- who the investigator is -/
  identity : Identity
  /-- the age -/
  age : Nat
  /-- how the age penalties are divided -/
  split : Split
  /-- the characteristics known so far -/
  characteristics : PartialBlock
  /-- the age at which they were rolled -/
  rolledAt : Option Nat
  /-- the occupation selected -/
  selection : Option Selection
  /-- the skill points spent -/
  spending : Spending
  /-- the background -/
  background : Background
  /-- the companions -/
  companions : List Companion
  /-- the equipment -/
  equipment : Equipment
deriving DecidableEq

namespace Identity

/-- Nothing entered. -/
def blank : Identity := ⟨"", "", "", "", ""⟩

end Identity

namespace Background

/-- Nothing entered. -/
def blank : Background := ⟨"", "", "", "", "", "", ""⟩

/-- The six categories. -/
def categories (b : Background) : List String :=
  [b.description, b.ideology, b.significantPeople, b.meaningfulLocations, b.treasuredPossessions,
    b.traits]

/-- The number of categories with content. -/
def filled (b : Background) : Nat :=
  (b.categories.filter fun text => !Text.isBlankText text).length

end Background

namespace Companion

/-- Nothing entered. -/
def blank : Companion := ⟨"", "", ""⟩

end Companion

namespace Equipment

/-- Nothing entered. -/
def blank : Equipment := ⟨"", "", "", "", []⟩

end Equipment

namespace Draft

/-- The age of a fresh draft. -/
def startAge : Nat := 25

/-- A draft in which nothing is entered. -/
def fresh : Draft where
  identity := Identity.blank
  age := startAge
  split := Split.none
  characteristics := Profile.uniform none
  rolledAt := none
  selection := none
  spending := Spending.nothing
  background := Background.blank
  companions := []
  equipment := Equipment.blank

/-- The block, if all nine characteristics are known. -/
def block? (d : Draft) : Option Block :=
  d.characteristics.complete?

/-- The block, with zero for each characteristic that is not known. -/
def blockOrZero (d : Draft) : Block :=
  d.characteristics.orZero

end Draft

end Chargen
