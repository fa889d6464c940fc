/-!
# Stages

An investigator is created in ten stages. `Stage.ofInt` takes any number for the nearest stage, and
`Stage.upTo` lists a stage after all that come before it.
-/

namespace Chargen

/-- A stage of creation. -/
inductive Stage where
  /-- the age and its penalties -/
  | age
  /-- the characteristics -/
  | characteristics
  /-- the statistics that follow; nothing is entered -/
  | vitals
  /-- the occupation and its credit rating -/
  | occupation
  /-- the choices that the occupation leaves -/
  | choices
  /-- occupation points -/
  | occupationSkills
  /-- personal points -/
  | personalSkills
  /-- name and origin -/
  | identity
  /-- background -/
  | background
  /-- equipment -/
  | equipment
deriving DecidableEq, Repr

namespace Stage

/-- All stages in order. -/
def all : List Stage :=
  [.age, .characteristics, .vitals, .occupation, .choices, .occupationSkills, .personalSkills,
    .identity, .background, .equipment]

/-- The number of a stage, from one to ten. -/
def number : Stage → Nat
  | .age => 1
  | .characteristics => 2
  | .vitals => 3
  | .occupation => 4
  | .choices => 5
  | .occupationSkills => 6
  | .personalSkills => 7
  | .identity => 8
  | .background => 9
  | .equipment => 10

/-- The last stage. -/
def last : Stage := .equipment

/-- The stage whose number is nearest to `n`. -/
def ofInt (n : Int) : Stage :=
  all.getD (n - 1).toNat last

/-- The stages up to a stage, in order. -/
def upTo (s : Stage) : List Stage :=
  all.take s.number

end Stage

end Chargen
