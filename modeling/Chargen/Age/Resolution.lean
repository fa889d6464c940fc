import Chargen.Age

/-!
# Penalties resolved step by step

The penalties of an age can also be resolved on one record that starts without penalties: youth
writes its part of it, and maturity writes its own part over that. The words of the split are read
as signed words, so what is written may be negative.

* `Split.resolve`: the penalties as they are resolved.
-/

namespace Chargen

/-- What each characteristic loses at an age, in signed words, and what is rolled again. -/
structure SignedPenalties where
  /-- what strength loses -/
  fue : Int
  /-- what constitution loses -/
  con : Int
  /-- what size loses -/
  tam : Int
  /-- what dexterity loses -/
  des : Int
  /-- what appearance loses -/
  apa : Int
  /-- what education loses -/
  edu : Int
  /-- how often luck is rolled; the best roll counts -/
  luckRolls : Nat
  /-- the number of education checks -/
  educationChecks : Nat
  /-- whether the even split is used in place of the player's -/
  evenSplit : Bool
deriving DecidableEq, Repr

/-- Penalties as signed numbers. -/
def Penalties.signed (p : Penalties) : SignedPenalties where
  fue := p.fue
  con := p.con
  tam := p.tam
  des := p.des
  apa := p.apa
  edu := p.edu
  luckRolls := p.luckRolls
  educationChecks := p.educationChecks
  evenSplit := p.evenSplit

/-- No penalties: luck is rolled once. -/
def SignedPenalties.start (age : Nat) : SignedPenalties where
  fue := 0
  con := 0
  tam := 0
  des := 0
  apa := 0
  edu := 0
  luckRolls := 1
  educationChecks := Age.educationChecks age
  evenSplit := false

namespace Split

/-- The penalties of youth, written over others. -/
def resolveYouth (s : Split) (p : SignedPenalties) : SignedPenalties :=
  let total : Int := youthPenalty
  let p := { p with edu := youthEducationPenalty, luckRolls := 2 }
  if s.youthSum == total then
    { p with fue := word s.youthFue, tam := word s.youthTam }
  else { p with fue := total / 2, tam := total - total / 2, evenSplit := true }

/-- The penalties of an age from forty on, written over others. -/
def resolveMature (age : Nat) (s : Split) (p : SignedPenalties) : SignedPenalties :=
  let target : Int := Age.maturePenalty age
  let p := { p with apa := Age.appearancePenalty age }
  if s.matureSum == target then
    { p with
      fue := word s.matureFue
      con := word s.matureCon
      des := word s.matureDes }
  else
    { p with
      fue := target / 3
      con := target / 3
      des := target - 2 * (target / 3)
      evenSplit := true }

/-- The penalties of an age: those of youth, and then those from forty on. -/
def resolve (age : Nat) (s : Split) : SignedPenalties :=
  let p := SignedPenalties.start age
  let p := if Age.isYouth age then s.resolveYouth p else p
  if 0 < Age.maturePenalty age then s.resolveMature age p else p

end Split

end Chargen
