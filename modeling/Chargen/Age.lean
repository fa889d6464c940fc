import Chargen.Characteristic
import Chargen.Clip

/-!
# Age

Young investigators lose education and split a penalty between strength and size, but roll luck
twice. From forty on, a penalty that grows with the decade is split among strength, constitution and
dexterity, and appearance drops. Grown-up investigators get education checks.

A `Split` is the player's way to divide these penalties. One that does not add up to what the age
asks for is replaced by the even split: `mismatch?` reports it and `penalties` resolves it.
-/

namespace Chargen

/-- The youngest age that the rules cover. -/
def minAge : Nat := 15

/-- The oldest age that the rules cover. -/
def maxAge : Nat := 89

/-- What strength and size lose together in youth. -/
def youthPenalty : Nat := 5

/-- What education loses in youth. -/
def youthEducationPenalty : Nat := 5

/-- The player's division of the age penalties. -/
structure Split where
  /-- taken from strength in youth -/
  youthFue : Nat
  /-- taken from size in youth -/
  youthTam : Nat
  /-- taken from strength from forty on -/
  matureFue : Nat
  /-- taken from constitution from forty on -/
  matureCon : Nat
  /-- taken from dexterity from forty on -/
  matureDes : Nat
deriving DecidableEq, Repr, Inhabited

/-- A split that does not add up. -/
structure SplitMismatch where
  /-- whether it is the penalty of youth -/
  youth : Bool
  /-- what the split should add up to -/
  expected : Int
  /-- what it adds up to -/
  actual : Int
deriving DecidableEq, Repr

/-- What each characteristic loses at an age, and what is rolled again. -/
structure Penalties where
  /-- what strength loses -/
  fue : Nat
  /-- what constitution loses -/
  con : Nat
  /-- what size loses -/
  tam : Nat
  /-- what dexterity loses -/
  des : Nat
  /-- what appearance loses -/
  apa : Nat
  /-- what education loses -/
  edu : Nat
  /-- how often luck is rolled; the best roll counts -/
  luckRolls : Nat
  /-- the number of education checks -/
  educationChecks : Nat
  /-- whether the even split is used in place of the player's -/
  evenSplit : Bool
deriving DecidableEq, Repr

namespace Age

/-- Whether an age is young. -/
def isYouth (age : Nat) : Bool :=
  15 ≤ age && age ≤ 19

/-- The number of the decade from forty on: one for the forties up to five from eighty on, and zero
below forty. -/
def decade (age : Nat) : Nat :=
  if age < 40 then 0 else min ((age - 30) / 10) 5

/-- What strength, constitution and dexterity lose together: five in the forties, then twice as much
every decade. -/
def maturePenalty (age : Nat) : Nat :=
  if decade age = 0 then 0 else 5 <<< (decade age - 1)

/-- What appearance loses: five for every decade. -/
def appearancePenalty (age : Nat) : Nat :=
  5 * decade age

/-- The number of education checks: one from twenty on and one more for every decade, at
most four. -/
def educationChecks (age : Nat) : Nat :=
  if age < 20 then 0 else min (decade age + 1) 4

end Age

namespace Split

/-- What the split takes in youth; the sum of its words is read as a signed word. -/
def youthSum (s : Split) : Int :=
  word (s.youthFue + s.youthTam : Nat)

/-- What the split takes from forty on. -/
def matureSum (s : Split) : Int :=
  word (s.matureFue + s.matureCon + s.matureDes : Nat)

/-- The split without penalties. -/
def none : Split := ⟨0, 0, 0, 0, 0⟩

/-- The even split of the penalties of an age: what does not divide goes to size and
to dexterity. -/
def even (age : Nat) : Split :=
  let youth := if Age.isYouth age then youthPenalty else 0
  let mature := Age.maturePenalty age
  { youthFue := youth / 2
    youthTam := youth - youth / 2
    matureFue := mature / 3
    matureCon := mature / 3
    matureDes := mature - 2 * (mature / 3) }

/-- How a split fails to add up to the penalty of an age, if it does. -/
def mismatch? (age : Nat) (s : Split) : Option SplitMismatch :=
  if Age.isYouth age && s.youthSum != youthPenalty then
    some ⟨true, youthPenalty, s.youthSum⟩
  else if 0 < Age.maturePenalty age && s.matureSum != Age.maturePenalty age then
    some ⟨false, Age.maturePenalty age, s.matureSum⟩
  else .none

/-- The penalties of an age, divided by a split if it adds up and evenly if not. -/
def penalties (age : Nat) (s : Split) : Penalties :=
  let luckRolls := if Age.isYouth age then 2 else 1
  let educationChecks := Age.educationChecks age
  if Age.isYouth age then
    let fits := s.youthSum == youthPenalty
    { fue := if fits then s.youthFue else youthPenalty / 2
      tam := if fits then s.youthTam else youthPenalty - youthPenalty / 2
      edu := youthEducationPenalty
      con := 0, des := 0, apa := 0, luckRolls, educationChecks, evenSplit := !fits }
  else if 0 < Age.maturePenalty age then
    let target := Age.maturePenalty age
    let fits := s.matureSum == target
    { fue := if fits then s.matureFue else target / 3
      con := if fits then s.matureCon else target / 3
      des := if fits then s.matureDes else target - 2 * (target / 3)
      apa := Age.appearancePenalty age
      tam := 0, edu := 0, luckRolls, educationChecks, evenSplit := !fits }
  else
    { fue := 0, con := 0, tam := 0, des := 0, apa := 0, edu := 0, luckRolls, educationChecks
      evenSplit := false }

end Split

namespace Penalties

/-- What one characteristic loses. -/
def amount (p : Penalties) : Characteristic → Nat
  | .fue => p.fue
  | .con => p.con
  | .tam => p.tam
  | .des => p.des
  | .apa => p.apa
  | .edu => p.edu
  | _ => 0

end Penalties

end Chargen
