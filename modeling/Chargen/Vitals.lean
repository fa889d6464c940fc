import Chargen.Age
import Chargen.Profile

/-!
# Vitals

What follows from a complete block and the age: hit points, magic points, sanity, movement, build
and damage bonus, and the half and the fifth of every characteristic. Divisions drop the fraction.
-/

namespace Chargen

/-- The statistics of a block. -/
structure Vitals where
  /-- hit points -/
  hitPoints : Int
  /-- magic points -/
  magicPoints : Int
  /-- sanity at the start -/
  sanity : Int
  /-- movement rate -/
  movement : Int
  /-- build -/
  build : Int
  /-- damage bonus as written -/
  damageBonus : String
  /-- half of each characteristic -/
  hard : Block
  /-- a fifth of each characteristic -/
  extreme : Block
deriving DecidableEq

namespace Vitals

/-- The movement rate: seven if size exceeds strength and dexterity, nine if both exceed size and
eight otherwise, less one for every decade from forty on. -/
def movementRate (b : Block) (age : Nat) : Int :=
  let base : Int :=
    if b.des < b.tam && b.fue < b.tam then 7
    else if b.tam < b.des && b.tam < b.fue then 9
    else 8
  base - Age.decade age

/-- Build and damage bonus for the sum of strength and size: one step more for every eighty from 205
on. -/
def buildAndBonus (sum : Int) : Int × String :=
  if sum ≤ 64 then (-2, "-2")
  else if sum ≤ 84 then (-1, "-1")
  else if sum ≤ 124 then (0, "0")
  else if sum ≤ 164 then (1, "+1D4")
  else if sum ≤ 204 then (2, "+1D6")
  else
    let extra := (sum - 205) / 80
    (3 + extra, s!"+{2 + extra}D6")

/-- The statistics of a block at an age. -/
def ofBlock (b : Block) (age : Nat) : Vitals where
  hitPoints := (word (b.con + b.tam)).tdiv 10
  magicPoints := b.pod.tdiv 5
  sanity := b.pod
  movement := movementRate b age
  build := (buildAndBonus (word (b.fue + b.tam))).1
  damageBonus := (buildAndBonus (word (b.fue + b.tam))).2
  hard := b.map fun n => n.tdiv 2
  extreme := b.map fun n => n.tdiv 5

end Vitals

end Chargen
