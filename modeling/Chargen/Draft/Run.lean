import Chargen.Draft.Transition

/-!
# Runs of changes

A player changes a draft step by step. A change that fails leaves the draft as it is, and the dice
of all changes come from one source.

* `Draft.step`: the draft after one change.
* `Draft.run`: the draft after a run of changes.
-/

namespace Chargen

/-- A change that a player makes to a draft. -/
inductive Change where
  /-- starts over with a fresh draft -/
  | reset
  /-- changes the age -/
  | setAge (age : Nat)
  /-- stores a block -/
  | setBlock (b : Block)
  /-- rolls a block and stores it -/
  | roll
  /-- selects an occupation -/
  | selectOccupation (name : String)
  /-- changes the credit rating -/
  | setCreditRating (rating : Int)
  /-- changes the picks for a group -/
  | setPicks (index : Nat) (skills : List String)
  /-- picks an option of the points formula -/
  | setFormulaPick (key : Nat) (option : String)
  /-- picks the best options of the points formula that are left open -/
  | fillFormulaPicks
  /-- changes the occupation points of a skill -/
  | allocateOccupation (skill : String) (points : Nat)
  /-- changes the personal points of a skill -/
  | allocatePersonal (skill : String) (points : Nat)
  /-- fills the blank money fields -/
  | suggestEquipment
deriving DecidableEq

namespace Change

/-- Whether a change stores a block. -/
def storesBlock : Change → Bool
  | .setBlock _ | .roll => true
  | _ => false

/-- Whether a change stores a block or takes it away. -/
def touchesBlock (c : Change) : Bool :=
  c.storesBlock || c == .reset

end Change

namespace Draft

/-- The draft that a change leads to, or the old one if the change fails. -/
def orKeep (d : Draft) : Except Fault Draft → Draft
  | .ok d' => d'
  | .error _ => d

variable {σ : Type} [DieSource σ]

/-- The draft after one change. -/
def step (r : Rulebook) (d : Draft) : Change → StateM σ Draft
  | .reset => pure fresh
  | .setAge age => pure (d.setAge age)
  | .setBlock b => pure (d.setBlock b)
  | .roll => do return (← d.roll r).2
  | .selectOccupation name => pure (d.orKeep (d.selectOccupation r name))
  | .setCreditRating rating => pure (d.orKeep (d.setCreditRating rating))
  | .setPicks index skills => pure (d.orKeep (d.setPicks index skills))
  | .setFormulaPick key option => pure (d.orKeep (d.setFormulaPick key option))
  | .fillFormulaPicks => pure (d.orKeep ((d.fillFormulaPicks r).map Prod.snd))
  | .allocateOccupation skill points => pure (d.allocateOccupation skill points)
  | .allocatePersonal skill points => pure (d.allocatePersonal skill points)
  | .suggestEquipment => pure (d.orKeep (d.suggestEquipment r))

/-- The draft after a run of changes. -/
def run (r : Rulebook) : List Change → Draft → StateM σ Draft
  | [], d => pure d
  | c :: changes, d => do run r changes (← d.step r c)

end Draft

end Chargen
