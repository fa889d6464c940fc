import Chargen.Age
import Chargen.Dice.Roll
import Chargen.Profile

/-!
# Adjustments

Rolling and ageing a characteristic is recorded as a list of adjustments, each with the value before
and after it and the dice thrown for it. A penalty comes first and leaves at least one; luck is then
rolled again in youth, the better roll counting; education is then checked, and rises by a ten-sided
die, up to ninety-nine, when the check exceeds it.

* `ageValue`: ages one characteristic.
* `ageBlock`: ages a whole block, in sheet order.
* `rollAged`: rolls one characteristic and ages it.
-/

namespace Chargen

/-- One change of a characteristic, with its reason. -/
structure Adjustment where
  /-- what is changed -/
  characteristic : Characteristic
  /-- why it is changed -/
  description : String
  /-- the value before -/
  before : Int
  /-- the value after -/
  after : Int
  /-- the dice thrown for it -/
  dice : List Roll
deriving DecidableEq, Repr

/-- One education check. -/
structure EducationCheck where
  /-- its number, from one on -/
  iteration : Nat
  /-- education before it -/
  before : Int
  /-- the percentile roll -/
  check : Roll
  /-- the roll of what is gained, if the check exceeds education -/
  gain : Option Roll
  /-- education after it -/
  after : Int
deriving DecidableEq, Repr

/-- A characteristic after ageing. -/
structure AgedValue where
  /-- the value reached -/
  value : Int
  /-- how it was reached -/
  steps : List Adjustment
  /-- the education checks among the steps -/
  checks : List EducationCheck
deriving DecidableEq, Repr

/-- A block after ageing. -/
structure AgedBlock where
  /-- the values reached -/
  characteristics : Block
  /-- the penalties applied -/
  penalties : Penalties
  /-- how the values were reached, in sheet order -/
  steps : List Adjustment
  /-- the education checks among the steps -/
  checks : List EducationCheck
deriving DecidableEq

/-- A characteristic that was rolled and aged. -/
structure AgedRoll where
  /-- what was rolled -/
  characteristic : Characteristic
  /-- the roll -/
  roll : Roll
  /-- the value after ageing -/
  value : Int
  /-- how it was reached, the roll first -/
  steps : List Adjustment
  /-- the education checks among the steps -/
  checks : List EducationCheck
deriving DecidableEq

/-- Whether an education check was exceeded, so that a gain was rolled. -/
def EducationCheck.improved (c : EducationCheck) : Bool :=
  c.gain.isSome

namespace Age

/-- The adjustment that takes a penalty off a value. -/
def penaltyStep (age : Nat) (c : Characteristic) (amount : Nat) (evenSplit : Bool) (value : Int) :
    Adjustment :=
  let after := max (value - amount) minCharacteristic
  let split :=
    if evenSplit && c != .apa && c != .edu then
      " (allocation does not match the target, even split used)"
    else ""
  let floored := if after != value - amount then s!", floored at {minCharacteristic}" else ""
  { characteristic := c
    description := s!"Age {age}: {c.name} -{amount}{split}{floored}"
    before := value
    after
    dice := [] }

/-- The adjustment, if there is one, that a penalty makes to a value. -/
def penaltySteps (age : Nat) (c : Characteristic) (p : Penalties) (value : Int) : List Adjustment :=
  if 0 < p.amount c then [penaltyStep age c (p.amount c) p.evenSplit value] else []

/-- The value that a list of adjustments leads to from a start. -/
def valueAfter (start : Int) (steps : List Adjustment) : Int :=
  (steps.getLast?.map Adjustment.after).getD start

/-- The adjustment that keeps the better of a value of luck and another roll. -/
def luckStep (age : Nat) (value : Int) (again : Roll) : Adjustment :=
  let kept := max value again.total
  { characteristic := .suerte
    description :=
      s!"Age {age}: SUERTE rolled twice ({value} and {again.total}), keeping {kept}"
    before := value
    after := kept
    dice := [again] }

/-- The outcome of an education check and, if it was exceeded, of the roll of the gain. -/
def checkOf (iteration : Nat) (education : Int) (check : Roll) (gain : Option Roll) :
    EducationCheck :=
  { iteration, before := education, check, gain
    after := match gain with
      | some g => min (education + g.total) maxCharacteristic
      | none => education }

/-- What an education check was about. -/
def checkText (c : EducationCheck) : String :=
  let rolled := s!"EDU improvement check {c.iteration}: rolled {c.check.total}"
  match c.gain with
  | some gain => s!"{rolled} over {c.before}, +{gain.total}"
  | none => s!"{rolled}, no improvement over {c.before}"

/-- The adjustment that an education check makes. -/
def checkStep (c : EducationCheck) : Adjustment where
  characteristic := .edu
  description := checkText c
  before := c.before
  after := c.after
  dice := c.check :: c.gain.toList

variable {σ : Type} [DieSource σ]

/-- Rolls luck again, a number of times. -/
def rerollLuck (age : Nat) (luck : Dice) : Nat → Int → StateM σ (List Adjustment)
  | 0, _ => pure []
  | n + 1, value => do
    let step := luckStep age value (← luck.roll)
    return step :: (← rerollLuck age luck n step.after)

/-- Makes one education check. -/
def checkEducation (iteration : Nat) (education : Int) : StateM σ EducationCheck := do
  let check ← Dice.percentile.roll
  if education < check.total then
    return checkOf iteration education check (some (← Dice.ten.roll))
  else
    return checkOf iteration education check none

/-- Makes a number of education checks, the first of which has the given number. -/
def checksFrom (first : Nat) : Nat → Int → StateM σ (List EducationCheck)
  | 0, _ => pure []
  | n + 1, education => do
    let check ← checkEducation first education
    return check :: (← checksFrom (first + 1) n check.after)

/-- Ages one characteristic: its penalty, then what its kind asks for. -/
def ageValue (luck : Dice) (age : Nat) (p : Penalties) (c : Characteristic) (value : Int) :
    StateM σ AgedValue := do
  let penalized := penaltySteps age c p value
  let start := valueAfter value penalized
  match c with
  | .suerte =>
    let steps := penalized ++ (← rerollLuck age luck (p.luckRolls - 1) start)
    return ⟨valueAfter value steps, steps, []⟩
  | .edu =>
    let checks ← checksFrom 1 p.educationChecks start
    let steps := penalized ++ checks.map checkStep
    return ⟨valueAfter value steps, steps, checks⟩
  | _ => return ⟨start, penalized, []⟩

/-- Ages a block, in sheet order. -/
def ageBlock (generation : Profile Dice) (base : Block) (age : Nat) (split : Split) :
    StateM σ AgedBlock := do
  let p := split.penalties age
  let aged ← Profile.generate fun c => ageValue (generation.get .suerte) age p c (base.get c)
  return { characteristics := aged.map AgedValue.value
           penalties := p
           steps := aged.toList.flatMap fun e => e.2.steps
           checks := aged.toList.flatMap fun e => e.2.checks }

/-- The adjustment that a first roll makes. -/
def rollStep (c : Characteristic) (r : Roll) : Adjustment :=
  { characteristic := c
    description := s!"{c.name} rolled {r.formula.text} = {r.total}"
    before := 0
    after := r.total
    dice := [r] }

/-- Rolls one characteristic and ages it. -/
def rollAged (generation : Profile Dice) (c : Characteristic) (age : Nat) (split : Split) :
    StateM σ AgedRoll := do
  let roll ← (generation.get c).roll
  let aged ← ageValue (generation.get .suerte) age (split.penalties age) c roll.total
  return { characteristic := c, roll, value := aged.value
           steps := rollStep c roll :: aged.steps, checks := aged.checks }

/-- Rolls all nine characteristics, in sheet order. -/
def rollAll (generation : Profile Dice) : StateM σ (Profile Roll) :=
  Profile.generate fun c => (generation.get c).roll

/-- Rolls a block: the totals of the nine rolls. -/
def rollBlock (generation : Profile Dice) : StateM σ Block := do
  return (← rollAll generation).map Roll.total

end Age

end Chargen
