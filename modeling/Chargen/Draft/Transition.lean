import Chargen.Age.Adjustment
import Chargen.Draft
import Chargen.Points.Best
import Chargen.Rulebook
import Chargen.Wealth.Money

/-!
# Changing a draft

The transitions of a draft. They keep its bookkeeping in order (at which age the characteristics
were rolled, which choices outlive a change of occupation) but test nothing that a review tests. One
that needs a selected occupation fails without one, and then there is no new draft.
-/

namespace Chargen.Draft

/-- The draft at another age. Characteristics are kept, even if they were rolled at another age. -/
def setAge (d : Draft) (age : Nat) : Draft :=
  { d with age }

/-- The draft with another split of the age penalties. -/
def setSplit (d : Draft) (split : Split) : Draft :=
  { d with split }

/-- The draft with the even split for its age. -/
def suggestSplit (d : Draft) : Draft :=
  d.setSplit (Split.even d.age)

/-- The draft with a block rolled at its age. -/
def setBlock (d : Draft) (b : Block) : Draft :=
  { d with characteristics := b.known, rolledAt := some d.age }

/-- The draft with one characteristic changed or taken away. -/
def setCharacteristic (d : Draft) (c : Characteristic) (value : Option Int) : Draft :=
  { d with characteristics := d.characteristics.set c value }

/-- Rolls a block, ages it and stores it. -/
def roll {σ : Type} [DieSource σ] (r : Rulebook) (d : Draft) : StateM σ (AgedBlock × Draft) := do
  let base ← Age.rollBlock r.generation
  let aged ← Age.ageBlock r.generation base d.age d.split
  return (aged, d.setBlock aged.characteristics)

/-- The draft with an occupation selected. One that is selected already keeps its choices; any other
one starts without choices and with its least credit rating. -/
def selectOccupation (r : Rulebook) (d : Draft) (name : String) : Except Fault Draft :=
  match r.occupation? name with
  | none => .error (.unknownOccupation name)
  | some o =>
    if d.selection.any fun s => SkillName.same s.name o.name then .ok d
    else .ok { d with selection := some (Selection.start o.name o.credit.min) }

/-- The draft with its selection changed. -/
def changeSelection (d : Draft) (change : Selection → Selection) : Except Fault Draft :=
  match d.selection with
  | none => .error .noOccupation
  | some s => .ok { d with selection := some (change s) }

/-- The draft with another credit rating. -/
def setCreditRating (d : Draft) (rating : Int) : Except Fault Draft :=
  d.changeSelection fun s => { s with creditRating := rating }

/-- The draft with other picks for a group of its occupation. -/
def setPicks (d : Draft) (index : Nat) (skills : List String) : Except Fault Draft :=
  d.changeSelection fun s => s.setPicks index skills

/-- The draft with another option picked for its points formula. -/
def setFormulaPick (d : Draft) (key : Nat) (option : String) : Except Fault Draft :=
  d.changeSelection fun s => { s with formulaPicks := s.formulaPicks.insert key option }

/-- The draft with the best options picked for the open choices of its points formula, and their
number. -/
def fillFormulaPicks (r : Rulebook) (d : Draft) : Except Fault (Nat × Draft) :=
  match d.selection with
  | none => .error .noOccupation
  | some s =>
    match r.occupation? s.name with
    | none => .error (.unknownOccupation s.name)
    | some o =>
      let (count, picks) :=
        (Points.Formula.parse o.pointsFormula).fill d.blockOrZero s.formulaPicks
      .ok (count, { d with selection := some { s with formulaPicks := picks } })

/-- The draft with other occupation points for a skill. -/
def allocateOccupation (d : Draft) (skill : String) (points : Nat) : Draft :=
  { d with spending := { d.spending with occupation := d.spending.occupation.assign skill points } }

/-- The draft with other personal points for a skill. -/
def allocatePersonal (d : Draft) (skill : String) (points : Nat) : Draft :=
  { d with spending := { d.spending with personal := d.spending.personal.assign skill points } }

/-- A text, or an amount of money in place of a blank one. -/
def filledWith (text : String) (amount : Float) : String :=
  if Text.isBlankText text then Money.text amount else text

theorem filledWith_of_blank {text : String} (h : Text.isBlankText text = true) (amount : Float) :
    filledWith text amount = Money.text amount :=
  if_pos h

/-- A text that is not blank is kept. -/
theorem filledWith_of_not_blank {text : String} (h : Text.isBlankText text = false)
    (amount : Float) : filledWith text amount = text :=
  if_neg (by rw [h]; exact Bool.false_ne_true)

/-- The draft with the money of its credit rating in the money fields that are blank; unchanged if
no finance band covers the rating. -/
def suggestEquipment (r : Rulebook) (d : Draft) : Except Fault Draft :=
  match d.selection with
  | none => .error .noOccupation
  | some s =>
    match r.wealth? s.creditRating with
    | none => .ok d
    | some w =>
      .ok { d with
        equipment :=
          { d.equipment with
            spendingLevel := filledWith d.equipment.spendingLevel w.spendingLevel
            cash := filledWith d.equipment.cash w.cash
            assets := filledWith d.equipment.assets w.assets } }

end Chargen.Draft
