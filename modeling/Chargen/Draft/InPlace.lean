import Chargen.Draft.Transition

/-!
# Changing a draft in place

The transitions that can fail, as steps that read the draft and write it piece by piece. What such a
step has written before it fails stays written.

* `InPlace.outcome`: what a change gives, with the draft that it leaves.
* `InPlace.selectOccupation` and the others: the changes themselves.
-/

namespace Chargen

/-- A change made to a draft in place. -/
abbrev InPlace (α : Type) : Type := ExceptT Fault (StateM Draft) α

namespace InPlace

/-- What a change gives, with the draft that it leaves. -/
def outcome {α : Type} (change : InPlace α) (d : Draft) : Except Fault α × Draft :=
  ExceptT.run change d

/-- The selection; fails without one. -/
def selected : InPlace Selection := do
  match (← get).selection with
  | none => throw .noOccupation
  | some s => return s

/-- The occupation with a name; fails without one. -/
def known (r : Rulebook) (name : String) : InPlace Occupation :=
  match r.occupation? name with
  | none => throw (.unknownOccupation name)
  | some o => return o

/-- Writes the selection. -/
def writeSelection (s : Selection) : InPlace Unit :=
  modify fun d => { d with selection := some s }

/-- Selects an occupation, unless it is selected already. -/
def selectOccupation (r : Rulebook) (name : String) : InPlace Unit := do
  let o ← known r name
  if (← get).selection.any fun s => SkillName.same s.name o.name then return
  else writeSelection (Selection.start o.name o.credit.min)

/-- Changes the selection. -/
def changeSelection (change : Selection → Selection) : InPlace Unit := do
  let s ← selected
  writeSelection (change s)

/-- Changes the credit rating. -/
def setCreditRating (rating : Int) : InPlace Unit :=
  changeSelection fun s => { s with creditRating := rating }

/-- Changes the picks for a group of the occupation. -/
def setPicks (index : Nat) (skills : List String) : InPlace Unit :=
  changeSelection fun s => s.setPicks index skills

/-- Picks an option of the points formula. -/
def setFormulaPick (key : Nat) (option : String) : InPlace Unit :=
  changeSelection fun s => { s with formulaPicks := s.formulaPicks.insert key option }

/-- Picks the best options of choices one by one, and counts them. -/
def pickBest (best : Points.Picks) : List Points.ChoiceGroup → InPlace Nat
  | [] => return 0
  | g :: rest =>
    match best.get? g.key with
    | none => pickBest best rest
    | some option => do
      setFormulaPick g.key option
      return (← pickBest best rest) + 1

/-- Picks the best options for the open choices of the points formula, and counts them. -/
def fillFormulaPicks (r : Rulebook) : InPlace Nat := do
  let b := (← get).blockOrZero
  let s ← selected
  let o ← known r s.name
  let f := Points.Formula.parse o.pointsFormula
  pickBest (f.best b).picks (f.openGroups s.formulaPicks)

/-- Writes the equipment. -/
def modifyEquipment (change : Equipment → Equipment) : InPlace Unit :=
  modify fun d => { d with equipment := change d.equipment }

/-- Fills the blank money fields one by one; does nothing if no finance band covers the rating. -/
def suggestEquipment (r : Rulebook) : InPlace Unit := do
  let s ← selected
  match r.wealth? s.creditRating with
  | none => return
  | some w =>
    modifyEquipment fun e =>
      { e with spendingLevel := Draft.filledWith e.spendingLevel w.spendingLevel }
    modifyEquipment fun e => { e with cash := Draft.filledWith e.cash w.cash }
    modifyEquipment fun e => { e with assets := Draft.filledWith e.assets w.assets }

end InPlace

end Chargen
