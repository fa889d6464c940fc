import Chargen.Review
import Chargen.Vitals

/-!
# Sheets

A draft without errors can be finished into a character sheet, which is complete and changes no
more. `Draft.finish` gives the sheet, or all issues of the draft if one of them is an error.
-/

namespace Chargen

/-- The occupation as printed on a sheet. -/
structure SheetOccupation where
  /-- its name -/
  name : String
  /-- the credit rating -/
  creditRating : Int
  /-- the formula of its points -/
  pointsFormula : String
  /-- its points -/
  points : Int
  /-- the options picked for the formula -/
  formulaPicks : Points.Picks
  /-- the picks for each group, by the group's label -/
  picks : SortedMap String (List String)
  /-- the skills that could receive its points -/
  skills : List String
deriving DecidableEq

/-- A finished investigator. -/
structure Sheet where
  /-- who the investigator is -/
  identity : Identity
  /-- the age -/
  age : Nat
  /-- the characteristics -/
  characteristics : Block
  /-- the statistics that follow from them -/
  vitals : Vitals
  /-- the occupation -/
  occupation : SheetOccupation
  /-- the wealth, if a finance band covers the credit rating -/
  wealth : Option Wealth
  /-- the skill points spent -/
  spending : Spending
  /-- the skills with their values -/
  rows : List SkillRow
  /-- the background -/
  background : Background
  /-- the companions -/
  companions : List Companion
  /-- the equipment -/
  equipment : Equipment

namespace Sheet

/-- The row of a skill, under any spelling. -/
def row? (s : Sheet) (name : String) : Option SkillRow :=
  s.rows.find? fun row => SkillName.same row.name name

end Sheet

namespace Draft

/-- A block with education at most ninety-nine. -/
def finishBlock (b : Block) : Block :=
  b.set .edu (min b.edu maxCharacteristic)

/-- The occupation of a sheet. -/
def sheetOccupation (r : Rulebook) (o : Occupation) (s : Selection) (b : Block) :
    SheetOccupation where
  name := o.name
  creditRating := s.creditRating
  pointsFormula := o.pointsFormula
  points := occupationPoints o b s.formulaPicks
  formulaPicks := s.formulaPicks
  picks := SortedMap.ofList (o.pickGroups.zipIdx.map fun (g, index) => (g.label, s.picksFor index))
  skills := Grant.listed r o s

/-- The sheet of a draft with a complete block and a known occupation. -/
def sheetOf (r : Rulebook) (d : Draft) (o : Occupation) (s : Selection) (b : Block) : Sheet where
  identity := d.identity
  age := d.age
  characteristics := b
  vitals := Vitals.ofBlock b d.age
  occupation := sheetOccupation r o s b
  wealth := r.wealth? s.creditRating
  spending := d.spending
  rows := { d with characteristics := d.characteristics.set .edu (some b.edu) }.rows r
  background := d.background
  companions := d.companions
  equipment := d.equipment

/-- The sheet of a draft, or the reason why there is none. -/
def finish (r : Rulebook) (d : Draft) : Except Fault Sheet :=
  let report := d.review r Stage.last
  if report.hasErrors then .error (.unfinished report.issues)
  else match d.block? with
    | none => .error (.unknownCharacteristic "characteristic block is incomplete")
    | some b =>
      match d.selection with
      | none => .error .noOccupation
      | some s =>
        match r.occupation? s.name with
        | none => .error (.unknownOccupation s.name)
        | some o => .ok (d.sheetOf r o s (finishBlock b))

end Draft

end Chargen
