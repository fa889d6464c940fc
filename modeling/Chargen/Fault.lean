import Chargen.Dice
import Chargen.Points.Formula
import Chargen.Review.Issue

/-!
# Faults

Why an operation of the rules does not succeed. `message` words each cause.
-/

namespace Chargen

/-- A contradiction within a rulebook. -/
inductive CatalogFault where
  /-- a characteristic cannot be rolled -/
  | noGeneration (c : Characteristic)
  /-- two skills have one name -/
  | duplicateSkill (name : String)
  /-- two occupations have one name -/
  | duplicateOccupation (name : String)
  /-- the credit ratings of an occupation are no range within 0 to 99 -/
  | creditRange (range : CreditRange) (occupation : String)
  /-- nothing is picked from a group, or it offers nothing -/
  | emptyGroup (label occupation : String)
  /-- the credit ratings of a finance band are no range -/
  | financeBand (min max : Int)
deriving DecidableEq, Repr

/-- What is wrong with the rulebook. -/
def CatalogFault.message : CatalogFault → String
  | .noGeneration c => s!"No generation formula for {c.name}"
  | .duplicateSkill name => s!"Duplicate skill: {name}"
  | .duplicateOccupation name => s!"Duplicate occupation: {name}"
  | .creditRange range occupation =>
    s!"Invalid credit rating range {range.min}-{range.max} for {occupation}"
  | .emptyGroup label occupation => s!"Empty choice group '{label}' for {occupation}"
  | .financeBand min max => s!"Invalid finance band {min}-{max}"

/-- Why an operation does not succeed. -/
inductive Fault where
  /-- a text names no dice -/
  | dice (cause : DiceFault)
  /-- a text is no point formula -/
  | formula (cause : Points.FormulaFault)
  /-- the formula of an occupation is no point formula -/
  | occupationFormula (cause : Points.FormulaFault) (occupation : String)
  /-- a key names no characteristic -/
  | unknownCharacteristic (key : String)
  /-- the rulebook does not list an occupation -/
  | unknownOccupation (name : String)
  /-- no occupation is selected -/
  | noOccupation
  /-- a document cannot be read -/
  | malformedDocument
  /-- a rulebook contradicts itself -/
  | catalog (cause : CatalogFault)
  /-- a draft with errors cannot be finished -/
  | unfinished (issues : List Issue)
deriving DecidableEq, Repr

namespace Fault

/-- What is wrong. -/
def message : Fault → String
  | .dice cause => s!"Invalid formula: {cause.message}"
  | .formula cause => s!"Invalid formula: {cause.message}"
  | .occupationFormula cause occupation => s!"Invalid formula: {cause.message} ({occupation})"
  | .unknownCharacteristic key => s!"Invalid characteristic: {key}"
  | .unknownOccupation name => s!"Occupation not found: {name}"
  | .noOccupation => "No occupation selected"
  | .malformedDocument => "The document cannot be read"
  | .catalog cause => s!"Inconsistent rulebook: {cause.message}"
  | .unfinished issues =>
    let lines := "\n".intercalate (issues.map Issue.line)
    s!"Character cannot be finalized:\n{lines}"

end Fault

end Chargen
