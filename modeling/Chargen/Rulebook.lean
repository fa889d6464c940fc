import Chargen.Dice.Reader
import Chargen.Fault
import Chargen.Profile
import Chargen.Rulebook.Document
import Chargen.SkillName

/-!
# Rulebooks

A rulebook is what a consistent document says, with its entries filed under the keys of their names.
`Rulebook.ofDocument` files them and gives the first contradiction that it meets: characteristics in
key order, then skills, then occupations one by one, then finance bands.

Names are looked up by key, so any spelling finds its entry.
-/

namespace Chargen

/-- An entry filed under the key of its name. -/
structure Filed (α : Type) where
  /-- the key of the entry's name -/
  key : String
  /-- the entry -/
  entry : α
deriving Repr

/-- A consistent rulebook. -/
structure Rulebook where
  /-- the dice of each characteristic -/
  generation : Profile Dice
  /-- the skills of the catalog -/
  skills : List (Filed Skill)
  /-- the specializations listed for each family, by the family's key -/
  specializations : List (String × List String)
  /-- the skill families -/
  families : List (Filed SkillFamily)
  /-- the occupations -/
  occupations : List (Filed Occupation)
  /-- the finance bands -/
  bands : List FinanceBand

namespace Rulebook

/-- A name added to the ones listed for a family. -/
def addSpecialization (family name : String) : List (String × List String) →
    List (String × List String)
  | [] => [(family, [name])]
  | (f, names) :: rest =>
    if f == family then (f, names ++ [name]) :: rest
    else (f, names) :: addSpecialization family name rest

/-- The specializations listed for each family that a catalog has. -/
def specializationsOf (skills : List (Filed Skill)) : List (String × List String) :=
  skills.foldl (fun table s =>
    match SkillName.family? s.key with
    | some (family, _) => addSpecialization family s.entry.name table
    | none => table) []

/-- The dice read for each characteristic so far, with those of further keys. -/
def readGeneration (known : Profile (Option Dice)) : List (String × String) →
    Except Fault (Profile (Option Dice))
  | [] => .ok known
  | (key, formula) :: rest =>
    match Characteristic.ofKey? key with
    | none => .error (.unknownCharacteristic key)
    | some c =>
      match Dice.parse formula with
      | .error cause => .error (.dice cause)
      | .ok d => readGeneration (known.set c (some d)) rest

/-- The dice of all nine characteristics. -/
def completeGeneration (known : Profile (Option Dice)) : Except Fault (Profile Dice) :=
  match known.complete? with
  | some generation => .ok generation
  | none =>
    .error (.catalog (.noGeneration
      ((Characteristic.all.find? fun c => (known.get c).isNone).getD .fue)))

/-- Skills filed under their keys, which differ from each other and from those seen. -/
def fileSkills (seen : List String) : List Skill → Except Fault (List (Filed Skill))
  | [] => .ok []
  | s :: rest =>
    if seen.contains (SkillName.key s.name) then .error (.catalog (.duplicateSkill s.name))
    else do
      let filed ← fileSkills (SkillName.key s.name :: seen) rest
      return ⟨SkillName.key s.name, s⟩ :: filed

/-- Whether a range lies within the credit ratings that there are. -/
def isCreditRange (r : CreditRange) : Bool :=
  0 ≤ r.min && r.min ≤ r.max && r.max ≤ 99

/-- Whether nothing is picked from a group, or it offers nothing. -/
def isEmptyGroup (g : PickGroup) : Bool :=
  g.count == 0 || g.options.isEmpty

/-- Tests an occupation by itself: its credit ratings, its formula and its groups. -/
def checkOccupation (o : Occupation) : Except Fault Unit :=
  if !isCreditRange o.credit then .error (.catalog (.creditRange o.credit o.name))
  else match (Points.Formula.parse o.pointsFormula).check with
    | .error cause => .error (.occupationFormula cause o.name)
    | .ok () =>
      match o.pickGroups.find? isEmptyGroup with
      | some g => .error (.catalog (.emptyGroup g.label o.name))
      | none => .ok ()

/-- Occupations filed under their keys, which differ from each other and from those seen. -/
def fileOccupations (seen : List String) : List Occupation → Except Fault (List (Filed Occupation))
  | [] => .ok []
  | o :: rest =>
    if seen.contains (SkillName.key o.name) then .error (.catalog (.duplicateOccupation o.name))
    else do
      checkOccupation o
      let filed ← fileOccupations (SkillName.key o.name :: seen) rest
      return ⟨SkillName.key o.name, o⟩ :: filed

/-- Tests that the ratings of every finance band are a range. -/
def checkBands (bands : List FinanceBand) : Except Fault Unit :=
  match bands.find? fun band => band.max < band.min with
  | some band => .error (.catalog (.financeBand band.min band.max))
  | none => .ok ()

/-- The rulebook that a document holds. -/
def ofDocument (d : RulebookDocument) : Except Fault Rulebook := do
  let known ← readGeneration (Profile.uniform none) d.characteristics.entries
  let generation ← completeGeneration known
  let skills ← fileSkills [] d.skills
  let occupations ← fileOccupations [] d.occupations
  checkBands d.bands
  return { generation, skills
           specializations := specializationsOf skills
           families := d.families.map fun f => ⟨SkillName.key f.name, f⟩
           occupations, bands := d.bands }

/-- The rulebook that a JSON document holds. -/
def ofJson (j : Json) : Except Fault Rulebook :=
  match j.asRulebook? with
  | some d => ofDocument d
  | none => .error .malformedDocument

/-- The formulas of occupations that filing reads, in order: each one is read once the name and the
credit ratings before it are found good, and none is read after a contradiction. -/
def occupationFormulas (seen : List String) : List Occupation → List String
  | [] => []
  | o :: rest =>
    if seen.contains (SkillName.key o.name) || !isCreditRange o.credit then []
    else o.pointsFormula :: match checkOccupation o with
      | .ok () => occupationFormulas (SkillName.key o.name :: seen) rest
      | .error _ => []

/-- The point formulas that reading a rulebook reads. -/
def formulasRead (d : RulebookDocument) : List String :=
  let before : Except Fault Unit := do
    let known ← readGeneration (Profile.uniform none) d.characteristics.entries
    let _ ← completeGeneration known
    let _ ← fileSkills [] d.skills
  match before with
  | .ok () => occupationFormulas [] d.occupations
  | .error _ => []

variable (r : Rulebook)

/-- The names of the catalog, in order. -/
def skillNames : List String :=
  r.skills.map fun s => s.entry.name

/-- The skill of the catalog with a name. -/
def skill? (name : String) : Option Skill :=
  (r.skills.find? fun s => s.key == SkillName.key name).map Filed.entry

/-- The skill family with a name, the last one listed if there are several. -/
def family? (name : String) : Option SkillFamily :=
  (r.families.reverse.find? fun f => f.key == SkillName.key name).map Filed.entry

/-- The occupation with a name. -/
def occupation? (name : String) : Option Occupation :=
  (r.occupations.find? fun o => o.key == SkillName.key name).map Filed.entry

/-- The names of the catalog whose family has a name, in order. -/
def specializationNames (family : String) : List String :=
  (r.specializations.lookup (SkillName.key family)).getD []

/-- Whether no personal points go to a skill when an investigator is created. -/
def isForbidden (name : String) : Bool :=
  SkillName.isCredit name ||
    match r.skill? name with
    | some s => s.forbidden
    | none => false

/-- The wealth that a credit rating gives. -/
def wealth? (rating : Int) : Option Wealth :=
  Wealth.find? r.bands rating

end Rulebook

end Chargen
