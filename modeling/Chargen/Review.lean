import Chargen.Budget
import Chargen.Review.Stage
import Chargen.SkillRow

/-!
# Reviewing a draft

Each stage of creation has its own issues, which depend on the part of the draft that is entered
there. A review at a stage lists the issues of all stages up to it, in order. A draft goes on when
none of them is an error.

* `Draft.issuesAt`: the issues of one stage.
* `Draft.review`: the report at a stage.
-/

namespace Chargen

namespace Draft

/-- The issues of the age and its penalties. -/
def ageIssues (d : Draft) : List Issue :=
  (if minAge ≤ d.age && d.age ≤ maxAge then [] else [.ageOutOfRange d.age]) ++
    ((d.split.mismatch? d.age).map Issue.penaltyMismatch).toList

/-- The issue of one characteristic, if it has one. -/
def characteristicIssue? (c : Characteristic) : Option Int → Option Issue
  | none => some (.characteristicMissing c)
  | some value =>
    if isLegalCharacteristic value then none else some (.characteristicIllegal c value)

/-- The issue of characteristics that were rolled at another age. -/
def staleIssue? (d : Draft) : Option Issue :=
  match d.rolledAt with
  | none => none
  | some age =>
    if age != d.age && !d.characteristics.isVoid then some (.characteristicsStale age d.age)
    else none

/-- The issues of the characteristics. -/
def characteristicIssues (d : Draft) : List Issue :=
  d.characteristics.toList.filterMap (fun e => characteristicIssue? e.1 e.2) ++
    d.staleIssue?.toList

/-- The selection, if it names an occupation at all. -/
def namedSelection? (d : Draft) : Option Selection :=
  d.selection.filter fun s => !Text.isBlankText s.name

/-- The selection and its occupation, if the rulebook lists it. -/
def knownOccupation? (r : Rulebook) (d : Draft) : Option (Occupation × Selection) :=
  d.namedSelection?.bind fun s => (r.occupation? s.name).map (·, s)

/-- The issues of the occupation and its credit rating. -/
def occupationIssues (r : Rulebook) (d : Draft) : List Issue :=
  match d.namedSelection? with
  | none => [.occupationMissing]
  | some s =>
    match r.occupation? s.name with
    | none => [.occupationUnknown s.name]
    | some o =>
      if o.credit.contains s.creditRating then []
      else [.creditOutOfRange s.creditRating o.credit o.name]

/-- The issues of tidy picks for a group, given the keys of the picks before them: a pick has at
most one. -/
def pickIssues (r : Rulebook) (g : PickGroup) (index : Nat) (seen : List String) :
    List String → List Issue
  | [] => []
  | pick :: rest =>
    let issue? : Option Issue :=
      if seen.contains (SkillName.key pick) then some (.pickRepeated index pick g.label)
      else if !Grant.offers r g pick then some (.pickOutsidePool index pick g.label)
      else if r.isForbidden pick then some (.pickForbidden index pick)
      else none
    issue?.toList ++ pickIssues r g index (SkillName.key pick :: seen) rest

/-- The issues of the picks for a group: their number, then each of them. -/
def groupIssues (r : Rulebook) (g : PickGroup) (index : Nat) (picks : List String) : List Issue :=
  let tidied := Grant.tidy picks
  (if tidied.length = g.count then [] else [.pickCount index g.label g.count tidied.length]) ++
    pickIssues r g index [] tidied

/-- The issues of the choices that an occupation leaves. -/
def choiceIssues (r : Rulebook) (o : Occupation) (s : Selection) : List Issue :=
  o.pickGroups.zipIdx.flatMap (fun (g, index) => groupIssues r g index (s.picksFor index)) ++
    ((Points.Formula.parse o.pointsFormula).openGroups s.formulaPicks).map fun g =>
      .formulaOpen g.key g.options

/-- The issue of a budget of the occupation that is exceeded. -/
def occupationBudgetIssue? (r : Rulebook) (d : Draft) : Option Issue :=
  match d.occupationBudget? r with
  | none => none
  | some b => if b.isExceeded then some (.occupationOverspent b.spent b.total) else none

/-- The issues of the occupation points. -/
def occupationPointIssues (r : Rulebook) (d : Draft) (o : Occupation) (s : Selection) :
    List Issue :=
  (d.occupationBudgetIssue? r).toList ++
    d.spending.occupation.merged.filterMap fun (skill, points) =>
      if points == 0 || SkillName.isCredit skill || Grant.allows r o s skill then none
      else some (.skillNotGranted skill o.name)

/-- The issue of a row above a cap. -/
def capIssue? (row : SkillRow) : Option Issue :=
  if absoluteCap < row.total then some (.aboveAbsoluteCap row.name row.total)
  else if creationCap < row.total && 0 < word (row.occupation + row.personal) &&
      !SkillName.isCredit row.name then
    some (.aboveCreationCap row.name row.total)
  else none

/-- The issues of the skills once occupation points are spent. -/
def occupationSkillIssues (r : Rulebook) (d : Draft) : List Issue :=
  (match d.knownOccupation? r with
    | some (o, s) => d.occupationPointIssues r o s
    | none => []) ++
    (d.rows r).filterMap capIssue?

/-- The issues of the personal points. -/
def personalSkillIssues (r : Rulebook) (d : Draft) : List Issue :=
  (if d.personalBudget.isExceeded then
      [.personalOverspent d.personalBudget.spent d.personalBudget.total]
    else []) ++
    d.spending.personal.merged.filterMap fun (skill, points) =>
      if 0 < points && r.isForbidden skill then some (.skillForbidden skill) else none

/-- The issues of the identity. -/
def identityIssues (d : Draft) : List Issue :=
  if Text.isBlankText d.identity.name then [.nameMissing] else []

/-- The issues of the background. -/
def backgroundIssues (d : Draft) : List Issue :=
  (if d.background.filled < minCategories then [.backgroundThin d.background.filled] else []) ++
    if Text.isBlankText d.background.coreBond then [.coreBondMissing] else []

end Draft

namespace Equipment

/-- The text of a required field. -/
def text (e : Equipment) : EquipmentField → String
  | .spendingLevel => e.spendingLevel
  | .cash => e.cash
  | .assets => e.assets
  | .notes => e.notes

/-- The required fields that are empty. -/
def missing (e : Equipment) : List EquipmentField :=
  EquipmentField.all.filter fun f => Text.isBlankText (e.text f)

end Equipment

namespace Draft

/-- The issues of one stage. -/
def issuesAt (r : Rulebook) (d : Draft) : Stage → List Issue
  | .age => d.ageIssues
  | .characteristics => d.characteristicIssues
  | .vitals => []
  | .occupation => d.occupationIssues r
  | .choices =>
    match d.knownOccupation? r with
    | some (o, s) => choiceIssues r o s
    | none => []
  | .occupationSkills => d.occupationSkillIssues r
  | .personalSkills => d.personalSkillIssues r
  | .identity => d.identityIssues
  | .background => d.backgroundIssues
  | .equipment => d.equipment.missing.map Issue.equipmentMissing

end Draft

/-- The issues of a draft up to a stage. -/
structure Report where
  /-- the stage -/
  stage : Stage
  /-- the issues in order -/
  issues : List Issue
deriving DecidableEq, Repr

namespace Report

/-- The issues that keep the draft from going on. -/
def errors (r : Report) : List Issue :=
  r.issues.filter Issue.isError

/-- The issues that do not. -/
def warnings (r : Report) : List Issue :=
  r.issues.filter fun i => !i.isError

/-- Whether an issue keeps the draft from going on. -/
def hasErrors (r : Report) : Bool :=
  r.issues.any Issue.isError

/-- Whether the draft may go on. -/
def canAdvance (r : Report) : Bool :=
  !r.hasErrors

end Report

/-- The report of a draft at a stage: the issues of all stages up to it. -/
def Draft.review (r : Rulebook) (stage : Stage) (d : Draft) : Report where
  stage
  issues := stage.upTo.flatMap (d.issuesAt r)

end Chargen
