import Chargen.Review

/-!
# Reviewing check by check

A review can also go through its checks in turn, adding the issues that each of them finds to a list
of those found so far. A check is made if its stage is reached. The check of the occupation also
hands the occupation on, to the checks of its choices and of the points spent on it.

* `Draft.checkOccupation`: checks the occupation, and hands it on.
* `Draft.reviewInTurn`: the checks up to a stage.
-/

namespace Chargen

/-- A part of a review, with the list of the issues found so far. -/
abbrev Reviewing (α : Type) : Type := StateM (List Issue) α

namespace Reviewing

/-- Puts issues behind those found so far. -/
def add (issues : List Issue) : Reviewing Unit :=
  modify (· ++ issues)

/-- A check that is made if its stage is reached, and finds nothing if not. -/
def fromStage {α : Type} [Inhabited α] (first stage : Stage) (check : Reviewing α) : Reviewing α :=
  if first.number ≤ stage.number then check else pure default

end Reviewing

namespace Draft

open Reviewing (add fromStage)

/-- Checks the occupation and its credit rating. Hands on the occupation with the selection, also if
the rating is out of range. -/
def checkOccupation (r : Rulebook) (d : Draft) : Reviewing (Option (Occupation × Selection)) := do
  match d.namedSelection? with
  | none =>
    add [.occupationMissing]
    return none
  | some s =>
    match r.occupation? s.name with
    | none =>
      add [.occupationUnknown s.name]
      return none
    | some o =>
      if !o.credit.contains s.creditRating then
        add [.creditOutOfRange s.creditRating o.credit o.name]
      return some (o, s)

/-- Checks the choices of the occupation, if there is one. -/
def checkChoices (r : Rulebook) : Option (Occupation × Selection) → Reviewing Unit
  | none => return
  | some (o, s) => add (choiceIssues r o s)

/-- Checks the occupation points, if there is an occupation, and then all skills. -/
def checkOccupationSkills (r : Rulebook) (d : Draft) (occupation : Option (Occupation × Selection)) :
    Reviewing Unit := do
  match occupation with
  | none => pure ()
  | some (o, s) => add (d.occupationPointIssues r o s)
  add ((d.rows r).filterMap capIssue?)

/-- The checks up to a stage, in turn. -/
def reviewInTurn (r : Rulebook) (stage : Stage) (d : Draft) : Reviewing Unit := do
  add d.ageIssues
  fromStage .characteristics stage (add d.characteristicIssues)
  let occupation ← fromStage .occupation stage (d.checkOccupation r)
  fromStage .choices stage (checkChoices r occupation)
  fromStage .occupationSkills stage (d.checkOccupationSkills r occupation)
  fromStage .personalSkills stage (add (d.personalSkillIssues r))
  fromStage .identity stage (add d.identityIssues)
  fromStage .background stage (add d.backgroundIssues)
  fromStage .equipment stage (add (d.equipment.missing.map Issue.equipmentMissing))

end Draft

end Chargen
