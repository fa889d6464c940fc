import Chargen.Points.Cache
import Chargen.Rulebook.Standard

/-!
# Loading rulebooks

A rulebook is loaded from the standard document or from a text. While its occupations are filed,
their formulas are read through a cache, which keeps what it has read even if the load fails later
on.

* `RulebookSource.rulebook`: the rulebook that a source holds, without a cache.
* `Rulebook.load`: the rulebook of a document, with its formulas read through a cache.
-/

namespace Chargen

namespace Rulebook

/-- Tests what an occupation says beyond its credit ratings: its formula and its groups. -/
def checkFormula (o : Occupation) (f : Points.Formula) : Except Fault Unit :=
  match f.check with
  | .error cause => .error (.occupationFormula cause o.name)
  | .ok () =>
    match o.pickGroups.find? isEmptyGroup with
    | some g => .error (.catalog (.emptyGroup g.label o.name))
    | none => .ok ()

/-- Occupations filed under their keys, which differ from each other and from those seen, with the
formula of each one read through a cache. -/
def fileThrough (seen : List String) :
    List Occupation → ExceptT Fault (StateM Points.Cache) (List (Filed Occupation))
  | [] => return []
  | o :: rest =>
    if seen.contains (SkillName.key o.name) then throw (.catalog (.duplicateOccupation o.name))
    else if !isCreditRange o.credit then throw (.catalog (.creditRange o.credit o.name))
    else do
      checkFormula o (← Points.Cache.read o.pointsFormula)
      let filed ← fileThrough (SkillName.key o.name :: seen) rest
      return ⟨SkillName.key o.name, o⟩ :: filed

/-- The rulebook that a document holds, with the formulas of its occupations read through a
cache. -/
def load (d : RulebookDocument) : ExceptT Fault (StateM Points.Cache) Rulebook := do
  let known ← readGeneration (Profile.uniform none) d.characteristics.entries
  let generation ← completeGeneration known
  let skills ← fileSkills [] d.skills
  let occupations ← fileThrough [] d.occupations
  checkBands d.bands
  return { generation, skills
           specializations := specializationsOf skills
           families := d.families.map fun f => ⟨SkillName.key f.name, f⟩
           occupations, bands := d.bands }

end Rulebook

/-- Where a rulebook is loaded from. -/
inductive RulebookSource where
  /-- the standard document -/
  | standard
  /-- a text that holds a JSON document -/
  | text (t : String)
deriving DecidableEq

namespace RulebookSource

/-- The document that a source holds, if it holds one. -/
def document? : RulebookSource → Option RulebookDocument
  | .standard => some Rulebook.standardDocument
  | .text t => (Json.parse t).bind Json.asRulebook?

/-- The rulebook that a source holds. -/
def rulebook (source : RulebookSource) : Except Fault Rulebook :=
  match source.document? with
  | some d => Rulebook.ofDocument d
  | none => .error .malformedDocument

/-- The point formulas that loading a source reads. -/
def formulasRead (source : RulebookSource) : List String :=
  match source.document? with
  | some d => Rulebook.formulasRead d
  | none => []

end RulebookSource

/-- A rulebook that was loaded from some source. -/
structure LoadedRulebook where
  /-- the rulebook -/
  rulebook : Rulebook
  loaded : ∃ source : RulebookSource, source.rulebook = .ok rulebook

end Chargen
