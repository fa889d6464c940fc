import Chargen.Rulebook

/-!
# Rulebooks with indices

A rulebook can also keep its entries as its document lists them, and beside them an index for each
way to look them up: a map from keys to places in a list. The indices are filled entry by entry
while the rulebook is read. A look-up goes from a key to a place and from there to the entry, and a
place beyond the end of the list is an error of its own.

* `IndexedRulebook.ofDocument`: reads a rulebook and fills its indices.
* `IndexedRulebook.skill?` and the like: the look-ups through the indices.
-/

namespace Chargen

/-- A place beyond the end of a list. -/
structure OutOfBounds where
  /-- the place -/
  place : Nat
  /-- the length of the list -/
  length : Nat
deriving DecidableEq, Repr

/-- The entry at a place of a list. -/
def entryAt {α : Type} (entries : List α) (place : Nat) : Except OutOfBounds α :=
  match entries[place]? with
  | some entry => .ok entry
  | none => .error ⟨place, entries.length⟩

/-- The entry that an index has a place for. -/
def indexed? {α : Type} (index : SortedMap String Nat) (entries : List α) (key : String) :
    Except OutOfBounds (Option α) :=
  (index.get? key).mapM (entryAt entries)

/-- The indices of a catalog. -/
structure CatalogIndex where
  /-- where the skill with a key stands -/
  places : SortedMap String Nat
  /-- where the specializations of a family stand, by the family's key -/
  specializations : SortedMap String (List Nat)

/-- A rulebook with its indices. -/
structure IndexedRulebook where
  /-- the dice of each characteristic -/
  generation : Profile Dice
  /-- the skills of the catalog -/
  skills : List Skill
  /-- the skill families -/
  families : List SkillFamily
  /-- the occupations -/
  occupations : List Occupation
  /-- the finance bands -/
  bands : List FinanceBand
  /-- the indices of the catalog -/
  catalog : CatalogIndex
  /-- where the skill family with a key stands, the last one listed if there are several -/
  familyPlaces : SortedMap String Nat
  /-- where the occupation with a key stands -/
  occupationPlaces : SortedMap String Nat

namespace CatalogIndex

/-- The indices of a catalog without skills. -/
def empty : CatalogIndex := ⟨.empty, .empty⟩

/-- The indices with a further skill at a place. -/
def add (index : CatalogIndex) (e : Skill × Nat) : CatalogIndex where
  places := index.places.insert (SkillName.key e.1.name) e.2
  specializations :=
    match SkillName.family? (SkillName.key e.1.name) with
    | some (family, _) =>
      index.specializations.insert family
        ((index.specializations.get? family).getD [] ++ [e.2])
    | none => index.specializations

/-- Files a skill, whose name must be new. -/
def file (index : CatalogIndex) (e : Skill × Nat) : Except Fault CatalogIndex :=
  if index.places.contains (SkillName.key e.1.name) then
    .error (.catalog (.duplicateSkill e.1.name))
  else .ok (index.add e)

end CatalogIndex

namespace IndexedRulebook

/-- Files an occupation, whose name must be new and which must pass its test. -/
def fileOccupation (places : SortedMap String Nat) (e : Occupation × Nat) :
    Except Fault (SortedMap String Nat) :=
  if places.contains (SkillName.key e.1.name) then
    .error (.catalog (.duplicateOccupation e.1.name))
  else do
    Rulebook.checkOccupation e.1
    return places.insert (SkillName.key e.1.name) e.2

/-- The keys of entries, each with the place of the entry. -/
def placed {α : Type} (name : α → String) (entries : List (α × Nat)) : List (String × Nat) :=
  entries.map fun e => (SkillName.key (name e.1), e.2)

/-- The rulebook that a document holds. -/
def ofDocument (d : RulebookDocument) : Except Fault IndexedRulebook := do
  let known ← Rulebook.readGeneration (Profile.uniform none) d.characteristics.entries
  let generation ← Rulebook.completeGeneration known
  let catalog ← d.skills.zipIdx.foldlM CatalogIndex.file .empty
  let familyPlaces := SortedMap.ofList (placed SkillFamily.name d.families.zipIdx)
  let occupationPlaces ← d.occupations.zipIdx.foldlM fileOccupation .empty
  Rulebook.checkBands d.bands
  return { generation, skills := d.skills, families := d.families, occupations := d.occupations
           bands := d.bands, catalog, familyPlaces, occupationPlaces }

/-- The rulebook that a JSON document holds. -/
def ofJson (j : Json) : Except Fault IndexedRulebook :=
  match j.asRulebook? with
  | some d => ofDocument d
  | none => .error .malformedDocument

variable (r : IndexedRulebook)

/-- The skill of the catalog with a name. -/
def skill? (name : String) : Except OutOfBounds (Option Skill) :=
  indexed? r.catalog.places r.skills (SkillName.key name)

/-- The skill family with a name, the last one listed if there are several. -/
def family? (name : String) : Except OutOfBounds (Option SkillFamily) :=
  indexed? r.familyPlaces r.families (SkillName.key name)

/-- The occupation with a name. -/
def occupation? (name : String) : Except OutOfBounds (Option Occupation) :=
  indexed? r.occupationPlaces r.occupations (SkillName.key name)

/-- The skills of the catalog whose family has a name, in order. -/
def specializations (family : String) : Except OutOfBounds (List Skill) :=
  match r.catalog.specializations.get? (SkillName.key family) with
  | some places => places.mapM (entryAt r.skills)
  | none => .ok []

/-- Whether no personal points go to a skill when an investigator is created. -/
def isForbidden (name : String) : Except OutOfBounds Bool :=
  if SkillName.key name == SkillName.key SkillName.credit then .ok true
  else do
    let skill ← indexed? r.catalog.places r.skills (SkillName.key name)
    return (skill.map Skill.forbidden).getD false

end IndexedRulebook

end Chargen
