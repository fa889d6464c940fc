import Chargen.Json.Reader
import Chargen.Json.Record
import Chargen.Rulebook.Entry
import Chargen.SortedMap
import Chargen.Wealth

/-!
# Rulebook documents

A rulebook as it is written down: its parts have their form, but nothing is known yet about whether
they fit together.
-/

namespace Chargen

/-- A rulebook as written. -/
structure RulebookDocument where
  /-- the dice of each characteristic, by key -/
  characteristics : SortedMap String String
  /-- the skill families -/
  families : List SkillFamily
  /-- the skills of the catalog -/
  skills : List Skill
  /-- the occupations -/
  occupations : List Occupation
  /-- the finance bands -/
  bands : List FinanceBand
deriving Inhabited

namespace Json

/-- An object as a map from names to values, a later member replacing an earlier one. -/
def asMap? {ν : Type} (value : Json → Option ν) (j : Json) : Option (SortedMap String ν) := do
  let members ← j.asObject?
  let entries ← members.mapM fun m => (value m.2).map (m.1.text, ·)
  return SortedMap.ofList entries

/-- A skill of the catalog. -/
def asSkill? (j : Json) : Option Skill := do
  match ← j.fields ["name", "base", "forbidden_at_creation"] with
  | [name, base, forbidden] =>
    return { name := ← required asString? name
             base := ← withDefault 0 asNumber? base
             forbidden := ← withDefault false asBool? forbidden }
  | _ => none

/-- A skill family. -/
def asSkillFamily? (j : Json) : Option SkillFamily := do
  match ← j.fields ["name", "base"] with
  | [name, base] =>
    return { name := ← required asString? name, base := ← withDefault 0 asNumber? base }
  | _ => none

/-- A range of credit ratings. -/
def asCreditRange? (j : Json) : Option CreditRange := do
  match ← j.fields ["min", "max"] with
  | [min, max] => return { min := ← required asNumber? min, max := ← required asNumber? max }
  | _ => none

/-- A group of picks. -/
def asPickGroup? (j : Json) : Option PickGroup := do
  match ← j.fields ["label", "count", "options"] with
  | [label, count, options] =>
    return { label := ← required asString? label
             count := ← required asIndex? count
             options := ← required (asList? asString?) options }
  | _ => none

/-- An occupation. -/
def asOccupation? (j : Json) : Option Occupation := do
  match ← j.fields ["name", "credit_rating", "points_formula", "skills", "choice_groups"] with
  | [name, credit, formula, grants, groups] =>
    return { name := ← required asString? name
             credit := ← required asCreditRange? credit
             pointsFormula := ← required asString? formula
             grants := ← withDefault [] (asList? asString?) grants
             pickGroups := ← withDefault [] (asList? asPickGroup?) groups }
  | _ => none

/-- A money rule. -/
def asMoneyRule? (j : Json) : Option MoneyRule := do
  match ← j.fields ["fixed", "per_point"] with
  | [fixed, perPoint] =>
    return { fixed := ← withDefault 0 asFloat? fixed
             perPoint := ← withDefault 0 asFloat? perPoint }
  | _ => none

/-- A finance band. -/
def asFinanceBand? (j : Json) : Option FinanceBand := do
  match ← j.fields ["min", "max", "spending_level", "cash", "assets"] with
  | [min, max, level, cash, assets] =>
    return { min := ← required asNumber? min
             max := ← required asNumber? max
             spendingLevel := ← required asFloat? level
             cash := ← withDefault MoneyRule.nothing asMoneyRule? cash
             assets := ← withDefault MoneyRule.nothing asMoneyRule? assets }
  | _ => none

/-- A rulebook. -/
def asRulebook? (j : Json) : Option RulebookDocument := do
  match ← j.fields ["characteristics", "skill_families", "skills", "occupations", "finance"] with
  | [characteristics, families, skills, occupations, bands] =>
    return { characteristics := ← required (asMap? asString?) characteristics
             families := ← withDefault [] (asList? asSkillFamily?) families
             skills := ← required (asList? asSkill?) skills
             occupations := ← required (asList? asOccupation?) occupations
             bands := ← withDefault [] (asList? asFinanceBand?) bands }
  | _ => none

end Json

end Chargen
