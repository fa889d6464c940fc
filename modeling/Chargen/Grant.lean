import Chargen.Rulebook
import Chargen.Selection

/-!
# What an occupation grants

An occupation grants entries written for people: a skill, several alternatives, a whole family, or
any skill at all. `Grant.resolve` lists the skills of an entry, and `Grant.covers` tells whether an
entry covers a skill. Groups of picks offer a pool of skills; of the player's picks only the proper
ones count, which `Grant.proper` keeps.

* `Grant.listed`: the skills that may receive occupation points.
* `Grant.allows`: whether a skill may receive occupation points.
-/

namespace Chargen.Grant

open SkillName (alternatives isWildcard)

variable (r : Rulebook)

/-- The skills that one alternative names: the listed specializations if it names a family that has
some, and itself otherwise. -/
def expand (alternative : String) : List String :=
  if (SkillName.family? alternative).isNone && !(r.specializationNames alternative).isEmpty then
    r.specializationNames alternative
  else [alternative]

/-- The skills that an entry names; the whole catalog if one of its alternatives is any skill. -/
def resolve (entry : String) : List String :=
  if (alternatives entry).any isWildcard then r.skillNames
  else SkillName.distinct ((alternatives entry).flatMap (expand r))

/-- Whether an alternative covers a skill, given by its key: by its own name, or as the family of
the skill. -/
def alternativeCovers (alternative skillKey : String) : Bool :=
  let key := SkillName.key alternative
  key == skillKey ||
    (SkillName.family? key).isNone && (SkillName.family? skillKey).map Prod.fst == some key

/-- Whether an entry covers a skill. -/
def covers (entry skill : String) : Bool :=
  let key := SkillName.key skill
  (alternatives entry).any fun alternative =>
    isWildcard alternative || alternativeCovers alternative key

/-- The skills that a group offers. -/
def pool (g : PickGroup) : List String :=
  SkillName.distinct (g.options.flatMap (resolve r))

/-- Whether a group offers a pick: as one of its alternatives, or as a skill of its pool. -/
def offers (g : PickGroup) (pick : String) : Bool :=
  ((g.options.flatMap alternatives).any fun alternative =>
      !isWildcard alternative && SkillName.same alternative pick) ||
    (pool r g).any fun skill => SkillName.same skill pick

/-- Picks without the blanks around them; blank ones are left out. -/
def tidy (picks : List String) : List String :=
  (picks.map Text.trimmed).filter fun pick => !pick.isEmpty

/-- The proper picks for a group: those that it offers and that are not forbidden at creation, each
skill once, and no more than the group asks for. -/
def proper (g : PickGroup) (picks : List String) : List String :=
  (SkillName.distinct
    ((tidy picks).filter fun pick => offers r g pick && !r.isForbidden pick)).take g.count

/-- The proper picks of a selection, group by group. -/
def properPicks (o : Occupation) (s : Selection) : List String :=
  o.pickGroups.zipIdx.flatMap fun (g, index) => proper r g (s.picksFor index)

/-- The skills that may receive occupation points. -/
def listed (o : Occupation) (s : Selection) : List String :=
  SkillName.distinct
    (o.grants.flatMap (resolve r) ++ (properPicks r o s).flatMap (resolve r) ++ [SkillName.credit])

/-- Whether a skill may receive occupation points. -/
def allows (o : Occupation) (s : Selection) (skill : String) : Bool :=
  SkillName.isCredit skill ||
    o.grants.any (fun entry => covers entry skill) ||
    (properPicks r o s).any fun pick => covers pick skill

end Chargen.Grant
