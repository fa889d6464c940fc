import Chargen.Grant

/-!
# Entries and picks taken in turn

An entry can also be read alternative by alternative, and the picks of a player one by one. The
first alternative that is any skill ends the reading of an entry; picks are taken until the group
has as many as it asks for, and the rest of them is not looked at.

* `resolveInTurn`: the skills that alternatives name, behind those found so far.
* `properInTurn`: the picks that are kept, behind those whose keys were seen.
-/

namespace Chargen.Grant

open SkillName (isWildcard)

variable (r : Rulebook)

/-- The skills that alternatives name, behind those found so far; the whole catalog as soon as an
alternative is any skill. -/
def resolveInTurn (found : List String) : List String → List String
  | [] => SkillName.distinct found
  | alternative :: rest =>
    if isWildcard alternative then r.skillNames
    else resolveInTurn (found ++ expand r alternative) rest

/-- Whether a pick without blanks around it counts for a group: it is not empty, the group offers
it, and it is not forbidden at creation. -/
def counts (g : PickGroup) (pick : String) : Bool :=
  !pick.isEmpty && offers r g pick && !r.isForbidden pick

/-- The picks kept for a group of which so many are still wanted, behind those whose keys were
seen. -/
def properInTurn (g : PickGroup) (seen : List String) : Nat → List String → List String
  | 0, _ => []
  | _ + 1, [] => []
  | wanted + 1, written :: rest =>
    let pick := Text.trimmed written
    if counts r g pick && !seen.contains (SkillName.key pick) then
      pick :: properInTurn g (SkillName.key pick :: seen) wanted rest
    else properInTurn g seen (wanted + 1) rest

end Chargen.Grant
