import Chargen.Clip
import Chargen.SkillName
import Chargen.SortedMap

/-!
# Spending

Skill points come from two pools, that of the occupation and that of personal interests. A pool
holds points by name as the player spelled it; every question about a skill goes by the key of its
name, so all spellings count together. Sums are clipped to a sheet number.
-/

namespace Chargen

/-- The points given to each spelling of a skill. -/
abbrev Pool := SortedMap String Nat

namespace Pool

/-- The sum of the points of the entries whose name passes a test. -/
def sumWhere (p : Pool) (keep : String → Bool) : Nat :=
  ((p.entries.filter fun e => keep e.1).map Prod.snd).foldr (· + ·) 0

/-- The points of a skill, under all its spellings. -/
def points (p : Pool) (skill : String) : Int :=
  clip (p.sumWhere fun name => SkillName.same name skill)

/-- The points spent on all skills but the one that the credit rating feeds. -/
def spent (p : Pool) : Int :=
  clip (p.sumWhere fun name => !SkillName.isCredit name)

/-- The pool with new points for a skill in place of all its spellings; zero points leave
no entry. -/
def assign (p : Pool) (skill : String) (points : Nat) : Pool :=
  let others := SortedMap.filterKeys p fun name => !SkillName.same name skill
  if points = 0 then others else others.insert (Text.trimmed skill) points

/-- Points added to those of a key in a list, or a new entry at its end. -/
def addTo (key name : String) (points : Nat) : List (String × String × Nat) →
    List (String × String × Nat)
  | [] => [(key, name, points)]
  | (k, n, sum) :: rest =>
    if k == key then (k, n, sum + points) :: rest
    else (k, n, sum) :: addTo key name points rest

/-- The points of each skill, under the first of its spellings. -/
def merged (p : Pool) : List (String × Int) :=
  let sums := p.entries.foldl (fun sums e => addTo (SkillName.key e.1) e.1 e.2 sums) []
  sums.map fun (_, name, sum) => (name, clip sum)

end Pool

/-- The points spent from both pools. -/
structure Spending where
  /-- points of the occupation -/
  occupation : Pool
  /-- points of personal interests -/
  personal : Pool
deriving DecidableEq, Inhabited

/-- Nothing is spent. -/
def Spending.nothing : Spending := ⟨SortedMap.empty, SortedMap.empty⟩

end Chargen
