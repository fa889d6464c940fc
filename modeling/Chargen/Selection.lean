import Chargen.Points.Value
import Chargen.SortedMap

/-!
# Selections

A selection names an occupation and holds the credit rating, the skills picked for its groups and
the options picked for its points formula. Picks are filed under the occupation and the index of the
group, so those of another occupation stay apart.
-/

namespace Chargen

/-- One group of picks of one occupation. -/
structure GroupRef where
  /-- the name of the occupation -/
  occupation : String
  /-- the index of the group -/
  index : Nat
deriving DecidableEq, Repr

namespace GroupRef

instance : Ord GroupRef where
  compare := compareLex (compareOn GroupRef.occupation) (compareOn GroupRef.index)

instance : Std.TransOrd GroupRef :=
  inferInstanceAs (Std.TransCmp
    (compareLex (compareOn GroupRef.occupation) (compareOn GroupRef.index)))

instance : Std.LawfulEqOrd GroupRef where
  eq_of_compare {a b} h := by
    have h' : (compare a.occupation b.occupation).then (compare a.index b.index) = .eq := h
    rw [Ordering.then_eq_eq] at h'
    cases a; cases b
    simp_all

end GroupRef

/-- The occupation of an investigator with all that is chosen for it. -/
structure Selection where
  /-- the name of the occupation -/
  name : String
  /-- the credit rating -/
  creditRating : Int
  /-- the skills picked for each group -/
  picks : SortedMap GroupRef (List String)
  /-- the options picked for the points formula -/
  formulaPicks : Points.Picks
deriving DecidableEq

namespace Selection

/-- A selection without choices. -/
def start (name : String) (creditRating : Int) : Selection :=
  ⟨name, creditRating, SortedMap.empty, SortedMap.empty⟩

/-- A group of the selected occupation. -/
def groupRef (s : Selection) (index : Nat) : GroupRef :=
  ⟨s.name, index⟩

/-- The skills picked for a group of the selected occupation. -/
def picksFor (s : Selection) (index : Nat) : List String :=
  (s.picks.get? (s.groupRef index)).getD []

/-- The selection with new picks for a group; no picks leave no entry. -/
def setPicks (s : Selection) (index : Nat) (skills : List String) : Selection :=
  { s with
    picks :=
      if skills.isEmpty then s.picks.erase (s.groupRef index)
      else s.picks.insert (s.groupRef index) skills }

end Selection

end Chargen
