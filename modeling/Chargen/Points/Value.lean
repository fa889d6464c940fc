import Chargen.Clip
import Chargen.Points.Formula
import Chargen.Profile
import Chargen.SortedMap

/-!
# The value of a point formula

The value of a formula for a block depends on the options picked for its choices. An open choice,
and one whose picked text is none of its options, takes its first branch. Sums and products are
clipped one by one, and an unknown token counts nothing.
-/

namespace Chargen.Points

/-- The text picked for each choice, by number. -/
abbrev Picks := SortedMap Nat String

/-- Whether two texts are equal but for the case of the letters from `A` to `Z`. -/
def sameLetters (s t : String) : Bool :=
  s.toList.map Char.toLower == t.toList.map Char.toLower

/-- The place among the options of the text picked for choice `k`, blanks and case aside. -/
def pickedBranch? (picks : Picks) (k : Nat) (options : List String) : Option Nat :=
  match picks.get? k with
  | none => none
  | some picked => options.findIdx? fun option => sameLetters option (Text.stripped picked)

namespace Tree

mutual

/-- The value of a tree whose choices are numbered from `k` on. -/
def valueFrom (b : Block) (picks : Picks) (k : Nat) : Tree → Int
  | .sum terms => sumFrom b picks k 0 terms
  | .choice options branches =>
    branchFrom b picks (k + 1) ((pickedBranch? picks k options).getD 0) branches
  | .scaled c factor => clip (b.get c * factor)
  | .single c => b.get c
  | .constant n => n
  | .unknown _ => 0

/-- The values of trees added one by one to a sum so far. -/
def sumFrom (b : Block) (picks : Picks) (k : Nat) (sum : Int) : List Tree → Int
  | [] => sum
  | t :: ts => sumFrom b picks (k + t.choiceCount) (clip (sum + valueFrom b picks k t)) ts

/-- The value of the tree at a place in a list, zero beyond its end. -/
def branchFrom (b : Block) (picks : Picks) (k : Nat) (place : Nat) : List Tree → Int
  | [] => 0
  | t :: ts =>
    match place with
    | 0 => valueFrom b picks k t
    | place + 1 => branchFrom b picks (k + t.choiceCount) place ts

end

end Tree

namespace Formula

/-- The value of a formula for a block and the options picked. -/
def value (f : Formula) (b : Block) (picks : Picks) : Int :=
  f.tree.valueFrom b picks 0

/-- The choices for which no option is picked. -/
def openGroups (f : Formula) (picks : Picks) : List ChoiceGroup :=
  f.groups.filter fun g => (pickedBranch? picks g.key g.options).isNone

end Formula

end Chargen.Points
