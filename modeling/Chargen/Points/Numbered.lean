import Chargen.Points.Best

/-!
# Point formulas whose choices hold their numbers

A text can also be read with the number of each choice kept in the tree. The reader then carries a
counter through the parts of the text: a choice takes the next number before its branches are read,
and every part goes on counting where the one before it has stopped. All walks over such a tree look
at the numbers that it holds.

* `readNumbered`: the reader with its counter.
* `Numbered.groups`, `Numbered.openGroups`, `Numbered.value`: the walks.
* `NumberedFormula`: a text read so, with the number of its choices.
-/

namespace Chargen.Points

/-- A point formula read as a tree whose choices hold their numbers. -/
inductive Numbered where
  /-- terms to be added -/
  | sum (terms : List Numbered)
  /-- a choice with its number and its options, and what each of them means -/
  | choice (group : ChoiceGroup) (branches : List Numbered)
  /-- a characteristic multiplied -/
  | scaled (c : Characteristic) (factor : Nat)
  /-- a characteristic alone -/
  | single (c : Characteristic)
  /-- a number -/
  | constant (n : Nat)
  /-- a token that cannot be read -/
  | unknown (token : String)
deriving Repr, Inhabited

namespace Tree

mutual

/-- The tree with the numbers of its choices, from `k` on, written into it. -/
def numberedFrom (k : Nat) : Tree → Numbered
  | .sum terms => .sum (numberedFromAll k terms)
  | .choice options branches => .choice ⟨k, options⟩ (numberedFromAll (k + 1) branches)
  | .scaled c factor => .scaled c factor
  | .single c => .single c
  | .constant n => .constant n
  | .unknown token => .unknown token

/-- The trees of a list, numbered one after the other. -/
def numberedFromAll (k : Nat) : List Tree → List Numbered
  | [] => []
  | t :: ts => numberedFrom k t :: numberedFromAll (k + choiceCount t) ts

end

end Tree

/-- The tree of a text without blanks. The state is the next number: a choice takes it before its
branches are read, and an atom has no use for it. -/
def readNumbered (token : List Char) : StateM Nat Numbered := do
  if _several : 1 < (split isPlus (stripOuter token)).length then
    let terms ← (split isPlus (stripOuter token)).attach.mapM fun part => readNumbered part.1
    return .sum terms
  else if _several : 1 < (split isOr (stripOuter token)).length then
    let number ← get
    set (number + 1)
    let branches ← (split isOr (stripOuter token)).attach.mapM fun part => readNumbered part.1
    return .choice ⟨number, (split isOr (stripOuter token)).map String.ofList⟩ branches
  else return (readAtom (stripOuter token)).numberedFrom (← get)
termination_by token.length
decreasing_by
  all_goals
    exact Nat.lt_of_lt_of_le (length_lt_of_mem_split _several part.2) (length_stripOuter_le token)

namespace Numbered

mutual

/-- The choices of a tree in pre-order. -/
def groups : Numbered → List ChoiceGroup
  | .sum terms => groupsOfAll terms
  | .choice group branches => group :: groupsOfAll branches
  | _ => []

/-- The choices of the trees of a list, one tree after the other. -/
def groupsOfAll : List Numbered → List ChoiceGroup
  | [] => []
  | t :: ts => groups t ++ groupsOfAll ts

end

mutual

/-- The choices of a tree for which no option is picked, in pre-order. -/
def openGroups (picks : Picks) : Numbered → List ChoiceGroup
  | .sum terms => openGroupsOfAll picks terms
  | .choice group branches =>
    if (pickedBranch? picks group.key group.options).isNone then
      group :: openGroupsOfAll picks branches
    else openGroupsOfAll picks branches
  | _ => []

/-- The open choices of the trees of a list, one tree after the other. -/
def openGroupsOfAll (picks : Picks) : List Numbered → List ChoiceGroup
  | [] => []
  | t :: ts => openGroups picks t ++ openGroupsOfAll picks ts

end

mutual

/-- The value of a tree. -/
def value (b : Block) (picks : Picks) : Numbered → Int
  | .sum terms => sumValue b picks 0 terms
  | .choice group branches =>
    branchValue b picks ((pickedBranch? picks group.key group.options).getD 0) branches
  | .scaled c factor => clip (b.get c * factor)
  | .single c => b.get c
  | .constant n => n
  | .unknown _ => 0

/-- The values of trees added one by one to a sum so far. -/
def sumValue (b : Block) (picks : Picks) (sum : Int) : List Numbered → Int
  | [] => sum
  | t :: ts => sumValue b picks (clip (sum + value b picks t)) ts

/-- The value of the tree at a place in a list, zero beyond its end. -/
def branchValue (b : Block) (picks : Picks) (place : Nat) : List Numbered → Int
  | [] => 0
  | t :: ts =>
    match place with
    | 0 => value b picks t
    | place + 1 => branchValue b picks place ts

end

mutual

/-- The tree with all its numbers higher by `d`. -/
def shift (d : Nat) : Numbered → Numbered
  | .sum terms => .sum (shiftAll d terms)
  | .choice group branches => .choice ⟨d + group.key, group.options⟩ (shiftAll d branches)
  | .scaled c factor => .scaled c factor
  | .single c => .single c
  | .constant n => .constant n
  | .unknown token => .unknown token

/-- The trees of a list with all their numbers higher by `d`. -/
def shiftAll (d : Nat) : List Numbered → List Numbered
  | [] => []
  | t :: ts => shift d t :: shiftAll d ts

end

end Numbered

/-- A point formula whose choices hold their numbers. -/
structure NumberedFormula where
  /-- the text without blanks -/
  source : String
  /-- the tree read from it -/
  tree : Numbered
  /-- the number of choices -/
  choiceCount : Nat
deriving Repr, Inhabited

namespace NumberedFormula

/-- The formula that a text holds: the counter starts at zero, and where it ends is the number of
choices. -/
def parse (text : String) : NumberedFormula :=
  let (tree, choiceCount) := (readNumbered (Text.strip text.toList)).run 0
  ⟨Text.stripped text, tree, choiceCount⟩

/-- Choices sorted by number. -/
def byNumber (groups : List ChoiceGroup) : List ChoiceGroup :=
  groups.mergeSort fun g g' => decide (g.key ≤ g'.key)

/-- The choices that a formula leaves open, by number. -/
def groups (f : NumberedFormula) : List ChoiceGroup :=
  byNumber f.tree.groups

/-- The choices for which no option is picked, by number. -/
def openGroups (f : NumberedFormula) (picks : Picks) : List ChoiceGroup :=
  byNumber (f.tree.openGroups picks)

/-- The value of a formula for a block and the options picked. -/
def value (f : NumberedFormula) (b : Block) (picks : Picks) : Int :=
  f.tree.value b picks

end NumberedFormula

end Chargen.Points
