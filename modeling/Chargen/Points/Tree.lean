import Chargen.Characteristic

/-!
# Point formulas as trees

A point formula says how many skill points an occupation gives. Its tree has sums, choices between
options, and three kinds of tokens; what cannot be read stays in it as an unknown token.

The choices of a tree are numbered in pre-order: a choice comes before the choices inside its
branches, and those of an earlier branch before those of a later one. No number is stored. A walk
that starts at number `k` gives a choice the number `k`, and goes on behind a subtree at `k` plus
the subtree's `choiceCount`.
-/

namespace Chargen.Points

/-- A point formula read as a tree. -/
inductive Tree where
  /-- terms to be added -/
  | sum (terms : List Tree)
  /-- options as written, without blanks, and what each of them means -/
  | choice (options : List String) (branches : List Tree)
  /-- a characteristic multiplied -/
  | scaled (c : Characteristic) (factor : Nat)
  /-- a characteristic alone -/
  | single (c : Characteristic)
  /-- a number -/
  | constant (n : Nat)
  /-- a token that cannot be read -/
  | unknown (token : String)
deriving Repr, Inhabited

/-- A choice that a formula leaves open: its number and its options. -/
structure ChoiceGroup where
  /-- the number of the choice -/
  key : Nat
  /-- the options as written, without blanks -/
  options : List String
deriving DecidableEq, Repr

namespace Tree

mutual

/-- The number of choices in a tree. -/
def choiceCount : Tree → Nat
  | .sum terms => choiceCountAll terms
  | .choice _ branches => choiceCountAll branches + 1
  | _ => 0

/-- The number of choices in all trees of a list. -/
def choiceCountAll : List Tree → Nat
  | [] => 0
  | t :: ts => choiceCount t + choiceCountAll ts

end

mutual

/-- The choices of a tree in pre-order, numbered from `k` on. -/
def groupsFrom (k : Nat) : Tree → List ChoiceGroup
  | .sum terms => groupsFromAll k terms
  | .choice options branches => ⟨k, options⟩ :: groupsFromAll (k + 1) branches
  | _ => []

/-- The choices of the trees of a list, one tree after the other. -/
def groupsFromAll (k : Nat) : List Tree → List ChoiceGroup
  | [] => []
  | t :: ts => groupsFrom k t ++ groupsFromAll (k + choiceCount t) ts

end

mutual

/-- The first token of a tree that cannot be read. -/
def firstUnknown? : Tree → Option String
  | .sum terms => firstUnknownOf? terms
  | .choice _ branches => firstUnknownOf? branches
  | .unknown token => some token
  | _ => none

/-- The first token of a list of trees that cannot be read. -/
def firstUnknownOf? : List Tree → Option String
  | [] => none
  | t :: ts =>
    match firstUnknown? t with
    | some token => some token
    | none => firstUnknownOf? ts

end

/-- The number at which each of the trees of a list starts, the first one starting at `k`. -/
def starts (k : Nat) : List Tree → List Nat
  | [] => []
  | t :: ts => k :: starts (k + t.choiceCount) ts

end Tree

end Chargen.Points
