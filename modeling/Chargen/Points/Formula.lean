import Chargen.Points.Reader
import Chargen.Text.Blank

/-!
# Point formulas

A `Formula` is a text without its blanks and the tree read from it. Any text can be read; `check` is
the strict test that rulebooks have to pass, and gives the first thing that is wrong.
-/

namespace Chargen.Points

/-- A point formula. -/
structure Formula where
  /-- the text without blanks -/
  source : String
  /-- the tree read from it -/
  tree : Tree
deriving Repr, Inhabited

/-- Why a text is no point formula. -/
inductive FormulaFault where
  /-- nothing is written -/
  | empty
  /-- the parentheses do not match -/
  | unbalanced (source : String)
  /-- a token cannot be read -/
  | unrecognized (token : String) (source : String)
deriving DecidableEq, Repr

/-- What is wrong with the formula. -/
def FormulaFault.message : FormulaFault → String
  | .empty => "Empty formula"
  | .unbalanced source => s!"Unbalanced parentheses in {source}"
  | .unrecognized token source => s!"Unrecognized token '{token}' in {source}"

/-- Whether the parentheses of a text match, `depth` of them being open at its start. -/
def isBalanced (depth : Nat) : List Char → Bool
  | [] => depth == 0
  | c :: rest =>
    if c == '(' then isBalanced (depth + 1) rest
    else if c == ')' then
      match depth with
      | 0 => false
      | d + 1 => isBalanced d rest
    else isBalanced depth rest

namespace Formula

/-- The formula that a text holds. -/
def parse (text : String) : Formula where
  source := Text.stripped text
  tree := read (Text.strip text.toList)

/-- The strict test of a formula. -/
def check (f : Formula) : Except FormulaFault Unit :=
  if f.source.isEmpty then .error .empty
  else if !isBalanced 0 f.source.toList then .error (.unbalanced f.source)
  else match f.tree.firstUnknown? with
    | some token => .error (.unrecognized token f.source)
    | none => .ok ()

/-- The number of choices that a formula leaves open. -/
def choiceCount (f : Formula) : Nat :=
  f.tree.choiceCount

/-- The choices that a formula leaves open, by number. -/
def groups (f : Formula) : List ChoiceGroup :=
  f.tree.groupsFrom 0

end Formula

end Chargen.Points
