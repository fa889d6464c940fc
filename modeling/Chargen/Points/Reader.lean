import Chargen.Numeral
import Chargen.Points.Split
import Chargen.Points.Tree
import Chargen.Text.Alphabetic

/-!
# Reading point formulas

A token, its wrapping parentheses taken off, is a sum if it splits at `+`; else a choice if it
splits at an `o` that stands between two tokens; else an atom. Reading never fails: an atom that is
neither a characteristic, nor a characteristic times a number, nor a number stays as an unknown
token.
-/

namespace Chargen.Points

/-- A plus sign, which separates terms. -/
def isPlus (_ : Option Char) (c : Char) (_ : Option Char) : Bool :=
  c == '+'

/-- An `o` between two options: a digit or a closing parenthesis before it and a letter or an
opening one behind it, or a letter before it and an opening parenthesis behind it. So the `o` of a
name such as `POD` or `CON` separates nothing. -/
def isOr (before : Option Char) (c : Char) (after : Option Char) : Bool :=
  match before, after with
  | some b, some a =>
    (c == 'o' || c == 'O') &&
      ((isPlainDigit b || b == ')') && (Text.isAlphabetic a || a == '(') ||
        Text.isAlphabetic b && a == '(')
  | _, _ => false

/-- Whether a character is a letter from `A` to `Z`, in either case. -/
def isPlainLetter (c : Char) : Bool :=
  'a' ≤ c && c ≤ 'z' || 'A' ≤ c && c ≤ 'Z'

/-- The first number that a formula cannot hold. -/
def numberLimit : Nat := 2147483648

/-- A name and a numeral around a multiplication sign. A name takes all letters, so a sign that is a
letter is the last of them. -/
def splitScaled (cs : List Char) : Option (List Char × List Char) :=
  let letters := cs.takeWhile isPlainLetter
  match cs.dropWhile isPlainLetter with
  | [] => none
  | c :: rest =>
    if isTimes c then some (letters, rest)
    else if letters.getLast?.any isTimes then some (letters.dropLast, c :: rest)
    else none

/-- A characteristic times a number. -/
def readScaled? (cs : List Char) : Option Tree := do
  let (name, numeral) ← splitScaled cs
  let c ← Characteristic.ofKey? (String.ofList name)
  let n ← numeral? numberLimit numeral
  return .scaled c n

/-- A characteristic alone. -/
def readSingle? (cs : List Char) : Option Tree :=
  if cs.all isPlainLetter then (Characteristic.ofKey? (String.ofList cs)).map .single else none

/-- A number alone. -/
def readConstant? (cs : List Char) : Option Tree :=
  (numeral? numberLimit cs).map .constant

/-- An atom, which is unknown unless one of the three kinds of tokens is read. -/
def readAtom (cs : List Char) : Tree :=
  ((readScaled? cs).or ((readSingle? cs).or (readConstant? cs))).getD (.unknown (String.ofList cs))

/-- The tree of a text without blanks. -/
def read (token : List Char) : Tree :=
  if _several : 1 < (split isPlus (stripOuter token)).length then
    .sum ((split isPlus (stripOuter token)).attach.map fun part => read part.1)
  else if _several : 1 < (split isOr (stripOuter token)).length then
    .choice ((split isOr (stripOuter token)).map String.ofList)
      ((split isOr (stripOuter token)).attach.map fun part => read part.1)
  else readAtom (stripOuter token)
termination_by token.length
decreasing_by
  all_goals
    exact Nat.lt_of_lt_of_le (length_lt_of_mem_split _several part.2) (length_stripOuter_le token)

end Chargen.Points
