/-!
# Numerals

Formulas write numbers in the digits `0` to `9`, of any length, leading zeros allowed. `numeral?`
reads a whole text as a number below a limit.
-/

namespace Chargen

/-- The value of a run of digits, after a value read so far. -/
def digitsValue (start : Nat) (cs : List Char) : Nat :=
  cs.foldl (fun n c => 10 * n + (c.toNat - '0'.toNat)) start

/-- Whether a character is one of `0` to `9`. -/
def isPlainDigit (c : Char) : Bool :=
  '0' ≤ c && c ≤ '9'

/-- The number that a numeral below a limit stands for; none if it reaches the limit or has a
character other than `0` to `9`. -/
def numeral? (limit : Nat) (cs : List Char) : Option Nat :=
  if !cs.isEmpty && cs.all isPlainDigit && digitsValue 0 cs < limit then some (digitsValue 0 cs)
  else none

/-- Whether a character is a multiplication sign. -/
def isTimes (c : Char) : Bool :=
  c == 'x' || c == 'X' || c == '×' || c == '*'

theorem numeral?_lt {limit n : Nat} {cs : List Char} (h : numeral? limit cs = some n) :
    n < limit := by
  unfold numeral? at h
  split at h
  · next hc =>
    cases h
    simp only [Bool.and_eq_true, decide_eq_true_eq] at hc
    exact hc.2
  · cases h

end Chargen
