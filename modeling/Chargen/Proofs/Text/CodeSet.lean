/-!
# Sets of code points as numbers

A set of code points is a number here, whose bit `c` tells whether the code point `c` belongs to it.
That two tables have no code point in common is then one operation on two numbers, where a search
would go through one table for every row of the other.

* `testBit_unionOf`: which code points belong to one of the sets of a list.
* `testBit_codeSet`: which code points belong to the set of a list.
* `testBit_rangeSet`: which code points belong to the set of a list of ranges.
* `testBit_eq_false_of_and`: sets that are apart.
-/

namespace Chargen.Text

/-- The union of the sets that the elements of a list stand for. -/
def unionOf {α : Type} (f : α → Nat) (l : List α) : Nat :=
  l.foldr (fun a set => set ||| f a) 0

/-- The set of the code points of a list. -/
def codeSet (codes : List Nat) : Nat :=
  unionOf (fun c => 1 <<< c) codes

/-- The set of the code points that lie in one of a list of ranges, ends included. -/
def rangeSet (ranges : List (Nat × Nat)) : Nat :=
  unionOf (fun r => (1 <<< (r.2 + 1 - r.1) - 1) <<< r.1) ranges

theorem testBit_unionOf {α : Type} {f : α → Nat} {l : List α} {c : Nat} :
    (unionOf f l).testBit c = true ↔ ∃ a ∈ l, (f a).testBit c = true := by
  induction l with
  | nil => simp [unionOf]
  | cons a rest ih =>
    have hset : unionOf f (a :: rest) = unionOf f rest ||| f a := rfl
    rw [hset, Nat.testBit_or, Bool.or_eq_true, ih, or_comm]
    simp only [List.mem_cons, exists_eq_or_imp]

theorem testBit_codeSet {codes : List Nat} {c : Nat} :
    (codeSet codes).testBit c = true ↔ c ∈ codes := by
  rw [codeSet, testBit_unionOf]
  simp only [Nat.one_shiftLeft, Nat.testBit_two_pow, decide_eq_true_iff, exists_eq_right]

theorem testBit_rangeSet {ranges : List (Nat × Nat)} {c : Nat} :
    (rangeSet ranges).testBit c = true ↔ ∃ r ∈ ranges, r.1 ≤ c ∧ c ≤ r.2 := by
  rw [rangeSet, testBit_unionOf]
  apply exists_congr
  intro r
  apply and_congr_right
  intro _
  rw [Nat.one_shiftLeft, Nat.testBit_shiftLeft, Nat.testBit_two_pow_sub_one, Bool.and_eq_true,
    decide_eq_true_iff, decide_eq_true_iff]
  omega

/-- A code point of one of two sets that are apart is not in the other. -/
theorem testBit_eq_false_of_and {a b c : Nat} (h : a &&& b = 0) (ha : a.testBit c = true) :
    b.testBit c = false := by
  have hand : (a &&& b).testBit c = false := by
    rw [h, Nat.zero_testBit]
  rwa [Nat.testBit_and, ha, Bool.true_and] at hand

end Chargen.Text
