/-!
# Sheet numbers

Every number of a sheet fits a signed 32-bit word. Most sums and products that leave the word are
clipped to its nearest end; `clip` is that rule, monotone and the identity inside the word. Where a
sum or a product is plain arithmetic, it wraps around instead, and `word` is what is left of it.
-/

namespace Chargen

/-- The least sheet number. -/
def minNumber : Int := -2147483648

/-- The greatest sheet number. -/
def maxNumber : Int := 2147483647

/-- The sheet number nearest to `n`. -/
def clip (n : Int) : Int :=
  if n < minNumber then minNumber else if maxNumber < n then maxNumber else n

/-- The sheet number with the lowest 32 bits of `n`. -/
def word (n : Int) : Int :=
  Int.bmod n 4294967296

theorem clip_of_mem {n : Int} (hlo : minNumber ≤ n) (hhi : n ≤ maxNumber) : clip n = n := by
  unfold clip; split <;> (try split) <;> omega

/-- Only a number at the upper end is not below the clipped ones above it. -/
theorem lt_clip {m n : Int} (hm : m < maxNumber) (h : m < n) : m < clip n := by
  unfold clip minNumber; unfold maxNumber at *; split <;> (try split) <;> omega

theorem clip_mono {m n : Int} (h : m ≤ n) : clip m ≤ clip n := by
  unfold clip minNumber maxNumber; split <;> split <;> (try split) <;> (try split) <;> omega

theorem word_of_mem {n : Int} (hlo : minNumber ≤ n) (hhi : n ≤ maxNumber) : word n = n := by
  unfold minNumber at hlo; unfold maxNumber at hhi
  exact Int.bmod_eq_of_le (by omega) (by omega)

/-- A small unsigned word is the same number with a sign. -/
theorem word_natCast {n : Nat} (h : (n : Int) ≤ maxNumber) : word n = n :=
  word_of_mem (by unfold minNumber; omega) h

/-- An unsigned word is read as a number of the signed ones exactly if it is that number. -/
theorem word_natCast_eq_iff {n m : Nat} (hn : n < 4294967296) (hm : (m : Int) ≤ maxNumber) :
    word n = m ↔ n = m := by
  unfold maxNumber at hm
  unfold word
  rw [Int.bmod_def]
  split <;> omega

end Chargen
