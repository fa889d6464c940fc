import Chargen.Dice.Roll

/-!
# Dice from a stream of words

A `WordStream` yields 32-bit words: a given list first, then a linear congruential sequence. A die
with `n` sides multiplies a word by `n` and shows one more than the upper half of the product; words
whose lower half lies above the acceptance limit are passed over, which makes all sides equally
likely.

* `accepted?_bounds`: an accepted word shows one of the sides.
* `WordStream` is a lawful source of dice.
-/

namespace Chargen

/-- Words to come, the state of the generator that follows them, and the number of words taken. -/
structure WordStream where
  /-- the words that come first -/
  words : List Nat
  /-- the state of the generator used when no words are left -/
  state : Nat
  /-- the number of words taken so far -/
  used : Nat
deriving DecidableEq, Repr

namespace WordStream

/-- The number of different words. -/
def wordCount : Nat := 4294967296

/-- A stream at its start. -/
def start (words : List Nat) (seed : Nat) : WordStream := ⟨words, seed, 0⟩

/-- The next word of the stream. -/
def next (s : WordStream) : Nat × WordStream :=
  match s.words with
  | w :: rest => (w % wordCount, { s with words := rest, used := s.used + 1 })
  | [] =>
    let state := (s.state * 1664525 + 1013904223) % wordCount
    (state, { s with state, used := s.used + 1 })

/-- The greatest lower half that is accepted: one less than the greatest product of the number of
sides and a power of two that does not exceed the number of words. -/
def acceptanceLimit (sides : Nat) : Nat :=
  sides <<< (31 - sides.log2) - 1

/-- The side that a word shows, if the word is accepted. -/
def accepted? (sides word : Nat) : Option Nat :=
  let product := word * sides
  if product % wordCount ≤ acceptanceLimit sides then some (product / wordCount + 1) else none

/-- Takes words until one is accepted, at most `fuel` of them. -/
def draw (sides : Nat) : Nat → WordStream → Nat × WordStream
  | 0, s => (1, s)
  | fuel + 1, s =>
    match accepted? sides (next s).1 with
    | some side => (side, (next s).2)
    | none => draw sides fuel (next s).2

/-- The generator runs through all words and zero is always accepted, so a round of all words after
the listed ones is enough to find an accepted word. -/
instance : DieSource WordStream where
  throwDie sides s := draw sides (s.words.length + wordCount) s

theorem next_lt (s : WordStream) : (next s).1 < wordCount := by
  unfold next wordCount
  split <;> exact Nat.mod_lt _ (by decide)

/-- An accepted word shows one of the sides. -/
theorem accepted?_bounds {sides word side : Nat} (hw : word < wordCount)
    (h : accepted? sides word = some side) (hs : 1 ≤ sides) : 1 ≤ side ∧ side ≤ sides := by
  simp only [accepted?] at h
  split at h
  · cases h
    exact ⟨Nat.succ_le_succ (Nat.zero_le _),
      Nat.div_lt_of_lt_mul (Nat.mul_lt_mul_of_pos_right hw hs)⟩
  · cases h

theorem draw_bounds (sides fuel : Nat) (s : WordStream) (hs : 1 ≤ sides) :
    1 ≤ (draw sides fuel s).1 ∧ (draw sides fuel s).1 ≤ sides := by
  induction fuel generalizing s with
  | zero => exact ⟨Nat.le_refl 1, hs⟩
  | succ fuel ih =>
    rw [draw]
    split
    · next side hside => exact accepted?_bounds (next_lt s) hside hs
    · exact ih _

instance : LawfulDieSource WordStream where
  one_le_throwDie sides s hs := (draw_bounds sides _ s hs).1
  throwDie_le sides s hs := (draw_bounds sides _ s hs).2

end WordStream

end Chargen
