import Chargen.Dice.Checked
import Chargen.Dice.Reader
import Chargen.Dice.WordStream
import Chargen.Proofs.Dice
import Mathlib.Algebra.GroupWithZero.Nat

/-!
# Totals fit the word

The limits within which dice are read keep every sum and every product on the way to a total within
the signed word: the greatest total there is is a little above ten millions. So computing in words
comes to the same as computing without bounds, and clipping never acts.

* `sumFrom?_eq`: dice are added up as long as their sum fits.
* `Legal.rollOf?_eq`, `Legal.minTotal?_eq`, `Legal.maxTotal?_eq`: **no total of legal dice leaves the
  word**.
* `Tallies`: what a roll says about its dice.
* `roll_tallies`: **the dice of a text roll within their bounds and without overflow**, and both
  bounds are reached.
-/

namespace Chargen

/-! ### Words -/

theorem inWord?_natCast {n : Nat} (h : (n : Int) ≤ maxNumber) : inWord? n = some (n : Int) := by
  have hlo : minNumber ≤ (n : Int) := by
    unfold minNumber
    omega
  rw [inWord?, if_pos ⟨hlo, h⟩]

namespace Dice

/-- Dice are added up as long as their sum fits: no sum on the way is greater than the last one. -/
theorem sumFrom?_eq {dice : List Nat} {start : Nat}
    (h : ((start + dice.sum : Nat) : Int) ≤ maxNumber) :
    sumFrom? start dice = some ((start + dice.sum : Nat) : Int) := by
  induction dice generalizing start with
  | nil => rfl
  | cons die rest ih =>
    rw [List.sum_cons, ← Nat.add_assoc] at h ⊢
    have hdie : word die = die := word_natCast (by omega)
    have hsum : inWord? ((start : Int) + word die) = some ((start + die : Nat) : Int) := by
      rw [hdie, ← Int.natCast_add]
      exact inWord?_natCast (by omega)
    have hrest := ih h
    rw [sumFrom?] at hrest ⊢
    rw [List.foldlM_cons, hsum]
    exact hrest

/-! ### Legal dice -/

namespace Legal

variable {d : Dice} (h : d.Legal)
include h

/-- What is multiplied in the greatest total, and its parts, are sheet numbers. -/
theorem parts_le : (d.count : Int) ≤ maxNumber ∧ (d.sides : Int) ≤ maxNumber ∧
    (d.modifier : Int) ≤ maxNumber ∧ (d.multiplier : Int) ≤ maxNumber ∧
    ((d.count * d.sides + d.modifier : Nat) : Int) ≤ maxNumber := by
  obtain ⟨-, hcount, -, hsides, hmodifier, -, hmultiplier⟩ := h
  have hproduct : d.count * d.sides ≤ maxCount * maxSides := Nat.mul_le_mul hcount hsides
  unfold maxCount at hcount hproduct
  unfold maxSides at hsides hproduct
  unfold maxModifier at hmodifier
  unfold maxMultiplier at hmultiplier
  unfold maxNumber
  omega

/-- The dice of a legal roll and its modifier fit the word, being part of what fits it. -/
theorem subtotal_le {dice : List Nat} (hdice : d.Shown dice) :
    ((dice.sum + d.modifier : Nat) : Int) ≤ maxNumber := by
  have hsum : dice.sum ≤ dice.length * d.sides := (sum_bounds hdice.bounds).2
  rw [hdice.length_eq] at hsum
  have hparts := h.parts_le
  omega

/-- **Adding up legal dice does not leave the word.** -/
theorem rollOf?_eq {dice : List Nat} (hdice : d.Shown dice) :
    d.rollOf? dice = some (d.rollOf dice) := by
  obtain ⟨-, -, hmodifier, hmultiplier, -⟩ := h.parts_le
  have hsubtotal := h.subtotal_le hdice
  have hsum : sumFrom? 0 dice = some (dice.sum : Int) := by
    have hfrom := @sumFrom?_eq dice 0 (by omega)
    rwa [Nat.zero_add] at hfrom
  have hadd : inWord? ((dice.sum : Int) + word d.modifier) =
      some ((dice.sum + d.modifier : Nat) : Int) := by
    rw [word_natCast hmodifier, ← Int.natCast_add]
    exact inWord?_natCast hsubtotal
  rw [rollOf?, hsum, Option.bind_eq_bind, Option.bind_some, hadd, Option.bind_some,
    word_natCast hmultiplier]
  rfl

/-- **The least total of legal dice does not leave the word.** -/
theorem minTotal?_eq : d.minTotal? = some (d.minTotal : Int) := by
  obtain ⟨hcount, -, hmodifier, hmultiplier, hsum⟩ := h.parts_le
  have hone : d.count ≤ d.count * d.sides := Nat.le_mul_of_pos_right _ h.sides_pos
  have hle : d.minTotal ≤ d.maxTotal :=
    Nat.mul_le_mul_right _ (Nat.add_le_add_right hone _)
  have hmax := h.maxTotal_le
  have hadd : inWord? ((d.count : Int) + d.modifier) = some ((d.count + d.modifier : Nat) : Int) :=
    inWord?_natCast (by omega)
  have hmul : inWord? (((d.count + d.modifier : Nat) : Int) * d.multiplier) =
      some (d.minTotal : Int) := by
    rw [← Int.natCast_mul]
    exact inWord?_natCast (n := d.minTotal) (by omega)
  rw [minTotal?, word_natCast hcount, word_natCast hmodifier, word_natCast hmultiplier, hadd,
    Option.bind_eq_bind, Option.bind_some, hmul]

/-- **The greatest total of legal dice does not leave the word.** -/
theorem maxTotal?_eq : d.maxTotal? = some (d.maxTotal : Int) := by
  obtain ⟨hcount, hsides, hmodifier, hmultiplier, hsum⟩ := h.parts_le
  have hproduct : inWord? ((d.count : Int) * d.sides) = some ((d.count * d.sides : Nat) : Int) :=
    inWord?_natCast (by omega)
  have hadd : inWord? (((d.count * d.sides : Nat) : Int) + d.modifier) =
      some ((d.count * d.sides + d.modifier : Nat) : Int) := inWord?_natCast hsum
  have hmul : inWord? (((d.count * d.sides + d.modifier : Nat) : Int) * d.multiplier) =
      some (d.maxTotal : Int) := by
    rw [← Int.natCast_mul]
    exact inWord?_natCast (n := d.maxTotal) h.maxTotal_le
  rw [maxTotal?, word_natCast hcount, word_natCast hsides, word_natCast hmodifier,
    word_natCast hmultiplier, hproduct, Option.bind_eq_bind, Option.bind_some, hadd,
    Option.bind_some, hmul]

end Legal

/-! ### Rolls -/

/-- What a roll says about its dice: they show their sides, their sum and the modifier are the
subtotal, and the total is the subtotal multiplied, unclipped and within the bounds of the dice. -/
structure Tallies (d : Dice) (roll : Roll) : Prop where
  shown : d.Shown roll.dice
  subtotal_eq : roll.subtotal = (roll.dice.sum + d.modifier : Nat)
  total_eq : roll.total = roll.subtotal * d.multiplier
  min_le : (d.minTotal : Int) ≤ roll.total
  le_max : roll.total ≤ d.maxTotal

theorem Legal.tallies {d : Dice} (h : d.Legal) {dice : List Nat} (hdice : d.Shown dice) :
    d.Tallies (d.rollOf dice) := by
  have htotal : (d.rollOf dice).total = ((dice.sum + d.modifier) * d.multiplier : Nat) :=
    h.rollOf_total hdice
  obtain ⟨hlo, hhi⟩ : d.minTotal ≤ (dice.sum + d.modifier) * d.multiplier ∧
      (dice.sum + d.modifier) * d.multiplier ≤ d.maxTotal := hdice.product_bounds
  refine ⟨hdice, rfl, ?_, ?_, ?_⟩
  · rw [htotal, Int.natCast_mul]
    rfl
  · omega
  · omega

/-- Dice that all show one side. -/
theorem shown_replicate {d : Dice} {side : Nat} (hlo : 1 ≤ side) (hhi : side ≤ d.sides) :
    d.Shown (List.replicate d.count side) where
  length_eq := List.length_replicate
  bounds die hdie := by
    rw [List.eq_of_mem_replicate hdie]
    exact ⟨hlo, hhi⟩

/-- The total of dice that all show one side. -/
theorem Legal.rollOf_replicate {d : Dice} (h : d.Legal) {side : Nat} (hlo : 1 ≤ side)
    (hhi : side ≤ d.sides) : (d.rollOf (List.replicate d.count side)).total =
      ((d.count * side + d.modifier) * d.multiplier : Nat) := by
  have hsum : (List.replicate d.count side).foldr (· + ·) 0 = d.count * side :=
    List.sum_replicate_nat
  rw [h.rollOf_total (shown_replicate hlo hhi), hsum]

variable {σ : Type} [DieSource σ]

/-- **The dice of a text roll within their bounds and without overflow.** Whatever the source, as
long as it throws sides that there are, the roll says about its dice what is so; neither it nor the
bounds leave the word; the least total is positive; and both bounds are totals of some dice. -/
theorem roll_tallies [LawfulDieSource σ] {text : String} {d : Dice} (h : parse text = .ok d)
    (s : σ) : d.Tallies (d.roll s).1 ∧ d.roll? s = (some (d.roll s).1, (d.roll s).2) ∧
      d.minTotal? = some (d.minTotal : Int) ∧ d.maxTotal? = some (d.maxTotal : Int) ∧
      1 ≤ d.minTotal ∧
      (∃ dice, d.Shown dice ∧ (d.rollOf dice).total = d.minTotal) ∧
      ∃ dice, d.Shown dice ∧ (d.rollOf dice).total = d.maxTotal := by
  have hlegal : d.Legal := legal_of_parse h
  have hshown : d.Shown (d.roll s).1.dice := hlegal.shown_roll s
  have hroll : d.roll? s = (d.rollOf? (d.roll s).1.dice, (d.roll s).2) := rfl
  have hones := hlegal.rollOf_replicate (Nat.le_refl 1) hlegal.sides_pos
  have hhighest := hlegal.rollOf_replicate hlegal.sides_pos (Nat.le_refl _)
  refine ⟨hlegal.tallies hshown, ?_, hlegal.minTotal?_eq, hlegal.maxTotal?_eq,
    hlegal.one_le_minTotal, ⟨_, shown_replicate (Nat.le_refl 1) hlegal.sides_pos, ?_⟩,
    ⟨_, shown_replicate hlegal.sides_pos (Nat.le_refl _), hhighest⟩⟩
  · rw [hroll, hlegal.rollOf?_eq hshown]
    rfl
  · rw [hones, Nat.mul_one]
    rfl

/-- The greatest dice there are, thrown from a stream of words: ten million and a hundred thousand
fit the word. -/
theorem roll_tallies_greatest : ∃ d, parse "(100D1000+1000)x100" = .ok d ∧
    d.maxTotal? = some 10100000 ∧ d.minTotal? = some 110000 ∧
    d.Tallies (d.roll (WordStream.start [0, 4294967295, 2147483648] 7)).1 ∧
    ∃ dice, d.Shown dice ∧ (d.rollOf dice).total = 10100000 := by
  have hparse : parse "(100D1000+1000)x100" = .ok ⟨100, 1000, 1000, 100⟩ := by rfl
  obtain ⟨htallies, -, hmin, hmax, -, -, hreached⟩ :=
    roll_tallies hparse (WordStream.start [0, 4294967295, 2147483648] 7)
  exact ⟨_, hparse, hmax, hmin, htallies, hreached⟩

end Dice

end Chargen
