import Chargen.Dice.Roll

/-!
# Rolls

All dice of a roll come from one source. If the source is lawful and the dice are legal, the total
lies between the total of ones and the total of highest sides, which is too small to be clipped.

* `mem_throwDice`: every die thrown from a lawful source shows one of its sides.
* `Legal.rollOf_total`: legal dice are added up without clipping.
* `Legal.total_bounds`: **a roll stays within the bounds of its dice**.
* `Draws`: rolls drawn from a source one after the other.
-/

namespace Chargen

variable {σ : Type} [DieSource σ]

namespace Dice

theorem throwDice_succ (sides count : Nat) (s : σ) :
    throwDice sides (count + 1) s =
      ((DieSource.throwDie sides s).1 :: (throwDice sides count (DieSource.throwDie sides s).2).1,
        (throwDice sides count (DieSource.throwDie sides s).2).2) := rfl

theorem length_throwDice (sides count : Nat) (s : σ) :
    (throwDice sides count s).1.length = count := by
  induction count generalizing s with
  | zero => rfl
  | succ count ih => rw [throwDice_succ, List.length_cons, ih]

/-- Every die thrown from a lawful source shows one of its sides. -/
theorem mem_throwDice [LawfulDieSource σ] {sides : Nat} (hsides : 1 ≤ sides) (count : Nat) (s : σ) :
    ∀ die ∈ (throwDice sides count s).1, 1 ≤ die ∧ die ≤ sides := by
  induction count generalizing s with
  | zero =>
    intro die hdie
    cases hdie
  | succ count ih =>
    intro die hdie
    rw [throwDice_succ, List.mem_cons] at hdie
    rcases hdie with rfl | hdie
    · exact ⟨LawfulDieSource.one_le_throwDie sides s hsides,
        LawfulDieSource.throwDie_le sides s hsides⟩
    · exact ih _ die hdie

/-- The sum of dice lies between their number and that many highest sides. -/
theorem sum_bounds {sides : Nat} {dice : List Nat} (h : ∀ die ∈ dice, 1 ≤ die ∧ die ≤ sides) :
    dice.length ≤ dice.foldr (· + ·) 0 ∧ dice.foldr (· + ·) 0 ≤ dice.length * sides := by
  induction dice with
  | nil => simp
  | cons die rest ih =>
    rw [List.forall_mem_cons] at h
    have hrest := ih h.2
    rw [List.foldr_cons, List.length_cons, Nat.succ_mul]
    omega

theorem Legal.one_le_minTotal {d : Dice} (h : d.Legal) : 1 ≤ d.minTotal := by
  have hcount := h.count_pos
  have hsum : 1 ≤ d.count + d.modifier := by omega
  exact Nat.mul_le_mul hsum h.multiplier_pos

/-- The greatest total of legal dice is a sheet number. -/
theorem Legal.maxTotal_le {d : Dice} (h : d.Legal) : (d.maxTotal : Int) ≤ maxNumber := by
  have hdice : d.count * d.sides ≤ maxCount * maxSides := Nat.mul_le_mul h.count_le h.sides_le
  have hsum : d.count * d.sides + d.modifier ≤ maxCount * maxSides + maxModifier :=
    Nat.add_le_add hdice h.modifier_le
  have htotal : d.maxTotal ≤ (maxCount * maxSides + maxModifier) * maxMultiplier :=
    Nat.mul_le_mul hsum h.multiplier_le
  have hlimit : (maxCount * maxSides + maxModifier) * maxMultiplier ≤ 2147483647 := by decide
  unfold maxNumber
  omega

/-- The sides that dice can show: each die one of its own. -/
structure Shown (d : Dice) (dice : List Nat) : Prop where
  length_eq : dice.length = d.count
  bounds : ∀ die ∈ dice, 1 ≤ die ∧ die ≤ d.sides

/-- The dice of a roll from a lawful source show their sides. -/
theorem Legal.shown_roll [LawfulDieSource σ] {d : Dice} (h : d.Legal) (s : σ) :
    d.Shown (d.roll s).1.dice where
  length_eq := length_throwDice d.sides d.count s
  bounds := mem_throwDice h.sides_pos d.count s

/-- The product that a roll clips lies within the bounds of the dice. -/
theorem Shown.product_bounds {d : Dice} {dice : List Nat} (h : d.Shown dice) :
    d.minTotal ≤ (dice.foldr (· + ·) 0 + d.modifier) * d.multiplier ∧
      (dice.foldr (· + ·) 0 + d.modifier) * d.multiplier ≤ d.maxTotal := by
  obtain ⟨hlo, hhi⟩ := sum_bounds h.bounds
  rw [h.length_eq] at hlo hhi
  exact ⟨Nat.mul_le_mul_right _ (Nat.add_le_add_right hlo _),
    Nat.mul_le_mul_right _ (Nat.add_le_add_right hhi _)⟩

/-- Legal dice are added up without clipping. -/
theorem Legal.rollOf_total {d : Dice} (h : d.Legal) {dice : List Nat} (hdice : d.Shown dice) :
    (d.rollOf dice).total = ((dice.foldr (· + ·) 0 + d.modifier) * d.multiplier : Nat) := by
  have hclip : (d.rollOf dice).total =
      clip ((dice.foldr (· + ·) 0 + d.modifier : Nat) * (d.multiplier : Int)) := rfl
  have hhi := hdice.product_bounds.2
  have hmax := h.maxTotal_le
  rw [hclip, ← Int.natCast_mul]
  apply clip_of_mem
  · unfold minNumber
    omega
  · omega

/-- **A roll stays within the bounds of its dice.** -/
theorem Legal.total_bounds [LawfulDieSource σ] {d : Dice} (h : d.Legal) (s : σ) :
    (d.minTotal : Int) ≤ (d.roll s).1.total ∧ (d.roll s).1.total ≤ d.maxTotal := by
  have hshown : d.Shown (d.roll s).1.dice := h.shown_roll s
  have hbounds := hshown.product_bounds
  have htotal : (d.roll s).1.total =
      (((d.roll s).1.dice.foldr (· + ·) 0 + d.modifier) * d.multiplier : Nat) :=
    h.rollOf_total hshown
  rw [htotal]
  exact ⟨Int.ofNat_le.mpr hbounds.1, Int.ofNat_le.mpr hbounds.2⟩

end Dice

/-- Rolls drawn from a source one after the other, and the source that they leave. -/
inductive Draws : σ → List Roll → σ → Prop where
  /-- nothing is drawn -/
  | nil (s : σ) : Draws s [] s
  /-- dice are rolled before the other rolls are drawn -/
  | cons (d : Dice) (s : σ) {rolls : List Roll} {s' : σ} (rest : Draws (d.roll s).2 rolls s') :
      Draws s ((d.roll s).1 :: rolls) s'

namespace Draws

theorem single (d : Dice) (s : σ) : Draws s [(d.roll s).1] (d.roll s).2 :=
  .cons d s (.nil _)

theorem append {s s' s'' : σ} {xs ys : List Roll} (hxs : Draws s xs s') (hys : Draws s' ys s'') :
    Draws s (xs ++ ys) s'' := by
  induction hxs with
  | nil s => exact hys
  | cons d s rest ih => exact .cons d s (ih hys)

end Draws

end Chargen
