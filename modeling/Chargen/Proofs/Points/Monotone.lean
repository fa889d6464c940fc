import Chargen.Proofs.Points.Best

/-!
# Better characteristics give no fewer points

Raise some characteristics of a block and leave the others as they are. Products and sums are
clipped at either end of the sheet numbers, and clipping keeps the order, so no part of a formula
loses value for given picks. The best options of the better block may be others than before; but the
old ones are among those that are tried, and already they give no less.

* `Tree.valueFrom_mono`: every part of a formula keeps the order of the blocks.
* `budget_mono`: **the value of a formula keeps it**, for any picks and for the best options.
-/

namespace Chargen.Points

namespace Tree

variable {b b' : Block} {picks : Picks}

mutual

/-- **Every tree keeps the order of the blocks**, if the same branches are taken. -/
theorem valueFrom_mono (h : ∀ c, b.get c ≤ b'.get c) (k : Nat) (t : Tree) :
    valueFrom b picks k t ≤ valueFrom b' picks k t := by
  cases t with
  | sum terms => exact sumFrom_mono h k (Int.le_refl 0) terms
  | choice options branches => exact branchFrom_mono h (k + 1) _ branches
  | scaled c factor =>
    -- No factor is negative, since a numeral has no sign.
    have hfactor : (0 : Int) ≤ factor := Int.natCast_nonneg factor
    have hmul : b.get c * factor ≤ b'.get c * factor := Int.mul_le_mul_of_nonneg_right (h c) hfactor
    rw [valueFrom, valueFrom]
    exact clip_mono hmul
  | single c => exact h c
  | constant n => exact Int.le_refl _
  | unknown token => exact Int.le_refl _

theorem sumFrom_mono (h : ∀ c, b.get c ≤ b'.get c) (k : Nat) {sum sum' : Int} (hsum : sum ≤ sum')
    (ts : List Tree) : sumFrom b picks k sum ts ≤ sumFrom b' picks k sum' ts := by
  cases ts with
  | nil => exact hsum
  | cons t ts =>
    have hterm : valueFrom b picks k t ≤ valueFrom b' picks k t := valueFrom_mono h k t
    rw [sumFrom, sumFrom]
    exact sumFrom_mono h _ (clip_mono (Int.add_le_add hsum hterm)) ts

theorem branchFrom_mono (h : ∀ c, b.get c ≤ b'.get c) (k place : Nat) (ts : List Tree) :
    branchFrom b picks k place ts ≤ branchFrom b' picks k place ts := by
  cases ts with
  | nil => exact Int.le_refl 0
  | cons t ts =>
    cases place with
    | zero => exact valueFrom_mono h k t
    | succ place =>
      rw [branchFrom, branchFrom]
      exact branchFrom_mono h _ place ts

end

end Tree

namespace Formula

variable {b b' : Block}

theorem value_mono (h : ∀ c, b.get c ≤ b'.get c) (f : Formula) (picks : Picks) :
    f.value b picks ≤ f.value b' picks :=
  Tree.valueFrom_mono h 0 f.tree

/-- The best options of the better block are compared with those of the other one, if all are tried,
and else with the same first options. -/
theorem best_total_mono (h : ∀ c, b.get c ≤ b'.get c) (text : String) :
    ((parse text).best b).total ≤ ((parse text).best b').total := by
  by_cases hcount : combinationCount (parse text).groups ≤ maxCombinations
  · -- The options that are best for the one block are tried for the other one too.
    calc ((parse text).best b).total
        = (parse text).value b ((parse text).best b).picks := (value_best text b).symm
      _ ≤ (parse text).value b' ((parse text).best b).picks := value_mono h _ _
      _ ≤ ((parse text).best b').total := value_le_best b' hcount _
  · rw [best, best, if_neg hcount, if_neg hcount]
    exact value_mono h _ _

end Formula

/-- **Better characteristics never shrink a budget**: not for given picks, whichever they are, and
not for the best options, whether all combinations are tried or not. -/
theorem budget_mono (text : String) {b b' : Block} (h : ∀ c, b.get c ≤ b'.get c) :
    let f := Formula.parse text
    (∀ picks, f.value b picks ≤ f.value b' picks) ∧ (f.best b).total ≤ (f.best b').total :=
  ⟨Formula.value_mono h _, Formula.best_total_mono h text⟩

/-- From numbers far below zero to greater ones, for which another option is best. -/
theorem budget_mono_other_winner :
    let f := Formula.parse "EDU x 4 + (DES x 2 o APA x 2)"
    let b := (Profile.uniform (-2147483648)).set .des (-5)
    let b' := ((Profile.uniform (-3)).set .edu 2147483647).set .apa 80
    (∀ c, b.get c ≤ b'.get c) ∧ (f.best b).picks ≠ (f.best b').picks ∧
      (∀ picks, f.value b picks ≤ f.value b' picks) ∧ (f.best b).total ≤ (f.best b').total := by
  intro f b b'
  have h : ∀ c, b.get c ≤ b'.get c := fun c => by cases c <;> decide
  exact ⟨h, by decide +kernel, budget_mono "EDU x 4 + (DES x 2 o APA x 2)" h⟩

end Chargen.Points
