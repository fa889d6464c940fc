import Chargen.Age.Adjustment
import Chargen.Proofs.Dice

/-!
# How a characteristic ages

Ageing adjusts a value step by step, and each step may throw dice. `Adjusts` says what one step can
be: a penalty, another roll of luck or an education check. `Ages` is a run of such steps, and what a
run does follows from what one step does.

* `Age.ages_ageValue`: ageing a characteristic is a run of steps.
* `Age.Ages.trail`, `Age.Ages.draws`: a run leads from value to value, and its steps record all dice
  that it throws.
* `Age.Ages.legal`: **a run that starts with a legal value goes through legal values only**.
* `Age.sound_of_mem_checksFrom`: what an education check does.
-/

namespace Chargen

/-- Adjustments that lead from a value to another one, each starting where the one before it
ends. -/
inductive Trail : Int → List Adjustment → Int → Prop where
  /-- the value is left as it is -/
  | nil (value : Int) : Trail value [] value
  /-- an adjustment of the value comes first -/
  | cons (step : Adjustment) {rest : List Adjustment} {final : Int}
      (tail : Trail step.after rest final) : Trail step.before (step :: rest) final

/-- A value that is legal for a characteristic. -/
def LegalValue (value : Int) : Prop :=
  minCharacteristic ≤ value ∧ value ≤ maxCharacteristic

/-- What an education check does: the check exceeds education exactly if it improves it, and then a
gain is rolled and added, up to the greatest value. -/
structure EducationCheck.Sound (c : EducationCheck) : Prop where
  improved_iff : c.improved = true ↔ c.before < c.check.total
  improved_iff_gain : c.improved = true ↔ ∃ gain, c.gain = some gain
  after_of_gain : ∀ gain, c.gain = some gain →
    c.after = min maxCharacteristic (c.before + gain.total)
  after_of_not_improved : c.improved = false → c.after = c.before
  before_le_after : c.before ≤ c.after

namespace Age

theorem valueAfter_cons (value : Int) (step : Adjustment) (rest : List Adjustment) :
    valueAfter value (step :: rest) = valueAfter step.after rest := by
  unfold valueAfter
  rw [List.getLast?_cons]
  cases rest.getLast? <;> rfl

theorem valueAfter_append (value : Int) (xs ys : List Adjustment) :
    valueAfter value (xs ++ ys) = valueAfter (valueAfter value xs) ys := by
  induction xs generalizing value with
  | nil => rfl
  | cons step rest ih => rw [List.cons_append, valueAfter_cons, valueAfter_cons, ih]

variable {σ : Type} [DieSource σ]

/-! ### One step -/

/-- What an education check may do: nothing, or roll a gain because the check exceeds education. -/
theorem checkEducation_cases (iteration : Nat) (education : Int) (s : σ) :
    let check := (Dice.percentile.roll s).1
    let s₁ := (Dice.percentile.roll s).2
    (¬ education < check.total ∧
        checkEducation iteration education s = (checkOf iteration education check none, s₁)) ∨
      (education < check.total ∧
        checkEducation iteration education s =
          (checkOf iteration education check (some (Dice.ten.roll s₁).1),
            (Dice.ten.roll s₁).2)) := by
  intro check s₁
  have hrun : checkEducation iteration education s =
      (if education < check.total then
        (do return checkOf iteration education check (some (← Dice.ten.roll)) : StateM σ _)
      else pure (checkOf iteration education check none)) s₁ := rfl
  by_cases h : education < check.total
  · rw [if_pos h] at hrun
    exact .inr ⟨h, hrun⟩
  · rw [if_neg h] at hrun
    exact .inl ⟨h, hrun⟩

/-- One adjustment of a characteristic: its value and the source before it, the adjustment, and the
source after it. -/
inductive Adjusts (luck : Dice) (age : Nat) :
    Characteristic → Int → σ → Adjustment → σ → Prop where
  /-- a penalty throws no dice -/
  | penalty (c : Characteristic) (amount : Nat) (evenSplit : Bool) (value : Int) (s : σ) :
      Adjusts luck age c value s (penaltyStep age c amount evenSplit value) s
  /-- luck is rolled again -/
  | luck (value : Int) (s : σ) :
      Adjusts luck age .suerte value s (luckStep age value (luck.roll s).1) (luck.roll s).2
  /-- education is checked -/
  | check (iteration : Nat) (value : Int) (s : σ) :
      Adjusts luck age .edu value s (checkStep (checkEducation iteration value s).1)
        (checkEducation iteration value s).2

section Step

variable {luck : Dice} {age : Nat} {c : Characteristic} {value : Int} {s s' : σ} {step : Adjustment}

theorem Adjusts.characteristic_eq (h : Adjusts luck age c value s step s') :
    step.characteristic = c := by
  cases h <;> rfl

theorem before_checkEducation (iteration : Nat) (education : Int) (s : σ) :
    (checkEducation iteration education s).1.before = education := by
  rcases checkEducation_cases iteration education s with ⟨-, h⟩ | ⟨-, h⟩ <;> rw [h] <;> rfl

theorem Adjusts.before_eq (h : Adjusts luck age c value s step s') : step.before = value := by
  cases h with
  | penalty => rfl
  | luck => rfl
  | check iteration => exact before_checkEducation iteration value s

/-- An adjustment records the dice thrown for it. -/
theorem Adjusts.draws (h : Adjusts luck age c value s step s') : Draws s step.dice s' := by
  cases h with
  | penalty => exact .nil s
  | luck => exact .single luck s
  | check iteration =>
    rcases checkEducation_cases iteration value s with ⟨-, h⟩ | ⟨-, h⟩ <;> rw [h]
    · exact .single Dice.percentile s
    · exact .cons Dice.percentile s (.single Dice.ten _)

/-- **An adjustment of a legal value gives a legal one**, if luck cannot be rolled too high. -/
theorem Adjusts.legal [LawfulDieSource σ] (h : Adjusts luck age c value s step s')
    (hluck : luck.Legal) (hmax : (luck.maxTotal : Int) ≤ maxCharacteristic)
    (hvalue : LegalValue value) : LegalValue step.after := by
  unfold LegalValue at hvalue ⊢
  cases h with
  | penalty _ amount =>
    show minCharacteristic ≤ max (value - amount) minCharacteristic ∧
      max (value - amount) minCharacteristic ≤ maxCharacteristic
    omega
  | luck =>
    have hroll := (hluck.total_bounds s).2
    show minCharacteristic ≤ max value (luck.roll s).1.total ∧
      max value (luck.roll s).1.total ≤ maxCharacteristic
    omega
  | check iteration =>
    rcases checkEducation_cases iteration value s with ⟨-, h⟩ | ⟨-, h⟩ <;> rw [h]
    · exact hvalue
    · -- a ten-sided die shows at least one, so the gain does not take anything away
      have hgain := (Dice.ten_legal.total_bounds (Dice.percentile.roll s).2).1
      show minCharacteristic ≤
          min (value + (Dice.ten.roll (Dice.percentile.roll s).2).1.total) maxCharacteristic ∧
        min (value + (Dice.ten.roll (Dice.percentile.roll s).2).1.total) maxCharacteristic ≤
          maxCharacteristic
      have hlimits : minCharacteristic ≤ maxCharacteristic := by decide
      omega

end Step

/-! ### A run of steps -/

/-- Adjustments of a characteristic made one after the other, each with the value and the source
that the one before it has left. -/
inductive Ages (luck : Dice) (age : Nat) (c : Characteristic) :
    Int → σ → List Adjustment → Int → σ → Prop where
  /-- nothing is adjusted -/
  | nil (value : Int) (s : σ) : Ages luck age c value s [] value s
  /-- an adjustment comes first -/
  | cons {value final : Int} {s s₁ s' : σ} {step : Adjustment} {rest : List Adjustment}
      (head : Adjusts luck age c value s step s₁)
      (tail : Ages luck age c step.after s₁ rest final s') :
      Ages luck age c value s (step :: rest) final s'

section Run

variable {luck : Dice} {age : Nat} {c : Characteristic} {value final : Int} {s s' : σ}
  {steps : List Adjustment}

theorem Ages.append {middle : Int} {s₁ : σ} {more : List Adjustment}
    (h : Ages luck age c value s steps middle s₁) (h' : Ages luck age c middle s₁ more final s') :
    Ages luck age c value s (steps ++ more) final s' := by
  induction h with
  | nil => exact h'
  | cons head tail ih => exact .cons head (ih h')

theorem Ages.characteristic_eq (h : Ages luck age c value s steps final s') :
    ∀ step ∈ steps, step.characteristic = c := by
  induction h with
  | nil =>
    intro step hstep
    cases hstep
  | cons head tail ih =>
    rw [List.forall_mem_cons]
    exact ⟨head.characteristic_eq, ih⟩

/-- A run leads from its first value to its last one. -/
theorem Ages.trail (h : Ages luck age c value s steps final s') : Trail value steps final := by
  induction h with
  | nil value => exact .nil value
  | cons head tail ih =>
    rw [← head.before_eq]
    exact .cons _ ih

/-- The steps of a run record all dice that it throws, in the order thrown. -/
theorem Ages.draws (h : Ages luck age c value s steps final s') :
    Draws s (steps.flatMap Adjustment.dice) s' := by
  induction h with
  | nil value s => exact .nil s
  | cons head tail ih =>
    rw [List.flatMap_cons]
    exact head.draws.append ih

/-- **A run that starts with a legal value goes through legal values only.** -/
theorem Ages.legal [LawfulDieSource σ] (h : Ages luck age c value s steps final s')
    (hluck : luck.Legal) (hmax : (luck.maxTotal : Int) ≤ maxCharacteristic)
    (hvalue : LegalValue value) :
    (∀ step ∈ steps, LegalValue step.before ∧ LegalValue step.after) ∧ LegalValue final := by
  induction h with
  | nil => exact ⟨by simp, hvalue⟩
  | cons head tail ih =>
    have hafter := head.legal hluck hmax hvalue
    obtain ⟨hrest, hfinal⟩ := ih hafter
    rw [← head.before_eq] at hvalue
    exact ⟨List.forall_mem_cons.mpr ⟨⟨hvalue, hafter⟩, hrest⟩, hfinal⟩

end Run

/-! ### Ageing is a run -/

variable (luck : Dice) (age : Nat)

theorem ages_penaltySteps (c : Characteristic) (p : Penalties) (value : Int) (s : σ) :
    Ages luck age c value s (penaltySteps age c p value)
      (valueAfter value (penaltySteps age c p value)) s := by
  unfold penaltySteps
  split
  · exact .cons (.penalty c _ _ value s) (.nil _ s)
  · exact .nil value s

theorem ages_rerollLuck (n : Nat) (value : Int) (s : σ) :
    Ages luck age .suerte value s (rerollLuck age luck n value s).1
      (valueAfter value (rerollLuck age luck n value s).1) (rerollLuck age luck n value s).2 := by
  induction n generalizing value s with
  | zero => exact .nil value s
  | succ n ih =>
    have hstep : (rerollLuck age luck (n + 1) value s).1 =
        luckStep age value (luck.roll s).1 ::
          (rerollLuck age luck n (luckStep age value (luck.roll s).1).after (luck.roll s).2).1 :=
      rfl
    rw [hstep, valueAfter_cons]
    exact .cons (.luck value s) (ih _ _)

theorem checksFrom_succ (first n : Nat) (education : Int) (s : σ) :
    (checksFrom first (n + 1) education s).1 =
      (checkEducation first education s).1 ::
        (checksFrom (first + 1) n (checkEducation first education s).1.after
          (checkEducation first education s).2).1 := rfl

theorem ages_checksFrom (first n : Nat) (education : Int) (s : σ) :
    Ages luck age .edu education s ((checksFrom first n education s).1.map checkStep)
      (valueAfter education ((checksFrom first n education s).1.map checkStep))
      (checksFrom first n education s).2 := by
  induction n generalizing first education s with
  | zero => exact .nil education s
  | succ n ih =>
    rw [checksFrom_succ, List.map_cons, valueAfter_cons]
    exact .cons (.check first education s) (ih _ _ _)

/-- **Ageing a characteristic is a run of steps** from its value to the one reached. -/
theorem ages_ageValue (p : Penalties) (c : Characteristic) (value : Int) (s : σ) :
    Ages luck age c value s (ageValue luck age p c value s).1.steps
      (ageValue luck age p c value s).1.value (ageValue luck age p c value s).2 := by
  have hpenalty := ages_penaltySteps luck age c p value s
  cases c with
  | suerte =>
    have hagain := ages_rerollLuck luck age (p.luckRolls - 1)
      (valueAfter value (penaltySteps age .suerte p value)) s
    rw [← valueAfter_append] at hagain
    exact hpenalty.append hagain
  | edu =>
    have hchecks := ages_checksFrom luck age 1 p.educationChecks
      (valueAfter value (penaltySteps age .edu p value)) s
    rw [← valueAfter_append] at hchecks
    exact hpenalty.append hchecks
  | _ => exact hpenalty

/-! ### Education checks -/

theorem sound_checkEducation [LawfulDieSource σ] (iteration : Nat) (education : Int) (s : σ) :
    (checkEducation iteration education s).1.Sound := by
  rcases checkEducation_cases iteration education s with ⟨hle, h⟩ | ⟨hlt, h⟩ <;> rw [h]
  · exact {
      improved_iff := by
        constructor
        · intro himproved
          cases himproved
        · intro hlt
          exact absurd hlt hle
      improved_iff_gain := by simp [EducationCheck.improved, checkOf]
      after_of_gain := by
        intro gain hgain
        cases hgain
      after_of_not_improved := fun _ => rfl
      before_le_after := Int.le_refl education }
  · have hcheck := (Dice.percentile_legal.total_bounds s).2
    have hgain := (Dice.ten_legal.total_bounds (Dice.percentile.roll s).2).1
    exact {
      improved_iff := by
        constructor
        · intro _
          exact hlt
        · intro _
          rfl
      improved_iff_gain := by simp [EducationCheck.improved, checkOf]
      after_of_gain := by
        rintro gain ⟨⟩
        exact Int.min_comm _ _
      after_of_not_improved := by
        intro hnot
        cases hnot
      before_le_after := by
        -- the check shows at most a hundred, so education was at most ninety-nine
        have hpercentile : (Dice.percentile.maxTotal : Int) = maxCharacteristic + 1 := by decide
        show education ≤ min (education + _) maxCharacteristic
        omega }

theorem sound_of_mem_checksFrom [LawfulDieSource σ] (first n : Nat) (education : Int) (s : σ) :
    ∀ c ∈ (checksFrom first n education s).1, c.Sound := by
  induction n generalizing first education s with
  | zero =>
    intro c hc
    cases hc
  | succ n ih =>
    rw [checksFrom_succ, List.forall_mem_cons]
    exact ⟨sound_checkEducation first education s, ih _ _ _⟩

theorem iteration_checkEducation (iteration : Nat) (education : Int) (s : σ) :
    (checkEducation iteration education s).1.iteration = iteration := by
  rcases checkEducation_cases iteration education s with ⟨-, h⟩ | ⟨-, h⟩ <;> rw [h] <;> rfl

/-- The checks are numbered one after the other. -/
theorem iterations_checksFrom (first n : Nat) (education : Int) (s : σ) :
    (checksFrom first n education s).1.map EducationCheck.iteration = List.range' first n := by
  induction n generalizing first education s with
  | zero => rfl
  | succ n ih =>
    rw [checksFrom_succ, List.map_cons, iteration_checkEducation, ih]
    rfl

end Age

end Chargen
