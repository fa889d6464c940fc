import Chargen.Dice.WordStream
import Chargen.Proofs.Ageing
import Chargen.Proofs.SortedMap
import Mathlib.Data.List.Forall2

/-!
# How a block ages

A block is aged in sheet order. Of the nine characteristics only education and luck throw dice, so
every other one leaves the source as it was, and luck is the only one that finds dice thrown before
it. No age both checks education and rolls luck again.

* `Age.ageBlock_eq`: an aged block, characteristic by characteristic.
* `Age.steps_audited`: **the steps are a complete record** of how the values were reached.
* `Age.ageBlock_of_rollAged`: **a characteristic ages alone as it does within a block**.
-/

namespace Chargen

/-! ### What an age asks for -/

namespace Split

variable (split : Split) {age : Nat}

theorem educationChecks_penalties (age : Nat) :
    (split.penalties age).educationChecks = Age.educationChecks age := by
  unfold penalties
  split_ifs <;> rfl

/-- Luck is rolled once except in youth. -/
theorem luckRolls_penalties (h : Age.isYouth age = false) :
    (split.penalties age).luckRolls = 1 := by
  simp only [penalties, h, Bool.false_eq_true, if_false]
  split <;> rfl

/-- Education is lost in youth only. -/
theorem edu_penalties (h : Age.isYouth age = false) : (split.penalties age).edu = 0 := by
  simp only [penalties, h, Bool.false_eq_true, if_false]
  split <;> rfl

end Split

namespace Age

/-- Education is not checked in youth. -/
theorem educationChecks_of_isYouth {age : Nat} (h : isYouth age = true) :
    educationChecks age = 0 := by
  unfold isYouth at h
  rw [Bool.and_eq_true, decide_eq_true_eq, decide_eq_true_eq] at h
  unfold educationChecks
  rw [if_pos (by omega)]

/-- The adjustments of one characteristic. -/
def about (c : Characteristic) (steps : List Adjustment) : List Adjustment :=
  steps.filter fun step => step.characteristic == c

theorem about_flatMap {steps : Characteristic → List Adjustment}
    (h : ∀ c, ∀ step ∈ steps c, step.characteristic = c) (c : Characteristic) :
    about c (Characteristic.all.flatMap steps) = steps c := by
  have hnodup : Characteristic.all.Nodup := by decide
  have hown : (steps c).filter (fun step => step.characteristic == c) = steps c := by
    refine List.filter_eq_self.mpr fun step hstep => ?_
    rw [h c step hstep]
    exact beq_self_eq_true c
  have hothers : ∀ d ∈ Characteristic.all, d ≠ c →
      (steps d).filter (fun step => step.characteristic == c) = [] := by
    intro d _ hd
    refine List.filter_eq_nil_iff.mpr fun step hstep => ?_
    rw [h d step hstep, beq_iff_eq]
    exact hd
  unfold about
  rw [List.filter_flatMap, flatMap_eq_of_unique hnodup c.mem_all hothers, hown]

variable {σ : Type} [DieSource σ]

/-! ### Characteristic by characteristic -/

/-- The source that a characteristic finds while a block is aged. Before luck, which is last, only
education throws dice. -/
def sourceOf (luck : Dice) (age : Nat) (p : Penalties) (base : Block) (s : σ) : Characteristic → σ
  | .suerte => (ageValue luck age p .edu (base.get .edu) s).2
  | _ => s

/-- A characteristic of a block, aged from the source that it finds. -/
def agedOf (luck : Dice) (age : Nat) (p : Penalties) (base : Block) (s : σ) (c : Characteristic) :
    AgedValue :=
  (ageValue luck age p c (base.get c) (sourceOf luck age p base s c)).1

section Value

variable (luck : Dice) (age : Nat) (p : Penalties) (value : Int) (s : σ)

/-- Only education has checks. -/
theorem checks_ageValue {c : Characteristic} (hc : c ≠ .edu) :
    (ageValue luck age p c value s).1.checks = [] := by
  cases c with
  | edu => exact absurd rfl hc
  | _ => rfl

theorem steps_ageValue_edu (hp : p.edu = 0) :
    (ageValue luck age p .edu value s).1.steps =
      (ageValue luck age p .edu value s).1.checks.map checkStep := by
  have hpenalty : penaltySteps age .edu p value = [] := by
    unfold penaltySteps Penalties.amount
    rw [hp]
    rfl
  have hsteps : (ageValue luck age p .edu value s).1.steps =
      penaltySteps age .edu p value ++
        (ageValue luck age p .edu value s).1.checks.map checkStep := rfl
  rw [hsteps, hpenalty, List.nil_append]

theorem checks_ageValue_edu :
    (ageValue luck age p .edu value s).1.checks =
      (checksFrom 1 p.educationChecks (valueAfter value (penaltySteps age .edu p value)) s).1 := rfl

/-- Without checks, education throws no dice. -/
theorem source_ageValue_edu (hp : p.educationChecks = 0) :
    (ageValue luck age p .edu value s).2 = s := by
  have hsource : (ageValue luck age p .edu value s).2 =
      (checksFrom 1 p.educationChecks (valueAfter value (penaltySteps age .edu p value)) s).2 := rfl
  rw [hsource, hp]
  rfl

/-- If luck is rolled once only, it does not matter which source it finds. -/
theorem ageValue_suerte_eq (hp : p.luckRolls = 1) (s' : σ) :
    (ageValue luck age p .suerte value s).1 = (ageValue luck age p .suerte value s').1 := by
  unfold ageValue
  rw [hp]
  rfl

end Value

variable (generation : Profile Dice) (base : Block) (age : Nat) (split : Split) (s : σ)

/-- **An aged block, characteristic by characteristic.** -/
theorem ageBlock_eq :
    let luck := generation.get .suerte
    let p := split.penalties age
    ageBlock generation base age split s =
      ({ characteristics := Profile.ofFn fun c => (agedOf luck age p base s c).value
         penalties := p
         steps := Characteristic.all.flatMap fun c => (agedOf luck age p base s c).steps
         checks := (agedOf luck age p base s .edu).checks },
        (ageValue luck age p .suerte (base.get .suerte)
          (sourceOf luck age p base s .suerte)).2) := by
  intro luck p
  have hchecks : (Characteristic.all.flatMap fun c => (agedOf luck age p base s c).checks) =
      (agedOf luck age p base s .edu).checks := by
    refine flatMap_eq_of_unique (by decide) (Characteristic.mem_all .edu) fun c _ hc => ?_
    exact checks_ageValue luck age p _ _ hc
  rw [← hchecks]
  rfl

theorem own_agedOf (luck : Dice) (p : Penalties) (c : Characteristic) :
    ∀ step ∈ (agedOf luck age p base s c).steps, step.characteristic = c :=
  (ages_ageValue luck age p c (base.get c) (sourceOf luck age p base s c)).characteristic_eq

/-- The adjustments of one characteristic of an aged block are those of its own ageing. -/
theorem about_ageBlock (c : Characteristic) :
    about c (ageBlock generation base age split s).1.steps =
      (agedOf (generation.get .suerte) age (split.penalties age) base s c).steps := by
  rw [ageBlock_eq]
  exact about_flatMap (own_agedOf base age s _ _) c

theorem get_ageBlock (c : Characteristic) :
    (ageBlock generation base age split s).1.characteristics.get c =
      (agedOf (generation.get .suerte) age (split.penalties age) base s c).value := by
  rw [ageBlock_eq, Profile.get_ofFn]

/-- Nine actions that each record their dice record all dice together. -/
theorem draws_generate {act : Characteristic → StateM σ AgedValue}
    (h : ∀ c s, Draws s ((act c s).1.steps.flatMap Adjustment.dice) (act c s).2) (s : σ) :
    Draws s
      ((Profile.generate act s).1.toList.flatMap fun e => e.2.steps.flatMap Adjustment.dice)
      (Profile.generate act s).2 := by
  -- the list of nine is taken apart one characteristic after the other
  refine (h .fue s).append ?_
  refine (h .con _).append ?_
  refine (h .tam _).append ?_
  refine (h .des _).append ?_
  refine (h .apa _).append ?_
  refine (h .int _).append ?_
  refine (h .pod _).append ?_
  refine (h .edu _).append ?_
  exact (h .suerte _).append (.nil _)

/-- An aged block records all dice that ageing it throws, in the order thrown. -/
theorem draws_ageBlock :
    Draws s ((ageBlock generation base age split s).1.steps.flatMap Adjustment.dice)
      (ageBlock generation base age split s).2 := by
  have hdraws := draws_generate (fun c s =>
    (ages_ageValue (generation.get .suerte) age (split.penalties age) c (base.get c) s).draws) s
  rw [← List.flatMap_assoc] at hdraws
  exact hdraws

/-! ### The record -/

/-- An adjustment that an education check makes. -/
structure Matches (check : EducationCheck) (step : Adjustment) : Prop where
  characteristic_eq : step.characteristic = .edu
  before_eq : step.before = check.before
  after_eq : step.after = check.after
  dice_eq : step.dice = check.check :: check.gain.toList

/-- The education checks that an age asks for, with the adjustments of education: the checks are
numbered from one on, each is sound, and if there are any, the adjustments are theirs. -/
structure Checked (age : Nat) (steps : List Adjustment) (checks : List EducationCheck) :
    Prop where
  numbered : checks.map EducationCheck.iteration = List.range' 1 (educationChecks age)
  sound : ∀ check ∈ checks, check.Sound
  matched : checks ≠ [] → List.Forall₂ Matches checks steps

/-- A complete record of how a block was aged, from the source before it to the one after it: the
adjustments of each characteristic lead from its first value to its last one, they are grouped in
sheet order, they hold all dice in the order thrown, and the education checks are among them. -/
structure Audited (base : Block) (age : Nat) (s : σ) (aged : AgedBlock) (s' : σ) : Prop where
  trail : ∀ c, Trail (base.get c) (about c aged.steps) (aged.characteristics.get c)
  grouped : aged.steps = Characteristic.all.flatMap fun c => about c aged.steps
  draws : Draws s (aged.steps.flatMap Adjustment.dice) s'
  checked : Checked age (about .edu aged.steps) aged.checks

/-- A complete record of how a characteristic was rolled and aged: it starts with the roll, and only
education is checked. -/
structure RollAudited (c : Characteristic) (age : Nat) (s : σ) (rolled : AgedRoll) (s' : σ) :
    Prop where
  trail : Trail 0 rolled.steps rolled.value
  own : ∀ step ∈ rolled.steps, step.characteristic = c
  draws : Draws s (rolled.steps.flatMap Adjustment.dice) s'
  first : ∃ step, rolled.steps.head? = some step ∧ step.after = rolled.roll.total ∧
    step.dice = [rolled.roll]
  checked : c = .edu → Checked age rolled.steps.tail rolled.checks
  unchecked : c ≠ .edu → rolled.checks = []

/-- Ageing education makes the checks that its age asks for. -/
theorem checked_ageValue_edu [LawfulDieSource σ] (luck : Dice) (value : Int) :
    Checked age (ageValue luck age (split.penalties age) .edu value s).1.steps
      (ageValue luck age (split.penalties age) .edu value s).1.checks := by
  have hchecks := checks_ageValue_edu luck age (split.penalties age) value s
  rw [split.educationChecks_penalties] at hchecks
  refine ⟨?_, ?_, ?_⟩
  · rw [hchecks]
    exact iterations_checksFrom _ _ _ _
  · rw [hchecks]
    exact sound_of_mem_checksFrom _ _ _ _
  · intro hne
    -- there are checks, so the age is not young and education has no penalty among its steps
    have hyouth : isYouth age = false := by
      rw [Bool.eq_false_iff]
      intro hyouth
      rw [hchecks, educationChecks_of_isYouth hyouth] at hne
      exact hne rfl
    rw [steps_ageValue_edu _ _ _ _ _ (split.edu_penalties hyouth), List.forall₂_map_right_iff,
      List.forall₂_same]
    intro check _
    exact ⟨rfl, rfl, rfl, rfl⟩

/-- **The steps are a complete record.** Whatever block is aged at whatever age, and whichever
characteristic is rolled and aged alone, the record leads from the first value to the last one
adjustment by adjustment and holds all dice that were thrown. -/
theorem steps_audited [LawfulDieSource σ] :
    Audited base age s (ageBlock generation base age split s).1
        (ageBlock generation base age split s).2 ∧
      ∀ c, RollAudited c age s (rollAged generation c age split s).1
        (rollAged generation c age split s).2 := by
  constructor
  · constructor
    · intro c
      rw [about_ageBlock, get_ageBlock]
      exact (ages_ageValue _ _ _ _ _ _).trail
    · simp only [about_ageBlock]
      rw [ageBlock_eq]
    · exact draws_ageBlock generation base age split s
    · rw [about_ageBlock, ageBlock_eq]
      exact checked_ageValue_edu age split s _ _
  · intro c
    have hages := ages_ageValue (generation.get .suerte) age (split.penalties age) c
      ((generation.get c).roll s).1.total ((generation.get c).roll s).2
    constructor
    · exact .cons (rollStep c ((generation.get c).roll s).1) hages.trail
    · exact List.forall_mem_cons.mpr ⟨rfl, hages.characteristic_eq⟩
    · exact .cons (generation.get c) s hages.draws
    · exact ⟨_, rfl, rfl, rfl⟩
    · rintro rfl
      exact checked_ageValue_edu age split _ (generation.get .suerte) _
    · intro hc
      exact checks_ageValue _ _ _ _ _ hc

/-- A block of fifties whose education is checked twice: the first check shows ninety-four and is
exceeded, the second one shows one. -/
theorem steps_audited_forties :
    let s := WordStream.start [4000000000, 5, 0] 0
    let aged := ageBlock (Profile.uniform ⟨3, 6, 0, 5⟩) (Profile.uniform 50) 45 (Split.even 45) s
    aged.1.steps.map (fun step => (step.characteristic, step.before, step.after)) =
        [(.fue, 50, 49), (.con, 50, 49), (.des, 50, 47), (.apa, 50, 45), (.edu, 50, 51),
          (.edu, 51, 51)] ∧
      aged.1.checks.map EducationCheck.improved = [true, false] ∧
      Audited (Profile.uniform 50) 45 s aged.1 aged.2 := by
  refine ⟨by decide +kernel, by decide +kernel, ?_⟩
  exact (steps_audited (Profile.uniform ⟨3, 6, 0, 5⟩) (Profile.uniform 50) 45 (Split.even 45)
    (WordStream.start [4000000000, 5, 0] 0)).1

/-! ### Alone and within a block -/

/-- **No characteristic is aged by dice that another one has left to it**: within a block each of
them ages as if it found the source first. -/
theorem agedOf_eq (luck : Dice) (c : Characteristic) :
    agedOf luck age (split.penalties age) base s c =
      (ageValue luck age (split.penalties age) c (base.get c) s).1 := by
  cases c with
  | suerte =>
    -- luck alone may find another source, but no age both checks education and rolls luck again
    cases hyouth : isYouth age with
    | false => exact ageValue_suerte_eq _ _ _ _ _ (split.luckRolls_penalties hyouth) _
    | true =>
      have hchecks : (split.penalties age).educationChecks = 0 := by
        rw [split.educationChecks_penalties, educationChecks_of_isYouth hyouth]
      have hsource := source_ageValue_edu luck age (split.penalties age) (base.get .edu) s hchecks
      rw [agedOf, sourceOf, hsource]
  | _ => rfl

/-- **A characteristic ages alone as it does within a block.** If it is rolled and aged, and a block
with this roll is aged from the source that the roll leaves, then the block reaches the same value
by the same adjustments and the same education checks. -/
theorem ageBlock_of_rollAged (k : Characteristic) :
    let rolled := (rollAged generation k age split s).1
    let aged := (ageBlock generation base age split ((generation.get k).roll s).2).1
    base.get k = rolled.roll.total →
      aged.characteristics.get k = rolled.value ∧
        rolled.steps = rollStep k rolled.roll :: about k aged.steps ∧
        (k = .edu → aged.checks = rolled.checks) ∧ (k ≠ .edu → rolled.checks = []) := by
  intro rolled aged hbase
  have hresult : agedOf (generation.get .suerte) age (split.penalties age) base
      ((generation.get k).roll s).2 k =
        (ageValue (generation.get .suerte) age (split.penalties age) k rolled.roll.total
          ((generation.get k).roll s).2).1 := by
    rw [agedOf_eq, hbase]
  have hsteps : rolled.steps = rollStep k rolled.roll ::
      (ageValue (generation.get .suerte) age (split.penalties age) k rolled.roll.total
        ((generation.get k).roll s).2).1.steps := rfl
  refine ⟨?_, ?_, ?_, ?_⟩
  · have hvalue : aged.characteristics.get k = _ := get_ageBlock generation base age split _ k
    rw [hvalue, hresult]
    rfl
  · have habout : about k aged.steps = _ := about_ageBlock generation base age split _ k
    rw [hsteps, habout, hresult]
  · rintro rfl
    have hchecks : aged.checks = _ := congrArg (fun run => run.1.checks)
      (ageBlock_eq generation base age split ((generation.get .edu).roll s).2)
    rw [hchecks, hresult]
    rfl
  · exact checks_ageValue _ _ _ _ _

/-- Luck in youth: three ones are rolled, and then three sixes, which count. -/
theorem ageBlock_of_rollAged_youth :
    let generation : Profile Dice := Profile.uniform ⟨3, 6, 0, 5⟩
    let s := WordStream.start [0, 0, 0, 4000000000, 4000000000, 4000000000] 0
    let rolled := (rollAged generation .suerte 17 (Split.even 17) s).1
    let aged := (ageBlock generation (Profile.uniform 15) 17 (Split.even 17)
      ((generation.get .suerte).roll s).2).1
    (Profile.uniform 15 : Block).get .suerte = rolled.roll.total ∧ rolled.value = 90 ∧
      aged.characteristics.get .suerte = rolled.value ∧
      rolled.steps = rollStep .suerte rolled.roll :: about .suerte aged.steps := by
  have haged := ageBlock_of_rollAged (Profile.uniform ⟨3, 6, 0, 5⟩) (Profile.uniform 15) 17
    (Split.even 17) (WordStream.start [0, 0, 0, 4000000000, 4000000000, 4000000000] 0) .suerte
    (by decide +kernel)
  exact ⟨by decide +kernel, by decide +kernel, haged.1, haged.2.1⟩

end Age

end Chargen
