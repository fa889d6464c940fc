import Chargen.Dice.WordStream
import Chargen.Draft.Transition
import Chargen.Proofs.Ageing.Block
import Chargen.Proofs.Review
import Chargen.Proofs.Rulebook

/-!
# Rolled drafts

Rolling a draft rolls a block, ages it and stores it with the age of the draft. If the dice of the
rulebook cannot show more than the greatest value, every value on the way is legal, so a review has
nothing to say about the characteristics.

* `Age.legal_rollBlock`: a rolled block is legal.
* `Age.legal_ageBlock`: a legal block stays legal while it is aged.
* `Draft.stage_ne_of_mem_review`: a stage without issues is not heard of in any review.
* `Draft.roll_legal`: **a rolled draft has legal characteristics**.
-/

namespace Chargen

variable {σ : Type} [DieSource σ]

namespace Age

/-- Every value of a rolled block is the total of a roll. -/
theorem exists_get_rollBlock (generation : Profile Dice) (s : σ) (c : Characteristic) :
    ∃ s' : σ, (rollBlock generation s).1.get c = ((generation.get c).roll s').1.total := by
  cases c <;> exact ⟨_, rfl⟩

/-- A block is legal when it is rolled with legal dice that cannot show too much. -/
theorem legal_rollBlock [LawfulDieSource σ] {generation : Profile Dice}
    (hdice : ∀ c, (generation.get c).Legal)
    (hmax : ∀ c, ((generation.get c).maxTotal : Int) ≤ maxCharacteristic) (s : σ)
    (c : Characteristic) : LegalValue ((rollBlock generation s).1.get c) := by
  obtain ⟨s', hget⟩ := exists_get_rollBlock generation s c
  have hlo := (hdice c).one_le_minTotal
  have hbounds := (hdice c).total_bounds s'
  have hhi := hmax c
  rw [hget]
  unfold LegalValue minCharacteristic
  omega

/-- **A legal block stays legal while it is aged**, and so is every value on the way. -/
theorem legal_ageBlock [LawfulDieSource σ] {generation : Profile Dice}
    (hluck : (generation.get .suerte).Legal)
    (hmax : ((generation.get .suerte).maxTotal : Int) ≤ maxCharacteristic) {base : Block}
    (hbase : ∀ c, LegalValue (base.get c)) (age : Nat) (split : Split) (s : σ) :
    (∀ c, LegalValue ((ageBlock generation base age split s).1.characteristics.get c)) ∧
      ∀ step ∈ (ageBlock generation base age split s).1.steps,
        LegalValue step.before ∧ LegalValue step.after := by
  have hages : ∀ c,
      (∀ step ∈ (agedOf (generation.get .suerte) age (split.penalties age) base s c).steps,
          LegalValue step.before ∧ LegalValue step.after) ∧
        LegalValue (agedOf (generation.get .suerte) age (split.penalties age) base s c).value :=
    fun c => (ages_ageValue _ _ _ _ _ _).legal hluck hmax (hbase c)
  constructor
  · intro c
    rw [get_ageBlock]
    exact (hages c).2
  · intro step hstep
    rw [ageBlock_eq, List.mem_flatMap] at hstep
    obtain ⟨c, -, hstep⟩ := hstep
    exact (hages c).1 step hstep

end Age

namespace Draft

variable {d : Draft}

/-- Legal characteristics rolled at the age of the draft have no issues. -/
theorem characteristicIssues_eq_nil
    (hlegal : ∀ c, ∃ value, d.characteristics.get c = some value ∧ LegalValue value)
    (hrolled : d.rolledAt = some d.age) : d.characteristicIssues = [] := by
  have hvalues : d.characteristics.toList.filterMap (fun e => characteristicIssue? e.1 e.2) =
      [] := by
    refine List.filterMap_eq_nil_iff.mpr fun e he => ?_
    obtain ⟨c, -, rfl⟩ := List.mem_map.mp he
    obtain ⟨value, hvalue, hlo, hhi⟩ := hlegal c
    have hlegal : isLegalCharacteristic value = true := by
      unfold isLegalCharacteristic
      rw [Bool.and_eq_true, decide_eq_true_eq, decide_eq_true_eq]
      exact ⟨hlo, hhi⟩
    show characteristicIssue? c (d.characteristics.get c) = none
    rw [hvalue, characteristicIssue?, hlegal]
    rfl
  have hstale : d.staleIssue? = none := by
    unfold staleIssue?
    rw [hrolled]
    simp
  rw [characteristicIssues, hvalues, hstale]
  rfl

/-- A stage without issues is not heard of in any review. -/
theorem stage_ne_of_mem_review {r : Rulebook} {stage : Stage} (h : d.issuesAt r stage = [])
    (other : Stage) : ∀ i ∈ (d.review r other).issues, i.code.stage ≠ stage := by
  intro i hi heq
  obtain ⟨found, -, hi⟩ := List.mem_flatMap.mp hi
  -- the issue belongs to the stage that found it, so that stage is the empty one
  have hfound := stage_of_mem_issuesAt hi
  rw [heq] at hfound
  subst hfound
  rw [h] at hi
  cases hi

/-- **A rolled draft has legal characteristics.** With a rulebook whose dice cannot show more than
the greatest value, rolling a draft of any age and split stores nine legal values with the age of
the draft, every adjustment leads from a legal value to a legal one, and no review at any stage
finds a characteristic missing, illegal or rolled at another age. -/
theorem roll_legal [LawfulDieSource σ] {j : Json} {r : Rulebook} (hr : Rulebook.ofJson j = .ok r)
    (hmax : ∀ c, ((r.generation.get c).maxTotal : Int) ≤ maxCharacteristic) (d : Draft) (s : σ) :
    let aged := (d.roll r s).1.1
    let rolled := (d.roll r s).1.2
    (∀ c, ∃ value, rolled.characteristics.get c = some value ∧ LegalValue value) ∧
      (∀ step ∈ aged.steps, LegalValue step.before ∧ LegalValue step.after) ∧
      rolled.rolledAt = some rolled.age ∧ rolled.age = d.age ∧
      ∀ stage, ∀ i ∈ (rolled.review r stage).issues, i.code ≠ .characteristicsMissing ∧
        i.code ≠ .characteristicOutOfRange ∧ i.code ≠ .characteristicsStaleAge := by
  intro aged rolled
  have hdice := Rulebook.legal_generation hr
  obtain ⟨hvalues, hsteps⟩ := Age.legal_ageBlock (hdice .suerte) (hmax .suerte)
    (Age.legal_rollBlock hdice hmax s) d.age d.split (Age.rollBlock r.generation s).2
  have hlegal : ∀ c, ∃ value, rolled.characteristics.get c = some value ∧ LegalValue value := by
    intro c
    have hget : rolled.characteristics.get c = some (aged.characteristics.get c) :=
      Profile.get_map some aged.characteristics c
    exact ⟨_, hget, hvalues c⟩
  have hrolled : rolled.rolledAt = some rolled.age := rfl
  refine ⟨hlegal, hsteps, hrolled, rfl, fun stage i hi => ?_⟩
  have hnil : rolled.issuesAt r .characteristics = [] := characteristicIssues_eq_nil hlegal hrolled
  have hstage := stage_ne_of_mem_review hnil stage i hi
  refine ⟨?_, ?_, ?_⟩ <;>
    · intro hcode
      rw [hcode] at hstage
      exact hstage rfl

/-- A fresh draft of a character of eighty years. -/
def eighty : Draft := { fresh with age := 80 }

/-- Words that make every die show one, but for a check of education. -/
def unluckyWords : WordStream :=
  .start (List.replicate 24 0 ++ [4000000000, 4000000000] ++ List.replicate 3 0) 0

/-- Four penalties stop at the least value, and the checks raise education once. -/
theorem roll_legal_eighty : ∃ r, Rulebook.ofJson Rulebook.sampleDocument = .ok r ∧
    (∀ c, ((r.generation.get c).maxTotal : Int) ≤ maxCharacteristic) ∧
    (eighty.roll r unluckyWords).1.1.steps.map (fun step => (step.before, step.after)) =
      [(15, 1), (15, 1), (15, 1), (15, 1), (40, 50), (50, 50), (50, 50), (50, 50)] ∧
    (eighty.roll r unluckyWords).1.2.characteristics =
      { fue := some 1, con := some 1, tam := some 40, des := some 1, apa := some 1, int := some 40,
        pod := some 15, edu := some 50, suerte := some 15 } ∧
    ∀ stage, ∀ i ∈ ((eighty.roll r unluckyWords).1.2.review r stage).issues,
      i.code ≠ .characteristicOutOfRange := by
  have hsample : ∃ r o, Rulebook.ofJson Rulebook.sampleDocument = .ok r ∧
      r.occupation? "Actriz" = some o ∧
      (∀ c ∈ Characteristic.all, ((r.generation.get c).maxTotal : Int) ≤ maxCharacteristic) ∧
      (eighty.roll r unluckyWords).1.1.steps.map (fun step => (step.before, step.after)) =
        [(15, 1), (15, 1), (15, 1), (15, 1), (40, 50), (50, 50), (50, 50), (50, 50)] ∧
      (eighty.roll r unluckyWords).1.2.characteristics =
        { fue := some 1, con := some 1, tam := some 40, des := some 1, apa := some 1,
          int := some 40, pod := some 15, edu := some 50, suerte := some 15 } :=
    Rulebook.exists_occupation_of_decide (by decide +kernel)
  obtain ⟨r, o, hr, -, hmax, hsteps, hblock⟩ := hsample
  have hmax : ∀ c, ((r.generation.get c).maxTotal : Int) ≤ maxCharacteristic :=
    fun c => hmax c c.mem_all
  obtain ⟨-, -, -, -, hreview⟩ := roll_legal hr hmax eighty unluckyWords
  refine ⟨r, hr, hmax, hsteps, hblock, fun stage i hi => ?_⟩
  exact (hreview stage i hi).2.1

end Draft

end Chargen
