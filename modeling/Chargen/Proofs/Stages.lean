import Chargen.Proofs.Finish
import Chargen.Review.InTurn
import Mathlib.Data.List.GetD

/-!
# Reviews stage by stage

A review lists the issues of all stages up to its own, so what it finds stays when more stages are
reviewed. The stages before the identity look at the numbers of a draft only.

* `Stage.number_ofInt`: any number is taken for the nearest stage.
* `Draft.reviewInTurn_eq`: **a review made check by check finds the same issues**.
* `Draft.issues_extend`: the issues of a stage are the first ones of every later stage.
* `Draft.SameNumbers.review_eq`: the first seven stages see the numbers of a draft only.
* `Draft.review_cumulative`: **reviews are cumulative**, and each looks at its own data only.
-/

namespace Chargen

namespace Stage

theorem number_getD (k : Nat) : (all.getD k last).number = min (k + 1) 10 := by
  by_cases hk : k < 10
  · have hall : ∀ k < 10, (all.getD k last).number = k + 1 := by decide
    rw [hall k hk]
    omega
  · have hlast : last.number = 10 := rfl
    rw [List.getD_eq_default _ _ (Nat.not_lt.mp hk), hlast]
    omega

/-- **Any number is taken for the nearest stage.** -/
theorem number_ofInt (n : Int) : ((ofInt n).number : Int) = max 1 (min n 10) := by
  rw [ofInt, number_getD]
  omega

theorem number_mono {m n : Int} (h : m ≤ n) : (ofInt m).number ≤ (ofInt n).number := by
  have hm := number_ofInt m
  have hn := number_ofInt n
  omega

theorem number_le_of_mem_upTo {s t : Stage} (h : s ∈ t.upTo) : s.number ≤ t.number := by
  have hall : ∀ t : Stage, ∀ s ∈ t.upTo, s.number ≤ t.number := by
    intro t
    cases t <;> decide
  exact hall t s h

theorem mem_upTo_of_number_le {s t : Stage} (h : s.number ≤ t.number) : s ∈ t.upTo := by
  have hat : all[s.number - 1]? = some s := by cases s <;> rfl
  have hpos : 0 < s.number := by cases s <;> decide
  obtain ⟨hlt, hget⟩ := List.getElem?_eq_some_iff.mp hat
  exact List.mem_take_iff_getElem.mpr ⟨s.number - 1, by omega, hget⟩

theorem nodup_upTo (t : Stage) : t.upTo.Nodup :=
  (List.take_sublist t.number all).nodup (by decide)

/-- To go through the stages up to one is to go through all and leave out those that are not
reached. -/
theorem flatMap_upTo {α : Type} (t : Stage) (f : Stage → List α) :
    t.upTo.flatMap f = all.flatMap fun s => if s.number ≤ t.number then f s else [] := by
  cases t <;> rfl

end Stage

namespace Reviewing

theorem run_bind {α β : Type} (first : Reviewing α) (next : α → Reviewing β) (found : List Issue) :
    (first >>= next) found = next (first found).1 (first found).2 := rfl

theorem run_add (issues found : List Issue) : add issues found = ((), found ++ issues) := rfl

/-- A check from a stage on adds its issues if the stage is reached. -/
theorem run_fromStage {first stage : Stage} {check : Reviewing Unit} {issues : List Issue}
    (hcheck : first.number ≤ stage.number → ∀ found, check found = ((), found ++ issues))
    (found : List Issue) : fromStage first stage check found =
      ((), found ++ if first.number ≤ stage.number then issues else []) := by
  unfold fromStage
  split
  · next hreached => exact hcheck hreached found
  · rw [List.append_nil]
    rfl

theorem run_fromStage_add (first stage : Stage) (issues found : List Issue) :
    fromStage first stage (add issues) found =
      ((), found ++ if first.number ≤ stage.number then issues else []) :=
  run_fromStage (fun _ => run_add issues) found

end Reviewing

namespace Draft

open Reviewing

variable {r : Rulebook} {d d' : Draft}

/-! ### Check by check -/

/-- The check of the occupation hands on the one that the rulebook lists. -/
theorem checkOccupation_eq (r : Rulebook) (d : Draft) (found : List Issue) :
    d.checkOccupation r found = (d.knownOccupation? r, found ++ d.occupationIssues r) := by
  unfold checkOccupation knownOccupation? occupationIssues
  cases d.namedSelection? with
  | none => rfl
  | some s =>
    rw [Option.bind_some]
    dsimp only
    cases r.occupation? s.name with
    | none => rfl
    | some o =>
      dsimp only
      cases o.credit.contains s.creditRating with
      | true => exact Prod.ext rfl (List.append_nil found).symm
      | false => rfl

theorem checkChoices_eq (r : Rulebook) (d : Draft) (found : List Issue) :
    checkChoices r (d.knownOccupation? r) found = ((), found ++ d.issuesAt r .choices) := by
  unfold issuesAt checkChoices
  cases d.knownOccupation? r with
  | none => exact Prod.ext rfl (List.append_nil found).symm
  | some e => rfl

theorem checkOccupationSkills_eq (r : Rulebook) (d : Draft) (found : List Issue) :
    d.checkOccupationSkills r (d.knownOccupation? r) found =
      ((), found ++ d.occupationSkillIssues r) := by
  unfold checkOccupationSkills occupationSkillIssues
  rw [← List.append_assoc]
  cases d.knownOccupation? r with
  | none => rw [List.append_nil]; rfl
  | some e => rfl

/-- **A review made check by check finds the same issues**, in the same order. -/
theorem reviewInTurn_eq (r : Rulebook) (stage : Stage) (d : Draft) :
    d.reviewInTurn r stage [] = ((), (d.review r stage).issues) := by
  -- What the check of the occupation hands on is the known occupation wherever it is looked at.
  let occupation := if Stage.occupation.number ≤ stage.number then d.knownOccupation? r else none
  have hknown {first : Stage} (hafter : Stage.occupation.number ≤ first.number)
      (hreached : first.number ≤ stage.number) : occupation = d.knownOccupation? r :=
    if_pos (hafter.trans hreached)
  have hoccupation (found : List Issue) : fromStage .occupation stage (d.checkOccupation r) found =
      (occupation,
        found ++ if Stage.occupation.number ≤ stage.number then d.occupationIssues r else []) := by
    unfold fromStage occupation
    split
    · exact checkOccupation_eq r d found
    · rw [List.append_nil]
      rfl
  have hchoices (found : List Issue) : fromStage .choices stage (checkChoices r occupation) found =
      ((), found ++ if Stage.choices.number ≤ stage.number then d.issuesAt r .choices else []) := by
    refine run_fromStage (fun hreached => ?_) found
    rw [hknown (by decide) hreached]
    exact checkChoices_eq r d
  have hskills (found : List Issue) :
      fromStage .occupationSkills stage (d.checkOccupationSkills r occupation) found =
        ((), found ++ if Stage.occupationSkills.number ≤ stage.number then
          d.occupationSkillIssues r else []) := by
    refine run_fromStage (fun hreached => ?_) found
    rw [hknown (by decide) hreached]
    exact checkOccupationSkills_eq r d
  have hage : Stage.age.number ≤ stage.number := by cases stage <;> decide
  have hvitals : (if Stage.vitals.number ≤ stage.number then d.issuesAt r .vitals else []) = [] :=
    ite_self []
  rw [review, Stage.flatMap_upTo]
  unfold reviewInTurn
  simp only [run_bind, run_add, run_fromStage_add, hoccupation, hchoices, hskills]
  simp only [Stage.all, List.flatMap_cons, List.flatMap_nil, if_pos hage, hvitals,
    List.nil_append, List.append_nil, List.append_assoc]
  rfl

/-! ### Stages in order -/

/-- The issues of a stage are the first ones of every later stage. -/
theorem issues_extend {s t : Stage} (h : s.number ≤ t.number) :
    (d.review r s).issues <+: (d.review r t).issues := by
  have hstages : s.upTo <+: t.upTo := List.take_prefix_take_left h
  exact hstages.flatMap _

/-- What a review has found is still found at every later stage. -/
theorem hasErrors_mono {s t : Stage} (h : s.number ≤ t.number)
    (herrors : (d.review r s).hasErrors = true) : (d.review r t).hasErrors = true := by
  rw [Report.hasErrors, List.any_eq_true] at herrors ⊢
  obtain ⟨i, hi, herror⟩ := herrors
  exact ⟨i, (issues_extend h).mem hi, herror⟩

/-- A clean draft may go on at every stage. -/
theorem Clean.canAdvance (h : d.Clean r) (s : Stage) : (d.review r s).canAdvance = true := by
  have hlast : s.number ≤ Stage.last.number := by cases s <;> decide
  rw [Report.canAdvance, Bool.not_eq_true', Bool.eq_false_iff]
  intro herrors
  rw [Clean, hasErrors_mono hlast herrors] at h
  cases h

/-- Two drafts with the same numbers; identity, background, companions and equipment may differ. -/
structure SameNumbers (d d' : Draft) : Prop where
  age : d'.age = d.age
  split : d'.split = d.split
  characteristics : d'.characteristics = d.characteristics
  rolledAt : d'.rolledAt = d.rolledAt
  selection : d'.selection = d.selection
  spending : d'.spending = d.spending

namespace SameNumbers

theorem eq_with (h : d.SameNumbers d') :
    d' = { d with
      identity := d'.identity
      background := d'.background
      companions := d'.companions
      equipment := d'.equipment } := by
  cases d'
  obtain ⟨rfl, rfl, rfl, rfl, rfl, rfl⟩ := h
  rfl

/-- A stage before the identity has the same issues for drafts with the same numbers. -/
theorem issuesAt_eq (h : d.SameNumbers d') {s : Stage} (hs : s.number ≤ 7) :
    d'.issuesAt r s = d.issuesAt r s := by
  rw [h.eq_with]
  cases s with
  | identity => simp [Stage.number] at hs
  | background => simp [Stage.number] at hs
  | equipment => simp [Stage.number] at hs
  | _ => rfl

/-- **The first seven stages see the numbers of a draft only.** -/
theorem review_eq (h : d.SameNumbers d') {s : Stage} (hs : s.number ≤ 7) :
    d'.review r s = d.review r s := by
  have hissues : s.upTo.flatMap (d'.issuesAt r) = s.upTo.flatMap (d.issuesAt r) := by
    refine List.flatMap_congr fun stage hstage => ?_
    exact h.issuesAt_eq ((Stage.number_le_of_mem_upTo hstage).trans hs)
  rw [review, review, hissues]

end SameNumbers

/-- **Reviews are cumulative.** A review made check by check finds the issues of the stages up to its
own. Of two stages, given by any numbers, the issues of the earlier one are the first issues of the
later one, so an error is still there later on, and a draft that can be finished may go on at every
stage. Drafts with the same numbers get the same reports at the first seven stages. -/
theorem review_cumulative (r : Rulebook) (d : Draft) :
    (∀ n : Int, d.reviewInTurn r (Stage.ofInt n) [] =
        ((), (d.review r (Stage.ofInt n)).issues)) ∧
      (∀ m n : Int, m ≤ n →
        (d.review r (Stage.ofInt m)).issues <+: (d.review r (Stage.ofInt n)).issues ∧
        ((d.review r (Stage.ofInt m)).hasErrors = true →
          (d.review r (Stage.ofInt n)).hasErrors = true)) ∧
      ((∃ sheet, d.finish r = .ok sheet) →
        ∀ n : Int, (d.review r (Stage.ofInt n)).canAdvance = true) ∧
      ∀ d' : Draft, d.SameNumbers d' → ∀ n : Int, n ≤ 7 →
        d'.review r (Stage.ofInt n) = d.review r (Stage.ofInt n) := by
  refine ⟨fun n => reviewInTurn_eq r (Stage.ofInt n) d, ?_, ?_, ?_⟩
  · intro m n h
    have hnumber := Stage.number_mono h
    exact ⟨issues_extend hnumber, hasErrors_mono hnumber⟩
  · intro hfinish n
    exact (exists_finish_iff.mp hfinish).canAdvance _
  · intro d' h n hn
    have hnumber := Stage.number_ofInt n
    exact h.review_eq (by omega)

/-- A draft without a name, at an age that the rules do not cover and without its penalties. -/
def elder : Draft :=
  { sample with age := 95, identity := Identity.blank }

/-- An early warning and an early error of a draft that has a late error too, and a draft that is
finished. -/
theorem review_cumulative_elder : ∃ r, Rulebook.ofJson Rulebook.sampleDocument = .ok r ∧
    (elder.review r (Stage.ofInt 0)).issues =
      [.ageOutOfRange 95, .penaltyMismatch ⟨false, 80, 0⟩] ∧
    (elder.review r (Stage.ofInt 0)).issues <+: (elder.review r (Stage.ofInt 42)).issues ∧
    (elder.review r (Stage.ofInt 42)).hasErrors = true ∧
    elder.SameNumbers { sample with age := 95 } ∧
    { sample with age := 95 }.review r (Stage.ofInt 7) = elder.review r (Stage.ofInt 7) ∧
    (∃ sheet, sample.finish r = .ok sheet) ∧
    (sample.review r (Stage.ofInt 5)).canAdvance = true := by
  have hsample : ∃ r o, Rulebook.ofJson Rulebook.sampleDocument = .ok r ∧
      r.occupation? "Actriz" = some o ∧
      (elder.review r (Stage.ofInt 0)).issues =
        [.ageOutOfRange 95, .penaltyMismatch ⟨false, 80, 0⟩] ∧
      (sample.review r Stage.last).hasErrors = false :=
    Rulebook.exists_occupation_of_decide (by decide +kernel)
  obtain ⟨r, o, hr, -, hissues, hclean⟩ := hsample
  have hsheet : ∃ sheet, sample.finish r = .ok sheet := exists_finish_iff.mpr hclean
  have herrors : (elder.review r (Stage.ofInt 0)).hasErrors = true := by
    rw [Report.hasErrors, hissues]
    rfl
  have hnumbers : elder.SameNumbers { sample with age := 95 } := ⟨rfl, rfl, rfl, rfl, rfl, rfl⟩
  obtain ⟨-, hlater, -, hsame⟩ := review_cumulative r elder
  obtain ⟨hfirst, hstays⟩ := hlater 0 42 (by decide)
  exact ⟨r, hr, hissues, hfirst, hstays herrors, hnumbers, hsame _ hnumbers 7 (by decide), hsheet,
    (review_cumulative r sample).2.2.1 hsheet 5⟩

end Draft

end Chargen
