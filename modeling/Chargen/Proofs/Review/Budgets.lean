import Chargen.Proofs.Review.Kinds
import Chargen.Proofs.SkillRow.Account

/-!
# Points spent against the rules

A review checks the points of either pool twice: as a sum against the budget of the pool, and skill
by skill against what the pool may be spent on. The skill that the credit rating feeds is left out
of both sums; it may have occupation points, which do not count, but no personal ones.

* `Issue.OnePerSkill.of_merged`: **a check of merged points finds one issue for each skill**.
* `Draft.spending_reported`: **a review reports what is overspent, and each skill that may not have
  its points once**.
-/

namespace Chargen

namespace Issue

/-- **A check of merged points finds one issue for each skill** that has the property it looks for,
if only skills with points have it. -/
theorem OnePerSkill.of_merged {p : Pool} {issue? : String × Int → Option Issue}
    {issue : String → Issue} {P : String → Prop}
    (hissue : ∀ name i, issue? (name, p.points name) = some i ↔ P name ∧ i = issue name)
    (hkey : ∀ a b, SkillName.key a = SkillName.key b → P a → P b)
    (hpoints : ∀ skill, P skill → 0 < p.points skill) :
    OnePerSkill (p.merged.filterMap issue?) issue P := by
  rw [Pool.merged_eq, List.filterMap_map]
  refine .of_filterMap (SkillName.distinct_pairwise _) (fun name _ => hissue name) hkey ?_
  intro skill hP
  have hne : p.points skill ≠ 0 := by
    have := hpoints skill hP
    omega
  obtain ⟨e, he, hsame⟩ := p.exists_entry_of_points hne
  exact Grant.names_distinct_iff.mpr ⟨e.1, List.mem_map_of_mem he, hsame⟩

end Issue

namespace Draft

variable {r : Rulebook} {d : Draft} {s : Selection} {o : Occupation}

/-! ### The checks of a pool -/

theorem knownOccupation?_eq_some (hs : d.selection = some s)
    (hname : Text.isBlankText s.name = false) (ho : r.occupation? s.name = some o) :
    d.knownOccupation? r = some (o, s) := by
  have hnamed : d.namedSelection? = some s := by
    rw [namedSelection?, hs]
    exact Option.filter_eq_some_iff.mpr ⟨rfl, by rw [hname]; rfl⟩
  rw [knownOccupation?, hnamed, Option.bind_some, ho]
  rfl

/-- The issues of the occupation points are those of the sixth stage that are not about a cap. -/
theorem ofKind_occupationSkillIssues_of_points (hknown : d.knownOccupation? r = some (o, s))
    {code : IssueCode}
    (hcode : code = .occupationBudgetExceeded ∨ code = .occupationSkillNotAllowed) :
    Issue.ofKind code (d.occupationSkillIssues r) =
      Issue.ofKind code (d.occupationPointIssues r o s) := by
  have hcaps : Issue.ofKind code ((d.rows r).filterMap capIssue?) = [] := by
    refine Issue.ofKind_eq_nil fun i hi heq => ?_
    rcases code_of_mem_caps hi with h | h <;> rcases hcode with rfl | rfl <;>
      rw [h] at heq <;> cases heq
  rw [occupationSkillIssues, hknown, Issue.ofKind_append, hcaps, List.append_nil]

/-! ### What is reported -/

section Reported

variable {stage : Stage}

theorem ofKind_occupationBudget (hs : d.selection = some s) (ho : r.occupation? s.name = some o)
    (hknown : d.knownOccupation? r = some (o, s)) (hstage : 6 ≤ stage.number) :
    let total := occupationPoints o d.blockOrZero s.formulaPicks
    let spent := clip (d.spending.occupation.spent + s.creditRating)
    Issue.ofKind .occupationBudgetExceeded (d.review r stage).issues =
      if total < spent then [.occupationOverspent spent total] else [] := by
  intro total spent
  have hbudget : d.occupationBudget? r = some ⟨total, spent⟩ := by
    rw [occupationBudget?, hs]
    dsimp only
    rw [ho, Option.map_some]
  have hsix : IssueCode.occupationBudgetExceeded.stage = .occupationSkills := rfl
  rw [ofKind_review hsix hstage, issuesAt, ofKind_occupationSkillIssues_of_points hknown (.inl rfl),
    (ofKind_occupationPoints o s).1, occupationBudgetIssue?, hbudget]
  by_cases hexceeded : total < spent
  · simp [Budget.isExceeded, hexceeded]
  · simp [Budget.isExceeded, hexceeded]

theorem onePerSkill_notGranted (hknown : d.knownOccupation? r = some (o, s))
    (hstage : 6 ≤ stage.number) :
    Issue.OnePerSkill (Issue.ofKind .occupationSkillNotAllowed (d.review r stage).issues)
      (fun skill => .skillNotGranted skill o.name)
      fun skill => SkillName.isCredit skill = false ∧ 0 < d.spending.occupation.points skill ∧
        Grant.allows r o s skill = false := by
  have hsix : IssueCode.occupationSkillNotAllowed.stage = .occupationSkills := rfl
  rw [ofKind_review hsix hstage, issuesAt, ofKind_occupationSkillIssues_of_points hknown (.inr rfl),
    (ofKind_occupationPoints o s).2]
  refine .of_merged (fun name i => ?_) (fun a b h hP => ?_) fun skill hP => hP.2.1
  · -- Points are never negative, so those that are not zero are positive.
    have hnonneg := d.spending.occupation.points_nonneg name
    have hzero : (d.spending.occupation.points name == 0) = false ↔
        0 < d.spending.occupation.points name := by
      rw [beq_eq_false_iff_ne]
      omega
    dsimp only
    rw [Option.ite_none_left_eq_some, Option.some.injEq, Bool.not_eq_true, Bool.or_eq_false_iff,
      Bool.or_eq_false_iff, hzero]
    constructor
    · rintro ⟨⟨⟨hpos, hcredit⟩, hallows⟩, rfl⟩
      exact ⟨⟨hcredit, hpos, hallows⟩, rfl⟩
    · rintro ⟨⟨hcredit, hpos, hallows⟩, rfl⟩
      exact ⟨⟨⟨hpos, hcredit⟩, hallows⟩, rfl⟩
  · rwa [← SkillName.isCredit_congr h, ← Pool.points_congr _ h, ← Grant.allows_congr h]

theorem ofKind_personalBudget (hstage : 7 ≤ stage.number)
    (hlo : minNumber ≤ 2 * (d.characteristics.get .int).getD 0)
    (hhi : 2 * (d.characteristics.get .int).getD 0 ≤ maxNumber) :
    let total := 2 * (d.characteristics.get .int).getD 0
    Issue.ofKind .personalBudgetExceeded (d.review r stage).issues =
      if total < d.spending.personal.spent then [.personalOverspent d.spending.personal.spent total]
      else [] := by
  intro total
  have hbudget : d.personalBudget = ⟨total, d.spending.personal.spent⟩ :=
    congrArg (Budget.mk · _) (total_personalBudget hlo hhi)
  have hseven : IssueCode.personalBudgetExceeded.stage = .personalSkills := rfl
  rw [ofKind_review hseven hstage, issuesAt, ofKind_personalPoints.1, hbudget]
  by_cases hexceeded : total < d.spending.personal.spent
  · simp [Budget.isExceeded, hexceeded]
  · simp [Budget.isExceeded, hexceeded]

theorem onePerSkill_forbidden (hstage : 7 ≤ stage.number) :
    Issue.OnePerSkill (Issue.ofKind .skillForbiddenPersonal (d.review r stage).issues)
      Issue.skillForbidden
      fun skill => 0 < d.spending.personal.points skill ∧ r.isForbidden skill = true := by
  have hseven : IssueCode.skillForbiddenPersonal.stage = .personalSkills := rfl
  rw [ofKind_review hseven hstage, issuesAt, ofKind_personalPoints.2]
  refine .of_merged (fun name i => ?_) (fun a b h hP => ?_) fun skill hP => hP.1
  · dsimp only
    rw [Option.ite_none_right_eq_some, Option.some.injEq, Bool.and_eq_true, decide_eq_true_eq]
    exact and_congr_right fun _ => eq_comm
  · rwa [← Pool.points_congr _ h, ← Rulebook.isForbidden_congr h]

end Reported

/-- **A review reports what is overspent, and each skill that may not have its points once.** From
the seventh stage on it has one issue of the occupation's budget, if the points of all skills but
the one that the credit rating feeds and the rating itself are more than the points formula gives,
and one of the personal budget, if the points are more than twice the intelligence. Each skill with
occupation points that the occupation does not grant has one issue, and so has each skill with
personal points that the credit rating feeds or that is forbidden at creation. There are no other
issues of these kinds. Twice the intelligence must be a sheet number. -/
theorem spending_reported (r : Rulebook) {d : Draft} {s : Selection} {o : Occupation}
    (hs : d.selection = some s) (hname : Text.isBlankText s.name = false)
    (ho : r.occupation? s.name = some o)
    (hlo : minNumber ≤ 2 * (d.characteristics.get .int).getD 0)
    (hhi : 2 * (d.characteristics.get .int).getD 0 ≤ maxNumber) {n : Int} (hn : 7 ≤ n) :
    let issues := (d.review r (Stage.ofInt n)).issues
    let total := (Points.Formula.parse o.pointsFormula).value d.blockOrZero s.formulaPicks
    let spent := clip (d.spending.occupation.spent + s.creditRating)
    let personalTotal := 2 * (d.characteristics.get .int).getD 0
    let personalSpent := d.spending.personal.spent
    (Issue.ofKind .occupationBudgetExceeded issues =
        if total < spent then [.occupationOverspent spent total] else []) ∧
      Issue.OnePerSkill (Issue.ofKind .occupationSkillNotAllowed issues)
        (fun skill => .skillNotGranted skill o.name)
        (fun skill => SkillName.isCredit skill = false ∧ 0 < d.spending.occupation.points skill ∧
          Grant.allows r o s skill = false) ∧
      (Issue.ofKind .personalBudgetExceeded issues =
        if personalTotal < personalSpent then [.personalOverspent personalSpent personalTotal]
        else []) ∧
      Issue.OnePerSkill (Issue.ofKind .skillForbiddenPersonal issues) Issue.skillForbidden
        (fun skill => 0 < d.spending.personal.points skill ∧ (SkillName.isCredit skill = true ∨
          ∃ entry, r.skill? skill = some entry ∧ entry.forbidden = true)) := by
  have hnumber := Stage.number_ofInt n
  have hsix : 6 ≤ (Stage.ofInt n).number := by omega
  have hseven : 7 ≤ (Stage.ofInt n).number := by omega
  have hknown := knownOccupation?_eq_some hs hname ho
  refine ⟨ofKind_occupationBudget hs ho hknown hsix, onePerSkill_notGranted hknown hsix,
    ofKind_personalBudget hseven hlo hhi, ?_⟩
  simp only [← Rulebook.isForbidden_iff]
  exact onePerSkill_forbidden hseven

/-- An actress who overspends both budgets, one of them on a skill that she is not granted, and who
has personal points in the skill of the credit rating. -/
def wasteful : Draft :=
  { sample with
    selection := some (Selection.start "ACTRIZ" 20)
    spending := ⟨SortedMap.ofList [("BAILE", 181)],
      SortedMap.ofList [("Canto", 101), ("credito", 3)]⟩ }

/-- Both budgets are exceeded by one point, and no more than one skill in each pool is at fault. -/
theorem spending_reported_wasteful : ∃ r o, Rulebook.ofDocument singingActress = .ok r ∧
    r.occupation? "ACTRIZ" = some o ∧
    (wasteful.review r (Stage.ofInt 7)).issues =
      [.occupationOverspent 201 200, .skillNotGranted "BAILE" "Actriz",
        .aboveAbsoluteCap "Canto" 101, .aboveAbsoluteCap "BAILE" 181, .personalOverspent 101 100,
        .skillForbidden "credito"] ∧
    (∀ skill, (SkillName.isCredit skill = false ∧
        0 < wasteful.spending.occupation.points skill ∧
        Grant.allows r o (Selection.start "ACTRIZ" 20) skill = false) ↔
      SkillName.key "BAILE" = SkillName.key skill) ∧
    ∀ skill, (0 < wasteful.spending.personal.points skill ∧ (SkillName.isCredit skill = true ∨
        ∃ entry, r.skill? skill = some entry ∧ entry.forbidden = true)) ↔
      SkillName.key "credito" = SkillName.key skill := by
  obtain ⟨r, hr, hfound, hissues⟩ : ∃ r, Rulebook.ofDocument singingActress = .ok r ∧
      (r.occupation? "ACTRIZ").isSome ∧ (wasteful.review r (Stage.ofInt 7)).issues =
        [.occupationOverspent 201 200, .skillNotGranted "BAILE" "Actriz",
          .aboveAbsoluteCap "Canto" 101, .aboveAbsoluteCap "BAILE" 181, .personalOverspent 101 100,
          .skillForbidden "credito"] := Rulebook.exists_of_decide (by decide +kernel)
  obtain ⟨o, ho⟩ := Option.isSome_iff_exists.mp hfound
  have hs : wasteful.selection = some (Selection.start "ACTRIZ" 20) := rfl
  obtain ⟨-, hgranted, -, hforbidden⟩ :=
    spending_reported r hs (by decide) ho (by decide) (by decide) (show (7 : Int) ≤ 7 by decide)
  rw [hissues] at hgranted hforbidden
  obtain ⟨skill, hskill, hallGranted⟩ := hgranted.exists_of_singleton
  obtain ⟨rfl, -⟩ := Issue.skillNotGranted.inj hskill
  obtain ⟨skill, hskill, hallForbidden⟩ := hforbidden.exists_of_singleton
  obtain rfl := Issue.skillForbidden.inj hskill
  exact ⟨r, o, hr, ho, hissues, hallGranted, hallForbidden⟩

end Draft

end Chargen
