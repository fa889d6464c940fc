import Chargen.Review

/-!
# Clean reviews

A draft is clean if its last review finds no error. From the third stage on every issue is an error,
so a clean draft has no issues there at all, and each check says what it checks.

* `Draft.ofKind_occupationPoints`, `Draft.ofKind_personalPoints`: the two checks of either pool find
  issues of one kind each.
* `Draft.capIssue?_eq_some_iff`: which of the caps a row is above.
* `Draft.stage_of_mem_issuesAt`: a stage finds issues of its own kinds only.
* `Draft.Clean.issuesAt_eq_nil`: a clean draft has no issues from the third stage on.
* `Draft.Clean.exists_legal`: its characteristics are complete and legal.
* `Draft.Clean.exists_occupation`: its occupation is one of the rulebook's, with a credit rating
  that it allows.
* `Draft.groupIssues_eq_nil_iff`: picks have no issue if and only if they fill their group.
-/

namespace Chargen

/-- Picks that fill a group: as many as it asks for, no skill twice, each of them offered and none
forbidden. -/
structure Grant.Fills (r : Rulebook) (g : PickGroup) (picks : List String) : Prop where
  length_eq : (tidy picks).length = g.count
  distinct : (tidy picks).Pairwise fun a b => SkillName.key a ≠ SkillName.key b
  offered : ∀ pick ∈ tidy picks, offers r g pick = true
  permitted : ∀ pick ∈ tidy picks, r.isForbidden pick = false

/-- The stage that finds issues of a kind. -/
def IssueCode.stage : IssueCode → Stage
  | .ageOutOfRange | .agePenaltyAllocation => .age
  | .characteristicsMissing | .characteristicOutOfRange | .characteristicsStaleAge =>
    .characteristics
  | .occupationMissing | .occupationUnknown | .creditRatingOutOfRange => .occupation
  | .occupationChoiceGroup | .occupationChoiceNotAllowed | .occupationChoiceForbidden
  | .occupationChoiceDuplicate | .occupationFormulaChoice => .choices
  | .occupationBudgetExceeded | .occupationSkillNotAllowed | .skillAbsoluteCapExceeded
  | .skillCreationCapExceeded => .occupationSkills
  | .personalBudgetExceeded | .skillForbiddenPersonal => .personalSkills
  | .identityNameMissing => .identity
  | .backgroundInsufficient | .backgroundCoreBondMissing => .background
  | .equipmentFieldMissing => .equipment

namespace Issue

/-- The issues of a kind, in order. -/
def ofKind (code : IssueCode) (issues : List Issue) : List Issue :=
  issues.filter fun i => i.code == code

section OfKind

variable {code : IssueCode} {issues : List Issue}

theorem ofKind_append (more : List Issue) :
    ofKind code (issues ++ more) = ofKind code issues ++ ofKind code more :=
  List.filter_append ..

theorem ofKind_eq_self (h : ∀ i ∈ issues, i.code = code) : ofKind code issues = issues :=
  List.filter_eq_self.mpr fun i hi => by rw [h i hi, beq_self_eq_true]

theorem ofKind_eq_nil (h : ∀ i ∈ issues, i.code ≠ code) : ofKind code issues = [] :=
  List.filter_eq_nil_iff.mpr fun i hi => by simpa using h i hi

theorem mem_ofKind {i : Issue} : i ∈ ofKind code issues ↔ i ∈ issues ∧ i.code = code := by
  rw [ofKind, List.mem_filter, beq_iff_eq]

/-- Two checks that find issues of one kind each, one after the other. -/
theorem ofKind_append_eq {first second : List Issue} {code code' : IssueCode} (hne : code ≠ code')
    (hfirst : ∀ i ∈ first, i.code = code) (hsecond : ∀ i ∈ second, i.code = code') :
    ofKind code (first ++ second) = first ∧ ofKind code' (first ++ second) = second := by
  rw [ofKind_append, ofKind_append, ofKind_eq_self hfirst, ofKind_eq_self hsecond,
    ofKind_eq_nil fun i hi h => hne (h.symm.trans (hsecond i hi)),
    ofKind_eq_nil fun i hi h => hne ((hfirst i hi).symm.trans h)]
  exact ⟨List.append_nil _, List.nil_append _⟩

/-- What two such checks find is of their kinds. -/
theorem code_of_mem_append {first second : List Issue} {code code' : IssueCode}
    (h : ofKind code (first ++ second) = first ∧ ofKind code' (first ++ second) = second)
    {i : Issue} (hi : i ∈ first ++ second) : i.code = code ∨ i.code = code' := by
  rcases List.mem_append.mp hi with hi | hi
  · rw [← h.1, mem_ofKind] at hi
    exact .inl hi.2
  · rw [← h.2, mem_ofKind] at hi
    exact .inr hi.2

end OfKind

end Issue

namespace Draft

variable {r : Rulebook} {d : Draft}

/-! ### Picks -/

theorem pickIssues_cons_eq_nil {g : PickGroup} {index : Nat} {seen : List String} {pick : String}
    {rest : List String} : pickIssues r g index seen (pick :: rest) = [] ↔
      (SkillName.key pick ∉ seen ∧ Grant.offers r g pick = true ∧ r.isForbidden pick = false) ∧
        pickIssues r g index (SkillName.key pick :: seen) rest = [] := by
  rw [pickIssues, List.append_eq_nil_iff]
  refine and_congr_left fun _ => ?_
  by_cases hseen : SkillName.key pick ∈ seen
  · simp [hseen]
  · cases hoffers : Grant.offers r g pick with
    | false => simp [hseen]
    | true => cases hforbidden : r.isForbidden pick <;> simp [hseen]

/-- Picks have no issue of their own if and only if they name different skills, each of them unseen,
offered and permitted. -/
theorem pickIssues_eq_nil_iff {g : PickGroup} {index : Nat} {seen picks : List String} :
    pickIssues r g index seen picks = [] ↔
      picks.Pairwise (fun a b => SkillName.key a ≠ SkillName.key b) ∧
        ∀ pick ∈ picks, SkillName.key pick ∉ seen ∧ Grant.offers r g pick = true ∧
          r.isForbidden pick = false := by
  induction picks generalizing seen with
  | nil => simp [pickIssues]
  | cons pick rest ih =>
    rw [pickIssues_cons_eq_nil, ih, List.pairwise_cons, List.forall_mem_cons]
    -- The key of the first pick is among those seen by the rest, which makes the rest differ
    -- from it.
    constructor
    · rintro ⟨hpick, hrest, hall⟩
      refine ⟨⟨?_, hrest⟩, hpick, ?_⟩
      · intro other hother heq
        exact (hall other hother).1 (heq ▸ List.mem_cons_self)
      · intro other hother
        exact ⟨fun hmem => (hall other hother).1 (List.mem_cons_of_mem _ hmem),
          (hall other hother).2⟩
    · rintro ⟨⟨hpick, hrest⟩, hfirst, hall⟩
      refine ⟨hfirst, hrest, ?_⟩
      intro other hother
      refine ⟨?_, (hall other hother).2⟩
      rw [List.mem_cons, not_or]
      exact ⟨fun heq => hpick other hother heq.symm, (hall other hother).1⟩

/-- **Picks have no issue if and only if they fill their group.** -/
theorem groupIssues_eq_nil_iff {g : PickGroup} {index : Nat} {picks : List String} :
    groupIssues r g index picks = [] ↔ Grant.Fills r g picks := by
  have hcount : (if (Grant.tidy picks).length = g.count then ([] : List Issue)
      else [.pickCount index g.label g.count (Grant.tidy picks).length]) = [] ↔
        (Grant.tidy picks).length = g.count := by
    by_cases h : (Grant.tidy picks).length = g.count <;> simp [h]
  rw [groupIssues, List.append_eq_nil_iff, hcount, pickIssues_eq_nil_iff]
  constructor
  · rintro ⟨hlength, hdistinct, hall⟩
    exact ⟨hlength, hdistinct, fun pick hpick => (hall pick hpick).2.1,
      fun pick hpick => (hall pick hpick).2.2⟩
  · intro h
    exact ⟨h.length_eq, h.distinct, fun pick hpick =>
      ⟨by simp, h.offered pick hpick, h.permitted pick hpick⟩⟩

/-! ### Which stage finds an issue -/

theorem stage_of_mem_singleton {i j : Issue} {stage : Stage} (hi : i ∈ [j])
    (hj : j.code.stage = stage) : i.code.stage = stage := by
  rw [List.mem_singleton.mp hi]
  exact hj

theorem stage_of_mem_ageIssues {i : Issue} (hi : i ∈ d.ageIssues) : i.code.stage = .age := by
  rw [ageIssues, List.mem_append] at hi
  rcases hi with hi | hi
  · split at hi
    · cases hi
    · exact stage_of_mem_singleton hi rfl
  · obtain ⟨m, -, rfl⟩ := Option.map_eq_some_iff.mp (Option.mem_toList.mp hi)
    rfl

theorem stage_of_mem_characteristicIssues {i : Issue} (hi : i ∈ d.characteristicIssues) :
    i.code.stage = .characteristics := by
  rw [characteristicIssues, List.mem_append] at hi
  rcases hi with hi | hi
  · obtain ⟨e, -, hi⟩ := List.mem_filterMap.mp hi
    unfold characteristicIssue? at hi
    split at hi
    · cases hi; rfl
    · split at hi
      · cases hi
      · cases hi; rfl
  · have hi := Option.mem_toList.mp hi
    unfold staleIssue? at hi
    split at hi
    · cases hi
    · split at hi
      · cases hi; rfl
      · cases hi

theorem stage_of_mem_pickIssues {g : PickGroup} {index : Nat} {seen picks : List String}
    {i : Issue} (hi : i ∈ pickIssues r g index seen picks) : i.code.stage = .choices := by
  induction picks generalizing seen with
  | nil => cases hi
  | cons pick rest ih =>
    rw [pickIssues, List.mem_append] at hi
    rcases hi with hi | hi
    · split at hi
      · exact stage_of_mem_singleton hi rfl
      · split at hi
        · exact stage_of_mem_singleton hi rfl
        · split at hi
          · exact stage_of_mem_singleton hi rfl
          · cases hi
    · exact ih hi

theorem stage_of_mem_choiceIssues {o : Occupation} {s : Selection} {i : Issue}
    (hi : i ∈ choiceIssues r o s) : i.code.stage = .choices := by
  rw [choiceIssues, List.mem_append] at hi
  rcases hi with hi | hi
  · obtain ⟨⟨g, index⟩, -, hi⟩ := List.mem_flatMap.mp hi
    rcases List.mem_append.mp hi with hi | hi
    · split at hi
      · cases hi
      · exact stage_of_mem_singleton hi rfl
    · exact stage_of_mem_pickIssues hi
  · obtain ⟨g, -, rfl⟩ := List.mem_map.mp hi
    rfl

theorem stage_of_mem_occupationIssues {i : Issue} (hi : i ∈ d.occupationIssues r) :
    i.code.stage = .occupation := by
  unfold occupationIssues at hi
  split at hi
  · exact stage_of_mem_singleton hi rfl
  · split at hi
    · exact stage_of_mem_singleton hi rfl
    · split at hi
      · cases hi
      · exact stage_of_mem_singleton hi rfl

/-- The checks of the occupation points: their budget, and the skills that have some. -/
theorem ofKind_occupationPoints (o : Occupation) (s : Selection) :
    Issue.ofKind .occupationBudgetExceeded (d.occupationPointIssues r o s) =
        (d.occupationBudgetIssue? r).toList ∧
      Issue.ofKind .occupationSkillNotAllowed (d.occupationPointIssues r o s) =
        d.spending.occupation.merged.filterMap fun (skill, points) =>
          if points == 0 || SkillName.isCredit skill || Grant.allows r o s skill then none
          else some (.skillNotGranted skill o.name) := by
  refine Issue.ofKind_append_eq (by decide) (fun i hi => ?_) fun i hi => ?_
  · unfold occupationBudgetIssue? at hi
    split at hi
    · cases hi
    · split at hi
      · rw [List.mem_singleton.mp hi]
        rfl
      · cases hi
  · obtain ⟨⟨skill, points⟩, -, hi⟩ := List.mem_filterMap.mp hi
    dsimp only at hi
    split at hi
    · cases hi
    · cases hi
      rfl

theorem code_of_mem_occupationPointIssues {o : Occupation} {s : Selection} {i : Issue}
    (hi : i ∈ d.occupationPointIssues r o s) :
    i.code = .occupationBudgetExceeded ∨ i.code = .occupationSkillNotAllowed :=
  Issue.code_of_mem_append (ofKind_occupationPoints o s) hi

/-- **Which of the caps a row is above.** -/
theorem capIssue?_eq_some_iff {row : SkillRow} {i : Issue} : capIssue? row = some i ↔
    (99 < row.total ∧ i = .aboveAbsoluteCap row.name row.total) ∨
      (75 < row.total ∧ row.total ≤ 99 ∧ 0 < word (row.occupation + row.personal) ∧
        SkillName.isCredit row.name = false) ∧ i = .aboveCreationCap row.name row.total := by
  have habsolute : absoluteCap = 99 := rfl
  have hcreation : creationCap = 75 := rfl
  unfold capIssue?
  rw [habsolute, hcreation]
  by_cases habove : 99 < row.total
  · rw [if_pos habove, Option.some.injEq, eq_comm]
    refine ⟨fun hi => .inl ⟨habove, hi⟩, ?_⟩
    rintro (⟨-, hi⟩ | ⟨⟨-, hle, -⟩, -⟩)
    · exact hi
    · omega
  · rw [if_neg habove, Option.ite_none_right_eq_some, Option.some.injEq, Bool.and_eq_true,
      Bool.and_eq_true, decide_eq_true_eq, decide_eq_true_eq, Bool.not_eq_true']
    constructor
    · rintro ⟨⟨⟨hhigh, hpoints⟩, hcredit⟩, rfl⟩
      exact .inr ⟨⟨hhigh, by omega, hpoints, hcredit⟩, rfl⟩
    · rintro (⟨habove', -⟩ | ⟨⟨hhigh, -, hpoints, hcredit⟩, rfl⟩)
      · exact absurd habove' habove
      · exact ⟨⟨⟨hhigh, hpoints⟩, hcredit⟩, rfl⟩

theorem code_of_mem_caps {i : Issue} (hi : i ∈ (d.rows r).filterMap capIssue?) :
    i.code = .skillAbsoluteCapExceeded ∨ i.code = .skillCreationCapExceeded := by
  obtain ⟨row, -, hi⟩ := List.mem_filterMap.mp hi
  rcases capIssue?_eq_some_iff.mp hi with ⟨-, rfl⟩ | ⟨-, rfl⟩
  · exact .inl rfl
  · exact .inr rfl

theorem stage_of_mem_occupationSkillIssues {i : Issue} (hi : i ∈ d.occupationSkillIssues r) :
    i.code.stage = .occupationSkills := by
  rw [occupationSkillIssues, List.mem_append] at hi
  rcases hi with hi | hi
  · split at hi
    · rcases code_of_mem_occupationPointIssues hi with hcode | hcode <;> rw [hcode] <;> rfl
    · cases hi
  · rcases code_of_mem_caps hi with hcode | hcode <;> rw [hcode] <;> rfl

/-- The checks of the personal points: their budget, and the skills that have some. -/
theorem ofKind_personalPoints :
    Issue.ofKind .personalBudgetExceeded (d.personalSkillIssues r) =
        (if d.personalBudget.isExceeded then
          [.personalOverspent d.personalBudget.spent d.personalBudget.total]
        else []) ∧
      Issue.ofKind .skillForbiddenPersonal (d.personalSkillIssues r) =
        d.spending.personal.merged.filterMap fun (skill, points) =>
          if 0 < points && r.isForbidden skill then some (.skillForbidden skill) else none := by
  refine Issue.ofKind_append_eq (by decide) (fun i hi => ?_) fun i hi => ?_
  · split at hi
    · rw [List.mem_singleton.mp hi]
      rfl
    · cases hi
  · obtain ⟨⟨skill, points⟩, -, hi⟩ := List.mem_filterMap.mp hi
    dsimp only at hi
    split at hi
    · cases hi
      rfl
    · cases hi

theorem stage_of_mem_personalSkillIssues {i : Issue} (hi : i ∈ d.personalSkillIssues r) :
    i.code.stage = .personalSkills := by
  rcases Issue.code_of_mem_append ofKind_personalPoints hi with hcode | hcode <;> rw [hcode] <;> rfl

/-- **A stage finds issues of its own kinds only.** -/
theorem stage_of_mem_issuesAt {stage : Stage} {i : Issue} (hi : i ∈ d.issuesAt r stage) :
    i.code.stage = stage := by
  cases stage with
  | age => exact stage_of_mem_ageIssues hi
  | characteristics => exact stage_of_mem_characteristicIssues hi
  | vitals => cases hi
  | occupation => exact stage_of_mem_occupationIssues hi
  | choices =>
    rw [issuesAt] at hi
    split at hi
    · exact stage_of_mem_choiceIssues hi
    · cases hi
  | occupationSkills => exact stage_of_mem_occupationSkillIssues hi
  | personalSkills => exact stage_of_mem_personalSkillIssues hi
  | identity =>
    rw [issuesAt, identityIssues] at hi
    split at hi
    · exact stage_of_mem_singleton hi rfl
    · cases hi
  | background =>
    rw [issuesAt, backgroundIssues, List.mem_append] at hi
    rcases hi with hi | hi
    · split at hi
      · exact stage_of_mem_singleton hi rfl
      · cases hi
    · split at hi
      · exact stage_of_mem_singleton hi rfl
      · cases hi
  | equipment =>
    obtain ⟨f, -, rfl⟩ := List.mem_map.mp hi
    rfl

/-- From the third stage on, every issue is an error. -/
theorem isError_of_mem_issuesAt {stage : Stage} (hstage : 2 < stage.number) {i : Issue}
    (hi : i ∈ d.issuesAt r stage) : i.isError = true := by
  have hseverity : ∀ code : IssueCode, 2 < code.stage.number → code.severity = .error := by
    intro code
    cases code <;> decide
  rw [← stage_of_mem_issuesAt hi] at hstage
  rw [Issue.isError, Issue.severity, hseverity i.code hstage]
  rfl

/-! ### Clean drafts -/

/-- A draft whose last review finds no error. -/
def Clean (r : Rulebook) (d : Draft) : Prop :=
  (d.review r Stage.last).hasErrors = false

namespace Clean

theorem isError_eq_false (h : d.Clean r) (stage : Stage) {i : Issue}
    (hi : i ∈ d.issuesAt r stage) : i.isError = false := by
  rw [Clean, Report.hasErrors, List.any_eq_false] at h
  have hlast : stage ∈ Stage.last.upTo := by cases stage <;> decide
  simpa using h i (List.mem_flatMap.mpr ⟨stage, hlast, hi⟩)

/-- A clean draft has no issues from the third stage on. -/
theorem issuesAt_eq_nil (h : d.Clean r) (stage : Stage) (hstage : 2 < stage.number) :
    d.issuesAt r stage = [] := by
  rw [List.eq_nil_iff_forall_not_mem]
  intro i hi
  have herror := isError_of_mem_issuesAt hstage hi
  rw [h.isError_eq_false stage hi] at herror
  cases herror

/-- The characteristics of a clean draft are complete and legal. -/
theorem exists_legal (h : d.Clean r) (c : Characteristic) :
    ∃ value, d.characteristics.get c = some value ∧ isLegalCharacteristic value = true := by
  have hclean : ∀ i, characteristicIssue? c (d.characteristics.get c) = some i →
      i.isError = false := by
    intro i hi
    have hmem : (c, d.characteristics.get c) ∈ d.characteristics.toList :=
      List.mem_map.mpr ⟨c, by cases c <;> decide, rfl⟩
    exact h.isError_eq_false .characteristics
      (List.mem_append_left _ (List.mem_filterMap.mpr ⟨_, hmem, hi⟩))
  cases hvalue : d.characteristics.get c with
  | none => cases hclean (.characteristicMissing c) (by rw [hvalue]; rfl)
  | some value =>
    cases hlegal : isLegalCharacteristic value with
    | true => exact ⟨value, rfl, hlegal⟩
    | false =>
      cases hclean (.characteristicIllegal c value)
        (by rw [hvalue, characteristicIssue?, hlegal]; rfl)

/-- The occupation of a clean draft is one of the rulebook's, and it allows the credit rating. -/
theorem exists_occupation (h : d.Clean r) : ∃ o s, d.selection = some s ∧
    r.occupation? s.name = some o ∧ d.knownOccupation? r = some (o, s) ∧
      o.credit.contains s.creditRating = true := by
  have hnil : d.occupationIssues r = [] := h.issuesAt_eq_nil .occupation (by decide)
  unfold occupationIssues at hnil
  split at hnil
  · cases hnil
  · next s hnamed =>
    split at hnil
    · cases hnil
    · next o ho =>
      split at hnil
      · next hrating =>
        refine ⟨o, s, (Option.filter_eq_some_iff.mp hnamed).1, ho, ?_, hrating⟩
        rw [knownOccupation?, hnamed, Option.bind_some, ho]
        rfl
      · cases hnil

variable {o : Occupation} {s : Selection}

/-- The picks of a clean draft fill their groups. -/
theorem fills (h : d.Clean r) (hknown : d.knownOccupation? r = some (o, s)) {g : PickGroup}
    {index : Nat} (hg : (g, index) ∈ o.pickGroups.zipIdx) :
    Grant.Fills r g (s.picksFor index) := by
  have hnil := h.issuesAt_eq_nil .choices (by decide)
  rw [issuesAt, hknown] at hnil
  have hgroups := (List.append_eq_nil_iff.mp hnil).1
  exact groupIssues_eq_nil_iff.mp (List.flatMap_eq_nil_iff.mp hgroups (g, index) hg)

end Clean

end Draft

end Chargen
