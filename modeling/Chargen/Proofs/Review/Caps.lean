import Chargen.Proofs.Review.Kinds
import Chargen.Proofs.SkillRow.Account

/-!
# Skills above the caps

The rows of a draft are what a review compares with the caps. They come from the catalog, from the
occupation and from both pools, and the points in a row from entries under several spellings. Still
a skill has one row, and its total is the one that `Draft.skillTotal` adds up skill by skill. So a
skill above a cap is reported once, whatever it is called and wherever its points are.

* `Draft.ofSkill_eq`: the numbers in the row of a skill.
* `Draft.names_rows_iff`: the rows are those of the skills that the draft lists.
* `Draft.pointsFit_of_base`: points do not overflow where no base is far below zero.
* `Draft.caps_reported`: **a review reports each skill above a cap once**, and no skill under both
  caps.
-/

namespace Chargen

namespace Draft

/-- A skill of the catalog, one that the occupation grants, or one with an entry in a pool. -/
def Lists (r : Rulebook) (d : Draft) (skill : String) : Prop :=
  Grant.Names (r.skillNames ++ d.granted r ++
    (d.spending.occupation.keys ++ d.spending.personal.keys)) skill

/-- The occupation points of a skill; the skill that the credit rating feeds has the rating for
them, unless it is negative, once an occupation is selected. -/
def occupationShare (d : Draft) (skill : String) : Int :=
  match d.selection with
  | none => d.spending.occupation.points skill
  | some s =>
    if SkillName.isCredit skill then max 0 s.creditRating else d.spending.occupation.points skill

/-- The total of a skill: its base, its occupation points and its personal points. -/
def skillTotal (r : Rulebook) (d : Draft) (skill : String) : Int :=
  clip (clip (SkillRow.baseValue r d.blockOrZero skill + d.occupationShare skill) +
    d.spending.personal.points skill)

/-- The points of a skill do not overflow where a review adds those of both pools, which it does
for totals within the cap of all skills. -/
def PointsFit (r : Rulebook) (d : Draft) : Prop :=
  ∀ skill, d.skillTotal r skill ≤ 99 →
    d.occupationShare skill + d.spending.personal.points skill ≤ maxNumber

variable {r : Rulebook} {d : Draft}

theorem occupationShare_nonneg (skill : String) : 0 ≤ d.occupationShare skill := by
  unfold occupationShare
  split
  · exact Pool.points_nonneg _ _
  · split
    · exact Int.le_max_left _ _
    · exact Pool.points_nonneg _ _

/-- Points do not overflow where no base is far below zero. -/
theorem pointsFit_of_base
    (hbase : ∀ skill, minNumber + 100 ≤ SkillRow.baseValue r d.blockOrZero skill) :
    d.PointsFit r := by
  intro skill htotal
  have hlow := hbase skill
  have hshare := d.occupationShare_nonneg skill
  have hpersonal := d.spending.personal.points_nonneg skill
  -- A total within the cap was not clipped, neither in the end nor on the way.
  have hsum := le_of_clip_le (by decide) htotal
  have hfirst : SkillRow.baseValue r d.blockOrZero skill + d.occupationShare skill ≤ 99 :=
    le_of_clip_le (by decide) (by omega)
  rw [clip_of_mem (by omega) (by unfold maxNumber; omega)] at hsum
  unfold minNumber at hlow
  unfold maxNumber
  omega

/-! ### Skills under any spelling -/

section Spelling

variable {a b : String} (h : SkillName.key a = SkillName.key b)
include h

theorem lists_congr : d.Lists r a ↔ d.Lists r b := by
  rw [Lists, Lists, Grant.Names, Grant.Names, h]

theorem occupationShare_congr : d.occupationShare a = d.occupationShare b := by
  rw [occupationShare, occupationShare, SkillName.isCredit_congr h, Pool.points_congr _ h]

theorem skillTotal_congr : d.skillTotal r a = d.skillTotal r b := by
  rw [skillTotal, skillTotal, SkillRow.baseValue_congr h, occupationShare_congr h,
    Pool.points_congr _ h]

end Spelling

theorem occupationShare_of_not_credit {skill : String} (h : SkillName.isCredit skill = false) :
    d.occupationShare skill = d.spending.occupation.points skill := by
  rw [occupationShare, h]
  split <;> rfl

/-! ### The rows compared -/

/-- The row of a skill, with the numbers that a review compares. -/
theorem ofSkill_eq (hrating : ∀ s, d.selection = some s → s.creditRating ≤ maxNumber)
    (name : String) : let row := SkillRow.ofSkill r d.blockOrZero d.sheetSpending name
    row.name = name ∧ row.occupation = d.occupationShare name ∧
      row.personal = d.spending.personal.points name ∧ row.total = d.skillTotal r name := by
  have hshare : d.sheetSpending.occupation.points name = d.occupationShare name := by
    unfold occupationShare
    cases hs : d.selection with
    | none => rw [sheetSpending, hs]
    | some s =>
      rw [sheetSpending_occupation hs, Pool.points_assign, ← SkillName.isCredit_eq_same,
        clip_toNat (hrating s hs)]
  have hpersonal : d.sheetSpending.personal.points name = d.spending.personal.points name := by
    rw [sheetSpending_personal]
  unfold SkillRow.ofSkill
  dsimp only
  rw [skillTotal, hshare, hpersonal]
  exact ⟨rfl, rfl, rfl, rfl⟩

theorem pairwise_names_rows : ((d.rows r).map SkillRow.name).Pairwise fun a b =>
    SkillName.key a ≠ SkillName.key b :=
  List.pairwise_map.mpr (SkillRow.rows_pairwise _ _ _ _)

/-- The rows are those of the skills that the draft lists. -/
theorem names_rows_iff (hknown : ∀ s, d.selection = some s → (r.occupation? s.name).isSome)
    {skill : String} : Grant.Names ((d.rows r).map SkillRow.name) skill ↔ d.Lists r skill := by
  rw [map_name_rows hknown]
  exact Grant.names_distinct_iff

theorem ofKind_occupationSkillIssues_of_cap {code : IssueCode}
    (hcode : code = .skillAbsoluteCapExceeded ∨ code = .skillCreationCapExceeded) :
    Issue.ofKind code (d.occupationSkillIssues r) =
      Issue.ofKind code ((d.rows r).filterMap capIssue?) := by
  rw [occupationSkillIssues]
  cases d.knownOccupation? r with
  | none => rfl
  | some e =>
    have hother : Issue.ofKind code (d.occupationPointIssues r e.1 e.2) = [] := by
      refine Issue.ofKind_eq_nil fun i hi heq => ?_
      rcases code_of_mem_occupationPointIssues hi with h | h <;> rcases hcode with rfl | rfl <;>
        rw [h] at heq <;> cases heq
    rw [Issue.ofKind_append, hother, List.nil_append]

/-- The issues of a cap come from the rows, one by one. -/
theorem ofKind_caps {code : IssueCode}
    (hcode : code = .skillAbsoluteCapExceeded ∨ code = .skillCreationCapExceeded) {stage : Stage}
    (hstage : 6 ≤ stage.number) :
    Issue.ofKind code (d.review r stage).issues = ((d.rows r).map SkillRow.name).filterMap
      fun name => (capIssue? (SkillRow.ofSkill r d.blockOrZero d.sheetSpending name)).filter
        fun i => i.code == code := by
  have hsix : code.stage = .occupationSkills := by rcases hcode with rfl | rfl <;> rfl
  rw [ofKind_review hsix hstage, issuesAt,
    ofKind_occupationSkillIssues_of_cap hcode, Issue.ofKind, List.filter_filterMap, rows,
    SkillRow.map_name_rows, SkillRow.rows, List.filterMap_map]
  rfl

/-! ### What is reported -/

section Reported

variable (hknown : ∀ s, d.selection = some s → (r.occupation? s.name).isSome)
  (hrating : ∀ s, d.selection = some s → s.creditRating ≤ maxNumber) {stage : Stage}
  (hstage : 6 ≤ stage.number)
include hknown hrating hstage

theorem onePerSkill_absoluteCap :
    Issue.OnePerSkill (Issue.ofKind .skillAbsoluteCapExceeded (d.review r stage).issues)
      (fun skill => .aboveAbsoluteCap skill (d.skillTotal r skill))
      fun skill => d.Lists r skill ∧ 99 < d.skillTotal r skill := by
  rw [ofKind_caps (.inl rfl) hstage]
  refine .of_filterMap pairwise_names_rows (fun name hname i => ?_) ?_ ?_
  · obtain ⟨hrow, -, -, htotal⟩ := ofSkill_eq (r := r) hrating name
    have hlists : d.Lists r name := (names_rows_iff hknown).mp ⟨name, hname, rfl⟩
    rw [Option.filter_eq_some_iff, capIssue?_eq_some_iff, hrow, htotal]
    constructor
    · rintro ⟨⟨habove, rfl⟩ | ⟨-, rfl⟩, hcode⟩
      · exact ⟨⟨hlists, habove⟩, rfl⟩
      · cases hcode
    · rintro ⟨⟨-, habove⟩, rfl⟩
      exact ⟨.inl ⟨habove, rfl⟩, rfl⟩
  · intro a b h hP
    rwa [← lists_congr h, ← skillTotal_congr h]
  · exact fun skill hP => (names_rows_iff hknown).mpr hP.1

theorem onePerSkill_creationCap (hfit : d.PointsFit r) :
    Issue.OnePerSkill (Issue.ofKind .skillCreationCapExceeded (d.review r stage).issues)
      (fun skill => .aboveCreationCap skill (d.skillTotal r skill))
      fun skill => d.Lists r skill ∧ (75 < d.skillTotal r skill ∧ d.skillTotal r skill ≤ 99) ∧
        (0 < d.spending.occupation.points skill ∨ 0 < d.spending.personal.points skill) ∧
        SkillName.isCredit skill = false := by
  rw [ofKind_caps (.inr rfl) hstage]
  refine .of_filterMap pairwise_names_rows (fun name hname i => ?_) ?_ ?_
  · obtain ⟨hrow, hshare, hpersonal, htotal⟩ := ofSkill_eq (r := r) hrating name
    have hlists : d.Lists r name := (names_rows_iff hknown).mp ⟨name, hname, rfl⟩
    have hoccupation := d.spending.occupation.points_nonneg name
    have hpersonal' := d.spending.personal.points_nonneg name
    have hword (hle : d.skillTotal r name ≤ 99) (hcredit : SkillName.isCredit name = false) :
        word (d.occupationShare name + d.spending.personal.points name) =
          d.spending.occupation.points name + d.spending.personal.points name := by
      have hsum := hfit name hle
      rw [occupationShare_of_not_credit hcredit] at hsum ⊢
      exact word_of_mem (by unfold minNumber; omega) hsum
    rw [Option.filter_eq_some_iff, capIssue?_eq_some_iff, hrow, htotal, hshare, hpersonal]
    constructor
    · rintro ⟨⟨-, rfl⟩ | ⟨⟨hhigh, hle, hpoints, hcredit⟩, rfl⟩, hcode⟩
      · cases hcode
      · rw [hword hle hcredit] at hpoints
        exact ⟨⟨hlists, ⟨hhigh, hle⟩, by omega, hcredit⟩, rfl⟩
    · rintro ⟨⟨-, ⟨hhigh, hle⟩, hpoints, hcredit⟩, rfl⟩
      refine ⟨.inr ⟨⟨hhigh, hle, ?_, hcredit⟩, rfl⟩, rfl⟩
      rw [hword hle hcredit]
      omega
  · intro a b h hP
    rwa [← lists_congr h, ← skillTotal_congr h, ← Pool.points_congr _ h, ← Pool.points_congr _ h,
      ← SkillName.isCredit_congr h]
  · exact fun skill hP => (names_rows_iff hknown).mpr hP.1

end Reported

/-- **A review reports each skill above a cap once.** Let a draft have no occupation, or one of the
rulebook and a credit rating that is a sheet number. From the sixth stage on its review has, for
each skill that the draft lists, one issue of the cap of all skills if the total is above 99, and
one issue of the cap at creation if the total is above 75 only and the skill received points, unless
the credit rating feeds it. There are no other issues of the caps, and no skill has an issue of
both. Bases must not be so far below zero that points overflow. -/
theorem caps_reported (r : Rulebook) {d : Draft}
    (hknown : ∀ s, d.selection = some s → (r.occupation? s.name).isSome)
    (hrating : ∀ s, d.selection = some s → s.creditRating ≤ maxNumber) (hfit : d.PointsFit r)
    {n : Int} (hn : 6 ≤ n) :
    let issues := (d.review r (Stage.ofInt n)).issues
    Issue.OnePerSkill (Issue.ofKind .skillAbsoluteCapExceeded issues)
        (fun skill => .aboveAbsoluteCap skill (d.skillTotal r skill))
        (fun skill => d.Lists r skill ∧ 99 < d.skillTotal r skill) ∧
      Issue.OnePerSkill (Issue.ofKind .skillCreationCapExceeded issues)
        (fun skill => .aboveCreationCap skill (d.skillTotal r skill))
        (fun skill => d.Lists r skill ∧ (75 < d.skillTotal r skill ∧ d.skillTotal r skill ≤ 99) ∧
          (0 < d.spending.occupation.points skill ∨ 0 < d.spending.personal.points skill) ∧
          SkillName.isCredit skill = false) ∧
      ∀ a total b total', Issue.aboveAbsoluteCap a total ∈ issues →
        Issue.aboveCreationCap b total' ∈ issues → SkillName.key a ≠ SkillName.key b := by
  intro issues
  have hnumber := Stage.number_ofInt n
  have hsix : 6 ≤ (Stage.ofInt n).number := by omega
  have habsolute := onePerSkill_absoluteCap hknown hrating hsix
  have hcreation := onePerSkill_creationCap hknown hrating hsix hfit
  refine ⟨habsolute, hcreation, fun a total b total' ha hb hkey => ?_⟩
  -- The total of a skill does not depend on the spelling, so it is on one side of 99 only.
  obtain ⟨name, hname, -, habove⟩ := habsolute.exists_of_mem (Issue.mem_ofKind.mpr ⟨ha, rfl⟩)
  obtain ⟨name', hname', -, ⟨-, hle⟩, -⟩ := hcreation.exists_of_mem (Issue.mem_ofKind.mpr ⟨hb, rfl⟩)
  cases hname
  cases hname'
  rw [skillTotal_congr hkey] at habove
  omega

/-- An actress with too many points for two skills, one of them from both pools. -/
def capped : Draft :=
  { sample with
    selection := some (Selection.start "ACTRIZ" 20)
    spending := ⟨SortedMap.ofList [("CANTO", 90)],
      SortedMap.ofList [("arte (oleo)", 71), ("canto", 60)]⟩ }

/-- One skill above each cap, and no other skill above the cap of all skills. -/
theorem caps_reported_capped : ∃ r, Rulebook.ofDocument singingActress = .ok r ∧
    let issues := (capped.review r (Stage.ofInt 6)).issues
    issues = [.aboveCreationCap "Arte (Óleo)" 76, .aboveAbsoluteCap "Canto" 150] ∧
    ∀ skill, capped.Lists r skill ∧ 99 < capped.skillTotal r skill ↔
      SkillName.key "Canto" = SkillName.key skill := by
  obtain ⟨r, hr, hfound, hskills, hfamilies, hissues⟩ :
      ∃ r, Rulebook.ofDocument singingActress = .ok r ∧ (r.occupation? "ACTRIZ").isSome ∧
        (∀ f ∈ r.skills, (0 : Int) ≤ f.entry.base) ∧ (∀ f ∈ r.families, (0 : Int) ≤ f.entry.base) ∧
        (capped.review r (Stage.ofInt 6)).issues =
          [.aboveCreationCap "Arte (Óleo)" 76, .aboveAbsoluteCap "Canto" 150] :=
    Rulebook.exists_of_decide (by decide +kernel)
  have hknown : ∀ s, capped.selection = some s → (r.occupation? s.name).isSome := by
    intro s hs
    cases hs
    exact hfound
  have hrating : ∀ s, capped.selection = some s → s.creditRating ≤ maxNumber := by
    intro s hs
    cases hs
    decide
  have hfit : capped.PointsFit r := by
    refine pointsFit_of_base fun skill => ?_
    have hbase : 0 ≤ SkillRow.baseValue r capped.blockOrZero skill :=
      SkillRow.le_baseValue (by decide) (by decide) hskills hfamilies (Int.le_refl 0) skill
    unfold minNumber
    omega
  obtain ⟨honce, -, -⟩ := caps_reported r hknown hrating hfit (show (6 : Int) ≤ 6 by decide)
  have habove : Issue.ofKind .skillAbsoluteCapExceeded (capped.review r (Stage.ofInt 6)).issues =
      [.aboveAbsoluteCap "Canto" 150] := by
    rw [hissues]
    rfl
  rw [habove] at honce
  obtain ⟨name, hname, hall⟩ := honce.exists_of_singleton
  obtain ⟨rfl, -⟩ := Issue.aboveAbsoluteCap.inj hname
  exact ⟨r, hr, hissues, hall⟩

end Draft

end Chargen
