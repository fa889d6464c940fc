import Chargen.Proofs.Finish
import Mathlib.Data.List.Perm.Basic
import Mathlib.Logic.Function.Basic

/-!
# Spelling and the review

A pool holds points under display names, and each check regroups them in its own way: by the first
spelling, by the key, summed and clipped, with the credit rating put in place of one skill. None of
them tells apart two pools that give the same skills the same points.

* `Pool.Respells`: two pools that differ in spelling only.
* `Pool.Respells.sumWhere_eq`, `Pool.Respells.assign`: what such pools have in common.
* `Draft.codes_perm`: the issues of a draft have the same codes after respelling, stage by stage.
* `Draft.review_respelled`: **spelling changes neither the codes of a review nor its verdict**.
-/

namespace Chargen

/-! ### Names of the same skills -/

namespace SkillName

variable {xs ys : List String}

theorem nodup_keys_distinct (names : List String) : ((distinct names).map key).Nodup := by
  rw [List.Nodup, List.pairwise_map]
  exact distinct_pairwise names

theorem mem_keys_distinct_iff {names : List String} {k : String} :
    k ∈ (distinct names).map key ↔ k ∈ names.map key := by
  constructor
  · intro hk
    obtain ⟨name, hname, rfl⟩ := List.mem_map.mp hk
    exact List.mem_map_of_mem (mem_of_mem_distinct hname)
  · intro hk
    obtain ⟨name, hname, rfl⟩ := List.mem_map.mp hk
    obtain ⟨kept, hkept, hkey⟩ := exists_mem_distinct hname
    exact List.mem_map.mpr ⟨kept, hkept, hkey⟩

/-- Lists that name the same skills keep the same skills, in some order. -/
theorem keys_distinct_perm (h : ∀ k, k ∈ xs.map key ↔ k ∈ ys.map key) :
    ((distinct xs).map key).Perm ((distinct ys).map key) := by
  refine (List.perm_ext_iff_of_nodup (nodup_keys_distinct xs) (nodup_keys_distinct ys)).mpr ?_
  intro k
  rw [mem_keys_distinct_iff, mem_keys_distinct_iff, h k]

/-- What is found by key is the same for lists with the same keys, in some order. -/
theorem filterMap_perm {β : Type} {f : String → Option β} (hf : Function.FactorsThrough f key)
    (h : (xs.map key).Perm (ys.map key)) : (xs.filterMap f).Perm (ys.filterMap f) := by
  -- `f` as a function of keys; what it is at other texts does not matter.
  let byKey : String → Option β := Function.extend key f fun _ => none
  have hbyKey : ∀ names : List String, names.filterMap f = (names.map key).filterMap byKey := by
    intro names
    rw [List.filterMap_map]
    refine List.filterMap_congr fun name _ => ?_
    exact (hf.extend_apply (fun _ => none) name).symm
  rw [hbyKey, hbyKey]
  exact h.filterMap byKey

end SkillName

/-! ### Pools that differ in spelling -/

namespace Pool

/-- Two pools that differ in spelling only: the same skills have entries, and the entries of each
skill add up to the same points, before anything is clipped. -/
structure Respells (p q : Pool) : Prop where
  /-- The same skills have entries. -/
  keys : ∀ k, k ∈ p.keys.map SkillName.key ↔ k ∈ q.keys.map SkillName.key
  /-- Every skill has the same points. -/
  sums : ∀ k, p.sumWhere (fun name => SkillName.key name == k) =
    q.sumWhere fun name => SkillName.key name == k

theorem sumWhere_key_eq_zero {p : Pool} {k : String} (hk : k ∉ p.keys.map SkillName.key) :
    p.sumWhere (fun name => SkillName.key name == k) = 0 := by
  rw [sumWhere_eq_total]
  refine total_eq_zero fun e he => ?_
  rw [beq_eq_false_iff_ne]
  rintro rfl
  exact hk (List.mem_map_of_mem (List.mem_map_of_mem he))

/-- It is enough to compare the skills that one of the pools has. -/
theorem respells_iff {p q : Pool} : p.Respells q ↔
    (∀ k ∈ p.keys.map SkillName.key, k ∈ q.keys.map SkillName.key) ∧
      (∀ k ∈ q.keys.map SkillName.key, k ∈ p.keys.map SkillName.key) ∧
      ∀ k ∈ p.keys.map SkillName.key, p.sumWhere (fun name => SkillName.key name == k) =
        q.sumWhere fun name => SkillName.key name == k := by
  constructor
  · intro h
    exact ⟨fun k => (h.keys k).mp, fun k => (h.keys k).mpr, fun k _ => h.sums k⟩
  · rintro ⟨hpq, hqp, hsums⟩
    refine ⟨fun k => ⟨hpq k, hqp k⟩, fun k => ?_⟩
    by_cases hk : k ∈ p.keys.map SkillName.key
    · exact hsums k hk
    · rw [sumWhere_key_eq_zero hk, sumWhere_key_eq_zero fun hq => hk (hqp k hq)]

instance (p q : Pool) : Decidable (p.Respells q) :=
  decidable_of_iff _ respells_iff.symm

/-- New points for a skill leave an entry for it unless they are zero, and the entries of all other
skills. -/
theorem mem_keys_assign_iff {p : Pool} {skill k : String} {n : Nat} :
    k ∈ (p.assign skill n).keys.map SkillName.key ↔
      (n ≠ 0 ∧ k = SkillName.key skill) ∨
        (k ∈ p.keys.map SkillName.key ∧ k ≠ SkillName.key skill) := by
  have hmem : ∀ q : Pool,
      k ∈ q.keys.map SkillName.key ↔ ∃ e ∈ q.entries, SkillName.key e.1 = k := by
    intro q
    simp only [SortedMap.keys, List.mem_map, exists_exists_and_eq_and]
  rw [hmem, hmem]
  simp only [(p.assign_perm skill n).mem_iff, List.mem_append, List.mem_filter, or_and_right,
    exists_or, Bool.not_eq_true', Bool.eq_false_iff, ne_eq, SkillName.same_iff]
  refine or_congr ?_ ?_
  · by_cases hn : n = 0
    · simp [hn]
    · simp [hn, SkillName.key_trimmed, eq_comm]
  · constructor
    · rintro ⟨e, ⟨he, hother⟩, rfl⟩
      exact ⟨⟨e, he, rfl⟩, hother⟩
    · rintro ⟨⟨e, he, rfl⟩, hother⟩
      exact ⟨e, ⟨he, hother⟩, rfl⟩

namespace Respells

variable {p q : Pool}

theorem points_eq (h : p.Respells q) : p.points = q.points := by
  funext skill
  exact congrArg (fun n : Nat => clip n) (h.sums (SkillName.key skill))

/-- Sums over whole skills are the same, before anything is clipped. -/
theorem sumWhere_eq (h : p.Respells q) {keep : String → Bool}
    (hkeep : ∀ a b, SkillName.key a = SkillName.key b → keep a = keep b) :
    p.sumWhere keep = q.sumWhere keep := by
  -- Both pools are summed skill by skill, over one list of names for the skills of both.
  let names := SkillName.distinct (p.keys ++ q.keys)
  have hnames : names.Pairwise fun a b => SkillName.key a ≠ SkillName.key b :=
    SkillName.distinct_pairwise _
  have hcover : ∀ name ∈ p.keys ++ q.keys, ∃ n ∈ names, SkillName.key n = SkillName.key name :=
    fun name hname => SkillName.exists_mem_distinct hname
  have hp : ((names.filter keep).map fun n => total (fun name => SkillName.same name n)
      p.entries).sum = total keep p.entries :=
    sum_total_same hnames hkeep fun e he =>
      hcover e.1 (List.mem_append_left _ (List.mem_map_of_mem he))
  have hq : ((names.filter keep).map fun n => total (fun name => SkillName.same name n)
      q.entries).sum = total keep q.entries :=
    sum_total_same hnames hkeep fun e he =>
      hcover e.1 (List.mem_append_right _ (List.mem_map_of_mem he))
  rw [sumWhere_eq_total, sumWhere_eq_total, ← hp, ← hq]
  refine congrArg List.sum (List.map_congr_left fun n _ => ?_)
  exact h.sums (SkillName.key n)

theorem spent_eq (h : p.Respells q) : p.spent = q.spent := by
  rw [spent, spent, h.sumWhere_eq SkillName.not_isCredit_congr]

theorem mem_mergedNames_iff (h : p.Respells q) (k : String) :
    k ∈ (p.merged.map Prod.fst).map SkillName.key ↔
      k ∈ (q.merged.map Prod.fst).map SkillName.key := by
  rw [merged_names, merged_names, SkillName.mem_keys_distinct_iff, SkillName.mem_keys_distinct_iff]
  exact h.keys k

/-- What a check finds by the key and the points of each skill is the same, in some order. -/
theorem filterMap_merged_perm (h : p.Respells q) {β : Type} {f : String × Int → Option β}
    (hf : ∀ a b n, SkillName.key a = SkillName.key b → f (a, n) = f (b, n)) :
    (p.merged.filterMap f).Perm (q.merged.filterMap f) := by
  rw [merged_eq, merged_eq, List.filterMap_map, List.filterMap_map, h.points_eq]
  refine SkillName.filterMap_perm ?_ (SkillName.keys_distinct_perm h.keys)
  intro a b hab
  rw [Function.comp_apply, Function.comp_apply, q.points_congr hab]
  exact hf a b _ hab

/-- Pools differ in spelling only after new points for one skill if they did so before. -/
theorem assign (h : p.Respells q) (skill : String) (n : Nat) :
    (p.assign skill n).Respells (q.assign skill n) where
  keys k := by
    rw [mem_keys_assign_iff, mem_keys_assign_iff, h.keys k]
  sums k := by
    let others (name : String) : Bool := SkillName.key name == k && !SkillName.same name skill
    have hothers : total others p.entries = total others q.entries := by
      refine h.sumWhere_eq fun a b hab => ?_
      dsimp only [others]
      rw [SkillName.same, SkillName.same, hab]
    rw [sumWhere_eq_total, sumWhere_eq_total, total_assign, total_assign, hothers]

end Respells

end Pool

/-! ### Rows -/

namespace SkillRow

variable {r : Rulebook} {b : Block}

theorem baseValue_congr {name name' : String} (h : SkillName.key name = SkillName.key name')
    (r : Rulebook) (b : Block) : baseValue r b name = baseValue r b name' := by
  rw [baseValue, baseValue, h]

/-- The row of a skill has the same numbers under every spelling, in pools that differ in spelling
only. -/
theorem ofSkill_congr {spending spending' : Spending}
    (ho : spending.occupation.Respells spending'.occupation)
    (hp : spending.personal.Respells spending'.personal) {name name' : String}
    (h : SkillName.key name = SkillName.key name') :
    ofSkill r b spending name = { ofSkill r b spending' name' with name } := by
  have hoccupation : spending.occupation.points name = spending'.occupation.points name' := by
    rw [ho.points_eq, Pool.points_congr _ h]
  have hpersonal : spending.personal.points name = spending'.personal.points name' := by
    rw [hp.points_eq, Pool.points_congr _ h]
  rw [ofSkill, ofSkill, baseValue_congr h, hoccupation, hpersonal]

/-- Pools that differ in spelling only have rows for the same skills, in some order. -/
theorem rowNames_perm {spending spending' : Spending}
    (ho : spending.occupation.Respells spending'.occupation)
    (hp : spending.personal.Respells spending'.personal) (granted : List String) :
    ((rowNames r spending granted).map SkillName.key).Perm
      ((rowNames r spending' granted).map SkillName.key) := by
  refine SkillName.keys_distinct_perm fun k => ?_
  simp only [List.map_append, List.mem_append, ho.mem_mergedNames_iff, hp.mem_mergedNames_iff]

end SkillRow

/-! ### Reviews -/

namespace Draft

/-- The code of the issue of a row does not depend on the spelling. -/
theorem code_capIssue?_rename (row : SkillRow) {name : String}
    (h : SkillName.key name = SkillName.key row.name) :
    (capIssue? { row with name }).map Issue.code = (capIssue? row).map Issue.code := by
  unfold capIssue?
  dsimp only
  rw [SkillName.isCredit_congr h]
  split
  · rfl
  · split <;> rfl

/-- The code of the issue of the row of a skill, if it has one. -/
def rowCode? (r : Rulebook) (b : Block) (spending : Spending) (name : String) : Option IssueCode :=
  (capIssue? (SkillRow.ofSkill r b spending name)).map Issue.code

section Rows

variable {r : Rulebook} {b : Block} {spending spending' : Spending}

theorem capCodes_eq (granted : List String) :
    ((SkillRow.rows r b spending granted).filterMap capIssue?).map Issue.code =
      (SkillRow.rowNames r spending granted).filterMap (rowCode? r b spending) := by
  rw [SkillRow.rows, List.filterMap_map, List.map_filterMap]
  rfl

theorem rowCode?_congr (ho : spending.occupation.Respells spending'.occupation)
    (hp : spending.personal.Respells spending'.personal) {name name' : String}
    (h : SkillName.key name = SkillName.key name') :
    rowCode? r b spending name = rowCode? r b spending' name' := by
  rw [rowCode?, rowCode?, SkillRow.ofSkill_congr ho hp h]
  exact code_capIssue?_rename _ h

/-- The rows above a cap are those of the same skills. -/
theorem capCodes_perm (ho : spending.occupation.Respells spending'.occupation)
    (hp : spending.personal.Respells spending'.personal) (granted : List String) :
    (((SkillRow.rows r b spending granted).filterMap capIssue?).map Issue.code).Perm
      (((SkillRow.rows r b spending' granted).filterMap capIssue?).map Issue.code) := by
  have hcode : rowCode? r b spending = rowCode? r b spending' :=
    funext fun _ => rowCode?_congr ho hp rfl
  rw [capCodes_eq, capCodes_eq, ← hcode]
  refine SkillName.filterMap_perm ?_ (SkillRow.rowNames_perm ho hp granted)
  intro name name' h
  rw [rowCode?_congr ho hp h, hcode]

end Rows

/-- Two drafts that differ only in how the skills with points are spelled. -/
structure Respells (d d' : Draft) : Prop where
  /-- All but the points is the same. -/
  rest : d' = { d with spending := d'.spending }
  /-- The occupation points differ in spelling only. -/
  occupation : d.spending.occupation.Respells d'.spending.occupation
  /-- The personal points differ in spelling only. -/
  personal : d.spending.personal.Respells d'.spending.personal

namespace Respells

variable {r : Rulebook} {d d' : Draft}

theorem selection_eq (h : d.Respells d') : d'.selection = d.selection := by
  rw [h.rest]

theorem blockOrZero_eq (h : d.Respells d') : d'.blockOrZero = d.blockOrZero := by
  rw [h.rest]
  rfl

theorem knownOccupation?_eq (h : d.Respells d') : d'.knownOccupation? r = d.knownOccupation? r := by
  rw [h.rest]
  rfl

theorem granted_eq (h : d.Respells d') : d'.granted r = d.granted r := by
  rw [h.rest]
  rfl

/-- The credit rating takes the place of the same skill under every spelling. -/
theorem sheetSpending (h : d.Respells d') :
    d.sheetSpending.occupation.Respells d'.sheetSpending.occupation ∧
      d.sheetSpending.personal.Respells d'.sheetSpending.personal := by
  rw [sheetSpending_personal, sheetSpending_personal]
  refine ⟨?_, h.personal⟩
  cases hs : d.selection with
  | none =>
    rw [Draft.sheetSpending, Draft.sheetSpending, h.selection_eq, hs]
    exact h.occupation
  | some s =>
    rw [sheetSpending_occupation hs, sheetSpending_occupation (h.selection_eq.trans hs)]
    exact h.occupation.assign _ _

theorem occupationBudget?_eq (h : d.Respells d') :
    d'.occupationBudget? r = d.occupationBudget? r := by
  rw [occupationBudget?, occupationBudget?, h.selection_eq, h.blockOrZero_eq, h.occupation.spent_eq]

theorem personalBudget_eq (h : d.Respells d') : d'.personalBudget = d.personalBudget := by
  rw [personalBudget, personalBudget, h.blockOrZero_eq, h.personal.spent_eq]

theorem occupationPointCodes_perm (h : d.Respells d') (o : Occupation) (s : Selection) :
    ((d.occupationPointIssues r o s).map Issue.code).Perm
      ((d'.occupationPointIssues r o s).map Issue.code) := by
  rw [occupationPointIssues, occupationPointIssues, occupationBudgetIssue?, occupationBudgetIssue?,
    h.occupationBudget?_eq, List.map_append, List.map_append, List.map_filterMap,
    List.map_filterMap]
  refine List.Perm.append_left _ (h.occupation.filterMap_merged_perm ?_)
  intro name name' n hkey
  dsimp only
  rw [SkillName.isCredit_congr hkey, Grant.allows_congr hkey]
  split <;> rfl

theorem occupationSkillCodes_perm (h : d.Respells d') :
    ((d.occupationSkillIssues r).map Issue.code).Perm
      ((d'.occupationSkillIssues r).map Issue.code) := by
  obtain ⟨ho, hp⟩ := h.sheetSpending
  rw [occupationSkillIssues, occupationSkillIssues, h.knownOccupation?_eq, List.map_append,
    List.map_append]
  refine List.Perm.append ?_ ?_
  · cases d.knownOccupation? r with
    | none => exact .refl _
    | some known => exact h.occupationPointCodes_perm known.1 known.2
  · rw [rows, rows, h.blockOrZero_eq, h.granted_eq]
    exact capCodes_perm ho hp _

theorem personalSkillCodes_perm (h : d.Respells d') :
    ((d.personalSkillIssues r).map Issue.code).Perm
      ((d'.personalSkillIssues r).map Issue.code) := by
  rw [personalSkillIssues, personalSkillIssues, h.personalBudget_eq, List.map_append,
    List.map_append, List.map_filterMap, List.map_filterMap]
  refine List.Perm.append_left _ (h.personal.filterMap_merged_perm ?_)
  intro name name' n hkey
  dsimp only
  rw [Rulebook.isForbidden_congr hkey]
  split <;> rfl

/-- The issues of each stage have the same codes, in some order. -/
theorem codesAt_perm (h : d.Respells d') (stage : Stage) :
    ((d.issuesAt r stage).map Issue.code).Perm ((d'.issuesAt r stage).map Issue.code) := by
  -- Only two stages look at the points.
  cases stage with
  | occupationSkills => exact h.occupationSkillCodes_perm
  | personalSkills => exact h.personalSkillCodes_perm
  | _ => rw [h.rest]; exact .refl _

/-- The issues of a review have the same codes, in some order. -/
theorem codes_perm (h : d.Respells d') (stage : Stage) :
    ((d.review r stage).issues.map Issue.code).Perm
      ((d'.review r stage).issues.map Issue.code) := by
  rw [review, review, List.map_flatMap, List.map_flatMap]
  exact List.Perm.flatMap_left _ fun stage' _ => h.codesAt_perm stage'

end Respells

theorem hasErrors_eq_codes (report : Report) :
    report.hasErrors = (report.issues.map Issue.code).any fun code => code.severity == .error := by
  rw [Report.hasErrors, List.any_map]
  rfl

/-- **Spelling changes neither the codes of a review nor its verdict.** Drafts whose pools differ in
spelling only have issues of the same codes at every stage, each as often; so both may go on or
neither, and both can be finished or neither. -/
theorem review_respelled (r : Rulebook) {d d' : Draft} (h : d.Respells d') (stage : Stage) :
    ((d.review r stage).issues.map Issue.code).Perm
        ((d'.review r stage).issues.map Issue.code) ∧
      (d.review r stage).hasErrors = (d'.review r stage).hasErrors ∧
      (d.review r stage).canAdvance = (d'.review r stage).canAdvance ∧
      ((∃ sheet, d.finish r = .ok sheet) ↔ ∃ sheet, d'.finish r = .ok sheet) := by
  have herrors : ∀ stage, (d.review r stage).hasErrors = (d'.review r stage).hasErrors := by
    intro stage
    rw [hasErrors_eq_codes, hasErrors_eq_codes]
    exact (h.codes_perm stage).any_eq
  refine ⟨h.codes_perm stage, herrors stage, congrArg not (herrors stage), ?_⟩
  rw [exists_finish_iff, exists_finish_iff, Clean, Clean, herrors]

/-- The sample with points for a skill above all caps and for a forbidden one. -/
def overdrawn : Draft :=
  { sample with
    spending := ⟨SortedMap.ofList [("arte (oleo)", 40), ("Arte (Óleo)", 25), ("Canto", 90)],
      SortedMap.ofList [("Canto", 60), ("Mitos", 3)]⟩ }

/-- The same points under other spellings, which put the skills in another order. -/
def overdrawnCapitals : Draft :=
  { sample with
    spending := ⟨SortedMap.ofList [(" CANTO", 50), ("ARTE (ÓLEO)", 65), ("cánto", 40)],
      SortedMap.ofList [("MITOS", 1), ("canto", 60), ("mitos ", 2)]⟩ }

/-- The review of a draft with faults of the spent points, under two spellings. -/
theorem review_respelled_overdrawn : ∃ r, Rulebook.ofJson Rulebook.sampleDocument = .ok r ∧
    overdrawn.Respells overdrawnCapitals ∧
    (overdrawn.review r Stage.last).issues.map Issue.code =
      [.occupationSkillNotAllowed, .skillAbsoluteCapExceeded, .skillForbiddenPersonal] ∧
    ((overdrawn.review r Stage.last).issues.map Issue.code).Perm
        ((overdrawnCapitals.review r Stage.last).issues.map Issue.code) ∧
    (overdrawn.review r Stage.last).hasErrors = (overdrawnCapitals.review r Stage.last).hasErrors ∧
    (overdrawn.review r Stage.last).canAdvance =
      (overdrawnCapitals.review r Stage.last).canAdvance ∧
    ((∃ sheet, overdrawn.finish r = .ok sheet) ↔
      ∃ sheet, overdrawnCapitals.finish r = .ok sheet) := by
  have hsample : ∃ r o, Rulebook.ofJson Rulebook.sampleDocument = .ok r ∧
      r.occupation? "Actriz" = some o ∧
        (overdrawn.review r Stage.last).issues.map Issue.code =
          [.occupationSkillNotAllowed, .skillAbsoluteCapExceeded, .skillForbiddenPersonal] :=
    Rulebook.exists_occupation_of_decide (by decide +kernel)
  obtain ⟨r, o, hr, -, hcodes⟩ := hsample
  have hrespells : overdrawn.Respells overdrawnCapitals :=
    ⟨rfl, by decide +kernel, by decide +kernel⟩
  exact ⟨r, hr, hrespells, hcodes, review_respelled r hrespells Stage.last⟩

end Draft

end Chargen
