import Chargen.Proofs.Numeral
import Chargen.Proofs.Review
import Chargen.Proofs.Rulebook
import Chargen.Proofs.SkillName
import Chargen.Proofs.SortedMap
import Mathlib.Data.List.Nodup

/-!
# The issues of one group

The review walks over the picks of a group and remembers the keys that it has seen. What it finds
can be said without the walk: an issue if their number is wrong, and one for each pick that is at
fault, judged by the picks before it. A group without issues is one whose picks are all proper.

* `Grant.fills_iff_proper`: picks fill their group if and only if all of them are proper and there
  are as many as it asks for.
* `Draft.groupIssues_eq`: the issues of a group, pick by pick.
* `Draft.choiceIssues_of_group`: **what a review of the choices says about one group**.
-/

namespace Chargen

/-! ### Proper picks -/

/-- **Picks fill their group if and only if all of them are proper** and there are as many as it
asks for. -/
theorem Grant.fills_iff_proper {r : Rulebook} {g : PickGroup} {picks : List String} :
    Grant.Fills r g picks ↔
      Grant.proper r g picks = Grant.tidy picks ∧ (Grant.tidy picks).length = g.count := by
  constructor
  · intro h
    have hall : ∀ pick ∈ tidy picks, (offers r g pick && !r.isForbidden pick) = true := by
      intro pick hpick
      rw [h.offered pick hpick, h.permitted pick hpick]
      rfl
    refine ⟨?_, h.length_eq⟩
    rw [proper, List.filter_eq_self.mpr hall, SkillName.distinct_eq_self h.distinct,
      List.take_of_length_le h.length_eq.le]
  · rintro ⟨hproper, hlength⟩
    have hmem : ∀ pick ∈ tidy picks, offers r g pick = true ∧ r.isForbidden pick = false := by
      intro pick hpick
      rw [← hproper, proper] at hpick
      have hfilter := SkillName.mem_of_mem_distinct (List.mem_of_mem_take hpick)
      simpa using (List.mem_filter.mp hfilter).2
    refine ⟨hlength, ?_, fun pick hpick => (hmem pick hpick).1,
      fun pick hpick => (hmem pick hpick).2⟩
    have hdistinct := SkillName.distinct_pairwise
      ((tidy picks).filter fun pick => offers r g pick && !r.isForbidden pick)
    rw [← hproper, proper]
    exact hdistinct.sublist (List.take_sublist _ _)

namespace Draft

variable {r : Rulebook}

/-! ### Pick by pick -/

/-- The issue of a pick behind earlier ones: it repeats one of them, or else its group does not
offer it, or else it is forbidden at creation. -/
def pickIssue? (r : Rulebook) (g : PickGroup) (index : Nat) (earlier : List String)
    (pick : String) : Option Issue :=
  if ∃ other ∈ earlier, SkillName.same other pick = true then
    some (.pickRepeated index pick g.label)
  else if Grant.offers r g pick = false then some (.pickOutsidePool index pick g.label)
  else if r.isForbidden pick = true then some (.pickForbidden index pick)
  else none

theorem isSome_pickIssue?_iff {g : PickGroup} {index : Nat} {earlier : List String}
    {pick : String} : (pickIssue? r g index earlier pick).isSome = true ↔
      (∃ other ∈ earlier, SkillName.same other pick = true) ∨ Grant.offers r g pick = false ∨
        r.isForbidden pick = true := by
  unfold pickIssue?
  split
  · next h => simp [h]
  · next h =>
    split
    · next hoffers => simp [hoffers]
    · next hoffers =>
      by_cases hforbidden : r.isForbidden pick = true <;> simp [h, hoffers, hforbidden]

/-- The keys seen stand for the picks before. -/
theorem pickIssues_eq {g : PickGroup} {index : Nat} {seen earlier : List String}
    (hseen : ∀ k, k ∈ seen ↔ ∃ other ∈ earlier, SkillName.key other = k) (picks : List String) :
    pickIssues r g index seen picks = picks.zipIdx.filterMap fun (pick, place) =>
      pickIssue? r g index (earlier ++ picks.take place) pick := by
  induction picks generalizing seen earlier with
  | nil => rfl
  | cons pick rest ih =>
    -- Behind this pick the walk has seen its key, too.
    have hseen' : ∀ k, k ∈ SkillName.key pick :: seen ↔
        ∃ other ∈ earlier ++ [pick], SkillName.key other = k := by
      intro k
      rw [List.mem_cons, hseen k]
      constructor
      · rintro (rfl | ⟨other, hother, rfl⟩)
        · exact ⟨pick, by simp, rfl⟩
        · exact ⟨other, by simp [hother], rfl⟩
      · rintro ⟨other, hother, rfl⟩
        rcases List.mem_append.mp hother with h | h
        · exact .inr ⟨other, h, rfl⟩
        · rw [List.mem_singleton.mp h]
          exact .inl rfl
    have hcontains : seen.contains (SkillName.key pick) = true ↔
        ∃ other ∈ earlier, SkillName.same other pick = true := by
      rw [List.contains_iff_mem, hseen]
      simp only [SkillName.same_iff]
    have hfirst : pickIssue? r g index earlier pick =
        if seen.contains (SkillName.key pick) then some (.pickRepeated index pick g.label)
        else if !Grant.offers r g pick then some (.pickOutsidePool index pick g.label)
        else if r.isForbidden pick then some (.pickForbidden index pick)
        else none := by
      rw [pickIssue?]
      simp only [hcontains, Bool.not_eq_true']
    rw [pickIssues, ← hfirst, ih hseen', List.zipIdx_cons, List.zipIdx_succ, List.filterMap_cons,
      List.filterMap_map]
    simp only [List.take_zero, List.append_nil, Function.comp_def, List.take_succ_cons,
      List.append_assoc, List.singleton_append]
    cases pickIssue? r g index earlier pick <;> rfl

theorem groupIssues_eq (g : PickGroup) (index : Nat) (picks : List String) :
    groupIssues r g index picks =
      (if (Grant.tidy picks).length = g.count then []
        else [.pickCount index g.label g.count (Grant.tidy picks).length]) ++
      (Grant.tidy picks).zipIdx.filterMap fun (pick, place) =>
        pickIssue? r g index ((Grant.tidy picks).take place) pick := by
  have hpicks : pickIssues r g index [] (Grant.tidy picks) =
      (Grant.tidy picks).zipIdx.filterMap fun (pick, place) =>
        pickIssue? r g index ([] ++ (Grant.tidy picks).take place) pick :=
    pickIssues_eq (by simp) (Grant.tidy picks)
  rw [groupIssues, hpicks]
  simp only [List.nil_append]

/-! ### The group that an issue points at -/

/-- The field of the issues of a group. -/
def groupField (index : Nat) : String :=
  s!"occupation.choices.{index}"

theorem groupField_injective {index other : Nat} (h : groupField index = groupField other) :
    index = other := by
  have hwritten : index.repr = other.repr := (String.append_right_inj _).mp h
  rw [← digitsValue_toDigits index, ← Nat.toList_repr, hwritten, Nat.toList_repr,
    digitsValue_toDigits]

theorem field_formulaOpen_ne (key : Nat) (options : List String) (index : Nat) :
    (Issue.formulaOpen key options).field ≠ groupField index := by
  intro h
  have hchars : "occupation.formula_choices.".toList ++ (toString key).toList =
      "occupation.choices.".toList ++ (toString index).toList := by
    rw [← String.toList_append, ← String.toList_append]
    exact congrArg String.toList h
  simp at hchars

theorem field_of_pickIssue? {g : PickGroup} {index : Nat} {earlier : List String} {pick : String}
    {i : Issue} (hi : pickIssue? r g index earlier pick = some i) : i.field = groupField index := by
  unfold pickIssue? at hi
  split at hi
  · rw [← Option.some.inj hi]
    rfl
  · split at hi
    · rw [← Option.some.inj hi]
      rfl
    · split at hi
      · rw [← Option.some.inj hi]
        rfl
      · cases hi

theorem field_of_mem_groupIssues {g : PickGroup} {index : Nat} {picks : List String} {i : Issue}
    (hi : i ∈ groupIssues r g index picks) : i.field = groupField index := by
  rw [groupIssues_eq, List.mem_append] at hi
  rcases hi with hi | hi
  · split at hi
    · cases hi
    · rw [List.mem_singleton.mp hi]
      rfl
  · obtain ⟨_, -, hi⟩ := List.mem_filterMap.mp hi
    exact field_of_pickIssue? hi

/-- The issues that point at a group are its own. -/
theorem filter_choiceIssues {o : Occupation} {s : Selection} {g : PickGroup} {index : Nat}
    (hg : (g, index) ∈ o.pickGroups.zipIdx) :
    ((choiceIssues r o s).filter fun i => i.field == groupField index) =
      groupIssues r g index (s.picksFor index) := by
  have hformula : (((Points.Formula.parse o.pointsFormula).openGroups s.formulaPicks).map fun g =>
      Issue.formulaOpen g.key g.options).filter (fun i => i.field == groupField index) = [] := by
    refine List.filter_eq_nil_iff.mpr fun i hi => ?_
    obtain ⟨g, -, rfl⟩ := List.mem_map.mp hi
    rw [beq_iff_eq]
    exact field_formulaOpen_ne g.key g.options index
  have hnodup : o.pickGroups.zipIdx.Nodup := by
    refine List.Nodup.of_map Prod.snd ?_
    rw [List.zipIdx_map_snd]
    exact List.nodup_range'
  have hown : ((groupIssues r g index (s.picksFor index)).filter fun i =>
      i.field == groupField index) = groupIssues r g index (s.picksFor index) := by
    refine List.filter_eq_self.mpr fun i hi => ?_
    rw [field_of_mem_groupIssues hi, beq_self_eq_true]
  have hothers : ∀ e ∈ o.pickGroups.zipIdx, e ≠ (g, index) →
      ((groupIssues r e.1 e.2 (s.picksFor e.2)).filter fun i => i.field == groupField index) =
        [] := by
    rintro ⟨g', other⟩ he hne
    refine List.filter_eq_nil_iff.mpr fun i hi => ?_
    rw [field_of_mem_groupIssues hi, beq_iff_eq]
    intro heq
    obtain rfl := groupField_injective heq
    rw [List.mk_mem_zipIdx_iff_getElem?] at he hg
    rw [hg] at he
    cases he
    exact hne rfl
  rw [choiceIssues, List.filter_append, hformula, List.append_nil, List.filter_flatMap,
    flatMap_eq_of_unique hnodup hg hothers, hown]

theorem length_filterMap_pickIssue? (g : PickGroup) (index : Nat) (picks : List String) :
    (picks.zipIdx.filterMap fun (pick, place) =>
        pickIssue? r g index (picks.take place) pick).length =
      picks.zipIdx.countP fun (pick, place) =>
        (∃ other ∈ picks.take place, SkillName.same other pick = true) ∨
          Grant.offers r g pick = false ∨ r.isForbidden pick = true := by
  rw [List.length_filterMap_eq_countP]
  refine List.countP_congr fun e _ => ?_
  rw [decide_eq_true_eq]
  exact isSome_pickIssue?_iff

/-- **What a review of the choices says about one group**: whether the number of its picks is wrong,
and then for each pick that repeats another one, is not offered or is forbidden the first of these
faults that it has. It says nothing if and only if all picks are proper and there are as many as the
group asks for. -/
theorem choiceIssues_of_group (r : Rulebook) (o : Occupation) (s : Selection) {g : PickGroup}
    {index : Nat} (hg : (g, index) ∈ o.pickGroups.zipIdx) :
    let picks := Grant.tidy (s.picksFor index)
    let issues := (choiceIssues r o s).filter fun i => i.field == s!"occupation.choices.{index}"
    issues = (if picks.length = g.count then []
          else [.pickCount index g.label g.count picks.length]) ++
        picks.zipIdx.filterMap (fun (pick, place) =>
          pickIssue? r g index (picks.take place) pick) ∧
      issues.length = (if picks.length = g.count then 0 else 1) +
        picks.zipIdx.countP (fun (pick, place) =>
          (∃ other ∈ picks.take place, SkillName.same other pick = true) ∨
            Grant.offers r g pick = false ∨ r.isForbidden pick = true) ∧
      (issues = [] ↔
        Grant.proper r g (s.picksFor index) = picks ∧ picks.length = g.count) := by
  have hissues := (filter_choiceIssues (r := r) (s := s) hg).trans
    (groupIssues_eq g index (s.picksFor index))
  dsimp only
  refine ⟨hissues, ?_, ?_⟩
  · have hlength := congrArg List.length hissues
    rw [List.length_append, length_filterMap_pickIssue?] at hlength
    refine hlength.trans ?_
    congr 1
    split <;> rfl
  · have hnil : groupIssues r g index (s.picksFor index) = [] ↔
        Grant.Fills r g (s.picksFor index) := groupIssues_eq_nil_iff
    rw [← Grant.fills_iff_proper, ← hnil, ← filter_choiceIssues hg]
    rfl

/-- Too many picks, one of them under two spellings, one unknown and one forbidden. -/
theorem choiceIssues_of_group_faulty : ∃ r o, Rulebook.ofJson Rulebook.sampleDocument = .ok r ∧
    r.occupation? "Actriz" = some o ∧
    let g : PickGroup := ⟨"Una más", 1, ["cualquiera"]⟩
    let s : Selection := ⟨"Actriz", 20, SortedMap.ofList [(⟨"Actriz", 0⟩,
      [" arte (foto)", "  ", "ARTE (FOTO)", "Cantar", "Mitos"])], SortedMap.empty⟩
    (g, 0) ∈ o.pickGroups.zipIdx ∧
      (choiceIssues r o s).filter (fun i => i.field == s!"occupation.choices.{0}") =
        [.pickCount 0 "Una más" 1 4, .pickRepeated 0 "ARTE (FOTO)" "Una más",
          .pickOutsidePool 0 "Cantar" "Una más", .pickForbidden 0 "Mitos"] := by
  let g : PickGroup := ⟨"Una más", 1, ["cualquiera"]⟩
  let picks : List String := ["arte (foto)", "ARTE (FOTO)", "Cantar", "Mitos"]
  have hsample : ∃ r o, Rulebook.ofJson Rulebook.sampleDocument = .ok r ∧
      r.occupation? "Actriz" = some o ∧ (g, 0) ∈ o.pickGroups.zipIdx ∧
        [Issue.pickCount 0 "Una más" 1 4] ++ picks.zipIdx.filterMap (fun (pick, place) =>
          pickIssue? r g 0 (picks.take place) pick) =
        [.pickCount 0 "Una más" 1 4, .pickRepeated 0 "ARTE (FOTO)" "Una más",
          .pickOutsidePool 0 "Cantar" "Una más", .pickForbidden 0 "Mitos"] :=
    Rulebook.exists_occupation_of_decide (by decide +kernel)
  obtain ⟨r, o, hr, ho, hg, hfaults⟩ := hsample
  refine ⟨r, o, hr, ho, hg, ?_⟩
  exact (choiceIssues_of_group r o _ hg).1.trans hfaults

end Draft

end Chargen
