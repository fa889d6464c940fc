import Chargen.Proofs.Grant.Catalog

/-!
# What proper picks grant

A pick is compared with the pool of its group as one name, and then grants as an entry. The two
readings agree on names without the word `o`. They differ on the others, which grant their
alternatives and not themselves, and they differ on what is forbidden: the name of the pick is
tested, not the skills that it grants.

* `allows_of_mem_proper`: **a proper pick is allowed**, unless the word `o` divides it.
* `covers_iff_opens`: how a proper pick covers a forbidden skill.
* `closed_iff`: **groups leave a forbidden skill closed exactly if no proper pick opens it**.
-/

namespace Chargen.Grant

open SkillName (alternatives isWildcard HasOr)

variable {r : Rulebook} {o : Occupation} {s : Selection} {skill : String}

/-! ### Proper picks -/

theorem trimmed_of_mem_tidy {picks : List String} {pick : String} (h : pick ∈ tidy picks) :
    Text.trimmed pick = pick ∧ pick ≠ "" := by
  obtain ⟨hmem, hne⟩ := List.mem_filter.mp h
  obtain ⟨written, -, rfl⟩ := List.mem_map.mp hmem
  exact ⟨Text.trimmed_trimmed written, by simpa using hne⟩

/-- A proper pick is tidy and not forbidden. -/
theorem mem_tidy_of_mem_proper {g : PickGroup} {picks : List String} {pick : String}
    (h : pick ∈ proper r g picks) : pick ∈ tidy picks ∧ r.isForbidden pick = false := by
  have hmem := SkillName.mem_of_mem_distinct (List.mem_of_mem_take h)
  obtain ⟨htidy, hpick⟩ := List.mem_filter.mp hmem
  rw [Bool.and_eq_true, Bool.not_eq_true'] at hpick
  exact ⟨htidy, hpick.2⟩

theorem mem_properPicks {pick : String} : pick ∈ properPicks r o s ↔
    ∃ g index, (g, index) ∈ o.pickGroups.zipIdx ∧ pick ∈ proper r g (s.picksFor index) := by
  rw [properPicks, List.mem_flatMap]
  constructor
  · rintro ⟨⟨g, index⟩, hg, hpick⟩
    exact ⟨g, index, hg, hpick⟩
  · rintro ⟨g, index, hg, hpick⟩
    exact ⟨(g, index), hg, hpick⟩

theorem allows_of_mem_properPicks {pick : String} (hpick : pick ∈ properPicks r o s)
    (hcovers : covers pick skill = true) : allows r o s skill = true :=
  allows_iff.mpr (.inr ⟨pick, List.mem_append_right _ hpick, hcovers⟩)

/-! ### Picks grant what they name -/

/-- **A proper pick grants each of its alternatives.** It may receive points itself if it is not
divided at a word `o`, or if it offers any skill. -/
theorem allows_of_mem_proper {g : PickGroup} {index : Nat}
    (hg : (g, index) ∈ o.pickGroups.zipIdx) {pick : String}
    (hpick : pick ∈ proper r g (s.picksFor index)) :
    (∀ alternative ∈ alternatives pick, allows r o s alternative = true) ∧
      (¬ HasOr pick.toList ∨ isWildcard pick = true → allows r o s pick = true) := by
  have hmem : pick ∈ properPicks r o s := mem_properPicks.mpr ⟨g, index, hg, hpick⟩
  have hall : ∀ alternative ∈ alternatives pick, allows r o s alternative = true := by
    intro alternative halternative
    exact allows_of_mem_properPicks hmem
      (covers_iff.mpr (.inr ⟨alternative, halternative, alternativeCovers_key rfl⟩))
  refine ⟨hall, ?_⟩
  rintro (hor | hwild)
  · obtain ⟨htrim, hne⟩ := trimmed_of_mem_tidy (mem_tidy_of_mem_proper hpick).1
    refine hall pick ?_
    rw [SkillName.alternatives_of_not_hasOr hor htrim hne]
    exact List.mem_singleton_self pick
  · exact allows_of_mem_properPicks hmem (covers_iff.mpr (.inl hwild))

/-- The one group of the actress. -/
def actressGroup : PickGroup :=
  ⟨"Una más", 1, ["Ciencia", "Cualquiera"]⟩

/-- A pick in another spelling than its option. -/
theorem allows_of_mem_proper_family : ∃ r o, Rulebook.ofJson Rulebook.overlapDocument = .ok r ∧
    r.occupation? "Actriz" = some o ∧
    let s := actress ["  CIENCIA "]
    ((actressGroup, 0) ∈ o.pickGroups.zipIdx ∧
        "CIENCIA" ∈ proper r actressGroup (s.picksFor 0)) ∧
      (∀ alternative ∈ alternatives "CIENCIA", allows r o s alternative = true) ∧
      (¬ HasOr "CIENCIA".toList ∨ isWildcard "CIENCIA" = true →
        allows r o s "CIENCIA" = true) := by
  have hsample : ∃ r o, Rulebook.ofJson Rulebook.overlapDocument = .ok r ∧
      r.occupation? "Actriz" = some o ∧ (actressGroup, 0) ∈ o.pickGroups.zipIdx ∧
        "CIENCIA" ∈ proper r actressGroup ((actress ["  CIENCIA "]).picksFor 0) :=
    Rulebook.exists_occupation_of_decide (by decide +kernel)
  obtain ⟨r, o, hr, ho, hg, hpick⟩ := hsample
  exact ⟨r, o, hr, ho, ⟨hg, hpick⟩, allows_of_mem_proper hg hpick⟩

/-- A proper pick with the word `o` in its name may not receive points. -/
theorem not_allows_of_or : ∃ r o, Rulebook.ofJson Rulebook.overlapDocument = .ok r ∧
    r.occupation? "Actriz" = some o ∧ (actressGroup, 0) ∈ o.pickGroups.zipIdx ∧
    "Canto o Baile" ∈ proper r actressGroup ((actress ["Canto o Baile"]).picksFor 0) ∧
    allows r o (actress ["Canto o Baile"]) "Canto o Baile" = false :=
  Rulebook.exists_occupation_of_decide (by decide +kernel)

/-! ### Picks and forbidden skills -/

/-- How a pick opens a skill that it does not name: it offers any skill, it is the family of the
skill, or the word `o` divides it and one of its alternatives covers the skill. -/
def Opens (pick skill : String) : Prop :=
  isWildcard pick = true ∨
    (¬ HasOr pick.toList ∧ ∃ specialization, SkillName.family? (SkillName.key skill) =
      some (SkillName.key pick, specialization)) ∨
    HasOr pick.toList ∧ covers pick skill = true

/-- **A proper pick covers a forbidden skill exactly by opening it**, because it does not name the
skill. -/
theorem covers_iff_opens (hforbidden : r.isForbidden skill = true) {pick : String}
    (hpick : pick ∈ properPicks r o s) : covers pick skill = true ↔ Opens pick skill := by
  obtain ⟨g, index, -, hproper⟩ := mem_properPicks.mp hpick
  obtain ⟨htidy, hpermitted⟩ := mem_tidy_of_mem_proper hproper
  obtain ⟨htrim, hne⟩ := trimmed_of_mem_tidy htidy
  have hname : SkillName.key pick ≠ SkillName.key skill := by
    intro hkey
    rw [Rulebook.isForbidden_congr hkey, hforbidden] at hpermitted
    cases hpermitted
  by_cases hor : HasOr pick.toList
  · have hwild : isWildcard pick = true → covers pick skill = true :=
      fun h => covers_iff.mpr (.inl h)
    simp [Opens, hor, or_iff_right_of_imp hwild]
  · rw [covers_iff, SkillName.alternatives_of_not_hasOr hor htrim hne]
    simp [Opens, hor, alternativeCovers_iff, hname]

/-- **Groups leave a forbidden skill closed exactly if no proper pick opens it**: a skill that is
forbidden at creation and granted by no entry of the occupation is then neither allowed nor
listed. -/
theorem closed_iff {j : Json} (h : Rulebook.ofJson j = .ok r) (o : Occupation) (s : Selection)
    (hforbidden : r.isForbidden skill = true) (hcredit : SkillName.isCredit skill = false)
    (hgrants : ∀ entry ∈ o.grants, covers entry skill = false) :
    (allows r o s skill = false ∧ ¬ Names (listed r o s) skill) ↔
      ∀ pick ∈ properPicks r o s, ¬ Opens pick skill := by
  have hallows : allows r o s skill = true ↔ ∃ pick ∈ properPicks r o s, Opens pick skill := by
    rw [allows_iff]
    constructor
    · rintro (hfed | ⟨entry, hentry, hcovers⟩)
      · rw [hcredit] at hfed
        cases hfed
      · rcases List.mem_append.mp hentry with hgrant | hpick
        · rw [hgrants entry hgrant] at hcovers
          cases hcovers
        · exact ⟨entry, hpick, (covers_iff_opens hforbidden hpick).mp hcovers⟩
    · rintro ⟨pick, hpick, hopens⟩
      exact .inr ⟨pick, List.mem_append_right _ hpick,
        (covers_iff_opens hforbidden hpick).mpr hopens⟩
  -- What is listed is allowed, so only permission matters.
  have hlisted : Names (listed r o s) skill → allows r o s skill = true :=
    allows_of_names_listed (Rulebook.consistent_of_ofJson h)
  constructor
  · rintro ⟨hnot, -⟩ pick hpick hopens
    rw [hallows.mpr ⟨pick, hpick, hopens⟩] at hnot
    cases hnot
  · intro hclosed
    have hnot : allows r o s skill ≠ true := by
      intro hallowed
      obtain ⟨pick, hpick, hopens⟩ := hallows.mp hallowed
      exact hclosed pick hpick hopens
    exact ⟨Bool.eq_false_iff.mpr hnot, fun hnames => hnot (hlisted hnames)⟩

/-- A forbidden skill beside a picked skill of the same family. -/
theorem closed_iff_of_sibling : ∃ r o, Rulebook.ofJson Rulebook.overlapDocument = .ok r ∧
    r.occupation? "Actriz" = some o ∧
    let s := actress ["Ciencia (Física)"]
    (r.isForbidden "Ciencia (Oculta)" = true ∧ SkillName.isCredit "Ciencia (Oculta)" = false ∧
        ∀ entry ∈ o.grants, covers entry "Ciencia (Oculta)" = false) ∧
      ((allows r o s "Ciencia (Oculta)" = false ∧ ¬ Names (listed r o s) "Ciencia (Oculta)") ↔
        ∀ pick ∈ properPicks r o s, ¬ Opens pick "Ciencia (Oculta)") := by
  have hsample : ∃ r o, Rulebook.ofJson Rulebook.overlapDocument = .ok r ∧
      r.occupation? "Actriz" = some o ∧ r.isForbidden "Ciencia (Oculta)" = true ∧
        SkillName.isCredit "Ciencia (Oculta)" = false ∧
        ∀ entry ∈ o.grants, covers entry "Ciencia (Oculta)" = false :=
    Rulebook.exists_occupation_of_decide (by decide +kernel)
  obtain ⟨r, o, hr, ho, hforbidden, hcredit, hgrants⟩ := hsample
  exact ⟨r, o, hr, ho, ⟨hforbidden, hcredit, hgrants⟩,
    closed_iff hr o _ hforbidden hcredit hgrants⟩

/-- The pick of a family opens a forbidden skill of it, which cannot be picked by its own name. -/
theorem forbidden_opened : ∃ r o, Rulebook.ofJson Rulebook.overlapDocument = .ok r ∧
    r.occupation? "Actriz" = some o ∧ r.isForbidden "Ciencia (Oculta)" = true ∧
    SkillName.isCredit "Ciencia (Oculta)" = false ∧
    (∀ entry ∈ o.grants, covers entry "Ciencia (Oculta)" = false) ∧
    proper r actressGroup ["Ciencia (Oculta)"] = [] ∧
    allows r o (actress ["Ciencia"]) "Ciencia (Oculta)" = true ∧
    Names (listed r o (actress ["Ciencia"])) "Ciencia (Oculta)" :=
  Rulebook.exists_occupation_of_decide (by decide +kernel)

end Chargen.Grant
