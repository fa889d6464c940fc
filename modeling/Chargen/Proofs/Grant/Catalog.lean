import Chargen.Proofs.Grant.Listing
import Chargen.Proofs.SkillName.Alternatives

/-!
# Listing the catalog

An entry that covers a skill of the catalog also names it, unless the skill is a family that has
specializations. The name of such a family stands for its specializations in a list, while
permission accepts the name itself as well.

* `names_resolve_of_covers`: what an entry names that covers a skill of the catalog.
* `listed_complete`: **an allowed skill of the catalog is listed**, or its specializations are.
-/

namespace Chargen.Grant

open SkillName (alternatives isWildcard)

variable {r : Rulebook} {o : Occupation} {s : Selection} {skill : String}

/-! ### One entry -/

theorem resolve_eq (entry : String) : resolve r entry =
    if isWildcard entry = true then r.skillNames
    else SkillName.distinct ((alternatives entry).flatMap (expand r)) := by
  have hany : (alternatives entry).any isWildcard = isWildcard entry := by
    rw [Bool.eq_iff_iff, List.any_eq_true]
    exact SkillName.exists_isWildcard_iff entry
  rw [resolve, hany]

theorem covers_iff {entry : String} : covers entry skill = true ↔ isWildcard entry = true ∨
    ∃ alternative ∈ alternatives entry,
      alternativeCovers alternative (SkillName.key skill) = true := by
  rw [← SkillName.exists_isWildcard_iff]
  simp only [covers, List.any_eq_true, Bool.or_eq_true, and_or_left, exists_or]

/-- An alternative covers a skill by its name, or as the family of the skill. -/
theorem alternativeCovers_iff {alternative : String} :
    alternativeCovers alternative (SkillName.key skill) = true ↔
      SkillName.key alternative = SkillName.key skill ∨
        ∃ specialization, SkillName.family? (SkillName.key skill) =
          some (SkillName.key alternative, specialization) := by
  constructor
  · intro h
    simp only [alternativeCovers, Bool.or_eq_true, Bool.and_eq_true, beq_iff_eq,
      Option.map_eq_some_iff] at h
    rcases h with h | ⟨-, ⟨family, specialization⟩, hparts, rfl⟩
    · exact .inl h
    · exact .inr ⟨specialization, hparts⟩
  · rintro (h | ⟨specialization, hparts⟩)
    · exact alternativeCovers_key h
    · exact alternativeCovers_family hparts

/-- What an alternative is expanded to that covers a skill of the catalog: it names the skill, or
the skill is a family and it is expanded to the specializations. -/
theorem names_expand_of_covers (hr : r.Consistent) (hskill : skill ∈ r.skillNames)
    {alternative : String}
    (h : alternativeCovers alternative (SkillName.key skill) = true) :
    Names (expand r alternative) skill ∨
      r.specializationNames skill ≠ [] ∧ expand r alternative = r.specializationNames skill := by
  rcases alternativeCovers_iff.mp h with hkey | ⟨specialization, hfamily⟩
  · rw [expand]
    split
    · next hexpands =>
      have hsame : r.specializationNames alternative = r.specializationNames skill := by
        rw [Rulebook.specializationNames, Rulebook.specializationNames, hkey]
      rw [hsame] at hexpands ⊢
      rw [Bool.and_eq_true, Bool.not_eq_true', List.isEmpty_eq_false_iff] at hexpands
      exact .inr ⟨hexpands.2, rfl⟩
    · exact .inl ⟨alternative, List.mem_singleton_self _, hkey⟩
  · -- The alternative is a family as it is written, because its key is one.
    have hmem : skill ∈ r.specializationNames alternative :=
      hr.mem_specializationNames_iff.mpr ⟨hskill, specialization, hfamily⟩
    have hnone : SkillName.family? alternative = none := by
      refine SkillName.family?_eq_none_of_key ?_
      exact SkillName.open_notMem_of_family? hfamily
    have hne : (r.specializationNames alternative).isEmpty = false :=
      List.isEmpty_eq_false_iff.mpr (List.ne_nil_of_mem hmem)
    have hexpand : expand r alternative = r.specializationNames alternative := by
      rw [expand, hnone, hne]
      rfl
    rw [hexpand]
    exact .inl ⟨skill, hmem, rfl⟩

/-- **What an entry names that covers a skill of the catalog**: the skill, or if the skill is a
family, its specializations. -/
theorem names_resolve_of_covers (hr : r.Consistent) (hskill : skill ∈ r.skillNames)
    {entry : String} (h : covers entry skill = true) :
    Names (resolve r entry) skill ∨ r.specializationNames skill ≠ [] ∧
      ∀ member ∈ r.specializationNames skill, Names (resolve r entry) member := by
  rw [resolve_eq]
  split
  · exact .inl ⟨skill, hskill, rfl⟩
  · next hwild =>
    rcases covers_iff.mp h with hany | ⟨alternative, hmem, hcovers⟩
    · exact absurd hany hwild
    · simp only [names_distinct_iff, names_flatMap_iff]
      rcases names_expand_of_covers hr hskill hcovers with hnames | ⟨hne, hexpand⟩
      · exact .inl ⟨alternative, hmem, hnames⟩
      · refine .inr ⟨hne, ?_⟩
        intro member hmember
        refine ⟨alternative, hmem, member, ?_, rfl⟩
        rw [hexpand]
        exact hmember

/-- The name of a family with specializations is not among what an entry names, unless the entry
offers any skill. -/
theorem not_names_resolve_of_family (hr : r.Consistent)
    (hfamily : r.specializationNames skill ≠ []) {entry : String}
    (hwild : isWildcard entry = false) : ¬ Names (resolve r entry) skill := by
  have hopen : '(' ∉ (SkillName.key skill).toList := by
    obtain ⟨member, hmember⟩ := List.exists_mem_of_ne_nil _ hfamily
    obtain ⟨-, specialization, hparts⟩ := hr.mem_specializationNames_iff.mp hmember
    exact SkillName.open_notMem_of_family? hparts
  rw [resolve_eq, if_neg (by simp [hwild]), names_distinct_iff, names_flatMap_iff]
  rintro ⟨alternative, -, name, hname, hkey⟩
  rw [expand] at hname
  split at hname
  · -- A specialization has a parenthesis in its key.
    obtain ⟨-, specialization, hparts⟩ := hr.mem_specializationNames_iff.mp hname
    rw [hkey, SkillName.family?_eq_none_of_open hopen] at hparts
    cases hparts
  · next hkeeps =>
    rw [List.mem_singleton.mp hname] at hkey
    refine hkeeps ?_
    have hnone : SkillName.family? alternative = none :=
      SkillName.family?_eq_none_of_key (hkey ▸ hopen)
    have hne : r.specializationNames alternative ≠ [] := by
      rw [Rulebook.specializationNames, hkey]
      exact hfamily
    simp [hnone, hne]

/-! ### All entries -/

theorem names_listed_of_isWildcard (hskill : skill ∈ r.skillNames) {entry : String}
    (hentry : entry ∈ entries r o s) (hwild : isWildcard entry = true) :
    Names (listed r o s) skill := by
  refine names_listed_iff.mpr (.inr ⟨entry, hentry, skill, ?_, rfl⟩)
  rw [resolve_eq, if_pos hwild]
  exact hskill

/-- **An allowed skill of the catalog is listed**, with one exception: a family with specializations
that is granted by its name only. Its specializations are listed in its place. -/
theorem listed_complete {j : Json} (h : Rulebook.ofJson j = .ok r) (o : Occupation) (s : Selection)
    (hskill : skill ∈ r.skillNames) (hallows : allows r o s skill = true) :
    (Names (listed r o s) skill ↔ r.specializationNames skill = [] ∨
      SkillName.isCredit skill = true ∨ ∃ entry ∈ entries r o s, isWildcard entry = true) ∧
    (¬ Names (listed r o s) skill →
      ∀ member ∈ r.specializationNames skill, Names (listed r o s) member) := by
  have hr := Rulebook.consistent_of_ofJson h
  -- The entry that covers the skill names it or its specializations.
  have hcovered : Names (listed r o s) skill ∨ r.specializationNames skill ≠ [] ∧
      ∀ member ∈ r.specializationNames skill, Names (listed r o s) member := by
    rcases allows_iff.mp hallows with hcredit | ⟨entry, hentry, hcovers⟩
    · exact .inl (names_listed_iff.mpr (.inl hcredit))
    · rcases names_resolve_of_covers hr hskill hcovers with hnames | ⟨hne, hmembers⟩
      · exact .inl (names_listed_iff.mpr (.inr ⟨entry, hentry, hnames⟩))
      · refine .inr ⟨hne, ?_⟩
        intro member hmember
        exact names_listed_iff.mpr (.inr ⟨entry, hentry, hmembers member hmember⟩)
  refine ⟨⟨?_, ?_⟩, ?_⟩
  · intro hlisted
    by_contra hnone
    simp only [not_or, not_exists, not_and, Bool.not_eq_true] at hnone
    obtain ⟨hfamily, hcredit, hwild⟩ := hnone
    rcases names_listed_iff.mp hlisted with hfed | ⟨entry, hentry, hnames⟩
    · rw [hcredit] at hfed
      cases hfed
    · exact not_names_resolve_of_family hr hfamily (hwild entry hentry) hnames
  · rintro (hfamily | hcredit | ⟨entry, hentry, hwild⟩)
    · exact hcovered.resolve_right fun hmembers => hmembers.1 hfamily
    · exact names_listed_iff.mpr (.inl hcredit)
    · exact names_listed_of_isWildcard hskill hentry hwild
  · intro hmissing
    exact (hcovered.resolve_left hmissing).2

/-- The actress with picks for her one group. -/
def actress (picks : List String) : Selection :=
  ⟨"Actriz", 20, SortedMap.ofList [(⟨"Actriz", 0⟩, picks)], SortedMap.empty⟩

/-- A specialization that is granted by a pick of its family. -/
theorem listed_complete_of_pick : ∃ r o, Rulebook.ofJson Rulebook.overlapDocument = .ok r ∧
    r.occupation? "Actriz" = some o ∧
    let s := actress ["ciencia"]
    ("Ciencia (Física)" ∈ r.skillNames ∧ allows r o s "Ciencia (Física)" = true) ∧
      (Names (listed r o s) "Ciencia (Física)" ↔ r.specializationNames "Ciencia (Física)" = [] ∨
        SkillName.isCredit "Ciencia (Física)" = true ∨
          ∃ entry ∈ entries r o s, isWildcard entry = true) ∧
      (¬ Names (listed r o s) "Ciencia (Física)" →
        ∀ member ∈ r.specializationNames "Ciencia (Física)", Names (listed r o s) member) := by
  have hsample : ∃ r o, Rulebook.ofJson Rulebook.overlapDocument = .ok r ∧
      r.occupation? "Actriz" = some o ∧ "Ciencia (Física)" ∈ r.skillNames ∧
        allows r o (actress ["ciencia"]) "Ciencia (Física)" = true :=
    Rulebook.exists_occupation_of_decide (by decide +kernel)
  obtain ⟨r, o, hr, ho, hskill, hallows⟩ := hsample
  exact ⟨r, o, hr, ho, ⟨hskill, hallows⟩, listed_complete hr o _ hskill hallows⟩

/-- An art without a specialization may receive points of the actress, but is not listed for her. -/
theorem listed_incomplete : ∃ r o, Rulebook.ofJson Rulebook.overlapDocument = .ok r ∧
    r.occupation? "Actriz" = some o ∧ "Arte" ∈ r.skillNames ∧
    allows r o (actress []) "Arte" = true ∧ ¬ Names (listed r o (actress [])) "Arte" :=
  Rulebook.exists_occupation_of_decide (by decide +kernel)

end Chargen.Grant
