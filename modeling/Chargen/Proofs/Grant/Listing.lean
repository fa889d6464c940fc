import Chargen.Grant
import Chargen.Proofs.Rulebook
import Chargen.Proofs.SkillName

/-!
# Listing against permission

`Grant.listed` expands the entries of an occupation with the index of the catalog; `Grant.allows`
compares keys and families. What the first one lists, the second one allows.

* `covers_of_mem_resolve`: an entry covers every skill that it names.
* `allows_iff`, `names_listed_iff`: both sides, entry by entry.
* `listed_sound`: **every listed skill is allowed**, no skill is listed twice, and the skill of the
  credit rating is listed.
-/

namespace Chargen.Grant

open SkillName (alternatives isWildcard)

/-- Whether an entry covers a skill depends on the key of the skill only. -/
theorem covers_congr {a b : String} (h : SkillName.key a = SkillName.key b) (entry : String) :
    covers entry a = covers entry b := by
  rw [covers, covers, h]

/-- Whether a skill is allowed depends on its key only. -/
theorem allows_congr {a b : String} (h : SkillName.key a = SkillName.key b) (r : Rulebook)
    (o : Occupation) (s : Selection) : allows r o s a = allows r o s b := by
  rw [allows, allows, SkillName.isCredit_congr h]
  simp only [covers_congr h]

/-- An alternative covers the skill that it names, whatever the spelling. -/
theorem alternativeCovers_key {alternative name : String}
    (h : SkillName.key alternative = SkillName.key name) :
    alternativeCovers alternative (SkillName.key name) = true := by
  simp [alternativeCovers, h]

/-- An alternative that names a family covers the skills of the family. -/
theorem alternativeCovers_family {alternative name specialization : String}
    (h : SkillName.family? (SkillName.key name) =
      some (SkillName.key alternative, specialization)) :
    alternativeCovers alternative (SkillName.key name) = true := by
  simp [alternativeCovers, h, SkillName.family?_of_family h]

theorem covers_of_alternative {entry name alternative : String}
    (hmem : alternative ∈ alternatives entry)
    (h : isWildcard alternative = true ∨
      alternativeCovers alternative (SkillName.key name) = true) : covers entry name = true := by
  rw [covers, List.any_eq_true]
  exact ⟨alternative, hmem, by simpa using h⟩

variable {r : Rulebook}

/-- An alternative covers the skills that it is expanded to. -/
theorem alternativeCovers_of_mem_expand (hr : r.Consistent) {alternative name : String}
    (h : name ∈ expand r alternative) :
    alternativeCovers alternative (SkillName.key name) = true := by
  rw [expand] at h
  split at h
  · obtain ⟨-, specialization, hparts⟩ := hr.mem_specializationNames_iff.mp h
    exact alternativeCovers_family hparts
  · rw [List.mem_singleton.mp h]
    exact alternativeCovers_key rfl

/-- **An entry covers every skill that it names.** -/
theorem covers_of_mem_resolve (hr : r.Consistent) {entry name : String}
    (h : name ∈ resolve r entry) : covers entry name = true := by
  rw [resolve] at h
  split at h
  · next hwild =>
    obtain ⟨alternative, hmem, hwild⟩ := List.any_eq_true.mp hwild
    exact covers_of_alternative hmem (.inl hwild)
  · obtain ⟨alternative, hmem, hname⟩ := List.mem_flatMap.mp (SkillName.mem_of_mem_distinct h)
    exact covers_of_alternative hmem (.inr (alternativeCovers_of_mem_expand hr hname))

/-! ### All entries -/

/-- The entries that a selection grants: those of the occupation and the proper picks. -/
def entries (r : Rulebook) (o : Occupation) (s : Selection) : List String :=
  o.grants ++ properPicks r o s

/-- One of the names names a skill. -/
def Names (names : List String) (skill : String) : Prop :=
  ∃ name ∈ names, SkillName.key name = SkillName.key skill

instance (names : List String) (skill : String) : Decidable (Names names skill) :=
  inferInstanceAs (Decidable (∃ name ∈ names, SkillName.key name = SkillName.key skill))

variable {o : Occupation} {s : Selection} {skill : String}

theorem names_distinct_iff {names : List String} :
    Names (SkillName.distinct names) skill ↔ Names names skill := by
  constructor
  · rintro ⟨name, hname, hkey⟩
    exact ⟨name, SkillName.mem_of_mem_distinct hname, hkey⟩
  · rintro ⟨name, hname, hkey⟩
    obtain ⟨kept, hkept, hsame⟩ := SkillName.exists_mem_distinct hname
    exact ⟨kept, hkept, hsame.trans hkey⟩

theorem names_flatMap_iff {f : String → List String} {names : List String} :
    Names (names.flatMap f) skill ↔ ∃ name ∈ names, Names (f name) skill := by
  simp only [Names, List.mem_flatMap]
  constructor
  · rintro ⟨name, ⟨entry, hentry, hname⟩, hkey⟩
    exact ⟨entry, hentry, name, hname, hkey⟩
  · rintro ⟨entry, hentry, name, hname, hkey⟩
    exact ⟨name, ⟨entry, hentry, hname⟩, hkey⟩

/-- A skill is allowed if the credit rating feeds it or an entry covers it. -/
theorem allows_iff : allows r o s skill = true ↔
    SkillName.isCredit skill = true ∨ ∃ entry ∈ entries r o s, covers entry skill = true := by
  simp only [allows, entries, Bool.or_eq_true, List.any_eq_true, List.mem_append, or_and_right,
    exists_or, or_assoc]

/-- A skill is listed if the credit rating feeds it or an entry names it. -/
theorem names_listed_iff : Names (listed r o s) skill ↔
    SkillName.isCredit skill = true ∨ ∃ entry ∈ entries r o s, Names (resolve r entry) skill := by
  have hcredit : Names [SkillName.credit] skill ↔ SkillName.isCredit skill = true := by
    rw [SkillName.isCredit_eq_same, SkillName.same_iff]
    simp [Names, eq_comm]
  have happend : ∀ xs ys, Names (xs ++ ys) skill ↔ Names xs skill ∨ Names ys skill := by
    intro xs ys
    simp only [Names, List.mem_append, or_and_right, exists_or]
  rw [listed, names_distinct_iff, ← List.flatMap_append, happend, hcredit, names_flatMap_iff,
    or_comm, entries]

/-- What is listed is allowed, under any spelling. -/
theorem allows_of_names_listed (hr : r.Consistent) (h : Names (listed r o s) skill) :
    allows r o s skill = true := by
  refine allows_iff.mpr ?_
  rcases names_listed_iff.mp h with hcredit | ⟨entry, hentry, name, hname, hkey⟩
  · exact .inl hcredit
  · refine .inr ⟨entry, hentry, ?_⟩
    rw [← covers_congr hkey]
    exact covers_of_mem_resolve hr hname

theorem allows_of_mem_listed (hr : r.Consistent) {o : Occupation} {s : Selection} {name : String}
    (h : name ∈ listed r o s) : allows r o s name = true :=
  allows_of_names_listed hr ⟨name, h, rfl⟩

theorem exists_credit_mem_listed (r : Rulebook) (o : Occupation) (s : Selection) :
    ∃ name ∈ listed r o s, SkillName.isCredit name = true := by
  have hcredit : Names (listed r o s) SkillName.credit :=
    names_listed_iff.mpr (.inl SkillName.isCredit_credit)
  obtain ⟨name, hname, hkey⟩ := hcredit
  exact ⟨name, hname, (SkillName.isCredit_congr hkey).trans SkillName.isCredit_credit⟩

/-- **Every listed skill is allowed**, whatever is selected. No skill is listed twice, under any
spelling, and the skill of the credit rating is listed. -/
theorem listed_sound {j : Json} (h : Rulebook.ofJson j = .ok r) (o : Occupation) (s : Selection) :
    (∀ name ∈ listed r o s, allows r o s name = true) ∧
      (listed r o s).Pairwise (fun a b => SkillName.key a ≠ SkillName.key b) ∧
      ∃ name ∈ listed r o s, SkillName.isCredit name = true :=
  ⟨fun _ hname => allows_of_mem_listed (Rulebook.consistent_of_ofJson h) hname,
    SkillName.distinct_pairwise _, exists_credit_mem_listed r o s⟩

/-- The listing of an occupation that grants a family, with a pick that its group offers. -/
theorem listed_sound_sample : ∃ r o, Rulebook.ofJson Rulebook.sampleDocument = .ok r ∧
    r.occupation? "ACTRIZ" = some o ∧
    let s : Selection := ⟨"ACTRIZ", 35,
      SortedMap.ofList [(⟨"ACTRIZ", 0⟩, [" arte (foto)", "Mitos"])], SortedMap.empty⟩
    listed r o s = ["Arte (Óleo)", "Arte (Foto)", "Crédito"] ∧
      (∀ name ∈ listed r o s, allows r o s name = true) ∧
      (listed r o s).Pairwise (fun a b => SkillName.key a ≠ SkillName.key b) ∧
      ∃ name ∈ listed r o s, SkillName.isCredit name = true := by
  have hlisted : ((Rulebook.ofJson Rulebook.sampleDocument).toOption.bind fun r =>
      (r.occupation? "ACTRIZ").map fun o => listed r o ⟨"ACTRIZ", 35,
        SortedMap.ofList [(⟨"ACTRIZ", 0⟩, [" arte (foto)", "Mitos"])], SortedMap.empty⟩) =
      some ["Arte (Óleo)", "Arte (Foto)", "Crédito"] := by
    decide +kernel
  cases hr : Rulebook.ofJson Rulebook.sampleDocument with
  | error cause =>
    rw [hr] at hlisted
    cases hlisted
  | ok r =>
    rw [hr] at hlisted
    obtain ⟨o, ho, hnames⟩ := Option.map_eq_some_iff.mp hlisted
    exact ⟨r, o, rfl, ho, hnames, listed_sound hr o _⟩

end Chargen.Grant
