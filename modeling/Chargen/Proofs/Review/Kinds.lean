import Chargen.Proofs.SkillName.Distinct
import Chargen.Proofs.Stages

/-!
# Issues of one kind

Every kind of issue is found at one stage. So a review that has come to this stage lists exactly the
issues of the kind that the stage finds, and how many more stages it looks at does not matter.

Several kinds are about skills. The skills come as a list of names, each skill once, and the check
gives at most one issue for a name; which one depends on the skill, not on how it is spelled.

* `Issue.OnePerSkill`: one issue for each skill with a property, and no other issues.
* `Issue.OnePerSkill.of_filterMap`: **a check of names that differ finds one issue for each skill**.
* `Draft.ofKind_review`: **a review finds the issues of a kind at one stage**.
-/

namespace Chargen

namespace Issue

/-- There is one issue for each skill with a property, under one of its names, and there are no
other issues. -/
def OnePerSkill (found : List Issue) (issue : String → Issue) (P : String → Prop) : Prop :=
  ∃ names : List String, found = names.map issue ∧
    names.Pairwise (fun a b => SkillName.key a ≠ SkillName.key b) ∧
    ∀ skill, Grant.Names names skill ↔ P skill

namespace OnePerSkill

variable {names : List String} {issue : String → Issue} {P : String → Prop}

/-- **A check of names that differ finds one issue for each skill** that has the property it looks
for, if all skills with the property are named. -/
theorem of_filterMap {issue? : String → Option Issue}
    (hnames : names.Pairwise fun a b => SkillName.key a ≠ SkillName.key b)
    (hissue : ∀ name ∈ names, ∀ i, issue? name = some i ↔ P name ∧ i = issue name)
    (hkey : ∀ a b, SkillName.key a = SkillName.key b → P a → P b)
    (hcover : ∀ skill, P skill → Grant.Names names skill) :
    OnePerSkill (names.filterMap issue?) issue P := by
  classical
  -- The names that pass the check still differ, and each of them stands for its skill.
  refine ⟨names.filter fun name => P name, ?_, hnames.filter _, fun skill => ?_⟩
  · rw [← List.filterMap_eq_map, List.filterMap_filter]
    refine List.filterMap_congr fun name hname => Option.ext fun i => ?_
    rw [hissue name hname]
    by_cases hP : P name
    · simp [hP, eq_comm]
    · simp [hP]
  · constructor
    · rintro ⟨name, hname, hsame⟩
      exact hkey name skill hsame (by simpa using (List.mem_filter.mp hname).2)
    · intro hP
      obtain ⟨name, hname, hsame⟩ := hcover skill hP
      exact ⟨name, List.mem_filter.mpr ⟨hname, by simpa using hkey skill name hsame.symm hP⟩, hsame⟩

theorem exists_of_mem {found : List Issue} (h : OnePerSkill found issue P) {i : Issue}
    (hi : i ∈ found) : ∃ name, i = issue name ∧ P name := by
  obtain ⟨names, rfl, -, hall⟩ := h
  obtain ⟨name, hname, rfl⟩ := List.mem_map.mp hi
  exact ⟨name, rfl, (hall name).mp ⟨name, hname, rfl⟩⟩

/-- A single issue gives away the one skill that has the property. -/
theorem exists_of_singleton {i : Issue} (h : OnePerSkill [i] issue P) : ∃ name, i = issue name ∧
    ∀ skill, P skill ↔ SkillName.key name = SkillName.key skill := by
  obtain ⟨names, hfound, -, hall⟩ := h
  obtain ⟨name, rfl, hname⟩ := List.map_eq_singleton_iff.mp hfound.symm
  refine ⟨name, hname.symm, fun skill => ?_⟩
  rw [← hall]
  simp [Grant.Names]

end OnePerSkill

end Issue

namespace Draft

variable {r : Rulebook} {d : Draft}

/-- **A review finds the issues of a kind at one stage**, whatever stages follow. -/
theorem ofKind_review {code : IssueCode} {found stage : Stage} (hcode : code.stage = found)
    (h : found.number ≤ stage.number) :
    Issue.ofKind code (d.review r stage).issues = Issue.ofKind code (d.issuesAt r found) := by
  rw [Issue.ofKind, review, List.filter_flatMap]
  -- Every other stage finds issues of its own kinds, so nothing of this one.
  refine flatMap_eq_of_unique stage.nodup_upTo (Stage.mem_upTo_of_number_le h) ?_
  refine fun other _ hother => Issue.ofKind_eq_nil fun i hi heq => hother ?_
  rw [← stage_of_mem_issuesAt hi, heq, hcode]

end Draft

end Chargen
