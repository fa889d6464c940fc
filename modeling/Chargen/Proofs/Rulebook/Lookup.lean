import Chargen.Proofs.Rulebook
import Mathlib.Data.List.Nodup

/-!
# The entries of a rulebook

A rulebook that is read has all the entries of its document, in order, and finds one by any spelling
of its name.

* `FiledApart.find?_eq_some_iff`: which entry is found under a key.
* `skillNames_of_ofDocument`, `bands_of_ofDocument`: the catalog and the bands of a rulebook.
* `occupation?_eq_some_iff`, `occupation?_eq_none_iff`: **which occupation a name finds**, and which
  names find none.
-/

namespace Chargen.Rulebook

/-! ### Filed entries -/

/-- Where no two entries have one key, a key finds the entry that is named by it. -/
theorem FiledApart.find?_eq_some_iff {α : Type} {name : α → String} {seen : List String}
    {filed : List (Filed α)} (h : FiledApart name seen filed) {text : String} {x : α} :
    (filed.find? fun f => f.key == SkillName.key text).map Filed.entry = some x ↔
      x ∈ filed.map Filed.entry ∧ SkillName.key (name x) = SkillName.key text := by
  rw [Option.map_eq_some_iff]
  constructor
  · rintro ⟨f, hfind, rfl⟩
    have hmem := List.mem_of_find?_eq_some hfind
    have hkey : f.key = SkillName.key text := by simpa using List.find?_some hfind
    exact ⟨List.mem_map_of_mem hmem, by rw [← h.key_eq f hmem, hkey]⟩
  · rintro ⟨hx, hkey⟩
    obtain ⟨f, hf, rfl⟩ := List.mem_map.mp hx
    rw [← h.key_eq f hf] at hkey
    obtain ⟨g, hfind⟩ : ∃ g, (filed.find? fun g => g.key == SkillName.key text) = some g := by
      rw [← Option.isSome_iff_exists, List.find?_isSome]
      exact ⟨f, hf, beq_iff_eq.mpr hkey⟩
    -- What is found has the key of `f`, so it is `f`.
    have hg : g.key = SkillName.key text := by simpa using List.find?_some hfind
    have hnodup : (filed.map Filed.key).Nodup := List.pairwise_map.mpr h.distinct
    obtain rfl : g = f :=
      List.inj_on_of_nodup_map hnodup (List.mem_of_find?_eq_some hfind) hf (hg.trans hkey.symm)
    exact ⟨g, hfind, rfl⟩

theorem entries_of_fileSkills {seen : List String} {skills : List Skill}
    {filed : List (Filed Skill)} (h : fileSkills seen skills = .ok filed) :
    filed.map Filed.entry = skills := by
  induction skills generalizing seen filed with
  | nil =>
    cases h
    rfl
  | cons s rest ih =>
    rw [fileSkills] at h
    split at h
    · cases h
    · obtain ⟨tail, htail, heq⟩ := bind_ok_iff.mp h
      cases heq
      rw [List.map_cons, ih htail]

theorem entries_of_fileOccupations {seen : List String} {occupations : List Occupation}
    {filed : List (Filed Occupation)} (h : fileOccupations seen occupations = .ok filed) :
    filed.map Filed.entry = occupations := by
  induction occupations generalizing seen filed with
  | nil =>
    cases h
    rfl
  | cons o rest ih =>
    rw [fileOccupations] at h
    split at h
    · cases h
    · obtain ⟨_, -, hrest⟩ := bind_ok_iff.mp h
      obtain ⟨tail, htail, heq⟩ := bind_ok_iff.mp hrest
      cases heq
      rw [List.map_cons, ih htail]

/-! ### Rulebooks -/

section Read

variable {d : RulebookDocument} {r : Rulebook}

/-- A rulebook has the skills, the occupations and the bands of its document. -/
theorem entries_of_ofDocument (h : ofDocument d = .ok r) :
    r.skills.map Filed.entry = d.skills ∧ r.occupations.map Filed.entry = d.occupations ∧
      r.bands = d.bands := by
  unfold ofDocument at h
  obtain ⟨known, -, h⟩ := bind_ok_iff.mp h
  obtain ⟨generation, -, h⟩ := bind_ok_iff.mp h
  obtain ⟨skills, hskills, h⟩ := bind_ok_iff.mp h
  obtain ⟨occupations, hoccupations, h⟩ := bind_ok_iff.mp h
  obtain ⟨_, -, h⟩ := bind_ok_iff.mp h
  cases h
  exact ⟨entries_of_fileSkills hskills, entries_of_fileOccupations hoccupations, rfl⟩

/-- The catalog of a rulebook is that of its document, in order. -/
theorem skillNames_of_ofDocument (h : ofDocument d = .ok r) :
    r.skillNames = d.skills.map Skill.name := by
  rw [← (entries_of_ofDocument h).1, List.map_map]
  rfl

/-- **A name finds the occupation that is named so**, in any spelling. -/
theorem occupation?_eq_some_iff (h : ofDocument d = .ok r) {name : String} {o : Occupation} :
    r.occupation? name = some o ↔
      o ∈ d.occupations ∧ SkillName.key o.name = SkillName.key name := by
  rw [← (entries_of_ofDocument h).2.1]
  exact (consistent_of_ofDocument h).occupations_apart.find?_eq_some_iff

/-- A name finds no occupation exactly if none is named so, in any spelling. -/
theorem occupation?_eq_none_iff (h : ofDocument d = .ok r) {name : String} :
    r.occupation? name = none ↔
      ∀ o ∈ d.occupations, SkillName.key o.name ≠ SkillName.key name := by
  constructor
  · intro hnone o ho hkey
    rw [(occupation?_eq_some_iff h).mpr ⟨ho, hkey⟩] at hnone
    cases hnone
  · intro hnone
    cases hfound : r.occupation? name with
    | none => rfl
    | some o =>
      obtain ⟨ho, hkey⟩ := (occupation?_eq_some_iff h).mp hfound
      exact absurd hkey (hnone o ho)

end Read

/-- A document makes a rulebook if evaluation says so. -/
theorem exists_of_isOk {d : RulebookDocument} (h : (ofDocument d).isOk = true) :
    ∃ r, ofDocument d = .ok r := by
  cases hr : ofDocument d with
  | error cause =>
    rw [hr] at h
    cases h
  | ok r => exact ⟨r, rfl⟩

/-- What holds by evaluation of the rulebook of a document. -/
theorem exists_of_decide {d : RulebookDocument} {P : Rulebook → Prop} [DecidablePred P]
    (h : ((ofDocument d).toOption.any fun r => decide (P r)) = true) :
    ∃ r, ofDocument d = .ok r ∧ P r := by
  cases hr : ofDocument d with
  | error cause =>
    rw [hr] at h
    cases h
  | ok r =>
    rw [hr] at h
    exact ⟨r, rfl, of_decide_eq_true h⟩

end Chargen.Rulebook
