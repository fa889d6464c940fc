import Chargen.Grant.InTurn
import Chargen.Proofs.Grant.Catalog
import Chargen.Proofs.SkillName.Distinct
import Chargen.Proofs.SkillName.Offering

/-!
# Entries and the names that they offer

An entry that offers several names grants what its names grant by themselves. It covers what one of
them covers, and it resolves to the skills of all of them, each skill once, or to the whole catalog
if one of them is any skill.

* `resolveInTurn_eq`: what is resolved alternative by alternative.
* `covers_offering`: **an entry covers what its names cover**.
* `resolve_eq_offering`: **an entry resolves to what its names resolve to**.
* `resolve_pairwise`, `pool_pairwise`: no skill is resolved twice.
* `resolve_offering`: the three together.
-/

namespace Chargen.Grant

open SkillName (alternatives isWildcard Offering Plain)

variable {r : Rulebook} {names : List String} {entry skill : String}

/-! ### Alternative by alternative -/

/-- **What is resolved alternative by alternative**, behind the skills found so far. -/
theorem resolveInTurn_eq (found alternatives : List String) :
    resolveInTurn r found alternatives = if alternatives.any isWildcard = true then r.skillNames
      else SkillName.distinct (found ++ alternatives.flatMap (expand r)) := by
  induction alternatives generalizing found with
  | nil => rw [resolveInTurn, List.flatMap_nil, List.append_nil]; rfl
  | cons alternative rest ih =>
    rw [resolveInTurn, List.any_cons]
    by_cases hwild : isWildcard alternative = true
    · rw [if_pos hwild, hwild, Bool.true_or, if_pos rfl]
    · rw [if_neg hwild, Bool.eq_false_iff.mpr hwild, Bool.false_or, ih, List.flatMap_cons,
        List.append_assoc]

/-- **Alternative by alternative the same skills are resolved.** -/
theorem resolveInTurn_eq_resolve (entry : String) :
    resolveInTurn r [] (alternatives entry) = resolve r entry := by
  rw [resolveInTurn_eq, List.nil_append]
  rfl

/-! ### Several names -/

theorem isWildcard_trimmed (name : String) : isWildcard (Text.trimmed name) = isWildcard name := by
  rw [isWildcard, isWildcard, SkillName.key_trimmed]

/-- A plain name offers itself, without the blanks around it. -/
theorem alternatives_of_plain {name : String} (h : Plain name.toList) :
    alternatives name = [Text.trimmed name] := by
  have hoffering : Offering ([name].map String.toList) name.toList := .single h
  exact hoffering.alternatives_eq

theorem plain_of_mem (h : Offering (names.map String.toList) entry.toList) {name : String}
    (hname : name ∈ names) : Plain name.toList :=
  h.plain name.toList (List.mem_map_of_mem hname)

/-- **An entry covers what its names cover.** -/
theorem covers_offering (h : Offering (names.map String.toList) entry.toList) :
    covers entry skill = true ↔ ∃ name ∈ names, covers name skill = true := by
  have hone : ∀ name ∈ names, covers name skill =
      (isWildcard (Text.trimmed name) ||
        alternativeCovers (Text.trimmed name) (SkillName.key skill)) := by
    intro name hname
    rw [covers, alternatives_of_plain (plain_of_mem h hname)]
    exact Bool.or_false _
  rw [covers, h.alternatives_eq, List.any_map, List.any_eq_true]
  simp only [Function.comp_apply]
  constructor
  · rintro ⟨name, hname, hcovers⟩
    rw [← hone name hname] at hcovers
    exact ⟨name, hname, hcovers⟩
  · rintro ⟨name, hname, hcovers⟩
    rw [hone name hname] at hcovers
    exact ⟨name, hname, hcovers⟩

/-- What a plain name resolves to. -/
theorem resolve_of_plain {name : String} (h : Plain name.toList) :
    resolve r name = if isWildcard name = true then r.skillNames
      else SkillName.distinct (expand r (Text.trimmed name)) := by
  rw [resolve, alternatives_of_plain h, List.any_cons, List.any_nil, Bool.or_false,
    isWildcard_trimmed, List.flatMap_cons, List.flatMap_nil, List.append_nil]

/-- **An entry resolves to what its names resolve to**, each skill once; to the whole catalog if one
of them is any skill. -/
theorem resolve_eq_offering (h : Offering (names.map String.toList) entry.toList) :
    resolve r entry = if names.any isWildcard = true then r.skillNames
      else SkillName.distinct (names.flatMap (resolve r)) := by
  have hwild : (alternatives entry).any isWildcard = names.any isWildcard := by
    rw [h.alternatives_eq, List.any_map]
    simp only [Function.comp_def, isWildcard_trimmed]
  rw [resolve, hwild]
  by_cases hany : names.any isWildcard = true
  · rw [if_pos hany, if_pos hany]
  · -- No name is any skill, so each of them resolves to its own skills.
    have hnames : names.flatMap (resolve r) =
        names.flatMap fun name => SkillName.distinct (expand r (Text.trimmed name)) := by
      apply List.flatMap_congr
      intro name hname
      rw [resolve_of_plain (plain_of_mem h hname), if_neg]
      intro hwild
      exact hany (List.any_eq_true.mpr ⟨name, hname, hwild⟩)
    rw [if_neg hany, if_neg hany, hnames, SkillName.distinct_flatMap_distinct, h.alternatives_eq,
      List.flatMap_map]

/-! ### No skill twice -/

theorem resolve_pairwise (hr : r.Consistent) (entry : String) :
    (resolve r entry).Pairwise fun a b => SkillName.key a ≠ SkillName.key b := by
  rw [resolve]
  split
  · exact hr.pairwise_skillNames
  · exact SkillName.distinct_pairwise _

theorem pool_pairwise (r : Rulebook) (g : PickGroup) :
    (pool r g).Pairwise fun a b => SkillName.key a ≠ SkillName.key b :=
  SkillName.distinct_pairwise _

/-- **Entries distribute over the word `o`.** An entry that offers names covers a skill exactly if
one of its names does. It resolves to the whole catalog if one of its names is any skill, and else
to what its names resolve to, each skill by its first name; and so it does alternative by
alternative. Neither an entry nor a group resolves to one skill twice. -/
theorem resolve_offering {j : Json} (hr : Rulebook.ofJson j = .ok r)
    (h : Offering (names.map String.toList) entry.toList) :
    (∀ skill, covers entry skill = true ↔ ∃ name ∈ names, covers name skill = true) ∧
      ((∃ name ∈ names, isWildcard name = true) → resolve r entry = r.skillNames) ∧
      ((∀ name ∈ names, isWildcard name = false) →
        resolve r entry = SkillName.firstNames (names.flatMap (resolve r))) ∧
      resolveInTurn r [] (alternatives entry) = resolve r entry ∧
      (resolve r entry).Pairwise (fun a b => SkillName.key a ≠ SkillName.key b) ∧
      ∀ g, (pool r g).Pairwise fun a b => SkillName.key a ≠ SkillName.key b := by
  refine ⟨fun skill => covers_offering h, ?_, ?_, resolveInTurn_eq_resolve entry,
    resolve_pairwise (Rulebook.consistent_of_ofJson hr) entry, pool_pairwise r⟩
  · intro hany
    rw [resolve_eq_offering h, if_pos (List.any_eq_true.mpr hany)]
  · intro hnone
    rw [resolve_eq_offering h, if_neg, SkillName.distinct_eq_firstNames]
    rw [List.any_eq_true]
    rintro ⟨name, hname, hwild⟩
    rw [hnone name hname] at hwild
    cases hwild

/-- Three names with blanks of several kinds around the words `o`. -/
theorem resolve_offering_three : ∃ r o, Rulebook.ofJson Rulebook.overlapDocument = .ok r ∧
    r.occupation? "Actriz" = some o ∧
    let names := [" Arte", "Ciencia ", "arte (óleo)"]
    let entry := " Arte \to Ciencia   O\u00a0arte (óleo)"
    Offering (names.map String.toList) entry.toList ∧
      resolve r entry = ["Arte (Óleo)", "Ciencia (Física)", "Ciencia (Oculta)"] ∧
      resolve r entry = SkillName.firstNames (names.flatMap (resolve r)) ∧
      ∀ skill, covers entry skill = true ↔ ∃ name ∈ names, covers name skill = true := by
  have hsample : ∃ r o, Rulebook.ofJson Rulebook.overlapDocument = .ok r ∧
      r.occupation? "Actriz" = some o ∧
      resolve r " Arte \to Ciencia   O\u00a0arte (óleo)" =
        ["Arte (Óleo)", "Ciencia (Física)", "Ciencia (Oculta)"] :=
    Rulebook.exists_occupation_of_decide (by decide +kernel)
  obtain ⟨r, o, hr, ho, hresolve⟩ := hsample
  have hentry : Offering ([" Arte", "Ciencia ", "arte (óleo)"].map String.toList)
      " Arte \to Ciencia   O\u00a0arte (óleo)".toList := by
    have hplain : ∀ cs ∈ [" Arte", "Ciencia ", "arte (óleo)"].map String.toList, Plain cs := by
      decide
    have hsmall : SkillName.IsOr [' ', '\t', 'o', ' '] :=
      ⟨[' ', '\t'], 'o', [' '], rfl, .inl rfl, ⟨by simp, List.all_eq_true.mp rfl⟩, by simp,
        List.all_eq_true.mp rfl⟩
    have hcapital : SkillName.IsOr [' ', ' ', 'O', '\u00a0'] :=
      ⟨[' ', ' '], 'O', ['\u00a0'], rfl, .inr rfl, ⟨by simp, List.all_eq_true.mp rfl⟩, by simp,
        List.all_eq_true.mp rfl⟩
    exact .cons (hplain _ (by simp)) hsmall
      (.cons (hplain _ (by simp)) hcapital (.single (hplain _ (by simp))))
  obtain ⟨hcovers, -, hnames, -⟩ := resolve_offering hr hentry
  exact ⟨r, o, hr, ho, hentry, hresolve, hnames (by decide +kernel), hcovers⟩

end Chargen.Grant
