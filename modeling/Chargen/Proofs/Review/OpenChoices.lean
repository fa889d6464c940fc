import Chargen.Draft.Transition
import Chargen.Proofs.Choices
import Chargen.Proofs.Points.Filled
import Chargen.Proofs.Review.Kinds

/-!
# Drafts whose formula has no open choice

The review reports each choice that the points formula of the occupation leaves open, and filling
leaves none. Both look at the same formula and at the same picks, those of the selection.

* `Draft.ofKind_choiceIssues`: the open choices that a review reports.
* `Draft.exists_of_fillFormulaPicks`: what a draft is filled with.
* `fill_resolves`: **filling resolves every open choice and overrides nothing**, and a review of the
  filled draft reports none.
-/

namespace Chargen

namespace Draft

variable {r : Rulebook} {d d' : Draft}

/-- The issues of a group are not about the points formula. -/
theorem code_of_mem_groupIssues {g : PickGroup} {index : Nat} {picks : List String} {i : Issue}
    (hi : i ∈ groupIssues r g index picks) : i.code ≠ .occupationFormulaChoice := by
  intro hcode
  have hfield := field_of_mem_groupIssues hi
  cases i <;> cases hcode
  exact field_formulaOpen_ne _ _ _ hfield

/-- The issues of the choices that are about the points formula: one for each choice left open. -/
theorem ofKind_choiceIssues (o : Occupation) (s : Selection) :
    Issue.ofKind .occupationFormulaChoice (choiceIssues r o s) =
      ((Points.Formula.parse o.pointsFormula).openGroups s.formulaPicks).map fun g =>
        .formulaOpen g.key g.options := by
  have hformula : ∀ i ∈ ((Points.Formula.parse o.pointsFormula).openGroups s.formulaPicks).map
      (fun g => Issue.formulaOpen g.key g.options), i.code = .occupationFormulaChoice := by
    intro i hi
    obtain ⟨g, -, rfl⟩ := List.mem_map.mp hi
    rfl
  rw [choiceIssues, Issue.ofKind_append, Issue.ofKind_eq_self hformula, Issue.ofKind_eq_nil,
    List.nil_append]
  intro i hi
  obtain ⟨⟨g, index⟩, -, hi⟩ := List.mem_flatMap.mp hi
  exact code_of_mem_groupIssues hi

/-- A draft that is filled has an occupation of the rulebook, and the picks of its selection are
filled for the formula of that occupation. -/
theorem exists_of_fillFormulaPicks {n : Nat} (h : d.fillFormulaPicks r = .ok (n, d')) :
    ∃ s o, d.selection = some s ∧ r.occupation? s.name = some o ∧
      n = ((Points.Formula.parse o.pointsFormula).fill d.blockOrZero s.formulaPicks).1 ∧
      d' = { d with selection := some { s with formulaPicks :=
        ((Points.Formula.parse o.pointsFormula).fill d.blockOrZero s.formulaPicks).2 } } := by
  unfold fillFormulaPicks at h
  split at h
  · cases h
  · next s hs =>
    split at h
    · cases h
    · next o ho =>
      cases h
      exact ⟨s, o, hs, ho, rfl, rfl⟩

/-- **A review of a filled draft reports no open choice**, at whatever stage. -/
theorem ofKind_review_of_fillFormulaPicks {n : Nat} (h : d.fillFormulaPicks r = .ok (n, d'))
    (stage : Stage) :
    Issue.ofKind .occupationFormulaChoice (d'.review r stage).issues = [] := by
  obtain ⟨s, o, -, ho, -, rfl⟩ := exists_of_fillFormulaPicks h
  refine Issue.ofKind_eq_nil fun i hi hcode => ?_
  -- Only the stage of the choices finds issues of this kind.
  obtain ⟨found, -, hfound⟩ := List.mem_flatMap.mp hi
  obtain rfl : found = .choices := by
    rw [← stage_of_mem_issuesAt hfound, hcode]
    rfl
  rw [issuesAt] at hfound
  split at hfound
  · next o' s' hknown =>
    unfold knownOccupation? at hknown
    obtain ⟨_, hnamed, hlisted⟩ := Option.bind_eq_some_iff.mp hknown
    obtain ⟨hselection, -⟩ := Option.filter_eq_some_iff.mp hnamed
    cases hselection
    rw [ho] at hlisted
    cases hlisted
    have hmem := Issue.mem_ofKind.mpr ⟨hfound, hcode⟩
    rw [ofKind_choiceIssues, Points.Formula.openGroups_fill] at hmem
    cases hmem
  · cases hfound

end Draft

/-- **Filling resolves every open choice and overrides nothing.** It counts the choices that were
open and leaves none of them open. The entry of a choice for which an option was picked stays, and
so does every entry beyond the numbers of the choices; entries are added for the open choices only.
Filling again counts none and changes nothing. If all choices were open, the value is that of the
best options. So a draft whose choices are filled by a rulebook has no choice open in any review by
that rulebook. -/
theorem fill_resolves :
    (∀ (text : String) (b : Block) (picks : Points.Picks),
      let f := Points.Formula.parse text
      let filled := f.fill b picks
      filled.1 = (f.openGroups picks).length ∧
        f.openGroups filled.2 = [] ∧
        (∀ g ∈ f.groups, g ∉ f.openGroups picks → filled.2.get? g.key = picks.get? g.key) ∧
        (∀ key, f.choiceCount ≤ key → filled.2.get? key = picks.get? key) ∧
        (∀ key, key ∈ filled.2.keys ↔
          key ∈ picks.keys ∨ ∃ g ∈ f.openGroups picks, g.key = key) ∧
        (∀ b', f.fill b' filled.2 = (0, filled.2)) ∧
        (f.openGroups picks = f.groups → f.value b filled.2 = (f.best b).total)) ∧
      ∀ (r : Rulebook) (d d' : Draft) (n : Nat), d.fillFormulaPicks r = .ok (n, d') →
        ∀ stage, ∀ i ∈ (d'.review r stage).issues, i.code ≠ .occupationFormulaChoice := by
  refine ⟨fun text b picks => ?_, fun r d d' n h stage i hi hcode => ?_⟩
  · exact ⟨Points.Formula.count_fill text b picks, Points.Formula.openGroups_fill text b picks,
      fun g hg => Points.Formula.get?_fill_of_picked hg, fun key => Points.Formula.get?_fill_of_le,
      fun key => Points.Formula.mem_keys_fill, Points.Formula.fill_fill,
      Points.Formula.value_fill⟩
  · have hmem := Issue.mem_ofKind.mpr ⟨hi, hcode⟩
    rw [Draft.ofKind_review_of_fillFormulaPicks h] at hmem
    cases hmem

/-- An actress who has an option picked that her formula does not have, and one for a choice that it
does not have. -/
def Draft.undecided : Draft :=
  { fresh with
    selection := some { Selection.start "ACTRIZ" 20 with
      formulaPicks := SortedMap.ofList [(0, "POD x 2"), (7, "DES x 2")] } }

/-- One choice is filled in place of the stale pick, the stray one stays, and no review reports an
open choice; without any pick, nested choices reach the best total. -/
theorem fill_resolves_actress :
    (∃ r d', Rulebook.ofJson Rulebook.sampleDocument = .ok r ∧
      Draft.undecided.fillFormulaPicks r = .ok (1, d') ∧
      d'.selection.map Selection.formulaPicks = some (SortedMap.ofList [(0, "DESx2"),
        (7, "DES x 2")]) ∧
      ∀ i ∈ (d'.review r .equipment).issues, i.code ≠ .occupationFormulaChoice) ∧
    let f := Points.Formula.parse Points.nestedText
    f.openGroups SortedMap.empty = f.groups ∧
      f.value Points.nestedBlock (f.fill Points.nestedBlock SortedMap.empty).2 = 380 := by
  obtain ⟨hformula, hreview⟩ := fill_resolves
  refine ⟨?_, ?_⟩
  · obtain ⟨r, o, hr, ho, hfilled⟩ : ∃ r o, Rulebook.ofJson Rulebook.sampleDocument = .ok r ∧
        r.occupation? "Actriz" = some o ∧
        (Draft.undecided.fillFormulaPicks r).toOption.map (fun e =>
          (e.1, e.2.selection.map Selection.formulaPicks)) =
            some (1, some (SortedMap.ofList [(0, "DESx2"), (7, "DES x 2")])) :=
      Rulebook.exists_occupation_of_decide (by decide +kernel)
    cases hresult : Draft.undecided.fillFormulaPicks r with
    | error cause =>
      rw [hresult] at hfilled
      cases hfilled
    | ok result =>
      obtain ⟨n, d'⟩ := result
      rw [hresult] at hfilled
      obtain ⟨rfl, hpicks⟩ := Prod.mk.inj (Option.some.inj hfilled)
      exact ⟨r, d', hr, hresult, hpicks, hreview r _ d' 1 hresult .equipment⟩
  · have hopen : (Points.Formula.parse Points.nestedText).openGroups SortedMap.empty =
        (Points.Formula.parse Points.nestedText).groups := by decide +kernel
    have htotal : ((Points.Formula.parse Points.nestedText).best Points.nestedBlock).total = 380 := by
      decide +kernel
    obtain ⟨-, -, -, -, -, -, hvalue⟩ :=
      hformula Points.nestedText Points.nestedBlock SortedMap.empty
    exact ⟨hopen, (hvalue hopen).trans htotal⟩

end Chargen
