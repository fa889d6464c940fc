import Chargen.Proofs.Sheet

/-!
# When a draft can be finished

The last review decides. Without an error in it nothing that a sheet needs is missing, so the other
faults of finishing do not arise, and the sheet has the numbers that the review has seen.

* `Draft.Clean.finish_eq_ok`: a clean draft is finished with its own characteristics.
* `Draft.finish_iff_review`: **a draft is finished exactly if its last review finds no error**, and
  refused with all issues of that review otherwise.
-/

namespace Chargen

/-- The numbers of a sheet are those of the draft that the review has seen. -/
structure Sheet.Reviewed (r : Rulebook) (d : Draft) (sheet : Sheet) : Prop where
  /-- The nine characteristics are all known and not changed. -/
  characteristics : d.characteristics = sheet.characteristics.map some
  /-- The rows are those of the draft. -/
  rows : sheet.rows = d.rows r
  /-- The occupation points are the total of the occupation's pool. -/
  points : (d.occupationBudget? r).map Budget.total = some sheet.occupation.points

namespace Draft

variable {r : Rulebook} {d : Draft}

theorem clean_iff : d.Clean r ↔ ∀ i ∈ (d.review r Stage.last).issues, i.isError = false := by
  rw [Clean, Report.hasErrors, List.any_eq_false]
  simp only [Bool.not_eq_true]

/-- All characteristics of a clean draft are known. -/
theorem Clean.characteristics_eq (h : d.Clean r) :
    d.characteristics = d.blockOrZero.map some := by
  refine Profile.ext_get fun c => ?_
  obtain ⟨value, hvalue, -⟩ := h.exists_legal c
  rw [blockOrZero, Profile.orZero, Profile.get_map, Profile.get_map, hvalue]
  rfl

/-- **A clean draft is finished** with its own characteristics, which are legal and therefore not
reduced. -/
theorem Clean.finish_eq_ok (h : d.Clean r) : ∃ o s, d.selection = some s ∧
    r.occupation? s.name = some o ∧ d.finish r = .ok (d.sheetOf r o s d.blockOrZero) := by
  obtain ⟨o, s, hs, ho, -, -⟩ := h.exists_occupation
  have hb := h.characteristics_eq
  have hcomplete : d.block? = some d.blockOrZero := Profile.complete?_eq_some_iff.mpr hb
  have hsealed : finishBlock d.blockOrZero = d.blockOrZero := finishBlock_eq (h.legal hb .edu).2
  refine ⟨o, s, hs, ho, ?_⟩
  unfold finish
  dsimp only
  rw [if_neg (by simpa [Clean] using h), hcomplete, hs]
  dsimp only
  rw [ho, hsealed]

theorem finish_of_not_clean (h : ¬ d.Clean r) :
    d.finish r = .error (.unfinished (d.review r Stage.last).issues) := by
  have herrors : (d.review r Stage.last).hasErrors = true := by
    simpa [Clean] using h
  unfold finish
  dsimp only
  rw [if_pos herrors]

theorem exists_finish_iff : (∃ sheet, d.finish r = .ok sheet) ↔ d.Clean r := by
  constructor
  · rintro ⟨sheet, hsheet⟩
    by_contra hclean
    rw [finish_of_not_clean hclean] at hsheet
    cases hsheet
  · intro hclean
    obtain ⟨o, s, -, -, hfinish⟩ := hclean.finish_eq_ok
    exact ⟨_, hfinish⟩

theorem Clean.reviewed (h : d.Clean r) {sheet : Sheet} (hsheet : d.finish r = .ok sheet) :
    sheet.Reviewed r d := by
  obtain ⟨o, s, hs, ho, hfinish⟩ := h.finish_eq_ok
  rw [hfinish] at hsheet
  cases hsheet
  exact {
    characteristics := h.characteristics_eq
    rows := sheetOf_rows h.characteristics_eq
    points := by
      rw [occupationBudget?, hs]
      dsimp only
      rw [ho]
      rfl }

/-- **A draft is finished exactly if its last review finds no error.** Otherwise it is refused with
all issues of that review in order, warnings too, and for no other reason. The numbers of the sheet
are those that the review has seen. -/
theorem finish_iff_review (r : Rulebook) (d : Draft) :
    ((∃ sheet, d.finish r = .ok sheet) ↔
        ∀ i ∈ (d.review r (Stage.ofInt 10)).issues, i.isError = false) ∧
      (∀ cause, d.finish r = .error cause →
        cause = .unfinished (d.review r (Stage.ofInt 10)).issues) ∧
      ∀ sheet, d.finish r = .ok sheet → sheet.Reviewed r d := by
  have hlast : Stage.ofInt 10 = Stage.last := rfl
  rw [hlast, ← clean_iff]
  -- Being clean decides between the sheet and the one refusal.
  by_cases hclean : d.Clean r
  · obtain ⟨o, s, -, -, hfinish⟩ := hclean.finish_eq_ok
    refine ⟨⟨fun _ => hclean, fun _ => ⟨_, hfinish⟩⟩, ?_, fun _ => hclean.reviewed⟩
    intro cause hcause
    rw [hfinish] at hcause
    cases hcause
  · have hrefused := finish_of_not_clean hclean
    refine ⟨⟨?_, fun h => absurd h hclean⟩, ?_, ?_⟩
    · rintro ⟨sheet, hsheet⟩
      rw [hrefused] at hsheet
      cases hsheet
    · intro cause hcause
      rw [hrefused] at hcause
      cases hcause
      rfl
    · intro sheet hsheet
      rw [hrefused] at hsheet
      cases hsheet

/-- The sheet of a draft that passes its last review. -/
theorem finish_iff_review_sample : ∃ r sheet, Rulebook.ofJson Rulebook.sampleDocument = .ok r ∧
    (∀ i ∈ (sample.review r (Stage.ofInt 10)).issues, i.isError = false) ∧
    sample.finish r = .ok sheet ∧ sheet.Reviewed r sample := by
  have hsample : ∃ r o, Rulebook.ofJson Rulebook.sampleDocument = .ok r ∧
      r.occupation? "Actriz" = some o ∧
        ∀ i ∈ (sample.review r (Stage.ofInt 10)).issues, i.isError = false :=
    Rulebook.exists_occupation_of_decide (by decide +kernel)
  obtain ⟨r, o, hr, -, hissues⟩ := hsample
  obtain ⟨hok, -, hreviewed⟩ := finish_iff_review r sample
  obtain ⟨sheet, hsheet⟩ := hok.mpr hissues
  exact ⟨r, sheet, hr, hissues, hsheet, hreviewed sheet hsheet⟩

end Draft

end Chargen
