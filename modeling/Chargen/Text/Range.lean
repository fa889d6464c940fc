/-!
# Ascending tables of code points

Character properties are tables whose rows ascend, so a search stops at the first row beyond the
code point it looks for. `inRanges` asks whether a code point lies in one of a list of ranges;
`lookupAscending` finds the value of a row.
-/

namespace Chargen.Text

/-- Whether `c` lies in one of the ranges, ends included, of an ascending list. -/
def inRanges (c : Nat) : List (Nat × Nat) → Bool
  | [] => false
  | (lo, hi) :: rest => if c < lo then false else c ≤ hi || inRanges c rest

/-- The value of the row for `c` in an ascending table. -/
def lookupAscending {α : Type} (c : Nat) : List (Nat × α) → Option α
  | [] => none
  | (key, value) :: rest =>
    if c = key then some value else if c < key then none else lookupAscending c rest

/-- A code point found lies between the ends of one of the ranges. -/
theorem exists_of_inRanges {c : Nat} {rs : List (Nat × Nat)} (h : inRanges c rs = true) :
    ∃ r ∈ rs, r.1 ≤ c ∧ c ≤ r.2 := by
  induction rs with
  | nil => simp [inRanges] at h
  | cons r rest ih =>
    obtain ⟨lo, hi⟩ := r
    rw [inRanges] at h
    split at h
    · cases h
    · rcases (Bool.or_eq_true _ _).mp h with hle | hrest
      · exact ⟨(lo, hi), by simp, by simp only; omega, by simpa using hle⟩
      · obtain ⟨r, hr, hc⟩ := ih hrest
        exact ⟨r, List.mem_cons_of_mem _ hr, hc⟩

/-- A value found stands in a row of the table for that code point. -/
theorem mem_of_lookupAscending {α : Type} {c : Nat} {v : α} {rows : List (Nat × α)}
    (h : lookupAscending c rows = some v) : (c, v) ∈ rows := by
  induction rows with
  | nil => simp [lookupAscending] at h
  | cons row rest ih =>
    obtain ⟨key, value⟩ := row
    rw [lookupAscending] at h
    split at h
    · next hkey => cases h; simp [hkey]
    · split at h
      · cases h
      · exact List.mem_cons_of_mem _ (ih h)

end Chargen.Text
