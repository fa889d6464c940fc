import Chargen.Proofs.Spending
import Chargen.SkillRow

/-!
# The rows of a sheet

Rows name pairwise different skills and leave none out that has points, so the points of the rows
add up to those of the pools.

* `SkillRow.le_baseValue`: no base is below all those that it can be taken from.
* `SkillRow.rows_pairwise`: no two rows name one skill.
* `SkillRow.clip_sum_column`, `SkillRow.clip_sum_rows`: **the points of the rows add up to the points
  of the pool**.
* `Draft.personal_of_mem_rows`, `Draft.occupation_of_mem_rows`: the points in the rows of a draft.
-/

namespace Chargen

namespace SkillRow

/-- No base is below all those that it can be taken from: education, half of dexterity, the bases of
the rulebook and zero. -/
theorem le_baseValue {r : Rulebook} {b : Block} {n : Int} (hedu : n ≤ b.edu)
    (hdes : n ≤ b.des.tdiv 2) (hskills : ∀ f ∈ r.skills, n ≤ f.entry.base)
    (hfamilies : ∀ f ∈ r.families, n ≤ f.entry.base) (hzero : n ≤ 0) (name : String) :
    n ≤ baseValue r b name := by
  have hskill : ∀ {key s}, r.skill? key = some s → n ≤ s.base := by
    intro key s h
    obtain ⟨found, hfound, rfl⟩ := Option.map_eq_some_iff.mp h
    exact hskills found (List.mem_of_find?_eq_some hfound)
  have hfamily : ∀ {key f}, r.family? key = some f → n ≤ f.base := by
    intro key f h
    obtain ⟨found, hfound, rfl⟩ := Option.map_eq_some_iff.mp h
    exact hfamilies found (List.mem_reverse.mp (List.mem_of_find?_eq_some hfound))
  unfold baseValue
  dsimp only
  split_ifs
  · exact hedu
  · exact hdes
  · split
    · next s hs => exact hskill hs
    · unfold familyBase
      split
      · next f hf =>
        rcases Option.or_eq_some_iff.mp hf with hf | ⟨-, hf⟩
        · obtain ⟨_, -, hf⟩ := Option.bind_eq_some_iff.mp hf
          exact hfamily hf
        · exact hfamily hf
      · exact hzero

variable (r : Rulebook) (b : Block) (spending : Spending) (granted : List String)

/-- No two rows name one skill. -/
theorem rows_pairwise : (rows r b spending granted).Pairwise fun row row' =>
    SkillName.key row.name ≠ SkillName.key row'.name := by
  rw [rows, List.pairwise_map]
  exact SkillName.distinct_pairwise _

variable {r b spending granted}

theorem eq_of_mem_rows {row : SkillRow} (h : row ∈ rows r b spending granted) :
    row = ofSkill r b spending row.name := by
  obtain ⟨name, -, rfl⟩ := List.mem_map.mp h
  rfl

/-- A column of rows that name different skills and leave out none that has an entry adds up to the
points of its pool, both clipped. -/
theorem clip_sum_column {table : List SkillRow}
    (htable : (table.map SkillRow.name).Pairwise fun a b => SkillName.key a ≠ SkillName.key b)
    {p : Pool} (hcover : ∀ e ∈ p.entries, ∃ n ∈ table.map SkillRow.name,
      SkillName.key n = SkillName.key e.1)
    {keep : String → Bool} (hkeep : ∀ a b, SkillName.key a = SkillName.key b → keep a = keep b)
    {column : SkillRow → Int}
    (hcolumn : ∀ row ∈ table, keep row.name = true → column row = p.points row.name) :
    clip ((table.filter fun row => keep row.name).map column).sum = clip (p.sumWhere keep) := by
  have hnames : (table.filter fun row => keep row.name).map column =
      ((table.map SkillRow.name).filter keep).map p.points := by
    rw [List.filter_map, List.map_map]
    refine List.map_congr_left fun row hrow => ?_
    obtain ⟨hmem, hkept⟩ := List.mem_filter.mp hrow
    exact hcolumn row hmem hkept
  rw [hnames]
  exact p.sum_points htable hkeep hcover

theorem map_name_rows : (rows r b spending granted).map SkillRow.name =
    rowNames r spending granted := by
  rw [rows, List.map_map]
  exact List.map_id _

end SkillRow

namespace Draft

variable {r : Rulebook} {d : Draft}

theorem sheetSpending_personal (d : Draft) : d.sheetSpending.personal = d.spending.personal := by
  rw [sheetSpending]
  split <;> rfl

theorem sheetSpending_occupation {s : Selection} (hs : d.selection = some s) :
    d.sheetSpending.occupation =
      d.spending.occupation.assign SkillName.credit s.creditRating.toNat := by
  rw [sheetSpending, hs]

theorem granted_eq {s : Selection} {o : Occupation} (hs : d.selection = some s)
    (ho : r.occupation? s.name = some o) : d.granted r = Grant.listed r o s := by
  rw [granted, hs]
  dsimp only
  rw [ho]

/-- The personal points of a row. -/
theorem personal_of_mem_rows {row : SkillRow} (h : row ∈ d.rows r) :
    row.personal = d.spending.personal.points row.name := by
  rw [← sheetSpending_personal]
  exact congrArg SkillRow.personal (SkillRow.eq_of_mem_rows h)

/-- The occupation points of a row: the credit rating, or the points of the skill. -/
theorem occupation_of_mem_rows {s : Selection} (hs : d.selection = some s) {row : SkillRow}
    (h : row ∈ d.rows r) : row.occupation =
      if SkillName.isCredit row.name then clip s.creditRating.toNat
      else d.spending.occupation.points row.name := by
  rw [SkillName.isCredit_eq_same, ← Pool.points_assign, ← sheetSpending_occupation hs]
  exact congrArg SkillRow.occupation (SkillRow.eq_of_mem_rows h)

end Draft

end Chargen
