import Chargen.Draft.Transition
import Chargen.Proofs.Respelling
import Chargen.Spending.Run
import Mathlib.Data.List.Induction

/-!
# The last allocation counts

A pool is kept by display name, and still it is a map from skills to points: what was allocated last
to a skill counts, under whatever spelling, and the start counts for the skills that no allocation
names.

* `Spending.lastSet?`, `Spending.exactPoints`: the points of a skill after a run, before clipping.
* `Pool.assign_comm`: new points for two skills may change places.
* `Spending.told_allocateAll`: what a pool says about a skill after a run.
* `Spending.sumWhere_allocateAll`, `Spending.mem_keys_allocateAll_iff`: the entries of a skill after
  a run, and whether it has any.
* `Spending.lastWrite`: **the last allocation counts**, for a skill and for what is spent in all.
-/

namespace Chargen

/-! ### New points for one skill -/

/-- New points for two skills may change places. -/
theorem Pool.assign_comm (p : Pool) {a b : String} (hab : SkillName.same a b = false) (m n : Nat) :
    (p.assign a m).assign b n = (p.assign b n).assign a m := by
  refine SortedMap.ext_get? fun name => ?_
  rw [get?_assign, get?_assign, get?_assign, get?_assign]
  by_cases ha : SkillName.same name a = true
  · have hb : SkillName.same name b = false := by
      rw [SkillName.same_iff] at ha
      rw [SkillName.same, ha]
      exact hab
    rw [ha, hb, if_pos rfl, if_neg Bool.false_ne_true, if_pos rfl]
  · rw [if_neg ha, if_neg ha]

namespace Spending

/-! ### One allocation -/

/-- An allocation gives its pool new points for its skill and leaves the other pool alone. -/
theorem pool_allocate (s : Spending) (a : Allocation) (pool : PoolName) :
    (s.allocate a).pool pool =
      if a.pool = pool then (s.pool pool).assign a.skill a.points else s.pool pool := by
  obtain ⟨name, skill, points⟩ := a
  cases name <;> cases pool <;> rfl

theorem ext_pool {s t : Spending} (h : ∀ pool, s.pool pool = t.pool pool) : s = t := by
  cases s
  cases t
  congr
  · exact h .occupation
  · exact h .personal

/-- Allocations to different pools or different skills may change places. -/
theorem allocate_comm (s : Spending) {a b : Allocation}
    (h : a.pool ≠ b.pool ∨ SkillName.same a.skill b.skill = false) :
    (s.allocate a).allocate b = (s.allocate b).allocate a := by
  refine ext_pool fun pool => ?_
  simp only [pool_allocate]
  by_cases ha : a.pool = pool <;> by_cases hb : b.pool = pool
  · have hskills : SkillName.same a.skill b.skill = false :=
      h.resolve_left fun hne => hne (ha.trans hb.symm)
    simp only [ha, hb, if_true]
    exact (s.pool pool).assign_comm hskills a.points b.points
  all_goals simp only [ha, hb, if_true, if_false]

/-! ### Runs -/

/-- The points that a run allocates last to a skill in a pool, under any spelling. -/
def lastSet? (allocations : List Allocation) (pool : PoolName) (skill : String) : Option Nat :=
  ((allocations.filter fun a => a.pool = pool && SkillName.same skill a.skill).getLast?).map
    Allocation.points

/-- The points of a skill in a pool after a run, before they are clipped: those allocated last, or
those that its spellings had at the start. -/
def exactPoints (start : Spending) (allocations : List Allocation) (pool : PoolName)
    (skill : String) : Nat :=
  (lastSet? allocations pool skill).getD
    ((start.pool pool).sumWhere fun name => SkillName.same name skill)

variable (start : Spending) (allocations : List Allocation)

theorem allocateAll_concat (a : Allocation) :
    start.allocateAll (allocations ++ [a]) = (start.allocateAll allocations).allocate a := by
  rw [allocateAll, List.foldl_append]
  rfl

/-- The last allocation to a skill is the one behind all others. -/
theorem lastSet?_concat (a : Allocation) (pool : PoolName) (skill : String) :
    lastSet? (allocations ++ [a]) pool skill =
      if a.pool = pool ∧ SkillName.same skill a.skill = true then some a.points
      else lastSet? allocations pool skill := by
  rw [lastSet?, List.filter_append, List.getLast?_append]
  by_cases h : a.pool = pool ∧ SkillName.same skill a.skill = true
  · rw [if_pos h, List.filter_cons_of_pos (by simpa using h)]
    rfl
  · rw [if_neg h, List.filter_cons_of_neg (by simpa using h)]
    rfl

/-- What a pool says about a skill after a run is what it says of the points allocated last, or what
it said at the start, if new points for a skill decide what it says about that skill and leave what
it says about others. -/
theorem told_allocateAll {β : Type} (told : Pool → β) (ofPoints : Nat → β) {skill : String}
    (htold : ∀ p other n, told (p.assign other n) =
      if SkillName.same skill other = true then ofPoints n else told p) (pool : PoolName) :
    told ((start.allocateAll allocations).pool pool) =
      ((lastSet? allocations pool skill).map ofPoints).getD (told (start.pool pool)) := by
  -- By induction on the run from its end, where the last allocation stands.
  induction allocations using List.reverseRecOn with
  | nil => rfl
  | append_singleton allocations a ih =>
    rw [allocateAll_concat, pool_allocate, lastSet?_concat]
    by_cases hpool : a.pool = pool
    · rw [if_pos hpool, htold, ih]
      by_cases hskill : SkillName.same skill a.skill = true
      · rw [if_pos hskill, if_pos ⟨hpool, hskill⟩]
        rfl
      · rw [if_neg hskill, if_neg fun h => hskill h.2]
    · rw [if_neg hpool, ih, if_neg fun h => hpool h.1]

/-- **The entries of a skill after a run add up to its exact points.** -/
theorem sumWhere_allocateAll (pool : PoolName) (skill : String) :
    ((start.allocateAll allocations).pool pool).sumWhere
      (fun name => SkillName.same name skill) = exactPoints start allocations pool skill := by
  have htold := told_allocateAll start allocations
    (fun p => p.sumWhere fun name => SkillName.same name skill) id
    (fun p other n => p.sumWhere_same_assign other n skill) pool
  rw [htold, exactPoints, Option.map_id]
  rfl

/-- A skill has an entry after a run if it was last allocated some points, or if it had an entry at
the start and no allocation names it. -/
theorem mem_keys_allocateAll_iff (pool : PoolName) (skill : String) :
    SkillName.key skill ∈ ((start.allocateAll allocations).pool pool).keys.map SkillName.key ↔
      match lastSet? allocations pool skill with
      | some n => n ≠ 0
      | none => SkillName.key skill ∈ (start.pool pool).keys.map SkillName.key := by
  have hassign : ∀ (p : Pool) (other : String) (n : Nat),
      (SkillName.key skill ∈ (p.assign other n).keys.map SkillName.key) =
        if SkillName.same skill other = true then n ≠ 0
        else SkillName.key skill ∈ p.keys.map SkillName.key := by
    intro p other n
    rw [Pool.mem_keys_assign_iff, eq_iff_iff]
    by_cases hskill : SkillName.key skill = SkillName.key other
    · simp [SkillName.same, hskill]
    · simp [SkillName.same, hskill]
  rw [← eq_iff_iff, told_allocateAll start allocations
    (fun p => SkillName.key skill ∈ p.keys.map SkillName.key) (fun n => n ≠ 0) hassign pool]
  cases lastSet? allocations pool skill <;> rfl

/-- A skill with an entry after a run is named, at the start or by an allocation. -/
theorem exists_named {pool : PoolName} {e : String × Nat}
    (he : e ∈ ((start.allocateAll allocations).pool pool).entries) :
    ∃ name ∈ (start.pool pool).keys ++ allocations.map Allocation.skill,
      SkillName.key name = SkillName.key e.1 := by
  have hkey := (mem_keys_allocateAll_iff start allocations pool e.1).mp
    (List.mem_map_of_mem (List.mem_map_of_mem he))
  cases hlast : lastSet? allocations pool e.1 with
  | none =>
    rw [hlast] at hkey
    obtain ⟨name, hname, heq⟩ := List.mem_map.mp hkey
    exact ⟨name, List.mem_append_left _ hname, heq⟩
  | some n =>
    obtain ⟨a, ha, -⟩ := Option.map_eq_some_iff.mp hlast
    obtain ⟨hmem, hnamed⟩ := List.mem_filter.mp (List.mem_of_getLast? ha)
    rw [Bool.and_eq_true, SkillName.same_iff] at hnamed
    exact ⟨a.skill, List.mem_append_right _ (List.mem_map_of_mem hmem), hnamed.2.symm⟩

/-- **What is spent from a pool after a run** is the sum of the exact points of all skills but the
one that the credit rating feeds. -/
theorem spent_allocateAll {pool : PoolName} {names : List String}
    (hnames : names.Pairwise fun a b => SkillName.key a ≠ SkillName.key b)
    (hcover : ∀ name ∈ (start.pool pool).keys ++ allocations.map Allocation.skill,
      ∃ n ∈ names, SkillName.key n = SkillName.key name) :
    ((start.allocateAll allocations).pool pool).spent =
      clip ((names.filter fun name => !SkillName.isCredit name).map
        (exactPoints start allocations pool)).sum := by
  have hentries : ∀ e ∈ ((start.allocateAll allocations).pool pool).entries,
      ∃ n ∈ names, SkillName.key n = SkillName.key e.1 := by
    intro e he
    obtain ⟨name, hname, hkey⟩ := exists_named start allocations he
    obtain ⟨n, hn, hkey'⟩ := hcover name hname
    exact ⟨n, hn, hkey'.trans hkey⟩
  rw [Pool.spent, Pool.sumWhere_eq_total,
    ← Pool.sum_total_same hnames SkillName.not_isCredit_congr hentries]
  congr 3
  exact List.map_congr_left fun name _ => sumWhere_allocateAll start allocations pool name

/-- **The last allocation counts.** After any run of allocations from any start, in either pool: a
skill has the points allocated to it last under any spelling, or those that its spellings had at the
start; all skills but the one of the credit rating add up to what is spent; and a skill that was
last allocated nothing has no entry. An allocation leaves the other pool alone, and two neighbouring
ones for different pools or skills may change places. -/
theorem lastWrite (start : Spending) (allocations : List Allocation) (pool : PoolName) :
    let after := start.allocateAll allocations
    (∀ skill, (after.pool pool).points skill = clip (exactPoints start allocations pool skill)) ∧
      (∀ names : List String, (names.Pairwise fun a b => SkillName.key a ≠ SkillName.key b) →
        (∀ name ∈ (start.pool pool).keys ++ allocations.map Allocation.skill,
          ∃ n ∈ names, SkillName.key n = SkillName.key name) →
        (after.pool pool).spent = clip ((names.filter fun name => !SkillName.isCredit name).map
          (exactPoints start allocations pool)).sum) ∧
      (∀ skill, lastSet? allocations pool skill = some 0 →
        ∀ name ∈ (after.pool pool).keys, SkillName.same name skill = false) ∧
      (∀ a : Allocation, a.pool ≠ pool → (after.allocate a).pool pool = after.pool pool) ∧
      ∀ a b : Allocation, (a.pool ≠ b.pool ∨ SkillName.same a.skill b.skill = false) →
        start.allocateAll (allocations ++ [a, b]) = start.allocateAll (allocations ++ [b, a]) := by
  dsimp only
  refine ⟨fun skill => ?_, fun names hnames hcover => spent_allocateAll _ _ hnames hcover,
    fun skill hlast name hname => ?_, fun a ha => ?_, fun a b hab => ?_⟩
  · rw [Pool.points, sumWhere_allocateAll]
  · have hnone := (mem_keys_allocateAll_iff start allocations pool skill).not
    rw [hlast] at hnone
    rw [Bool.eq_false_iff, ne_eq, SkillName.same_iff]
    intro hkey
    exact hnone.mpr (by simp) (hkey ▸ List.mem_map_of_mem hname)
  · rw [pool_allocate, if_neg ha]
  · have hsplit : ∀ a b : Allocation, allocations ++ [a, b] = (allocations ++ [a]) ++ [b] := by
      simp
    simp only [hsplit, allocateAll_concat]
    exact allocate_comm _ hab

/-- One skill under two spellings at the start, and another one allocated more than a sheet number
holds, and then nothing. -/
theorem lastWrite_respelled :
    let start : Spending :=
      ⟨SortedMap.ofList [("arte (oleo)", 40), ("Arte (Óleo)", 25), ("Crédito", 9)],
        SortedMap.ofList [("Canto", 3)]⟩
    let run : List Allocation :=
      [⟨.occupation, "Canto", 3000000000⟩, ⟨.personal, "CANTO", 3000000000⟩,
        ⟨.occupation, " canto ", 0⟩]
    let after := start.allocateAll run
    (after.pool .occupation).points "ARTE (ÓLEO)" = 65 ∧ (after.pool .occupation).spent = 65 ∧
      (∀ name ∈ (after.pool .occupation).keys, SkillName.same name "Canto" = false) ∧
      (after.pool .personal).points "canto" = 2147483647 ∧
      start.allocateAll (run ++ [⟨.occupation, "Canto", 1⟩, ⟨.personal, "Canto", 2⟩]) =
        start.allocateAll (run ++ [⟨.personal, "Canto", 2⟩, ⟨.occupation, "Canto", 1⟩]) := by
  let start : Spending :=
    ⟨SortedMap.ofList [("arte (oleo)", 40), ("Arte (Óleo)", 25), ("Crédito", 9)],
      SortedMap.ofList [("Canto", 3)]⟩
  let run : List Allocation :=
    [⟨.occupation, "Canto", 3000000000⟩, ⟨.personal, "CANTO", 3000000000⟩,
      ⟨.occupation, " canto ", 0⟩]
  obtain ⟨hpoints, hspent, hnothing, -, hcomm⟩ := lastWrite start run .occupation
  obtain ⟨hpersonal, -⟩ := lastWrite start run .personal
  refine ⟨?_, ?_, hnothing "Canto" (by decide +kernel), ?_, hcomm _ _ (.inl (by decide))⟩
  · exact (hpoints "ARTE (ÓLEO)").trans (by decide +kernel)
  · exact (hspent ["Arte (Óleo)", "Crédito", "Canto"] (by decide +kernel) (by decide +kernel)).trans
      (by decide +kernel)
  · exact (hpersonal "canto").trans (by decide +kernel)

end Spending

/-- The points of a draft change by allocations. -/
theorem Draft.spending_allocate (d : Draft) (skill : String) (points : Nat) :
    (d.allocateOccupation skill points).spending =
        d.spending.allocate ⟨.occupation, skill, points⟩ ∧
      (d.allocatePersonal skill points).spending =
        d.spending.allocate ⟨.personal, skill, points⟩ :=
  ⟨rfl, rfl⟩

end Chargen
