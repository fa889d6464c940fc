import Chargen.Proofs.Points.Best
import Mathlib.Order.Bounds.Basic

/-!
# Filling open choices

The best options are filled in where no option is picked, and every option that is picked stays. The
search behind them does not know the picks. So the outcome is the best completion of the picks where
those do not interact with what is filled: a choice taken another way than in the best combination
must not stand around a filled one, nor inside of it, and no sum may be clipped.

* `Formula.get?_fill`: what is picked after filling.
* `Optimal.of_sum`, `Optimal.of_branch`: **the parts of a best combination are best**, those of a
  sum if it is not clipped.
* `Completable.value_le`: nothing that keeps the picks gives more than filling them.
* `fill_spec`: **filling gives the best completion** of picks that do not interact with it.
* `not_isGreatest_fill`: of other picks it does not.
-/

namespace Chargen.Points

/-! ### What is picked after filling -/

namespace Formula

variable (text : String) (b : Block) (picks : Picks)

theorem mem_openGroups_iff {f : Formula} {picks : Picks} {g : ChoiceGroup} :
    g ∈ f.openGroups picks ↔ g ∈ f.groups ∧ g.picked? picks = none := by
  rw [openGroups, List.mem_filter, Option.isNone_iff_eq_none]
  rfl

theorem mem_filled_iff {f : Formula} {best picks : Picks} {e : Nat × String} :
    e ∈ (f.openGroups picks).filterMap (fun g => (best.get? g.key).map (g.key, ·)) ↔
      ∃ g ∈ f.groups, g.picked? picks = none ∧ g.key = e.1 ∧ best.get? g.key = some e.2 := by
  rw [List.mem_filterMap]
  constructor
  · rintro ⟨g, hg, he⟩
    obtain ⟨hgroup, hopen⟩ := mem_openGroups_iff.mp hg
    obtain ⟨option, hbest, rfl⟩ := Option.map_eq_some_iff.mp he
    exact ⟨g, hgroup, hopen, rfl, hbest⟩
  · rintro ⟨g, hgroup, hopen, hkey, hbest⟩
    refine ⟨g, mem_openGroups_iff.mpr ⟨hgroup, hopen⟩, ?_⟩
    rw [hbest, hkey]
    rfl

theorem nodup_filled_keys (f : Formula) (best picks : Picks) :
    (((f.openGroups picks).filterMap fun g => (best.get? g.key).map (g.key, ·)).map
      Prod.fst).Nodup := by
  have hopen : (f.openGroups picks).Pairwise fun g g' => g.key ≠ g'.key :=
    (List.pairwise_map.mp f.nodup_keys).filter _
  rw [List.Nodup, List.pairwise_map, List.pairwise_filterMap]
  refine hopen.imp fun {g g'} hne e he e' he' => ?_
  obtain ⟨_, -, rfl⟩ := Option.map_eq_some_iff.mp he
  obtain ⟨_, -, rfl⟩ := Option.map_eq_some_iff.mp he'
  exact hne

theorem eq_of_key_eq {f : Formula} {g g' : ChoiceGroup} (hg : g ∈ f.groups) (hg' : g' ∈ f.groups)
    (h : g.key = g'.key) : g = g' :=
  List.inj_on_of_nodup_map f.nodup_keys hg hg' h

/-- **What is picked after filling**: the picks for the choices that take a branch by them, and the
best options for the others. -/
theorem get?_fill {g : ChoiceGroup} (hg : g ∈ (parse text).groups) :
    ((parse text).fill b picks).2.get? g.key =
      if (g.picked? picks).isSome then picks.get? g.key
      else ((parse text).best b).picks.get? g.key := by
  have hfill : ((parse text).fill b picks).2 =
      picks.insertAll (((parse text).openGroups picks).filterMap
        fun g => (((parse text).best b).picks.get? g.key).map (g.key, ·)) := rfl
  rw [hfill]
  split
  · next hpicked =>
    refine SortedMap.get?_insertAll_of_notMem (fun hkey => ?_) picks
    obtain ⟨e, he, hkey⟩ := List.mem_map.mp hkey
    obtain ⟨g', hg', hopen, hkey', -⟩ := mem_filled_iff.mp he
    rw [eq_of_key_eq hg' hg (hkey'.trans hkey)] at hopen
    rw [hopen] at hpicked
    cases hpicked
  · next hopen =>
    obtain ⟨option, -, hbest⟩ := exists_option_of_best text b hg
    rw [hbest]
    refine SortedMap.get?_insertAll_of_mem (nodup_filled_keys _ _ _) ?_ picks
    exact mem_filled_iff.mpr ⟨g, hg, by simpa using hopen, rfl, hbest⟩

theorem picked?_fill {g : ChoiceGroup} (hg : g ∈ (parse text).groups) :
    g.picked? ((parse text).fill b picks).2 =
      if (g.picked? picks).isSome then g.picked? picks
      else g.picked? ((parse text).best b).picks := by
  have hget := get?_fill text b picks hg
  split
  · next hpicked =>
    rw [if_pos hpicked] at hget
    exact ChoiceGroup.picked?_congr hget
  · next hopen =>
    rw [if_neg hopen] at hget
    exact ChoiceGroup.picked?_congr hget

/-- Wherever a branch is picked, the same one is picked by the other picks. -/
def Keeps (f : Formula) (picks other : Picks) : Prop :=
  ∀ g ∈ f.groups, (g.picked? picks).isSome → g.picked? other = g.picked? picks

/-- The values that a formula takes for the completions of picks. -/
def completionValues (f : Formula) (b : Block) (picks : Picks) : Set Int :=
  { v | ∃ other, f.Keeps picks other ∧ f.value b other = v }

instance (f : Formula) (picks other : Picks) : Decidable (f.Keeps picks other) :=
  inferInstanceAs (Decidable (∀ g ∈ f.groups, (g.picked? picks).isSome →
    g.picked? other = g.picked? picks))

theorem not_isGreatest_of_lt {f : Formula} {b : Block} {picks : Picks} (other : Picks)
    (hkeeps : f.Keeps picks other) (hlt : f.value b (f.fill b picks).2 < f.value b other) :
    ¬ IsGreatest (f.completionValues b picks) (f.value b (f.fill b picks).2) := by
  intro hgreatest
  have hle := hgreatest.2 ⟨other, hkeeps, rfl⟩
  omega

theorem keeps_fill : (parse text).Keeps picks ((parse text).fill b picks).2 := by
  intro g hg hpicked
  rw [picked?_fill text b picks hg, if_pos hpicked]

end Formula

/-! ### The parts of a best combination -/

section Parts

open Chargen.Points.Tree

variable {b : Block} {best : Picks}

/-- No picks give a tree, numbered from `k` on, a higher value. -/
def Optimal (b : Block) (best : Picks) (k : Nat) (t : Tree) : Prop :=
  ∀ picks, valueFrom b picks k t ≤ valueFrom b best k t

/-- No sum on the way leaves the sheet numbers or reaches the greatest one. -/
def Unclipped (b : Block) (picks : Picks) (k : Nat) (sum : Int) : List Tree → Prop
  | [] => True
  | t :: ts =>
    (minNumber ≤ sum + valueFrom b picks k t ∧ sum + valueFrom b picks k t < maxNumber) ∧
      Unclipped b picks (k + t.choiceCount) (sum + valueFrom b picks k t) ts

instance decidableUnclipped (b : Block) (picks : Picks) :
    ∀ (k : Nat) (sum : Int) (ts : List Tree), Decidable (Unclipped b picks k sum ts)
  | _, _, [] => .isTrue trivial
  | k, start, t :: ts =>
    have := decidableUnclipped b picks (k + t.choiceCount) (start + valueFrom b picks k t) ts
    inferInstanceAs (Decidable ((_ ∧ _) ∧ _))

/-- Picks for the numbers below a bound go with any picks for the others. -/
theorem exists_graft (bound : Nat) (low high : Picks) :
    ∃ picks : Picks, ∀ key,
      picks.get? key = if key < bound then low.get? key else high.get? key := by
  refine ⟨(high.filterKeys fun key => bound ≤ key).insertAll
    (low.filterKeys fun key => key < bound).entries, fun key => ?_⟩
  rw [SortedMap.get?_insertAll_entries, SortedMap.get?_filterKeys, SortedMap.get?_filterKeys]
  by_cases hkey : key < bound
  · have hnot : ¬ bound ≤ key := by omega
    simp [hkey, hnot]
  · simp [hkey]

/-- A higher start gives a higher sum, if nothing is clipped from the lower one. -/
theorem sumFrom_lt {k : Nat} {sum sum' : Int} {ts : List Tree} (hclear : Unclipped b best k sum ts)
    (hlt : sum < sum') : sumFrom b best k sum ts < sumFrom b best k sum' ts := by
  induction ts generalizing k sum sum' with
  | nil => exact hlt
  | cons t ts ih =>
    obtain ⟨⟨hlo, hhi⟩, hrest⟩ := hclear
    rw [sumFrom, sumFrom, clip_of_mem hlo (by omega)]
    exact ih hrest (lt_clip hhi (by omega))

/-- Terms of no higher values give no higher sum. -/
theorem sumFrom_le {picks picks' : Picks} {k : Nat} {sum sum' : Int} {ts : List Tree}
    (hterms : ∀ e ∈ ts.zip (starts k ts), valueFrom b picks e.2 e.1 ≤ valueFrom b picks' e.2 e.1)
    (hle : sum ≤ sum') : sumFrom b picks k sum ts ≤ sumFrom b picks' k sum' ts := by
  induction ts generalizing k sum sum' with
  | nil => exact hle
  | cons t ts ih =>
    rw [starts, List.zip_cons_cons, List.forall_mem_cons] at hterms
    rw [sumFrom, sumFrom]
    exact ih hterms.2 (clip_mono (Int.add_le_add hle hterms.1))

theorem exists_sumFrom_eq (first others : Picks) (k : Nat) (sum : Int) (t : Tree) (ts : List Tree) :
    ∃ picks, sumFrom b picks k sum (t :: ts) =
      sumFrom b others (k + t.choiceCount) (clip (sum + valueFrom b first k t)) ts := by
  obtain ⟨picks, hpicks⟩ := exists_graft (k + t.choiceCount) first others
  have hfirst : valueFrom b picks k t = valueFrom b first k t := by
    refine valueFrom_of_get? fun key _ hkey => ?_
    rw [hpicks, if_pos hkey]
  refine ⟨picks, ?_⟩
  rw [sumFrom, hfirst]
  refine sumFrom_of_get? _ fun key hkey => ?_
  rw [hpicks, if_neg (by omega)]

/-- No picks give a sum of trees, from a given start on, a higher value. -/
def OptimalSum (b : Block) (best : Picks) (k : Nat) (sum : Int) (ts : List Tree) : Prop :=
  ∀ picks, sumFrom b picks k sum ts ≤ sumFrom b best k sum ts

theorem OptimalSum.head {k : Nat} {sum : Int} {t : Tree} {ts : List Tree}
    (hclear : Unclipped b best k sum (t :: ts)) (h : OptimalSum b best k sum (t :: ts)) :
    Optimal b best k t := by
  intro picks
  by_contra hlt
  obtain ⟨⟨hlo, hhi⟩, hrest⟩ := hclear
  -- Better picks for the first term alone would make the whole sum better.
  obtain ⟨better, hbetter⟩ := exists_sumFrom_eq (b := b) picks best k sum t ts
  have hle := h better
  rw [hbetter, sumFrom, clip_of_mem hlo (by omega)] at hle
  have hless : sumFrom b best (k + t.choiceCount) (sum + valueFrom b best k t) ts <
      sumFrom b best (k + t.choiceCount) (clip (sum + valueFrom b picks k t)) ts :=
    sumFrom_lt hrest (lt_clip hhi (by omega))
  omega

theorem OptimalSum.tail {k : Nat} {sum : Int} {t : Tree} {ts : List Tree}
    (hclear : Unclipped b best k sum (t :: ts)) (h : OptimalSum b best k sum (t :: ts)) :
    OptimalSum b best (k + t.choiceCount) (sum + valueFrom b best k t) ts := by
  intro picks
  obtain ⟨⟨hlo, hhi⟩, -⟩ := hclear
  obtain ⟨mixed, hmixed⟩ := exists_sumFrom_eq (b := b) best picks k sum t ts
  have hle := h mixed
  rw [hmixed, sumFrom, clip_of_mem hlo (by omega)] at hle
  exact hle

theorem OptimalSum.of_mem {k start : Nat} {sum : Int} {t : Tree} {ts : List Tree}
    (hclear : Unclipped b best k sum ts) (h : OptimalSum b best k sum ts)
    (hmem : (t, start) ∈ ts.zip (starts k ts)) : Optimal b best start t := by
  induction ts generalizing k sum with
  | nil => cases hmem
  | cons t' ts ih =>
    rw [starts, List.zip_cons_cons, List.mem_cons] at hmem
    rcases hmem with hmem | hmem
    · cases hmem
      exact h.head hclear
    · exact ih hclear.2 (h.tail hclear) hmem

/-- **The terms of a best sum are best**, if no sum on the way is clipped. -/
theorem Optimal.of_sum {k start : Nat} {t : Tree} {terms : List Tree}
    (h : Optimal b best k (.sum terms)) (hclear : Unclipped b best k 0 terms)
    (hmem : (t, start) ∈ terms.zip (starts k terms)) : Optimal b best start t :=
  OptimalSum.of_mem hclear h hmem

/-- **The branch that a best combination takes is best.** -/
theorem Optimal.of_branch {k place start : Nat} {options : List String} {branches : List Tree}
    {t : Tree} (h : Optimal b best k (.choice options branches))
    (hpick : pickedBranch? best k options = some place)
    (hat : (branches.zip (starts (k + 1) branches))[place]? = some (t, start)) :
    Optimal b best start t := by
  intro picks
  have hstart : k + 1 ≤ start := (bounds_of_mem_starts (List.mem_of_getElem? hat)).1
  -- The branch is taken as before and all choices in it as in the other picks.
  obtain ⟨mixed, hmixed⟩ := exists_graft start best picks
  have hkey : mixed.get? k = best.get? k := by
    rw [hmixed, if_pos (Nat.lt_of_succ_le hstart)]
  have hmixedPick : pickedBranch? mixed k options = some place :=
    (ChoiceGroup.picked?_congr (g := ⟨k, options⟩) hkey).trans hpick
  have hinner : valueFrom b mixed start t = valueFrom b picks start t := by
    refine valueFrom_of_get? fun key hkey _ => ?_
    rw [hmixed, if_neg (by omega)]
  have hle := h mixed
  rwa [valueFrom_choice hmixedPick hat, valueFrom_choice hpick hat, hinner] at hle

end Parts

/-! ### Picks that do not interact with what is filled -/

open Chargen.Points.Tree

variable {b : Block} {picks best : Picks}

/-- A tree falls into parts, along unclipped sums and branches that both the picks and the best
options take, each of which is left to the best options or settled by the picks. -/
inductive Completable (b : Block) (picks best : Picks) : Nat → Tree → Prop where
  /-- no pick leads away from the best options -/
  | follows {k : Nat} {t : Tree}
      (h : ∀ g ∈ reachedFrom best k t, g.picked? picks = none ∨ g.picked? picks = g.picked? best) :
      Completable b picks best k t
  /-- no choice is left open -/
  | settled {k : Nat} {t : Tree} (h : ∀ g ∈ reachedFrom picks k t, (g.picked? picks).isSome) :
      Completable b picks best k t
  | sum {k : Nat} {terms : List Tree} (hclear : Unclipped b best k 0 terms)
      (hterms : ∀ e ∈ terms.zip (starts k terms), Completable b picks best e.2 e.1) :
      Completable b picks best k (.sum terms)
  | branch {k place start : Nat} {options : List String} {branches : List Tree} {t : Tree}
      (hpicks : pickedBranch? picks k options = some place)
      (hbest : pickedBranch? best k options = some place)
      (hat : (branches.zip (starts (k + 1) branches))[place]? = some (t, start))
      (ht : Completable b picks best start t) :
      Completable b picks best k (.choice options branches)

/-- A tree with one choice at most is left to the best options or settled. -/
theorem completable_of_choiceCount_le_one {k : Nat} {t : Tree} (h : t.choiceCount ≤ 1) :
    Completable b picks best k t := by
  have hlength : (t.groupsFrom k).length ≤ 1 := by
    rw [← List.length_map ChoiceGroup.key, groupsFrom_keys, List.length_range']
    exact h
  have hone : ∀ g ∈ t.groupsFrom k, ∀ g' ∈ t.groupsFrom k, g = g' := by
    intro g hg g' hg'
    obtain ⟨i, hi, rfl⟩ := List.mem_iff_getElem.mp hg
    obtain ⟨j, hj, rfl⟩ := List.mem_iff_getElem.mp hg'
    have hij : i = j := by omega
    subst hij
    rfl
  -- The one choice is open, and then nothing leads away from the best options, or it is settled.
  by_cases hopen : ∃ g ∈ t.groupsFrom k, g.picked? picks = none
  · obtain ⟨g, hg, hnone⟩ := hopen
    refine .follows fun g' hg' => .inl ?_
    rw [hone g' (mem_groupsFrom_of_mem_reachedFrom hg') g hg, hnone]
  · refine .settled fun g hg => ?_
    rw [Option.isSome_iff_ne_none]
    exact fun hnone => hopen ⟨g, mem_groupsFrom_of_mem_reachedFrom hg, hnone⟩

/-- **Nothing that keeps the picks gives more than filling them** with the best options. -/
theorem Completable.value_le {k : Nat} {t : Tree} (h : Completable b picks best k t)
    (hoptimal : Optimal b best k t) {filled other : Picks}
    (hother : ∀ g ∈ t.groupsFrom k, (g.picked? picks).isSome → g.picked? other = g.picked? picks)
    (hfilled : ∀ g ∈ t.groupsFrom k, g.picked? filled =
      if (g.picked? picks).isSome then g.picked? picks else g.picked? best) :
    valueFrom b other k t ≤ valueFrom b filled k t := by
  induction h with
  | @follows k t h =>
    -- The filled picks go the way of the best options, and nothing beats those.
    have heq : valueFrom b best k t = valueFrom b filled k t := by
      refine valueFrom_congr fun g hg => ?_
      rw [ChoiceGroup.branch, ChoiceGroup.branch, hfilled g (mem_groupsFrom_of_mem_reachedFrom hg)]
      rcases h g hg with hopen | hsame
      · rw [hopen]
        rfl
      · rw [hsame, ite_self]
    rw [← heq]
    exact hoptimal other
  | @settled k t h =>
    -- Whatever keeps the picks goes their way, so all have one value.
    have hbranch : ∀ {picks' : Picks}, (∀ g ∈ t.groupsFrom k, (g.picked? picks).isSome →
        g.picked? picks' = g.picked? picks) → valueFrom b picks k t = valueFrom b picks' k t := by
      intro picks' hkeeps
      refine valueFrom_congr fun g hg => ?_
      rw [ChoiceGroup.branch, ChoiceGroup.branch,
        hkeeps g (mem_groupsFrom_of_mem_reachedFrom hg) (h g hg)]
    have hkept : ∀ g ∈ t.groupsFrom k, (g.picked? picks).isSome →
        g.picked? filled = g.picked? picks := by
      intro g hg hpicked
      rw [hfilled g hg, if_pos hpicked]
    rw [← hbranch hother, ← hbranch hkept]
  | @sum k terms hclear hterms ih =>
    have hgroups : ∀ e ∈ terms.zip (starts k terms), ∀ g ∈ e.1.groupsFrom e.2,
        g ∈ (Tree.sum terms).groupsFrom k := by
      intro e he g hg
      exact mem_groupsFromAll_iff.mpr ⟨e, he, hg⟩
    refine sumFrom_le (fun e he => ?_) (Int.le_refl 0)
    exact ih e he (hoptimal.of_sum hclear he) (fun g hg => hother g (hgroups e he g hg))
      fun g hg => hfilled g (hgroups e he g hg)
  | @branch k place start options branches t hpicks hbest hat ht ih =>
    have hself : (⟨k, options⟩ : ChoiceGroup) ∈ (Tree.choice options branches).groupsFrom k :=
      List.mem_cons_self
    have hgroups : ∀ g ∈ t.groupsFrom start, g ∈ (Tree.choice options branches).groupsFrom k := by
      intro g hg
      exact List.mem_cons_of_mem _
        (mem_groupsFromAll_iff.mpr ⟨(t, start), List.mem_of_getElem? hat, hg⟩)
    have hpicked : (ChoiceGroup.picked? ⟨k, options⟩ picks).isSome := by
      rw [ChoiceGroup.picked?, hpicks]
      rfl
    have hotherPick : pickedBranch? other k options = some place :=
      (hother _ hself hpicked).trans hpicks
    have hfilledPick : pickedBranch? filled k options = some place := by
      have heq := hfilled _ hself
      rw [if_pos hpicked] at heq
      exact heq.trans hpicks
    rw [valueFrom_choice hotherPick hat, valueFrom_choice hfilledPick hat]
    exact ih (hoptimal.of_branch hbest hat) (fun g hg => hother g (hgroups g hg))
      fun g hg => hfilled g (hgroups g hg)

/-- **Filling gives the best completion of the picks.** Every pick that takes a branch stays and the
other choices get the best options. If there are no more than 4096 combinations and the picks do not
interact with what is filled, no picks that keep the given ones give more. -/
theorem fill_spec (text : String) (b : Block) (picks : Picks) :
    let f := Formula.parse text
    let best := (f.best b).picks
    let filled := (f.fill b picks).2
    (∀ g ∈ f.groups, filled.get? g.key =
        if (g.picked? picks).isSome then picks.get? g.key else best.get? g.key) ∧
      (combinationCount f.groups ≤ 4096 → Completable b picks best 0 f.tree →
        IsGreatest (f.completionValues b picks) (f.value b filled)) := by
  dsimp only
  refine ⟨fun g hg => Formula.get?_fill text b picks hg, fun hcount hsplit => ⟨?_, ?_⟩⟩
  · exact ⟨_, Formula.keeps_fill text b picks, rfl⟩
  · rintro v ⟨other, hother, rfl⟩
    refine hsplit.value_le (fun picks' => ?_) hother
      fun g hg => Formula.picked?_fill text b picks hg
    exact (Formula.value_le_best b hcount picks').trans_eq (Formula.value_best text b).symm

/-- Two choices that are added up within a branch of a third one. -/
def nestedText : String :=
  "EDU x 2 + (((DES x 2 o FUE x 2) + (CON x 2 o POD x 2)) o SUERTE)"

/-- A block in which dexterity beats strength and power beats constitution. -/
def nestedBlock : Block :=
  (((Profile.uniform 50).set .des 80).set .fue 40).set .pod 60

/-- One of the inner choices is taken against the best options, the other one is open. -/
def nestedPicks : Picks :=
  SortedMap.ofList [(0, "((DESx2oFUEx2)+(CONx2oPODx2))"), (1, "FUE x 2")]

/-- A choice may be taken against the best options next to one that is filled. -/
theorem fill_spec_nested :
    let f := Formula.parse nestedText
    combinationCount f.groups ≤ 4096 ∧
      Completable nestedBlock nestedPicks (f.best nestedBlock).picks 0 f.tree ∧
      IsGreatest (f.completionValues nestedBlock nestedPicks) 300 := by
  dsimp only
  have hcount : combinationCount (Formula.parse nestedText).groups ≤ 4096 := by decide +kernel
  have htree : (Formula.parse nestedText).tree =
      .sum [.scaled .edu 2, .choice ["((DESx2oFUEx2)+(CONx2oPODx2))", "SUERTE"]
        [.sum [.choice ["DESx2", "FUEx2"] [.scaled .des 2, .scaled .fue 2],
          .choice ["CONx2", "PODx2"] [.scaled .con 2, .scaled .pod 2]], .single .suerte]] := by
    with_unfolding_all rfl
  have hbest : ((Formula.parse nestedText).best nestedBlock).picks = SortedMap.ofList
      [(0, "((DESx2oFUEx2)+(CONx2oPODx2))"), (1, "DESx2"), (2, "PODx2")] := by decide +kernel
  have hsplit : Completable nestedBlock nestedPicks
      ((Formula.parse nestedText).best nestedBlock).picks 0 (Formula.parse nestedText).tree := by
    rw [htree, hbest]
    refine .sum (by decide +kernel) (List.forall_mem_cons.mpr
      ⟨completable_of_choiceCount_le_one (by decide), List.forall_mem_singleton.mpr ?_⟩)
    have hpicks : pickedBranch? nestedPicks 0 ["((DESx2oFUEx2)+(CONx2oPODx2))", "SUERTE"] =
        some 0 := by decide +kernel
    refine .branch hpicks (by decide +kernel) rfl ?_
    refine .sum (by decide +kernel) (List.forall_mem_cons.mpr
      ⟨completable_of_choiceCount_le_one (by decide), List.forall_mem_singleton.mpr ?_⟩)
    exact completable_of_choiceCount_le_one (by decide)
  have hvalue : (Formula.parse nestedText).value nestedBlock
      ((Formula.parse nestedText).fill nestedBlock nestedPicks).2 = 300 := by decide +kernel
  refine ⟨hcount, hsplit, ?_⟩
  rw [← hvalue]
  exact (fill_spec nestedText nestedBlock nestedPicks).2 hcount hsplit

/-- **Filling need not give the best completion**: the filled choice can stand inside of one that is
taken against the best options, or around it, or in a sum that is clipped. -/
theorem not_isGreatest_fill :
    let b : Block := (((Profile.uniform 50).set .fue 90).set .con 10).set .edu 10
    (let f := Formula.parse "(CONx2+(EDUx2oAPAx2))o(FUEx4)"
      let picks := SortedMap.ofList [(0, "(CONx2+(EDUx2oAPAx2))")]
      combinationCount f.groups ≤ 4096 ∧
        ¬ IsGreatest (f.completionValues b picks) (f.value b (f.fill b picks).2)) ∧
      (let f := Formula.parse "((EDUx4)o(EDUx1))o(EDUx2)"
        let picks := SortedMap.ofList [(1, "(EDUx1)")]
        combinationCount f.groups ≤ 4096 ∧
          ¬ IsGreatest (f.completionValues b picks) (f.value b (f.fill b picks).2)) ∧
      (let f := Formula.parse "(2147483647o(1))+(1o(2))"
        let picks := SortedMap.ofList [(0, "(1)")]
        combinationCount f.groups ≤ 4096 ∧
          ¬ IsGreatest (f.completionValues b picks) (f.value b (f.fill b picks).2)) := by
  dsimp only
  refine ⟨⟨by decide +kernel, ?_⟩, ⟨by decide +kernel, ?_⟩, by decide +kernel, ?_⟩
  · exact Formula.not_isGreatest_of_lt
      (SortedMap.ofList [(0, "(CONx2+(EDUx2oAPAx2))"), (1, "APAx2")])
      (by decide +kernel) (by decide +kernel)
  · exact Formula.not_isGreatest_of_lt (SortedMap.ofList [(0, "(EDUx2)"), (1, "(EDUx1)")])
      (by decide +kernel) (by decide +kernel)
  · exact Formula.not_isGreatest_of_lt (SortedMap.ofList [(0, "(1)"), (1, "(2)")])
      (by decide +kernel) (by decide +kernel)

end Chargen.Points
