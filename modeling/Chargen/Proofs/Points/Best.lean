import Chargen.Proofs.Points.Choice
import Chargen.Proofs.Points.Odometer
import Chargen.Proofs.SortedMap
import Mathlib.Data.List.Nodup

/-!
# The best options are best

The search keeps the first combination of the highest value among those it has tried, and the
odometer lets it try all of them. Picks of any kind take some branch at each choice, and the options
of these branches are a combination that gives the same value. So no picks at all give more than the
best options.

* `Formula.exists_places`: any picks are as good as the options of some combination.
* `Formula.exists_firstBest`: what the search finds.
* `best_spec`: **the best options are the first ones of the highest value**, or the first options if
  there are too many combinations.
-/

namespace Chargen.Points

/-! ### Options as picks -/

theorem sameLetters_iff {s t : String} :
    sameLetters s t = true ↔ s.toList.map Char.toLower = t.toList.map Char.toLower := by
  simp [sameLetters]

namespace ChoiceGroup

variable {g : ChoiceGroup}

theorem branch_lt (hpos : 0 < g.options.length) (picks : Picks) :
    g.branch picks < g.options.length := by
  rw [branch]
  cases hpicked : g.picked? picks with
  | none => exact hpos
  | some place =>
    unfold picked? pickedBranch? at hpicked
    split at hpicked
    · cases hpicked
    · exact (List.findIdx?_eq_some_iff_getElem.mp hpicked).1

/-- No option before the branch that is taken has the same letters as its option. -/
theorem not_sameLetters_of_lt_branch {picks : Picks} {j : Nat} (hj : j < g.branch picks)
    (hlt : g.branch picks < g.options.length) :
    sameLetters g.options[j] g.options[g.branch picks] = false := by
  rw [Bool.eq_false_iff]
  intro hsame
  unfold branch at hj hlt hsame
  cases hpicked : g.picked? picks with
  | none =>
    rw [hpicked] at hj
    exact absurd hj (Nat.not_lt_zero j)
  | some place =>
    simp only [hpicked, Option.getD_some] at hj hlt hsame
    unfold picked? pickedBranch? at hpicked
    split at hpicked
    · cases hpicked
    · next stored _ =>
      obtain ⟨_, hfound, hfirst⟩ := List.findIdx?_eq_some_iff_getElem.mp hpicked
      refine hfirst j hj ?_
      rw [sameLetters_iff] at hsame hfound ⊢
      rw [hsame, hfound]

/-- **The option of a branch that some picks take leads to that branch.** -/
theorem picked?_of_branch {picks picks' : Picks} (hpos : 0 < g.options.length)
    (hsolid : ∀ option ∈ g.options, Text.stripped option = option)
    (hpick : picks'.get? g.key = g.options[g.branch picks]?) :
    g.picked? picks' = some (g.branch picks) := by
  have hlt := branch_lt hpos picks
  rw [List.getElem?_eq_getElem hlt] at hpick
  rw [picked?, pickedBranch?, hpick]
  dsimp only
  rw [hsolid _ (List.getElem_mem hlt), List.findIdx?_eq_some_iff_getElem]
  refine ⟨hlt, sameLetters_iff.mpr rfl, fun j hj => ?_⟩
  rw [not_sameLetters_of_lt_branch hj hlt]
  simp

end ChoiceGroup

/-! ### Combinations -/

/-- The number of options of each choice. -/
def radixes (groups : List ChoiceGroup) : List Nat :=
  groups.map fun g => g.options.length

theorem combinationCount_eq (groups : List ChoiceGroup) :
    combinationCount groups = (radixes groups).prod := by
  rw [combinationCount, radixes, List.prod_eq_foldl]

theorem picksAt_keys {groups : List ChoiceGroup} {places : List Nat}
    (hplaces : Within (radixes groups) places) :
    (List.zipWith (fun g place => (g.key, ChoiceGroup.options g |>.getD place "")) groups
      places).map Prod.fst = groups.map ChoiceGroup.key := by
  induction groups generalizing places with
  | nil => rfl
  | cons g groups ih =>
    cases hplaces with
    | @cons place _ places _ _ hrest =>
      rw [List.zipWith_cons_cons, List.map_cons, List.map_cons, ih hrest]

/-- A combination has for each choice one of its options. -/
theorem exists_get?_picksAt {groups : List ChoiceGroup} {places : List Nat}
    (hplaces : Within (radixes groups) places) (hkeys : (groups.map ChoiceGroup.key).Nodup)
    {g : ChoiceGroup} (hg : g ∈ groups) :
    ∃ option ∈ g.options, (picksAt groups places).get? g.key = some option := by
  have hentry : ∃ option ∈ g.options, (g.key, option) ∈
      List.zipWith (fun g place => (g.key, ChoiceGroup.options g |>.getD place "")) groups
        places := by
    clear hkeys
    induction groups generalizing places with
    | nil => cases hg
    | cons g' groups ih =>
      cases hplaces with
      | @cons place _ places _ hplace hrest =>
        rw [List.zipWith_cons_cons]
        rcases List.mem_cons.mp hg with rfl | hg
        · refine ⟨g.options.getD place "", ?_, List.mem_cons_self⟩
          rw [List.getD_eq_getElem?_getD, List.getElem?_eq_getElem hplace]
          exact List.getElem_mem hplace
        · obtain ⟨option, hoption, hmem⟩ := ih hrest hg
          exact ⟨option, hoption, List.mem_cons_of_mem _ hmem⟩
  obtain ⟨option, hoption, hmem⟩ := hentry
  refine ⟨option, hoption, SortedMap.get?_ofList_of_mem ?_ hmem⟩
  rw [picksAt_keys hplaces]
  exact hkeys

/-- The combination of given branches. -/
theorem get?_picksAt_map {groups : List ChoiceGroup} {place : ChoiceGroup → Nat}
    (hkeys : (groups.map ChoiceGroup.key).Nodup) {g : ChoiceGroup} (hg : g ∈ groups)
    (hlt : place g < g.options.length) :
    (picksAt groups (groups.map place)).get? g.key = g.options[place g]? := by
  rw [picksAt, List.zipWith_map_right, List.zipWith_self, List.getElem?_eq_getElem hlt]
  refine SortedMap.get?_ofList_of_mem ?_ (List.mem_map.mpr ⟨g, hg, ?_⟩)
  · rw [List.map_map]
    exact hkeys
  · rw [List.getD_eq_getElem?_getD, List.getElem?_eq_getElem hlt]
    rfl

namespace Formula

/-- The choices of a formula have the numbers from zero on. -/
theorem groups_keys (f : Formula) : f.groups.map ChoiceGroup.key = List.range f.choiceCount := by
  rw [groups, Tree.groupsFrom_keys, choiceCount, List.range_eq_range']

theorem nodup_keys (f : Formula) : (f.groups.map ChoiceGroup.key).Nodup := by
  rw [groups_keys]
  exact List.nodup_range

theorem options_pos (text : String) : ∀ g ∈ (parse text).groups, 0 < g.options.length := by
  intro g hg
  have hseveral := (options_of_mem_groups hg).1
  omega

theorem within_branches {groups : List ChoiceGroup} (h : ∀ g ∈ groups, 0 < g.options.length)
    (picks : Picks) : Within (radixes groups) (groups.map fun g => g.branch picks) := by
  induction groups with
  | nil => exact .nil
  | cons g groups ih =>
    exact .cons (ChoiceGroup.branch_lt (h g List.mem_cons_self) picks)
      (ih fun g' hg' => h g' (List.mem_cons_of_mem _ hg'))

/-- **Any picks are as good as the options of some combination.** -/
theorem exists_places (text : String) (b : Block) (picks : Picks) :
    ∃ places, Within (radixes (parse text).groups) places ∧
      (parse text).value b picks = ((parse text).tryAt b places).total := by
  refine ⟨_, within_branches (options_pos text) picks, ?_⟩
  refine Tree.valueFrom_congr fun g hg => ?_
  have hgroup : g ∈ (parse text).groups := Tree.mem_groupsFrom_of_mem_reachedFrom hg
  have hpos := options_pos text g hgroup
  have hpick : (picksAt (parse text).groups ((parse text).groups.map fun g => g.branch picks)).get?
      g.key = g.options[g.branch picks]? :=
    get?_picksAt_map (parse text).nodup_keys hgroup (ChoiceGroup.branch_lt hpos picks)
  have hpicked := ChoiceGroup.picked?_of_branch hpos (options_of_mem_groups hgroup).2 hpick
  rw [ChoiceGroup.branch.eq_def g (picksAt _ _), hpicked, Option.getD_some]

/-! ### The search -/

/-- A combination of the highest value among those of a rank below `n`, and of a higher value than
all before it. -/
structure FirstBest (f : Formula) (b : Block) (n : Nat) (places : List Nat) : Prop where
  within : Within (radixes f.groups) places
  highest : ∀ other, Within (radixes f.groups) other → rank (radixes f.groups) other < n →
    (f.tryAt b other).total ≤ (f.tryAt b places).total
  first : ∀ other, Within (radixes f.groups) other →
    rank (radixes f.groups) other < rank (radixes f.groups) places →
    (f.tryAt b other).total < (f.tryAt b places).total

variable {f : Formula} {b : Block}

theorem zeros_eq (groups : List ChoiceGroup) :
    (groups.map fun _ => 0) = (radixes groups).map fun _ => 0 := by
  rw [radixes, List.map_map]
  rfl

theorem rank_first (groups : List ChoiceGroup) :
    rank (radixes groups) (groups.map fun _ => 0) = 0 := by
  rw [zeros_eq, rank_zeros]

theorem firstBest_zeros (hpos : ∀ g ∈ f.groups, 0 < g.options.length) :
    FirstBest f b 1 (f.groups.map fun _ => 0) := by
  have hrank := rank_first f.groups
  have hwithin : Within (radixes f.groups) (f.groups.map fun _ => 0) := by
    rw [zeros_eq]
    exact within_zeros (by simpa [radixes] using hpos)
  refine ⟨hwithin, fun other hother hlt => ?_, fun other hother hlt => ?_⟩
  · have heq : other = f.groups.map fun _ => 0 := rank_injective hother hwithin (by omega)
    exact Int.le_of_eq (by rw [heq])
  · omega

/-- The next combination takes the place of the best one so far if its value is higher. -/
theorem FirstBest.step {n : Nat} {places next : List Nat} (h : FirstBest f b n places)
    (hnext : Within (radixes f.groups) next) (hrank : rank (radixes f.groups) next = n) :
    FirstBest f b (n + 1)
      (if (f.tryAt b places).total < (f.tryAt b next).total then next else places) := by
  have hcases : ∀ other, Within (radixes f.groups) other →
      rank (radixes f.groups) other < n + 1 →
      other = next ∨ (f.tryAt b other).total ≤ (f.tryAt b places).total := by
    intro other hother hlt
    by_cases hbefore : rank (radixes f.groups) other < n
    · exact .inr (h.highest other hother hbefore)
    · exact .inl (rank_injective hother hnext (by omega))
  split
  · next hhigher =>
    refine ⟨hnext, fun other hother hlt => ?_, fun other hother hlt => ?_⟩
    · rcases hcases other hother hlt with rfl | hle
      · omega
      · omega
    · have := h.highest other hother (by omega)
      omega
  · next hlower =>
    refine ⟨h.within, fun other hother hlt => ?_, h.first⟩
    rcases hcases other hother hlt with rfl | hle
    · omega
    · exact hle

/-- With fuel for all combinations left, the search ends with the best one of all. -/
theorem FirstBest.search {fuel : Nat} {current places : List Nat}
    (hcurrent : Within (radixes f.groups) current)
    (h : FirstBest f b (rank (radixes f.groups) current + 1) places)
    (hfuel : (radixes f.groups).prod ≤ rank (radixes f.groups) current + 1 + fuel) :
    ∃ places', FirstBest f b (radixes f.groups).prod places' ∧
      f.search b fuel current (f.tryAt b places) = f.tryAt b places' := by
  induction fuel generalizing current places with
  | zero =>
    refine ⟨places, ⟨h.within, fun other hother hlt => ?_, h.first⟩, rfl⟩
    exact h.highest other hother (by omega)
  | succ fuel ih =>
    rcases advance_cases hcurrent with ⟨next, hadvance, hnext, hrank⟩ | ⟨hadvance, hlast⟩
    · -- All combinations of a rank up to that of the next one are tried now.
      have hstep := h.step hnext hrank
      rw [← hrank] at hstep
      obtain ⟨places', hbest, hsearch⟩ := ih hnext hstep (by omega)
      refine ⟨places', hbest, ?_⟩
      rw [← hsearch, Formula.search]
      rw [radixes] at hadvance
      rw [hadvance]
      dsimp only
      congr 1
      split <;> rfl
    · refine ⟨places, hlast ▸ h, ?_⟩
      rw [Formula.search]
      rw [radixes] at hadvance
      rw [hadvance]

/-- **What the search finds.** -/
theorem exists_firstBest (hpos : ∀ g ∈ f.groups, 0 < g.options.length)
    (hcount : combinationCount f.groups ≤ maxCombinations) :
    ∃ places, FirstBest f b (radixes f.groups).prod places ∧ f.best b = f.tryAt b places := by
  have hzeros := firstBest_zeros (b := b) hpos
  have hrank := rank_first f.groups
  rw [best, if_pos hcount]
  refine FirstBest.search hzeros.within (by rw [hrank]; exact hzeros) ?_
  rw [combinationCount_eq, hrank]
  omega

variable (text : String) (b : Block)

/-- The best options are those of a combination, tried or not. -/
theorem exists_best_eq :
    ∃ places, Within (radixes (parse text).groups) places ∧
      (parse text).best b = (parse text).tryAt b places := by
  by_cases hcount : combinationCount (parse text).groups ≤ maxCombinations
  · obtain ⟨places, hbest, heq⟩ := exists_firstBest (b := b) (options_pos text) hcount
    exact ⟨places, hbest.within, heq⟩
  · refine ⟨_, (firstBest_zeros (b := b) (options_pos text)).within, ?_⟩
    rw [best, if_neg hcount]

theorem value_best :
    (parse text).value b ((parse text).best b).picks = ((parse text).best b).total := by
  obtain ⟨places, -, heq⟩ := exists_best_eq text b
  rw [heq]
  rfl

/-- The best options have one for each choice. -/
theorem exists_option_of_best {g : ChoiceGroup} (hg : g ∈ (parse text).groups) :
    ∃ option ∈ g.options, ((parse text).best b).picks.get? g.key = some option := by
  obtain ⟨places, hplaces, heq⟩ := exists_best_eq text b
  rw [heq]
  exact exists_get?_picksAt hplaces (parse text).nodup_keys hg

theorem get?_best_of_le {key : Nat} (hkey : (parse text).choiceCount ≤ key) :
    ((parse text).best b).picks.get? key = none := by
  obtain ⟨places, hplaces, heq⟩ := exists_best_eq text b
  rw [heq]
  refine SortedMap.get?_ofList_of_notMem ?_
  rw [picksAt_keys hplaces, groups_keys, List.mem_range]
  omega

variable {text}

/-- **No picks at all give more than the best options**, if all combinations are tried. -/
theorem value_le_best (hcount : combinationCount (parse text).groups ≤ maxCombinations)
    (picks : Picks) : (parse text).value b picks ≤ ((parse text).best b).total := by
  obtain ⟨places, hbest, heq⟩ := exists_firstBest (b := b) (options_pos text) hcount
  obtain ⟨other, hother, hvalue⟩ := exists_places text b picks
  rw [heq, hvalue]
  exact hbest.highest other hother (rank_lt hother)

end Formula

/-- **The best options are the first ones of the highest value.** There is one for each choice and
they give their total. If there are no more than 4096 combinations, no picks whatsoever give more,
and of all combinations with this total theirs is the first in lexicographic order. If there are
more, they are the first options. -/
theorem best_spec (text : String) (b : Block) :
    let f := Formula.parse text
    let best := f.best b
    (∀ key < f.choiceCount, ∃ g ∈ f.groups, g.key = key ∧
        ∃ option ∈ g.options, best.picks.get? key = some option) ∧
      (∀ key, f.choiceCount ≤ key → best.picks.get? key = none) ∧
      f.value b best.picks = best.total ∧
      (combinationCount f.groups ≤ 4096 →
        (∀ picks, f.value b picks ≤ best.total) ∧
          ∃ places, Within (radixes f.groups) places ∧ best.picks = picksAt f.groups places ∧
            ∀ other, Within (radixes f.groups) other →
              f.value b (picksAt f.groups other) = best.total →
              places = other ∨ List.Lex (· < ·) places other) ∧
      (4096 < combinationCount f.groups →
        ∀ g ∈ f.groups, best.picks.get? g.key = g.options[0]?) := by
  dsimp only
  refine ⟨fun key hkey => ?_, fun key hkey => Formula.get?_best_of_le text b hkey,
    Formula.value_best text b, fun hcount => ⟨Formula.value_le_best b hcount, ?_⟩,
    fun hcount g hg => ?_⟩
  · have hmem : key ∈ (Formula.parse text).groups.map ChoiceGroup.key := by
      rw [Formula.groups_keys]
      exact List.mem_range.mpr hkey
    obtain ⟨g, hg, rfl⟩ := List.mem_map.mp hmem
    exact ⟨g, hg, rfl, Formula.exists_option_of_best text b hg⟩
  · obtain ⟨places, hbest, heq⟩ :=
      Formula.exists_firstBest (b := b) (Formula.options_pos text) hcount
    refine ⟨places, hbest.within, by rw [heq]; rfl, fun other hother htotal => ?_⟩
    -- A combination of this total is not before the one that was found.
    have hnot : ¬ rank (radixes (Formula.parse text).groups) other <
        rank (radixes (Formula.parse text).groups) places := by
      intro hlt
      have hless := hbest.first other hother hlt
      rw [← heq, ← htotal] at hless
      exact absurd hless (Int.lt_irrefl _)
    rcases Nat.lt_or_ge (rank (radixes (Formula.parse text).groups) places)
      (rank (radixes (Formula.parse text).groups) other) with hlt | hge
    · exact .inr (lt_of_rank_lt hbest.within hother hlt)
    · exact .inl (rank_injective hbest.within hother (by omega))
  · have hmany : ¬ combinationCount (Formula.parse text).groups ≤ maxCombinations :=
      Nat.not_le.mpr hcount
    rw [Formula.best, if_neg hmany]
    exact get?_picksAt_map (Formula.parse text).nodup_keys hg (Formula.options_pos text g hg)

/-- Nested choices with a tie: no picks give more than the first options that are best. -/
theorem best_spec_tie : let f := Formula.parse "(EDU x 2 o DES x 2) o (FUE x 3 o (CON x 2 + 50))"
    let b := Profile.uniform 50
    combinationCount f.groups ≤ 4096 ∧
      (f.best b).picks =
        SortedMap.ofList [(0, "(FUEx3o(CONx2+50))"), (1, "EDUx2"), (2, "FUEx3")] ∧
      ∀ picks, f.value b picks ≤ 150 := by
  have hcount : combinationCount (Formula.parse
      "(EDU x 2 o DES x 2) o (FUE x 3 o (CON x 2 + 50))").groups ≤ 4096 := by decide +kernel
  have htotal : ((Formula.parse "(EDU x 2 o DES x 2) o (FUE x 3 o (CON x 2 + 50))").best
      (Profile.uniform 50)).total = 150 := by decide +kernel
  obtain ⟨-, -, -, hfew, -⟩ :=
    best_spec "(EDU x 2 o DES x 2) o (FUE x 3 o (CON x 2 + 50))" (Profile.uniform 50)
  refine ⟨hcount, by decide +kernel, fun picks => ?_⟩
  exact htotal ▸ (hfew hcount).1 picks

end Chargen.Points
