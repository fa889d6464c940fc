import Chargen.Proofs.Points.Fill

/-!
# Filling leaves nothing open

The best options are options of their choices, so each of them is found again when the picks are
looked up. Filling writes them for the open choices and for nothing else. So it leaves no choice
open, changes no other entry, and has nothing left to do the next time.

* `Formula.openGroups_fill`: **no choice is open after filling**.
* `Formula.get?_fill_of_forall_ne`, `Formula.mem_keys_fill`: **what is not filled stays**.
* `Formula.fill_fill`: filling again does nothing.
* `Formula.value_fill`: where all choices were open, the best total is reached.
-/

namespace Chargen.Points.Formula

variable (text : String) (b : Block) (picks : Picks)

/-- The best options pick a branch at every choice. -/
theorem isSome_picked?_best {g : ChoiceGroup} (hg : g ∈ (parse text).groups) :
    (g.picked? ((parse text).best b).picks).isSome := by
  obtain ⟨option, hoption, hget⟩ := exists_option_of_best text b hg
  have hsolid : Text.stripped option = option := (options_of_mem_groups hg).2 option hoption
  rw [ChoiceGroup.picked?, pickedBranch?, hget]
  dsimp only
  -- The option that is looked up is one of those that are searched.
  rw [List.findIdx?_isSome, List.any_eq_true, hsolid]
  exact ⟨option, hoption, sameLetters_iff.mpr rfl⟩

/-- Filling counts the open choices. -/
theorem count_fill : ((parse text).fill b picks).1 = ((parse text).openGroups picks).length := by
  have hall : ∀ g ∈ (parse text).openGroups picks,
      ((((parse text).best b).picks.get? g.key).map (g.key, ·)).isSome := by
    intro g hg
    obtain ⟨option, -, hget⟩ := exists_option_of_best text b (mem_openGroups_iff.mp hg).1
    rw [hget]
    rfl
  exact List.filterMap_length_eq_length.mpr hall

/-- **No choice is open after filling.** -/
theorem openGroups_fill :
    (parse text).openGroups ((parse text).fill b picks).2 = [] := by
  refine List.eq_nil_iff_forall_not_mem.mpr fun g hg => ?_
  obtain ⟨hgroup, hopen⟩ := mem_openGroups_iff.mp hg
  have hpicked := picked?_fill text b picks hgroup
  rw [hopen] at hpicked
  split at hpicked
  · next hsome =>
    rw [← hpicked] at hsome
    cases hsome
  · have hbest := isSome_picked?_best text b hgroup
    rw [← hpicked] at hbest
    cases hbest

variable {text b picks}

/-- **An entry that is not that of an open choice stays as it is.** -/
theorem get?_fill_of_forall_ne {key : Nat}
    (hkey : ∀ g ∈ (parse text).openGroups picks, g.key ≠ key) :
    ((parse text).fill b picks).2.get? key = picks.get? key := by
  refine SortedMap.get?_insertAll_of_notMem (fun hmem => ?_) picks
  obtain ⟨e, he, rfl⟩ := List.mem_map.mp hmem
  obtain ⟨g, hgroup, hopen, heq, -⟩ := mem_filled_iff.mp he
  exact hkey g (mem_openGroups_iff.mpr ⟨hgroup, hopen⟩) heq

/-- The entry of a choice for which an option is picked stays as it is. -/
theorem get?_fill_of_picked {g : ChoiceGroup} (hg : g ∈ (parse text).groups)
    (hpicked : g ∉ (parse text).openGroups picks) :
    ((parse text).fill b picks).2.get? g.key = picks.get? g.key := by
  refine get?_fill_of_forall_ne fun g' hg' heq => hpicked ?_
  rwa [← eq_of_key_eq (mem_openGroups_iff.mp hg').1 hg heq]

/-- An entry whose number is beyond those of the choices stays as it is. -/
theorem get?_fill_of_le {key : Nat} (hkey : (parse text).choiceCount ≤ key) :
    ((parse text).fill b picks).2.get? key = picks.get? key := by
  refine get?_fill_of_forall_ne fun g hg heq => ?_
  have hlt := (Tree.key_of_mem_groupsFrom (mem_openGroups_iff.mp hg).1).2
  have hcount : (parse text).tree.choiceCount ≤ key := hkey
  omega

/-- **Entries are added for the open choices only.** -/
theorem mem_keys_fill {key : Nat} : key ∈ ((parse text).fill b picks).2.keys ↔
    key ∈ picks.keys ∨ ∃ g ∈ (parse text).openGroups picks, g.key = key := by
  rw [SortedMap.mem_keys, SortedMap.mem_keys]
  by_cases hopen : ∃ g ∈ (parse text).openGroups picks, g.key = key
  · obtain ⟨g, hg, rfl⟩ := hopen
    obtain ⟨hgroup, hnone⟩ := mem_openGroups_iff.mp hg
    obtain ⟨option, -, hbest⟩ := exists_option_of_best text b hgroup
    rw [get?_fill text b picks hgroup, hnone, if_neg (by simp), hbest]
    exact iff_of_true rfl (.inr ⟨g, hg, rfl⟩)
  · have hstays := get?_fill_of_forall_ne (b := b) fun g hg heq => hopen ⟨g, hg, heq⟩
    rw [hstays, or_iff_left hopen]

/-- Where no choice is open there is nothing to fill. -/
theorem fill_of_openGroups_eq_nil {f : Formula} (h : f.openGroups picks = []) :
    f.fill b picks = (0, picks) := by
  unfold fill
  rw [h]
  rfl

/-- **Filling again does nothing**, whatever the block is then. -/
theorem fill_fill (b' : Block) :
    (parse text).fill b' ((parse text).fill b picks).2 = (0, ((parse text).fill b picks).2) :=
  fill_of_openGroups_eq_nil (openGroups_fill text b picks)

/-- Where all choices were open, the best total is reached. -/
theorem value_fill (hopen : (parse text).openGroups picks = (parse text).groups) :
    (parse text).value b ((parse text).fill b picks).2 = ((parse text).best b).total := by
  rw [← value_best text b]
  refine Tree.valueFrom_congr fun g hg => ?_
  have hgroup : g ∈ (parse text).groups := Tree.mem_groupsFrom_of_mem_reachedFrom hg
  have hnone : g.picked? picks = none := (mem_openGroups_iff.mp (hopen ▸ hgroup)).2
  rw [ChoiceGroup.branch, ChoiceGroup.branch, picked?_fill text b picks hgroup, hnone,
    if_neg (by simp)]

end Chargen.Points.Formula
