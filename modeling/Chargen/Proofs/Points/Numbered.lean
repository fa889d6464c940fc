import Chargen.Points.Numbered
import Chargen.Proofs.Points.Best
import Mathlib.Algebra.GroupWithZero.Nat

/-!
# The numbers of the choices

The reader with a counter gives each choice the number that it has in pre-order, whatever the text
looks like: reading a part moves the counter on by the number of its choices, so the next part starts
where the tree says that it does. The same part read by itself starts at zero, and has all its
numbers lower by as much.

* `run_readNumbered`: **the counter of the reader** against the tree that is read without it.
* `groups_numberedFrom`, `openGroups_numberedFrom`, `value_numberedFrom`: walks that look at the
  numbers in the tree do what walks that count themselves do.
* `Tree.shift_numberedFrom`: a tree numbered from a later number on is the shifted one.
* `standsIn_of_occurs`: a choice stands where a part of the text was split into options.
* `choices_numbered`: **the choices of a text are numbered and labelled consistently**.
-/

namespace Chargen.Points

open Chargen.Points.Tree

/-! ### Numbers written into a tree -/

namespace Tree

theorem choiceCountAll_eq_sum (ts : List Tree) : choiceCountAll ts = (ts.map choiceCount).sum := by
  induction ts with
  | nil => rfl
  | cons t ts ih => rw [choiceCountAll, ih, List.map_cons, List.sum_cons]

/-- The tree at a place in a list is numbered from behind the trees before it on. -/
theorem getElem?_numberedFromAll (k i : Nat) (ts : List Tree) :
    (numberedFromAll k ts)[i]? = ts[i]?.map (numberedFrom (k + choiceCountAll (ts.take i))) := by
  induction ts generalizing k i with
  | nil => simp [numberedFromAll]
  | cons t ts ih =>
    cases i with
    | zero => simp [numberedFromAll, choiceCountAll]
    | succ i =>
      rw [numberedFromAll, List.getElem?_cons_succ, List.getElem?_cons_succ, ih, List.take_succ_cons,
        choiceCountAll, Nat.add_assoc]

theorem length_numberedFromAll (k : Nat) (ts : List Tree) :
    (numberedFromAll k ts).length = ts.length := by
  induction ts generalizing k with
  | nil => rfl
  | cons t ts ih => rw [numberedFromAll, List.length_cons, ih, List.length_cons]

theorem exists_of_mem_numberedFromAll {k : Nat} {ts : List Tree} {s : Numbered}
    (hs : s ∈ numberedFromAll k ts) : ∃ t ∈ ts, ∃ start, s = t.numberedFrom start := by
  obtain ⟨i, hi⟩ := List.mem_iff_getElem?.mp hs
  rw [getElem?_numberedFromAll] at hi
  obtain ⟨t, ht, rfl⟩ := Option.map_eq_some_iff.mp hi
  exact ⟨t, List.mem_of_getElem? ht, _, rfl⟩

mutual

/-- **A tree numbered from a later number on is the shifted one.** -/
theorem shift_numberedFrom (d k : Nat) (t : Tree) :
    (t.numberedFrom k).shift d = t.numberedFrom (d + k) := by
  cases t with
  | sum terms =>
    rw [numberedFrom, numberedFrom, Numbered.shift, shiftAll_numberedFromAll d k terms]
  | choice options branches =>
    rw [numberedFrom, numberedFrom, Numbered.shift, shiftAll_numberedFromAll d (k + 1) branches,
      Nat.add_assoc]
  | scaled c factor => rfl
  | single c => rfl
  | constant n => rfl
  | unknown token => rfl

theorem shiftAll_numberedFromAll (d k : Nat) (ts : List Tree) :
    Numbered.shiftAll d (numberedFromAll k ts) = numberedFromAll (d + k) ts := by
  cases ts with
  | nil => rfl
  | cons t ts =>
    rw [numberedFromAll, numberedFromAll, Numbered.shiftAll, shift_numberedFrom d k t,
      shiftAll_numberedFromAll d (k + t.choiceCount) ts, Nat.add_assoc]

end

end Tree

/-! ### The walks -/

namespace Numbered

mutual

theorem groups_numberedFrom (k : Nat) (t : Tree) : (t.numberedFrom k).groups = t.groupsFrom k := by
  cases t with
  | sum terms => exact groupsOfAll_numberedFromAll k terms
  | choice options branches =>
    rw [numberedFrom, groups, groupsFrom, groupsOfAll_numberedFromAll (k + 1) branches]
  | scaled c factor => rfl
  | single c => rfl
  | constant n => rfl
  | unknown token => rfl

theorem groupsOfAll_numberedFromAll (k : Nat) (ts : List Tree) :
    groupsOfAll (numberedFromAll k ts) = groupsFromAll k ts := by
  cases ts with
  | nil => rfl
  | cons t ts =>
    rw [numberedFromAll, groupsOfAll, groupsFromAll, groups_numberedFrom k t,
      groupsOfAll_numberedFromAll (k + t.choiceCount) ts]

end

mutual

/-- The walk for the open choices meets those of all choices that are open. -/
theorem openGroups_eq_filter (picks : Picks) (t : Numbered) :
    t.openGroups picks = t.groups.filter fun g => (pickedBranch? picks g.key g.options).isNone := by
  cases t with
  | sum terms => exact openGroupsOfAll_eq_filter picks terms
  | choice group branches =>
    rw [openGroups, groups, List.filter_cons, openGroupsOfAll_eq_filter picks branches]
  | scaled c factor => rfl
  | single c => rfl
  | constant n => rfl
  | unknown token => rfl

theorem openGroupsOfAll_eq_filter (picks : Picks) (ts : List Numbered) :
    openGroupsOfAll picks ts =
      (groupsOfAll ts).filter fun g => (pickedBranch? picks g.key g.options).isNone := by
  cases ts with
  | nil => rfl
  | cons t ts =>
    rw [openGroupsOfAll, groupsOfAll, List.filter_append, openGroups_eq_filter picks t,
      openGroupsOfAll_eq_filter picks ts]

end

variable (b : Block) (picks : Picks)

mutual

theorem value_numberedFrom (k : Nat) (t : Tree) :
    (t.numberedFrom k).value b picks = t.valueFrom b picks k := by
  cases t with
  | sum terms => exact sumValue_numberedFromAll k 0 terms
  | choice options branches => exact branchValue_numberedFromAll (k + 1) _ branches
  | scaled c factor => rfl
  | single c => rfl
  | constant n => rfl
  | unknown token => rfl

theorem sumValue_numberedFromAll (k : Nat) (sum : Int) (ts : List Tree) :
    sumValue b picks sum (numberedFromAll k ts) = sumFrom b picks k sum ts := by
  cases ts with
  | nil => rfl
  | cons t ts =>
    rw [numberedFromAll, sumValue, sumFrom, value_numberedFrom k t,
      sumValue_numberedFromAll (k + t.choiceCount) _ ts]

theorem branchValue_numberedFromAll (k place : Nat) (ts : List Tree) :
    branchValue b picks place (numberedFromAll k ts) = branchFrom b picks k place ts := by
  cases ts with
  | nil => rfl
  | cons t ts =>
    cases place with
    | zero => exact value_numberedFrom k t
    | succ place => exact branchValue_numberedFromAll (k + t.choiceCount) place ts

end

end Numbered

/-! ### The counter -/

/-- Parts that are read one after the other are numbered so, and the counter moves on by the choices
of all of them. -/
theorem run_mapM {α : Type} {f : α → StateM Nat Numbered} {tree : α → Tree} (parts : List α)
    (hread : ∀ part ∈ parts, ∀ k,
      (f part).run k = ((tree part).numberedFrom k, k + (tree part).choiceCount)) (k : Nat) :
    (parts.mapM f).run k =
      (numberedFromAll k (parts.map tree), k + choiceCountAll (parts.map tree)) := by
  induction parts generalizing k with
  | nil => rfl
  | cons part rest ih =>
    rw [List.forall_mem_cons] at hread
    have hstep : ((part :: rest).mapM f).run k =
        (((f part).run k).1 :: ((rest.mapM f).run ((f part).run k).2).1,
          ((rest.mapM f).run ((f part).run k).2).2) := by
      rw [List.mapM_cons]
      rfl
    rw [hstep, hread.1, ih hread.2, List.map_cons, numberedFromAll, choiceCountAll, Nat.add_assoc]

theorem choiceCount_readAtom (cs : List Char) : (readAtom cs).choiceCount = 0 := by
  rcases readAtom_cases cs with ⟨c, n, -, h⟩ | ⟨c, h⟩ | ⟨n, -, h⟩ | ⟨token, h⟩ <;> rw [h] <;> rfl

/-- **The counter of the reader.** Started at any number, it gives the tree that is read without it,
numbered from there on, and moves on by the number of its choices. -/
theorem run_readNumbered (token : List Char) (k : Nat) :
    (readNumbered token).run k = ((read token).numberedFrom k, k + (read token).choiceCount) := by
  fun_induction read token generalizing k with
  | case1 token hseveral ih =>
    have hparts := run_mapM (split isPlus (stripOuter token)).attach
      (fun part _ => ih part) k
    rw [readNumbered, dif_pos hseveral]
    exact congrArg (fun result => (Numbered.sum result.1, result.2)) hparts
  | case2 token hone hseveral ih =>
    -- The choice takes the number `k` itself, so its branches are counted from the next one on.
    have hparts := run_mapM (split isOr (stripOuter token)).attach
      (fun part _ => ih part) (k + 1)
    rw [readNumbered, dif_neg hone, dif_pos hseveral, choiceCount,
      Nat.add_comm (choiceCountAll _) 1, ← Nat.add_assoc]
    exact congrArg (fun result => (Numbered.choice
      ⟨k, (split isOr (stripOuter token)).map String.ofList⟩ result.1, result.2)) hparts
  | case3 token hone hone' =>
    rw [readNumbered, dif_neg hone, dif_neg hone', choiceCount_readAtom]
    rfl

namespace NumberedFormula

/-- The formula that is read with a counter is the one that is read without it, numbered from zero
on. -/
theorem parse_eq (text : String) : parse text =
    ⟨(Formula.parse text).source, (Formula.parse text).tree.numberedFrom 0,
      (Formula.parse text).choiceCount⟩ := by
  unfold parse
  rw [run_readNumbered, Nat.zero_add]
  rfl

/-- Choices that are in order already stay as they are. -/
theorem byNumber_eq_self {groups : List ChoiceGroup}
    (h : (groups.map ChoiceGroup.key).Pairwise (· < ·)) : byNumber groups = groups := by
  refine List.mergeSort_of_pairwise ((List.pairwise_map.mp h).imp fun hlt => ?_)
  exact decide_eq_true (Nat.le_of_lt hlt)

theorem pairwise_keys (f : Formula) : (f.groups.map ChoiceGroup.key).Pairwise (· < ·) := by
  rw [Formula.groups_keys]
  exact List.pairwise_lt_range

/-- The choices met in pre-order and sorted by number are those that are numbered in pre-order. -/
theorem groups_parse (text : String) : (parse text).groups = (Formula.parse text).groups := by
  have hwalk : (parse text).tree.groups = (Formula.parse text).groups := by
    rw [parse_eq]
    exact Numbered.groups_numberedFrom 0 _
  rw [groups, hwalk, byNumber_eq_self (pairwise_keys _)]

theorem openGroups_parse (text : String) (picks : Picks) :
    (parse text).openGroups picks = (Formula.parse text).openGroups picks := by
  have hwalk : (parse text).tree.openGroups picks = (Formula.parse text).openGroups picks := by
    rw [parse_eq, Numbered.openGroups_eq_filter, Numbered.groups_numberedFrom]
    rfl
  have hsorted : (((Formula.parse text).openGroups picks).map ChoiceGroup.key).Pairwise (· < ·) := by
    have hall := List.pairwise_map.mp (pairwise_keys (Formula.parse text))
    exact List.pairwise_map.mpr (hall.filter _)
  rw [openGroups, hwalk, byNumber_eq_self hsorted]

theorem value_parse (text : String) (b : Block) (picks : Picks) :
    (parse text).value b picks = (Formula.parse text).value b picks := by
  rw [value, parse_eq]
  exact Numbered.value_numberedFrom b picks 0 _

end NumberedFormula

/-! ### The choices of a text -/

/-- A tree that occurs in another one, or is that tree. -/
inductive Numbered.Occurs (s : Numbered) : Numbered → Prop where
  | self : Occurs s s
  | term {terms : List Numbered} {t : Numbered} (ht : t ∈ terms) (hs : Occurs s t) :
      Occurs s (.sum terms)
  | branch {group : ChoiceGroup} {branches : List Numbered} {t : Numbered} (ht : t ∈ branches)
      (hs : Occurs s t) : Occurs s (.choice group branches)

mutual

/-- Every choice that is met on a walk occurs in the tree. -/
theorem exists_occurs_of_mem_groups {g : ChoiceGroup} {t : Numbered} (hg : g ∈ t.groups) :
    ∃ branches, (Numbered.choice g branches).Occurs t := by
  cases t with
  | sum terms =>
    obtain ⟨t, ht, branches, hoccurs⟩ := exists_occurs_of_mem_groupsOfAll hg
    exact ⟨branches, .term ht hoccurs⟩
  | choice group branches =>
    rcases List.mem_cons.mp hg with rfl | hg
    · exact ⟨branches, .self⟩
    · obtain ⟨t, ht, inner, hoccurs⟩ := exists_occurs_of_mem_groupsOfAll hg
      exact ⟨inner, .branch ht hoccurs⟩
  | scaled c factor => cases hg
  | single c => cases hg
  | constant n => cases hg
  | unknown token => cases hg

theorem exists_occurs_of_mem_groupsOfAll {g : ChoiceGroup} {ts : List Numbered}
    (hg : g ∈ Numbered.groupsOfAll ts) :
    ∃ t ∈ ts, ∃ branches, (Numbered.choice g branches).Occurs t := by
  cases ts with
  | nil => cases hg
  | cons t ts =>
    rw [Numbered.groupsOfAll, List.mem_append] at hg
    rcases hg with hg | hg
    · exact ⟨t, List.mem_cons_self, exists_occurs_of_mem_groups hg⟩
    · obtain ⟨t', ht', hoccurs⟩ := exists_occurs_of_mem_groupsOfAll hg
      exact ⟨t', List.mem_cons_of_mem _ ht', hoccurs⟩

end

/-- A choice stands where a part of a text was split into options: it has these as options, and the
trees that are read from them, numbered from behind its own number on, as branches. -/
def StandsIn (token : List Char) (group : ChoiceGroup) (branches : List Numbered) : Prop :=
  ∃ parts : List (List Char), 1 < parts.length ∧ (∀ part ∈ parts, part.Sublist token) ∧
    group.options = parts.map String.ofList ∧
    branches = numberedFromAll (group.key + 1) (parts.map read)

section Occurs

variable {group : ChoiceGroup} {branches : List Numbered}

theorem StandsIn.mono {part token : List Char} (h : StandsIn part group branches)
    (hpart : part.Sublist token) : StandsIn token group branches := by
  obtain ⟨parts, hlength, hparts, hread⟩ := h
  exact ⟨parts, hlength, fun p hp => (hparts p hp).trans hpart, hread⟩

theorem not_occurs_readAtom {cs : List Char} {k : Nat} :
    ¬ (Numbered.choice group branches).Occurs ((readAtom cs).numberedFrom k) := by
  rcases readAtom_cases cs with ⟨c, n, -, h⟩ | ⟨c, h⟩ | ⟨n, -, h⟩ | ⟨token, h⟩ <;> rw [h] <;>
    intro hoccurs <;> cases hoccurs

/-- A choice within one of the trees that are read from parts of a text stands in that text. -/
theorem standsIn_of_parts {parts : List (List Char)} {token : List Char} {k : Nat} {t : Numbered}
    (hparts : ∀ part ∈ parts, part.Sublist token)
    (ih : ∀ part : { p // p ∈ parts }, ∀ {k : Nat},
      (Numbered.choice group branches).Occurs ((read part.1).numberedFrom k) →
      StandsIn part.1 group branches)
    (ht : t ∈ numberedFromAll k (parts.attach.map fun part => read part.1))
    (hoccurs : (Numbered.choice group branches).Occurs t) : StandsIn token group branches := by
  obtain ⟨tree, htree, start, rfl⟩ := exists_of_mem_numberedFromAll ht
  obtain ⟨part, -, rfl⟩ := List.mem_map.mp htree
  exact (ih part hoccurs).mono (hparts part.1 part.2)

/-- **A choice that is read stands where a part of the text was split into options.** -/
theorem standsIn_of_occurs {token : List Char} {k : Nat}
    (h : (Numbered.choice group branches).Occurs ((read token).numberedFrom k)) :
    StandsIn token group branches := by
  have hsublist : ∀ {sep : Option Char → Char → Option Char → Bool} {w part : List Char},
      part ∈ split sep (stripOuter w) → part.Sublist w :=
    fun hpart => (sublist_of_mem_splitFrom hpart).trans (sublist_stripOuter _)
  fun_induction read token generalizing k with
  | case1 token hseveral ih =>
    cases h with
    | term ht hs => exact standsIn_of_parts (fun _ => hsublist) ih ht hs
  | case2 token hone hseveral ih =>
    cases h with
    | self =>
      refine ⟨_, hseveral, fun _ => hsublist, rfl, ?_⟩
      rw [List.attach_map_val]
    | branch ht hs => exact standsIn_of_parts (fun _ => hsublist) ih ht hs
  | case3 token hone hone' => exact absurd h not_occurs_readAtom

end Occurs

/-- A text without blanks, read by itself. -/
theorem parse_ofList {part : List Char} (hsolid : Text.strip part = part) :
    NumberedFormula.parse (String.ofList part) =
      ⟨String.ofList part, (read part).numberedFrom 0, (read part).choiceCount⟩ := by
  rw [NumberedFormula.parse_eq, Formula.parse, Formula.choiceCount, Text.stripped,
    String.toList_ofList, hsolid]

/-- **The choices of a text are numbered and labelled consistently**, however malformed it is. In
pre-order they have the numbers from zero on, and sorted by number they are the choices of the
formula. Each has two or more options without blanks and one branch for each of them. The branch of
an option is what the option is read as by itself, with all numbers higher by one constant: the
choices before it, up to the choice itself, and those of the options before it. -/
theorem choices_numbered (text : String) :
    let f := NumberedFormula.parse text
    f.tree.groups.map ChoiceGroup.key = List.range f.choiceCount ∧
      f.groups.map ChoiceGroup.key = List.range f.choiceCount ∧
      f.groups = (Formula.parse text).groups ∧
      ∀ group branches, (Numbered.choice group branches).Occurs f.tree →
        2 ≤ group.options.length ∧ branches.length = group.options.length ∧
        (∀ option ∈ group.options, ∀ c ∈ option.toList, Text.isBlank c = false) ∧
        ∀ i option, group.options[i]? = some option →
          branches[i]? = some ((NumberedFormula.parse option).tree.shift (group.key + 1 +
            ((group.options.take i).map fun o => (NumberedFormula.parse o).choiceCount).sum)) := by
  intro f
  have hgroups : f.groups = (Formula.parse text).groups := NumberedFormula.groups_parse text
  have hcount : f.choiceCount = (Formula.parse text).choiceCount := by
    rw [show f = _ from NumberedFormula.parse_eq text]
  have htree : f.tree = (read (Text.strip text.toList)).numberedFrom 0 := by
    rw [show f = _ from NumberedFormula.parse_eq text]
    rfl
  refine ⟨?_, ?_, hgroups, fun group branches hoccurs => ?_⟩
  · rw [htree, Numbered.groups_numberedFrom, hcount]
    exact (Formula.parse text).groups_keys
  · rw [hgroups, hcount]
    exact (Formula.parse text).groups_keys
  · rw [htree] at hoccurs
    obtain ⟨parts, hlength, hparts, hoptions, rfl⟩ := standsIn_of_occurs hoccurs
    have hblank : ∀ part ∈ parts, ∀ c ∈ part, Text.isBlank c = false := fun part hpart c hc =>
      (Text.mem_strip.mp ((hparts part hpart).mem hc)).2
    have hsolid : ∀ part ∈ parts, Text.strip part = part := fun part hpart =>
      Text.strip_of_forall (hblank part hpart)
    rw [hoptions, List.length_map]
    refine ⟨hlength, by rw [length_numberedFromAll, List.length_map], ?_, fun i option hi => ?_⟩
    · intro option hoption
      obtain ⟨part, hpart, rfl⟩ := List.mem_map.mp hoption
      rw [String.toList_ofList]
      exact hblank part hpart
    · rw [List.getElem?_map] at hi
      obtain ⟨part, hpart, rfl⟩ := Option.map_eq_some_iff.mp hi
      -- The options before it have, each by itself, as many choices as their branches.
      have hbefore : ((parts.map String.ofList).take i).map
          (fun o => (NumberedFormula.parse o).choiceCount) =
            ((parts.map read).take i).map choiceCount := by
        rw [← List.map_take, ← List.map_take, List.map_map, List.map_map]
        refine List.map_congr_left fun p hp => ?_
        show (NumberedFormula.parse (String.ofList p)).choiceCount = (read p).choiceCount
        rw [parse_ofList (hsolid p (List.mem_of_mem_take hp))]
      rw [hbefore, parse_ofList (hsolid part (List.mem_of_getElem? hpart)), shift_numberedFrom,
        Nat.add_zero, getElem?_numberedFromAll, choiceCountAll_eq_sum, List.getElem?_map, hpart]
      rfl

/-- A text whose parentheses do not match: the branch of the second option has the numbers of that
option by itself, higher by the choice around it and the one in the first option. -/
theorem choices_numbered_nested :
    let f := NumberedFormula.parse "(EDU x 2 o DES x 2) o (FUE x 2 o (CON)) + )"
    let outer : ChoiceGroup := ⟨0, ["(EDUx2oDESx2)", "(FUEx2o(CON))"]⟩
    f.tree.groups = [outer, ⟨1, ["EDUx2", "DESx2"]⟩, ⟨2, ["FUEx2", "(CON)"]⟩] ∧
      ∃ branches, (Numbered.choice outer branches).Occurs f.tree ∧ branches.length = 2 ∧
        branches[1]? = some ((NumberedFormula.parse "(FUEx2o(CON))").tree.shift 2) := by
  intro f outer
  have hgroups : f.tree.groups = [outer, ⟨1, ["EDUx2", "DESx2"]⟩, ⟨2, ["FUEx2", "(CON)"]⟩] := by
    decide +kernel
  have houter : outer ∈ f.tree.groups := by
    rw [hgroups]
    exact List.mem_cons_self
  have hfirst : (NumberedFormula.parse "(EDUx2oDESx2)").choiceCount = 1 := by decide +kernel
  obtain ⟨branches, hoccurs⟩ := exists_occurs_of_mem_groups houter
  obtain ⟨-, -, -, hchoices⟩ :=
    choices_numbered "(EDU x 2 o DES x 2) o (FUE x 2 o (CON)) + )"
  obtain ⟨-, hlength, -, hbranch⟩ := hchoices outer branches hoccurs
  have hsecond := hbranch 1 "(FUEx2o(CON))" rfl
  rw [List.take_succ_cons, List.take_zero, List.map_singleton, hfirst] at hsecond
  exact ⟨hgroups, branches, hoccurs, hlength, hsecond⟩

end Chargen.Points
