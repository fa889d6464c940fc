import Chargen.Points.Value
import Mathlib.Data.List.Basic

/-!
# Choices and the value of a formula

The value of a tree depends on the picks only through the branches that they take at its choices,
and of these only on the ones that are reached: a choice inside a branch that is not taken does not
matter.

* `groupsFrom_keys`: the choices of a tree have consecutive numbers.
* `Tree.valueFrom_congr`: **the value depends on the choices that are reached**.
* `Tree.valueFrom_of_get?`: so it depends on the picks for the numbers of the tree only.
* `options_of_mem_groups`: the options of a formula are two or more texts without blanks.
-/

namespace Chargen.Points

/-- The branch that is picked at a choice, if one is. -/
def ChoiceGroup.picked? (g : ChoiceGroup) (picks : Picks) : Option Nat :=
  pickedBranch? picks g.key g.options

/-- The branch that is taken at a choice. -/
def ChoiceGroup.branch (g : ChoiceGroup) (picks : Picks) : Nat :=
  (g.picked? picks).getD 0

theorem ChoiceGroup.picked?_congr {g : ChoiceGroup} {picks picks' : Picks}
    (h : picks.get? g.key = picks'.get? g.key) : g.picked? picks = g.picked? picks' := by
  rw [ChoiceGroup.picked?, ChoiceGroup.picked?, pickedBranch?, pickedBranch?, h]

namespace Tree

/-! ### Numbers -/

mutual

/-- The choices of a tree have consecutive numbers. -/
theorem groupsFrom_keys (k : Nat) (t : Tree) :
    (t.groupsFrom k).map ChoiceGroup.key = List.range' k t.choiceCount := by
  cases t with
  | sum terms => exact groupsFromAll_keys k terms
  | choice options branches =>
    rw [groupsFrom, List.map_cons, groupsFromAll_keys (k + 1) branches, choiceCount,
      List.range'_succ]
  | scaled c factor => rfl
  | single c => rfl
  | constant n => rfl
  | unknown token => rfl

theorem groupsFromAll_keys (k : Nat) (ts : List Tree) :
    (groupsFromAll k ts).map ChoiceGroup.key = List.range' k (choiceCountAll ts) := by
  cases ts with
  | nil => rfl
  | cons t ts =>
    rw [groupsFromAll, List.map_append, groupsFrom_keys k t,
      groupsFromAll_keys (k + t.choiceCount) ts, choiceCountAll, List.range'_append_1]

end

theorem key_of_mem_groupsFrom {k : Nat} {t : Tree} {g : ChoiceGroup} (hg : g ∈ t.groupsFrom k) :
    k ≤ g.key ∧ g.key < k + t.choiceCount := by
  have hkey : g.key ∈ (t.groupsFrom k).map ChoiceGroup.key := List.mem_map_of_mem hg
  rw [groupsFrom_keys] at hkey
  exact List.mem_range'_1.mp hkey

/-- The choices of trees are those of each tree from where it starts. -/
theorem mem_groupsFromAll_iff {k : Nat} {ts : List Tree} {g : ChoiceGroup} :
    g ∈ groupsFromAll k ts ↔ ∃ e ∈ ts.zip (starts k ts), g ∈ e.1.groupsFrom e.2 := by
  induction ts generalizing k with
  | nil => simp [groupsFromAll, starts]
  | cons t ts ih => simp [groupsFromAll, starts, ih]

theorem bounds_of_mem_starts {k start : Nat} {ts : List Tree} {t : Tree}
    (h : (t, start) ∈ ts.zip (starts k ts)) :
    k ≤ start ∧ start + t.choiceCount ≤ k + choiceCountAll ts := by
  induction ts generalizing k with
  | nil => cases h
  | cons t' ts ih =>
    rw [starts, List.zip_cons_cons, List.mem_cons] at h
    rw [choiceCountAll]
    rcases h with h | h
    · cases h
      omega
    · have := ih h
      omega

/-! ### Reached choices -/

mutual

/-- The choices of a tree that its value looks at, numbered from `k` on. -/
def reachedFrom (picks : Picks) (k : Nat) : Tree → List ChoiceGroup
  | .sum terms => reachedFromAll picks k terms
  | .choice options branches =>
    ⟨k, options⟩ ::
      reachedFromBranch picks (k + 1) ((pickedBranch? picks k options).getD 0) branches
  | _ => []

/-- The choices reached in all trees of a list. -/
def reachedFromAll (picks : Picks) (k : Nat) : List Tree → List ChoiceGroup
  | [] => []
  | t :: ts => reachedFrom picks k t ++ reachedFromAll picks (k + t.choiceCount) ts

/-- The choices reached in the tree at a place in a list. -/
def reachedFromBranch (picks : Picks) (k : Nat) (place : Nat) : List Tree → List ChoiceGroup
  | [] => []
  | t :: ts =>
    match place with
    | 0 => reachedFrom picks k t
    | place + 1 => reachedFromBranch picks (k + t.choiceCount) place ts

end

mutual

/-- Only choices of the tree are reached. -/
theorem mem_groupsFrom_of_mem_reachedFrom {picks : Picks} {k : Nat} {t : Tree} {g : ChoiceGroup}
    (hg : g ∈ reachedFrom picks k t) : g ∈ t.groupsFrom k := by
  cases t with
  | sum terms => exact mem_groupsFromAll_of_mem_reachedFromAll hg
  | choice options branches =>
    rw [reachedFrom, List.mem_cons] at hg
    rw [groupsFrom, List.mem_cons]
    exact hg.imp_right mem_groupsFromAll_of_mem_reachedFromBranch
  | scaled c factor => cases hg
  | single c => cases hg
  | constant n => cases hg
  | unknown token => cases hg

theorem mem_groupsFromAll_of_mem_reachedFromAll {picks : Picks} {k : Nat} {ts : List Tree}
    {g : ChoiceGroup} (hg : g ∈ reachedFromAll picks k ts) : g ∈ groupsFromAll k ts := by
  cases ts with
  | nil => cases hg
  | cons t ts =>
    rw [reachedFromAll, List.mem_append] at hg
    rw [groupsFromAll, List.mem_append]
    exact hg.imp mem_groupsFrom_of_mem_reachedFrom mem_groupsFromAll_of_mem_reachedFromAll

theorem mem_groupsFromAll_of_mem_reachedFromBranch {picks : Picks} {k place : Nat}
    {ts : List Tree} {g : ChoiceGroup} (hg : g ∈ reachedFromBranch picks k place ts) :
    g ∈ groupsFromAll k ts := by
  cases ts with
  | nil => cases hg
  | cons t ts =>
    rw [groupsFromAll, List.mem_append]
    cases place with
    | zero => exact .inl (mem_groupsFrom_of_mem_reachedFrom hg)
    | succ place => exact .inr (mem_groupsFromAll_of_mem_reachedFromBranch hg)

end

variable {b : Block} {picks picks' : Picks}

mutual

/-- **The value depends on the choices that are reached**, and on the branches taken there. -/
theorem valueFrom_congr {k : Nat} {t : Tree}
    (h : ∀ g ∈ reachedFrom picks k t, g.branch picks = g.branch picks') :
    valueFrom b picks k t = valueFrom b picks' k t := by
  cases t with
  | sum terms => exact sumFrom_congr 0 h
  | choice options branches =>
    rw [reachedFrom] at h
    have hbranch : (pickedBranch? picks k options).getD 0 =
        (pickedBranch? picks' k options).getD 0 := h ⟨k, options⟩ List.mem_cons_self
    rw [valueFrom, valueFrom, ← hbranch]
    exact branchFrom_congr fun g hg => h g (List.mem_cons_of_mem _ hg)
  | scaled c factor => rfl
  | single c => rfl
  | constant n => rfl
  | unknown token => rfl

theorem sumFrom_congr {k : Nat} {ts : List Tree} (sum : Int)
    (h : ∀ g ∈ reachedFromAll picks k ts, g.branch picks = g.branch picks') :
    sumFrom b picks k sum ts = sumFrom b picks' k sum ts := by
  cases ts with
  | nil => rfl
  | cons t ts =>
    rw [reachedFromAll, List.forall_mem_append] at h
    rw [sumFrom, sumFrom, valueFrom_congr h.1]
    exact sumFrom_congr _ h.2

theorem branchFrom_congr {k place : Nat} {ts : List Tree}
    (h : ∀ g ∈ reachedFromBranch picks k place ts, g.branch picks = g.branch picks') :
    branchFrom b picks k place ts = branchFrom b picks' k place ts := by
  cases ts with
  | nil => rfl
  | cons t ts =>
    cases place with
    | zero => exact valueFrom_congr h
    | succ place =>
      show branchFrom b picks (k + t.choiceCount) place ts =
        branchFrom b picks' (k + t.choiceCount) place ts
      exact branchFrom_congr h

end

/-- The value depends on the picks for the numbers of the tree only. -/
theorem valueFrom_of_get? {k : Nat} {t : Tree}
    (h : ∀ key, k ≤ key → key < k + t.choiceCount → picks.get? key = picks'.get? key) :
    valueFrom b picks k t = valueFrom b picks' k t := by
  refine valueFrom_congr fun g hg => ?_
  have hkey := key_of_mem_groupsFrom (mem_groupsFrom_of_mem_reachedFrom hg)
  rw [ChoiceGroup.branch, ChoiceGroup.branch, ChoiceGroup.picked?_congr (h g.key hkey.1 hkey.2)]

theorem sumFrom_of_get? {k : Nat} {ts : List Tree} (sum : Int)
    (h : ∀ key, k ≤ key → picks.get? key = picks'.get? key) :
    sumFrom b picks k sum ts = sumFrom b picks' k sum ts := by
  refine sumFrom_congr sum fun g hg => ?_
  have hkey : g.key ∈ (groupsFromAll k ts).map ChoiceGroup.key :=
    List.mem_map_of_mem (mem_groupsFromAll_of_mem_reachedFromAll hg)
  rw [groupsFromAll_keys, List.mem_range'_1] at hkey
  rw [ChoiceGroup.branch, ChoiceGroup.branch, ChoiceGroup.picked?_congr (h g.key hkey.1)]

theorem branchFrom_eq {k place start : Nat} {ts : List Tree} {t : Tree}
    (h : (ts.zip (starts k ts))[place]? = some (t, start)) :
    branchFrom b picks k place ts = valueFrom b picks start t := by
  induction ts generalizing k place with
  | nil => simp at h
  | cons t' ts ih =>
    rw [starts, List.zip_cons_cons] at h
    cases place with
    | zero =>
      cases h
      rfl
    | succ place => exact ih h

/-- The value of a choice is that of the branch that is picked. -/
theorem valueFrom_choice {k place start : Nat} {options : List String} {branches : List Tree}
    {t : Tree} (hpick : pickedBranch? picks k options = some place)
    (hat : (branches.zip (starts (k + 1) branches))[place]? = some (t, start)) :
    valueFrom b picks k (.choice options branches) = valueFrom b picks start t := by
  rw [valueFrom, hpick]
  exact branchFrom_eq hat

end Tree

/-! ### The options of a formula -/

theorem sublist_stripOuter (cs : List Char) : (stripOuter cs).Sublist cs := by
  fun_induction stripOuter cs with
  | case1 rest _ ih => exact (ih.trans (List.dropLast_sublist rest)).cons _
  | case2 rest _ => exact .refl _
  | case3 cs _ => exact .refl _

theorem sublist_of_mem_splitFrom {sep : Option Char → Char → Option Char → Bool} {depth : Int}
    {before : Option Char} {cs part : List Char} (h : part ∈ splitFrom sep depth before cs) :
    part.Sublist cs := by
  have hfirst : ∀ {c : Char} {rest : List Char} {parts : List (List Char)},
      (∀ p ∈ parts, p.Sublist rest) → ∀ p ∈ consFirst c parts, p.Sublist (c :: rest) := by
    intro c rest parts hparts p hp
    cases parts with
    | nil =>
      rw [List.mem_singleton.mp hp]
      exact (List.nil_sublist rest).cons_cons c
    | cons q others =>
      rcases List.mem_cons.mp hp with rfl | hp
      · exact (hparts q List.mem_cons_self).cons_cons c
      · exact (hparts p (List.mem_cons_of_mem _ hp)).cons c
  induction cs generalizing depth before part with
  | nil =>
    rw [List.mem_singleton.mp h]
  | cons c rest ih =>
    rw [splitFrom] at h
    split at h
    · exact hfirst (fun p hp => ih hp) part h
    · split at h
      · rcases List.mem_cons.mp h with rfl | h
        · exact List.nil_sublist _
        · exact (ih h).cons c
      · exact hfirst (fun p hp => ih hp) part h

/-- An atom is read as one of the four kinds of tokens, and its number is below the limit. -/
theorem readAtom_cases (cs : List Char) :
    (∃ c n, n < numberLimit ∧ readAtom cs = .scaled c n) ∨ (∃ c, readAtom cs = .single c) ∨
      (∃ n, n < numberLimit ∧ readAtom cs = .constant n) ∨
      ∃ token, readAtom cs = .unknown token := by
  unfold readAtom
  cases hscaled : readScaled? cs with
  | some t =>
    obtain ⟨_, -, h⟩ := Option.bind_eq_some_iff.mp hscaled
    obtain ⟨c, -, h⟩ := Option.bind_eq_some_iff.mp h
    obtain ⟨n, hn, h⟩ := Option.bind_eq_some_iff.mp h
    cases h
    exact .inl ⟨c, n, numeral?_lt hn, rfl⟩
  | none =>
    cases hsingle : readSingle? cs with
    | some t =>
      unfold readSingle? at hsingle
      split at hsingle
      · obtain ⟨c, -, rfl⟩ := Option.map_eq_some_iff.mp hsingle
        exact .inr (.inl ⟨c, rfl⟩)
      · cases hsingle
    | none =>
      cases hconstant : readConstant? cs with
      | some t =>
        obtain ⟨n, hn, rfl⟩ := Option.map_eq_some_iff.mp hconstant
        exact .inr (.inr (.inl ⟨n, numeral?_lt hn, rfl⟩))
      | none => exact .inr (.inr (.inr ⟨_, rfl⟩))

theorem groupsFrom_readAtom (cs : List Char) (k : Nat) : (readAtom cs).groupsFrom k = [] := by
  rcases readAtom_cases cs with ⟨c, n, -, h⟩ | ⟨c, h⟩ | ⟨n, -, h⟩ | ⟨token, h⟩ <;> rw [h] <;> rfl

/-- Two or more options, each of them part of a text. -/
def ChoiceGroup.OptionsOf (g : ChoiceGroup) (token : List Char) : Prop :=
  1 < g.options.length ∧ ∀ option ∈ g.options, option.toList.Sublist token

/-- The choices of trees read from parts of a text have parts of that text as options. -/
theorem optionsOf_of_parts {token : List Char} {parts : List (List Char)}
    (hparts : ∀ p ∈ parts, p.Sublist token)
    (ih : ∀ part : { p // p ∈ parts }, ∀ {k : Nat}, ∀ {g : ChoiceGroup},
      g ∈ (read part.1).groupsFrom k → g.OptionsOf part.1)
    {k : Nat} {g : ChoiceGroup}
    (hg : g ∈ Tree.groupsFromAll k (parts.attach.map fun part => read part.1)) :
    g.OptionsOf token := by
  obtain ⟨⟨t, start⟩, he, hg⟩ := Tree.mem_groupsFromAll_iff.mp hg
  obtain ⟨part, -, rfl⟩ := List.mem_map.mp (List.of_mem_zip he).1
  obtain ⟨hlength, hoptions⟩ := ih part hg
  exact ⟨hlength, fun option hoption => (hoptions option hoption).trans (hparts part.1 part.2)⟩

/-- A choice that is read has two or more options, parts of the text. -/
theorem optionsOf_of_mem_read {token : List Char} {k : Nat} {g : ChoiceGroup}
    (hg : g ∈ (read token).groupsFrom k) : g.OptionsOf token := by
  have hparts : ∀ {sep : Option Char → Char → Option Char → Bool} {w : List Char},
      ∀ p ∈ split sep (stripOuter w), p.Sublist w := by
    intro sep w p hp
    exact (sublist_of_mem_splitFrom hp).trans (sublist_stripOuter w)
  fun_induction read token generalizing k g with
  | case1 token hseveral ih => exact optionsOf_of_parts hparts ih hg
  | case2 token hone hseveral ih =>
    rcases List.mem_cons.mp hg with rfl | hg
    · refine ⟨by simpa using hseveral, fun option hoption => ?_⟩
      obtain ⟨part, hpart, rfl⟩ := List.mem_map.mp hoption
      rw [String.toList_ofList]
      exact hparts part hpart
    · exact optionsOf_of_parts hparts ih hg
  | case3 token hone hone' =>
    rw [groupsFrom_readAtom] at hg
    cases hg

/-- The options of a formula are two or more texts without blanks. -/
theorem options_of_mem_groups {text : String} {g : ChoiceGroup}
    (hg : g ∈ (Formula.parse text).groups) :
    1 < g.options.length ∧ ∀ option ∈ g.options, Text.stripped option = option := by
  obtain ⟨hlength, hoptions⟩ := optionsOf_of_mem_read hg
  refine ⟨hlength, fun option hoption => ?_⟩
  have hsolid : Text.strip option.toList = option.toList := by
    apply Text.strip_of_forall
    intro c hc
    exact (Text.mem_strip.mp ((hoptions option hoption).mem hc)).2
  rw [Text.stripped, hsolid, String.ofList_toList]

end Chargen.Points
