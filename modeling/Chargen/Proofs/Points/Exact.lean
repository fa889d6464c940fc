import Chargen.Proofs.Points.Best

/-!
# The value without clipping

Nothing is subtracted on the way to the value of a formula, if no number of the block is negative.
So a sum that is clipped stays at the upper end, and clipping at every product and every partial sum
comes to the same as clipping the exact number once, at the end.

`Formula.exact` is that number: the tree in natural numbers of any size. It is told which branch is
taken at each choice; `ChoiceGroup.Takes` says which one that is, without running anything.

* `ChoiceGroup.takes_iff`: the branch that the evaluation takes is the one that the picks name.
* `Tree.fits_read`: no constant of a tree that is read is above the greatest sheet number.
* `Tree.valueFrom_eq_min`: **the clips of a tree add up to one**.
* `value_eq_min_exact`: so the value of a formula is its exact number, clipped once.
-/

namespace Chargen.Points

/-! ### The branch that the picks name -/

/-- Two texts differ in blanks and in the case of the letters from `A` to `Z` only. -/
def Alike (s t : String) : Prop :=
  (Text.strip s.toList).map Char.toLower = (Text.strip t.toList).map Char.toLower

instance (s t : String) : Decidable (Alike s t) :=
  inferInstanceAs (Decidable (_ = _))

theorem alike_iff {option picked : String} (hsolid : Text.stripped option = option) :
    Alike option picked ↔ sameLetters option (Text.stripped picked) = true := by
  have hoption : Text.strip option.toList = option.toList := by
    rw [← hsolid, Text.stripped, String.toList_ofList, Text.strip_strip]
  rw [sameLetters_iff, Alike, hoption, Text.stripped, String.toList_ofList]

namespace ChoiceGroup

/-- The text picked for a choice is alike to the option at a place, and to none before it. -/
def Names (g : ChoiceGroup) (picks : Picks) (place : Nat) : Prop :=
  ∃ picked, picks.get? g.key = some picked ∧
    (∃ option, g.options[place]? = some option ∧ Alike option picked) ∧
    ∀ earlier ∈ g.options.take place, ¬ Alike earlier picked

/-- The branch at a place is the one that the picks name, or the first one if they name none. -/
def Takes (g : ChoiceGroup) (picks : Picks) (place : Nat) : Prop :=
  g.Names picks place ∨ place = 0 ∧ ∀ other, ¬ g.Names picks other

variable {g : ChoiceGroup} {picks : Picks} {place : Nat}

/-- Options without blanks are looked up by the text that is picked as the picks name them. -/
theorem names_iff (hsolid : ∀ option ∈ g.options, Text.stripped option = option) :
    g.Names picks place ↔ g.picked? picks = some place := by
  have halike : ∀ option ∈ g.options, ∀ picked,
      Alike option picked ↔ sameLetters option (Text.stripped picked) = true :=
    fun option hoption picked => alike_iff (hsolid option hoption)
  unfold Names picked? pickedBranch?
  cases picks.get? g.key with
  | none => simp
  | some picked =>
    simp only [Option.some.injEq, exists_eq_left', List.findIdx?_eq_some_iff_getElem]
    -- An option at an earlier place is one that the look-up has passed over.
    constructor
    · rintro ⟨⟨option, hat, hsame⟩, hearlier⟩
      obtain ⟨hlt, rfl⟩ := List.getElem?_eq_some_iff.mp hat
      refine ⟨hlt, (halike _ (List.getElem_mem hlt) _).mp hsame, fun j hj => ?_⟩
      rw [← halike _ (List.getElem_mem _)]
      exact hearlier _ (List.mem_take_iff_getElem.mpr ⟨j, by omega, rfl⟩)
    · rintro ⟨hlt, hsame, hearlier⟩
      refine ⟨⟨g.options[place], List.getElem?_eq_getElem hlt,
        (halike _ (List.getElem_mem hlt) _).mpr hsame⟩, fun earlier hmem => ?_⟩
      obtain ⟨j, hj, rfl⟩ := List.mem_take_iff_getElem.mp hmem
      rw [halike _ (List.getElem_mem _)]
      exact hearlier j (by omega)

/-- **The branch that the evaluation takes is the one that the picks name**, or the first one. -/
theorem takes_iff (hsolid : ∀ option ∈ g.options, Text.stripped option = option) :
    g.Takes picks place ↔ g.branch picks = place := by
  simp only [Takes, names_iff hsolid, branch]
  cases g.picked? picks with
  | none => simp [eq_comm]
  | some taken => simp

end ChoiceGroup

/-! ### The exact number -/

namespace Tree

mutual

/-- The exact number of a tree whose choices are numbered from `k` on, unknown tokens counting
nothing. -/
def exactFrom (b : Profile Nat) (taken : ChoiceGroup → Nat) (k : Nat) : Tree → Nat
  | .sum terms => exactSum b taken k terms
  | .choice options branches => exactBranch b taken (k + 1) (taken ⟨k, options⟩) branches
  | .scaled c factor => b.get c * factor
  | .single c => b.get c
  | .constant n => n
  | .unknown _ => 0

/-- The sum of the exact numbers of trees. -/
def exactSum (b : Profile Nat) (taken : ChoiceGroup → Nat) (k : Nat) : List Tree → Nat
  | [] => 0
  | t :: ts => exactFrom b taken k t + exactSum b taken (k + t.choiceCount) ts

/-- The exact number of the tree at a place in a list, zero beyond its end. -/
def exactBranch (b : Profile Nat) (taken : ChoiceGroup → Nat) (k : Nat) (place : Nat) :
    List Tree → Nat
  | [] => 0
  | t :: ts =>
    match place with
    | 0 => exactFrom b taken k t
    | place + 1 => exactBranch b taken (k + t.choiceCount) place ts

end

mutual

/-- No constant of a tree is above the greatest sheet number. -/
def Fits : Tree → Prop
  | .sum terms => FitsAll terms
  | .choice _ branches => FitsAll branches
  | .constant n => n ≤ maxNumber
  | _ => True

/-- No constant of any of the trees is above the greatest sheet number. -/
def FitsAll : List Tree → Prop
  | [] => True
  | t :: ts => Fits t ∧ FitsAll ts

end

theorem fitsAll_iff {ts : List Tree} : FitsAll ts ↔ ∀ t ∈ ts, Fits t := by
  induction ts with
  | nil => simp [FitsAll]
  | cons t ts ih => rw [FitsAll, ih, List.forall_mem_cons]

theorem fits_readAtom (cs : List Char) : (readAtom cs).Fits := by
  rcases readAtom_cases cs with ⟨c, n, -, h⟩ | ⟨c, h⟩ | ⟨n, hn, h⟩ | ⟨token, h⟩ <;> rw [h]
  · exact trivial
  · exact trivial
  · have hle : (n : Int) ≤ maxNumber := by
      unfold numberLimit at hn
      unfold maxNumber
      omega
    exact hle
  · exact trivial

/-- **What is read fits the sheet**, however long its numerals are. -/
theorem fits_read (token : List Char) : (read token).Fits := by
  have hparts : ∀ parts : List (List Char), (∀ part : { p // p ∈ parts }, (read part.1).Fits) →
      FitsAll (parts.attach.map fun part => read part.1) := by
    intro parts hread
    refine fitsAll_iff.mpr fun t ht => ?_
    obtain ⟨part, -, rfl⟩ := List.mem_map.mp ht
    exact hread part
  fun_induction read token with
  | case1 token hseveral ih => exact hparts _ ih
  | case2 token hone hseveral ih => exact hparts _ ih
  | case3 token hone hone' => exact fits_readAtom _

end Tree

/-- The exact number of a formula. -/
def Formula.exact (f : Formula) (b : Profile Nat) (taken : ChoiceGroup → Nat) : Nat :=
  f.tree.exactFrom b taken 0

/-! ### Clipping once -/

theorem clip_natCast (n : Nat) : clip n = min maxNumber n := by
  unfold clip minNumber maxNumber
  split <;> (try split) <;> omega

/-- A sum of clipped numbers, none of them negative, is the clipped sum. -/
theorem clip_min_add_min (m n : Nat) :
    clip (min maxNumber m + min maxNumber n) = min maxNumber (m + n : Nat) := by
  unfold clip minNumber maxNumber
  split <;> (try split) <;> omega

namespace Tree

variable {b : Block} {picks : Picks} {taken : ChoiceGroup → Nat}

theorem cast_toNat_get (hb : ∀ c, 0 ≤ b.get c ∧ b.get c ≤ maxNumber) (c : Characteristic) :
    (((b.map Int.toNat).get c : Nat) : Int) = b.get c := by
  rw [Profile.get_map]
  exact Int.toNat_of_nonneg (hb c).1

mutual

/-- **The clips of a tree add up to one**, at the end. -/
theorem valueFrom_eq_min (hb : ∀ c, 0 ≤ b.get c ∧ b.get c ≤ maxNumber) {k : Nat} {t : Tree}
    (hfits : t.Fits) (htaken : ∀ g ∈ t.groupsFrom k, g.branch picks = taken g) :
    valueFrom b picks k t = min maxNumber (exactFrom (b.map Int.toNat) taken k t) := by
  cases t with
  | sum terms =>
    -- The sum starts at zero, which clipping leaves as it is.
    have hsum := sumFrom_eq_min hb 0 hfits htaken
    rw [valueFrom, exactFrom]
    rwa [Nat.zero_add, Int.min_eq_right (by decide)] at hsum
  | choice options branches =>
    rw [groupsFrom, List.forall_mem_cons] at htaken
    have hplace : (pickedBranch? picks k options).getD 0 = taken ⟨k, options⟩ := htaken.1
    rw [valueFrom, exactFrom, hplace]
    exact branchFrom_eq_min hb hfits htaken.2
  | scaled c factor =>
    rw [valueFrom, exactFrom, ← clip_natCast, Int.natCast_mul, cast_toNat_get hb]
  | single c =>
    rw [valueFrom, exactFrom, cast_toNat_get hb, Int.min_eq_right (hb c).2]
  | constant n => rw [valueFrom, exactFrom, Int.min_eq_right hfits]
  | unknown token => rfl

/-- A start that is clipped already changes nothing: the sum from there on is clipped anyway. -/
theorem sumFrom_eq_min (hb : ∀ c, 0 ≤ b.get c ∧ b.get c ≤ maxNumber) {k : Nat} (start : Nat)
    {ts : List Tree} (hfits : FitsAll ts)
    (htaken : ∀ g ∈ groupsFromAll k ts, g.branch picks = taken g) :
    sumFrom b picks k (min maxNumber start) ts =
      min maxNumber (start + exactSum (b.map Int.toNat) taken k ts : Nat) := by
  cases ts with
  | nil => rfl
  | cons t ts =>
    rw [groupsFromAll, List.forall_mem_append] at htaken
    -- The new partial sum is the clip of a sum of clips, and so a clipped start for the rest.
    rw [sumFrom, exactSum, valueFrom_eq_min hb hfits.1 htaken.1, clip_min_add_min, ← Nat.add_assoc]
    exact sumFrom_eq_min hb _ hfits.2 htaken.2

theorem branchFrom_eq_min (hb : ∀ c, 0 ≤ b.get c ∧ b.get c ≤ maxNumber) {k place : Nat}
    {ts : List Tree} (hfits : FitsAll ts)
    (htaken : ∀ g ∈ groupsFromAll k ts, g.branch picks = taken g) :
    branchFrom b picks k place ts =
      min maxNumber (exactBranch (b.map Int.toNat) taken k place ts) := by
  cases ts with
  | nil => rfl
  | cons t ts =>
    rw [groupsFromAll, List.forall_mem_append] at htaken
    cases place with
    | zero => exact valueFrom_eq_min hb hfits.1 htaken.1
    | succ place =>
      rw [branchFrom, exactBranch]
      exact branchFrom_eq_min hb hfits.2 htaken.2

end

end Tree

/-- **The value of a formula is its exact number, clipped once.** The text may be any text and the
picks any picks; at each choice some branch is the one that they name, or the first one if they name
none, and the exact number takes these branches. -/
theorem value_eq_min_exact (text : String) {b : Block}
    (hb : ∀ c, 0 ≤ b.get c ∧ b.get c ≤ maxNumber) (picks : Picks) :
    let f := Formula.parse text
    (∃ taken : ChoiceGroup → Nat, ∀ g ∈ f.groups, g.Takes picks (taken g)) ∧
      ∀ taken : ChoiceGroup → Nat, (∀ g ∈ f.groups, g.Takes picks (taken g)) →
        f.value b picks = min maxNumber (f.exact (b.map Int.toNat) taken) := by
  intro f
  have hiff : ∀ g ∈ f.groups, ∀ place, g.Takes picks place ↔ g.branch picks = place :=
    fun g hg place => ChoiceGroup.takes_iff (options_of_mem_groups hg).2
  refine ⟨⟨fun g => g.branch picks, fun g hg => (hiff g hg _).mpr rfl⟩, fun taken htakes => ?_⟩
  exact Tree.valueFrom_eq_min hb (Tree.fits_read _) fun g hg => (hiff g hg _).mp (htakes g hg)

/-- A choice picked in other letters, a token that is unknown, and a sum far above the sheet. -/
theorem value_eq_min_exact_overflow :
    let f := Formula.parse "(EDU x 2 o apa x 2000000000) + 2147483647 + QQ + DES"
    let b := Profile.uniform 50
    let picks := SortedMap.ofList [(0, " APA X 2000000000")]
    (∀ c, 0 ≤ b.get c ∧ b.get c ≤ maxNumber) ∧ (∀ g ∈ f.groups, g.Takes picks 1) ∧
      f.exact (b.map Int.toNat) (fun _ => 1) = 102147483697 ∧ f.value b picks = 2147483647 := by
  intro f b picks
  have hb : ∀ c, 0 ≤ b.get c ∧ b.get c ≤ maxNumber := fun c => by
    rw [Profile.get_uniform]
    decide
  have htakes : ∀ g ∈ f.groups, g.Takes picks 1 := by
    have hbranch : ∀ g ∈ f.groups, g.branch picks = 1 := by decide +kernel
    intro g hg
    exact (ChoiceGroup.takes_iff (options_of_mem_groups hg).2).mpr (hbranch g hg)
  have hexact : f.exact (b.map Int.toNat) (fun _ => 1) = 102147483697 := by decide +kernel
  have hvalue := (value_eq_min_exact _ hb picks).2 (fun _ => 1) htakes
  rw [hexact] at hvalue
  exact ⟨hb, htakes, hexact, hvalue⟩

end Chargen.Points
