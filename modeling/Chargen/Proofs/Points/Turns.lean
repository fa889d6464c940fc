import Chargen.Proofs.Points.Best

/-!
# The odometer turned until it stops

`Turns` is the loop around `advance`: it calls `advance` again and again until that fails. No number
of calls is given to it, so that the loop ends is a theorem, with the distance of the rank to the
product of the radixes as the measure. Each call raises the rank by one. So the ranks of the places
that the loop goes through are consecutive numbers up to the last rank, and what is known of ranks
says that no combination is missed, met twice, or met out of order.

* `exists_turns`: **the loop ends**.
* `Turns.ranks`: **what a run goes through**, as ranks.
* `Formula.search_eq_foldl`: the search for the best options is this loop.
* `turnInPlace_eq`: turning the places one by one where they stand comes to the same.
* `turns_every_combination`: from zeros on, **the odometer turns through every combination once**.
-/

namespace Chargen.Points

/-- The odometer turned from `places` until it stops: `later` are the lists of places that it is
turned to, and `left` is what the last call leaves. -/
inductive Turns (radixes : List Nat) : List Nat → List (List Nat) → List Nat → Prop
  /-- the call fails -/
  | stop {places left : List Nat} (hadvance : advance radixes places = (false, left)) :
      Turns radixes places [] left
  /-- the call leads to the next places, and the loop goes on there -/
  | turn {places next : List Nat} {later : List (List Nat)} {left : List Nat}
      (hadvance : advance radixes places = (true, next)) (rest : Turns radixes next later left) :
      Turns radixes places (next :: later) left

/-! ### One run -/

section Run

variable {radixes places left : List Nat} {later : List (List Nat)}

/-- There is no more than one run from the same places. -/
theorem Turns.unique (h : Turns radixes places later left) {later' : List (List Nat)}
    {left' : List Nat} (h' : Turns radixes places later' left') : later = later' ∧ left = left' := by
  induction h generalizing later' with
  | stop hadvance =>
    cases h' with
    | stop hadvance' => exact ⟨rfl, (Prod.mk.inj (hadvance.symm.trans hadvance')).2⟩
    | turn hadvance' _ => cases hadvance.symm.trans hadvance'
  | turn hadvance _ ih =>
    cases h' with
    | stop hadvance' => cases hadvance.symm.trans hadvance'
    | turn hadvance' rest' =>
      obtain ⟨-, rfl⟩ := Prod.mk.inj (hadvance.symm.trans hadvance')
      obtain ⟨rfl, rfl⟩ := ih rest'
      exact ⟨rfl, rfl⟩

/-- **The loop ends.** Each call comes one rank nearer to the product of the radixes. -/
theorem exists_turns (hplaces : Within radixes places) :
    ∃ later, Turns radixes places later (radixes.map fun _ => 0) := by
  induction hdistance : radixes.prod - rank radixes places generalizing places with
  | zero =>
    -- A rank is below the product, so it is never at no distance from it.
    have hbelow := rank_lt hplaces
    omega
  | succ distance ih =>
    rcases advance_cases hplaces with ⟨next, hadvance, hnext, hrank⟩ | ⟨hadvance, -⟩
    · obtain ⟨later, hrest⟩ := ih hnext (by omega)
      exact ⟨next :: later, .turn hadvance hrest⟩
    · exact ⟨[], .stop hadvance⟩

theorem Turns.within (h : Turns radixes places later left) (hplaces : Within radixes places) :
    ∀ met ∈ places :: later, Within radixes met := by
  induction h with
  | stop _ => exact List.forall_mem_singleton.mpr hplaces
  | turn hadvance _ ih =>
    exact List.forall_mem_cons.mpr ⟨hplaces, ih (advance_true hplaces hadvance).1⟩

/-- The calls that succeed are as many as there are ranks above the first one. -/
theorem Turns.rank_add_length (h : Turns radixes places later left)
    (hplaces : Within radixes places) :
    rank radixes places + later.length + 1 = radixes.prod := by
  induction h with
  | stop hadvance => exact (advance_false hplaces hadvance).2
  | turn hadvance _ ih =>
    obtain ⟨hnext, hrank⟩ := advance_true hplaces hadvance
    have hrest := ih hnext
    rw [List.length_cons]
    omega

/-- **What a run goes through**: the ranks from the first one on, one after the other. -/
theorem Turns.ranks (h : Turns radixes places later left) (hplaces : Within radixes places) :
    (places :: later).map (rank radixes) =
      List.range' (rank radixes places) (later.length + 1) := by
  induction h with
  | stop _ => rfl
  | turn hadvance _ ih =>
    obtain ⟨hnext, hrank⟩ := advance_true hplaces hadvance
    rw [List.map_cons, ih hnext, hrank, List.length_cons, ← List.range'_succ]

/-- A run goes through the places in lexicographic order. -/
theorem Turns.pairwise_lex (h : Turns radixes places later left)
    (hplaces : Within radixes places) : (places :: later).Pairwise (List.Lex (· < ·)) := by
  have hranks : ((places :: later).map (rank radixes)).Pairwise (· < ·) := by
    rw [h.ranks hplaces]
    exact List.pairwise_lt_range'
  refine (List.pairwise_map.mp hranks).imp_of_mem fun ha hb hlt => ?_
  exact lt_of_rank_lt (h.within hplaces _ ha) (h.within hplaces _ hb) hlt

/-- A run goes through all places that are not before the first ones. -/
theorem Turns.mem_iff (h : Turns radixes places later left) (hplaces : Within radixes places)
    {other : List Nat} :
    other ∈ places :: later ↔
      Within radixes other ∧ rank radixes places ≤ rank radixes other := by
  have hlength := h.rank_add_length hplaces
  have hmem : ∀ n, n ∈ (places :: later).map (rank radixes) ↔
      rank radixes places ≤ n ∧ n < radixes.prod := by
    intro n
    rw [h.ranks hplaces, List.mem_range'_1]
    omega
  constructor
  · intro hother
    have hrank := (hmem _).mp (List.mem_map_of_mem hother)
    exact ⟨h.within hplaces _ hother, hrank.1⟩
  · rintro ⟨hother, hle⟩
    -- Some places that are met have this rank, and no others can have it.
    obtain ⟨met, hmet, hrank⟩ := List.mem_map.mp ((hmem _).mpr ⟨hle, rank_lt hother⟩)
    rwa [← rank_injective (h.within hplaces met hmet) hother hrank]

end Run

/-! ### The search -/

namespace Formula

/-- The better one of the best combination so far and the one at the given places; the former if
their values are equal. -/
def better (f : Formula) (b : Block) (best : Best) (places : List Nat) : Best :=
  if best.total < (f.tryAt b places).total then f.tryAt b places else best

/-- The search for the best options is the loop around `advance`, whatever fuel is left over. -/
theorem search_eq_foldl {f : Formula} {b : Block} {places left : List Nat}
    {later : List (List Nat)} (h : Turns (radixes f.groups) places later left) {fuel : Nat}
    (hfuel : later.length ≤ fuel) (best : Best) :
    f.search b fuel places best = later.foldl (f.better b) best := by
  induction h generalizing fuel best with
  | stop hadvance =>
    -- Without fuel the call that fails is not made; made, it changes nothing.
    cases fuel with
    | zero => rfl
    | succ fuel =>
      rw [radixes] at hadvance
      rw [search, hadvance]
      rfl
  | turn hadvance _ ih =>
    cases fuel with
    | zero => cases hfuel
    | succ fuel =>
      have hrest := Nat.le_of_succ_le_succ hfuel
      rw [radixes] at hadvance
      rw [search, hadvance, List.foldl_cons, ← ih hrest]
      rfl

end Formula

/-! ### Turning in place -/

/-- Turning the place behind `front`: the next place to turn is the last one of `front`. -/
theorem turnFrom_succ {before groups : List ChoiceGroup} {front : List Nat}
    (hfront : front.length = before.length) (g : ChoiceGroup) (place : Nat) (places : List Nat) :
    turnFrom (before ++ g :: groups) (front.length + 1) (front ++ place :: places) =
      if place + 1 < g.options.length then some (true, front ++ (place + 1) :: places)
      else turnFrom (before ++ g :: groups) front.length (front ++ 0 :: places) := by
  have hplace : (front ++ place :: places)[front.length]? = some place := by simp
  have hgroup : (before ++ g :: groups)[front.length]? = some g := by simp [hfront]
  have hset : ∀ n, (front ++ place :: places).set front.length n = front ++ n :: places := by simp
  rw [turnFrom, hplace, hgroup, Option.bind_eq_bind, Option.bind_some, Option.bind_eq_bind,
    Option.bind_some, hset, hset]
  rfl

/-- The places behind `front` are turned first, and those of `front` only if all of these have
turned to zero. -/
theorem turnFrom_append {groups : List ChoiceGroup} {places : List Nat}
    (hplaces : places.length = groups.length) (before : List ChoiceGroup) (front : List Nat)
    (hfront : front.length = before.length) :
    turnFrom (before ++ groups) (front.length + places.length) (front ++ places) =
      match advance (radixes groups) places with
      | (true, next) => some (true, front ++ next)
      | (false, next) => turnFrom (before ++ groups) front.length (front ++ next) := by
  induction groups generalizing places before front with
  | nil =>
    obtain rfl := List.eq_nil_of_length_eq_zero hplaces
    rfl
  | cons g groups ih =>
    cases places with
    | nil => cases hplaces
    | cons place places =>
      -- The places behind that of `g` are turned before it, so it counts as one of the front.
      have hrest := ih (Nat.succ.inj hplaces) (before ++ [g]) (front ++ [place]) (by simp [hfront])
      have hlength : front.length + (place :: places).length =
          (front ++ [place]).length + places.length := by
        simp only [List.length_append, List.length_cons, List.length_nil]
        omega
      have hradixes : radixes (g :: groups) = g.options.length :: radixes groups := rfl
      rw [← List.append_cons, ← List.append_cons] at hrest
      rw [hlength, hrest, hradixes, advance]
      rcases advance (radixes groups) places with ⟨_ | _, next⟩
      · dsimp only
        rw [List.length_append, List.length_singleton, ← List.append_cons, turnFrom_succ hfront]
        split <;> rfl
      · dsimp only
        rw [← List.append_cons]

/-- **Turning the places one by one where they stand comes to the same.** In particular no place
and no choice is missing. -/
theorem turnInPlace_eq {groups : List ChoiceGroup} {places : List Nat}
    (hplaces : places.length = groups.length) :
    turnInPlace groups places = some (advance (radixes groups) places) := by
  have hturn := turnFrom_append hplaces [] [] rfl
  simp only [List.nil_append, List.length_nil, Nat.zero_add] at hturn
  rw [turnInPlace, hturn]
  rcases advance (radixes groups) places with ⟨_ | _, next⟩ <;> rfl

/-! ### Every combination -/

/-- **The odometer turns through every combination once and stops.** From zeros on the loop ends, in
one way only: after one call fewer than there are combinations the next one fails and leaves zeros.
The places that it goes through are all that are below the numbers of options, none of them twice,
in strictly increasing lexicographic order. A call turns the places one by one where they stand, and
the search for the best options keeps the first combination of the highest value on its way through
the loop. -/
theorem turns_every_combination (groups : List ChoiceGroup)
    (hpos : ∀ g ∈ groups, 0 < g.options.length) :
    let zeros := groups.map fun _ => 0
    ∃ later,
      (∀ run left, Turns (radixes groups) zeros run left ↔ run = later ∧ left = zeros) ∧
      later.length + 1 = combinationCount groups ∧
      (∀ places, places ∈ zeros :: later ↔ Within (radixes groups) places) ∧
      (zeros :: later).Nodup ∧
      (zeros :: later).Pairwise (List.Lex (· < ·)) ∧
      (∀ places, places.length = groups.length →
        turnInPlace groups places = some (advance (radixes groups) places)) ∧
      ∀ (f : Formula) (b : Block), f.groups = groups → combinationCount groups ≤ maxCombinations →
        f.best b = later.foldl (f.better b) (f.tryAt b zeros) := by
  intro zeros
  have hzeros : zeros = (radixes groups).map fun _ => 0 := Formula.zeros_eq groups
  have hwithin : Within (radixes groups) zeros := by
    rw [hzeros]
    exact within_zeros (by simpa [radixes] using hpos)
  have hrank : rank (radixes groups) zeros = 0 := Formula.rank_first groups
  obtain ⟨later, hturns⟩ := exists_turns hwithin
  rw [← hzeros] at hturns
  have hlength : later.length + 1 = combinationCount groups := by
    rw [combinationCount_eq, ← hturns.rank_add_length hwithin, hrank, Nat.zero_add]
  have hlex := hturns.pairwise_lex hwithin
  refine ⟨later, fun run left => ?_, hlength, fun places => ?_, ?_, hlex,
    fun places hplaces => turnInPlace_eq hplaces, fun f b hgroups hcount => ?_⟩
  · constructor
    · exact fun hrun => hrun.unique hturns
    · rintro ⟨rfl, rfl⟩
      exact hturns
  · rw [hturns.mem_iff hwithin, hrank]
    exact and_iff_left (Nat.zero_le _)
  · rw [List.nodup_iff_pairwise_ne]
    exact hlex.imp fun hlt => ne_of_lt hlt
  · subst hgroups
    rw [Formula.best, if_pos hcount]
    exact Formula.search_eq_foldl hturns (by omega) _

/-- Three choices, one of them with a single option. -/
theorem turns_every_combination_three :
    let groups : List ChoiceGroup :=
      [⟨0, ["EDUx2", "DESx2"]⟩, ⟨1, ["FUEx1"]⟩, ⟨2, ["CONx1", "TAMx1", "APAx1"]⟩]
    let later := [[0, 0, 1], [0, 0, 2], [1, 0, 0], [1, 0, 1], [1, 0, 2]]
    (∀ g ∈ groups, 0 < g.options.length) ∧
      Turns (radixes groups) [0, 0, 0] later [0, 0, 0] ∧
      later.length + 1 = combinationCount groups ∧
      (∀ places, places ∈ [0, 0, 0] :: later ↔ Within [2, 1, 3] places) ∧
      ([0, 0, 0] :: later).Pairwise (List.Lex (· < ·)) := by
  intro groups later
  have hpos : ∀ g ∈ groups, 0 < g.options.length := by decide
  obtain ⟨found, hruns, hlength, hmem, -, hlex, -⟩ := turns_every_combination groups hpos
  have hrun : Turns (radixes groups) [0, 0, 0] later [0, 0, 0] :=
    .turn rfl (.turn rfl (.turn rfl (.turn rfl (.turn rfl (.stop rfl)))))
  obtain ⟨rfl, -⟩ := (hruns later [0, 0, 0]).mp hrun
  exact ⟨hpos, hrun, hlength, hmem, hlex⟩

end Chargen.Points
