import Chargen.Points.Best
import Mathlib.Algebra.BigOperators.Group.List.Basic
import Mathlib.Data.List.Forall2
import Mathlib.Data.List.Lex

/-!
# The odometer

A list of places below their radixes has a rank, its number in the order in which `advance` runs
through them: the first place weighs most. So `advance` goes from each list to the one of the next
rank, visits every list once, and visits them in lexicographic order.

* `advance_cases`: **one step of the odometer**; `advance_true` and `advance_false` are its two cases.
* `rank_lt`, `rank_injective`: ranks are the numbers below the product of the radixes, each taken
  once.
* `rank_lt_of_lt`: the order of the ranks is the lexicographic one.
-/

namespace Chargen.Points

/-- Each place is below its radix. -/
def Within (radixes places : List Nat) : Prop :=
  List.Forall₂ (fun place radix => place < radix) places radixes

/-- The number of a list of places in the order of the odometer. -/
def rank : List Nat → List Nat → Nat
  | _ :: radixes, place :: places => place * radixes.prod + rank radixes places
  | _, _ => 0

theorem Within.pos {radixes places : List Nat} (h : Within radixes places) :
    ∀ radix ∈ radixes, 0 < radix := by
  induction h with
  | nil => simp
  | @cons place radix places radixes hplace _ ih =>
    intro x hx
    rcases List.mem_cons.mp hx with rfl | hx
    · omega
    · exact ih x hx

/-- Ranks are below the product of the radixes. -/
theorem rank_lt {radixes places : List Nat} (h : Within radixes places) :
    rank radixes places < radixes.prod := by
  induction h with
  | nil => simp [rank]
  | @cons place radix places radixes hplace _ ih =>
    rw [rank, List.prod_cons]
    have hturn : (place + 1) * radixes.prod ≤ radix * radixes.prod :=
      Nat.mul_le_mul_right _ hplace
    rw [Nat.add_mul, Nat.one_mul] at hturn
    omega

theorem within_zeros {radixes : List Nat} (h : ∀ radix ∈ radixes, 0 < radix) :
    Within radixes (radixes.map fun _ => 0) := by
  induction radixes with
  | nil => exact .nil
  | cons radix radixes ih =>
    exact .cons (h radix List.mem_cons_self) (ih fun x hx => h x (List.mem_cons_of_mem _ hx))

theorem rank_zeros (radixes : List Nat) : rank radixes (radixes.map fun _ => 0) = 0 := by
  induction radixes with
  | nil => rfl
  | cons radix radixes ih => rw [List.map_cons, rank, ih, Nat.zero_mul]

/-- **One step of the odometer** leads to the places of the next rank, unless these were the last
ones; then all places turn to zero. -/
theorem advance_cases {radixes places : List Nat} (h : Within radixes places) :
    (∃ next, advance radixes places = (true, next) ∧ Within radixes next ∧
        rank radixes next = rank radixes places + 1) ∨
      (advance radixes places = (false, radixes.map fun _ => 0) ∧
        rank radixes places + 1 = radixes.prod) := by
  induction h with
  | nil => exact .inr ⟨rfl, by simp [rank]⟩
  | @cons place radix places radixes hplace hplaces ih =>
    rcases ih with ⟨next, hadvance, hnext, hrank⟩ | ⟨hadvance, hlast⟩
    · -- A later place turns, and this one stays.
      refine .inl ⟨place :: next, by rw [advance, hadvance], .cons hplace hnext, ?_⟩
      rw [rank, rank, hrank, Nat.add_assoc]
    · -- All later places were at their ends, so they turn to zero and this one turns.
      by_cases hturn : place + 1 < radix
      · have hzeros := within_zeros (Within.pos hplaces)
        refine .inl ⟨(place + 1) :: radixes.map fun _ => 0, ?_, .cons hturn hzeros, ?_⟩
        · rw [advance, hadvance]
          dsimp only
          rw [if_pos hturn]
        · rw [rank, rank, rank_zeros, Nat.add_mul, Nat.one_mul]
          omega
      · refine .inr ⟨?_, ?_⟩
        · rw [advance, hadvance]
          dsimp only
          rw [if_neg hturn, List.map_cons]
        · obtain rfl : radix = place + 1 := by omega
          rw [rank, List.prod_cons, Nat.add_mul, Nat.one_mul]
          omega

theorem advance_true {radixes places next : List Nat} (h : Within radixes places)
    (hadvance : advance radixes places = (true, next)) :
    Within radixes next ∧ rank radixes next = rank radixes places + 1 := by
  rcases advance_cases h with ⟨next', hadvance', hnext, hrank⟩ | ⟨hadvance', -⟩
  · obtain ⟨-, rfl⟩ := Prod.mk.inj (hadvance.symm.trans hadvance')
    exact ⟨hnext, hrank⟩
  · cases hadvance.symm.trans hadvance'

theorem advance_false {radixes places left : List Nat} (h : Within radixes places)
    (hadvance : advance radixes places = (false, left)) :
    left = radixes.map (fun _ => 0) ∧ rank radixes places + 1 = radixes.prod := by
  rcases advance_cases h with ⟨next, hadvance', -, -⟩ | ⟨hadvance', hlast⟩
  · cases hadvance.symm.trans hadvance'
  · obtain ⟨-, rfl⟩ := Prod.mk.inj (hadvance.symm.trans hadvance')
    exact ⟨rfl, hlast⟩

/-- The order of the ranks is the lexicographic one. -/
theorem rank_lt_of_lt {radixes a b : List Nat} (ha : Within radixes a) (hb : Within radixes b)
    (h : a < b) : rank radixes a < rank radixes b := by
  induction ha generalizing b with
  | nil =>
    cases hb
    exact absurd h (List.lt_irrefl _)
  | @cons x radix a radixes hx ha ih =>
    cases hb with
    | @cons y _ b _ hy hb =>
      rw [rank, rank]
      rcases List.cons_lt_cons_iff.mp h with hlt | ⟨rfl, hlt⟩
      · -- A greater first place outweighs all later ones.
        have hweight : (x + 1) * radixes.prod ≤ y * radixes.prod := Nat.mul_le_mul_right _ hlt
        have hbelow := rank_lt ha
        rw [Nat.add_mul, Nat.one_mul] at hweight
        omega
      · have := ih hb hlt
        omega

theorem lt_of_rank_lt {radixes a b : List Nat} (ha : Within radixes a) (hb : Within radixes b)
    (h : rank radixes a < rank radixes b) : a < b := by
  rcases lt_trichotomy a b with hlt | rfl | hgt
  · exact hlt
  · exact absurd h (Nat.lt_irrefl _)
  · have := rank_lt_of_lt hb ha hgt
    omega

/-- No two lists of places have one rank. -/
theorem rank_injective {radixes a b : List Nat} (ha : Within radixes a) (hb : Within radixes b)
    (h : rank radixes a = rank radixes b) : a = b := by
  rcases lt_trichotomy a b with hlt | heq | hgt
  · have := rank_lt_of_lt ha hb hlt
    omega
  · exact heq
  · have := rank_lt_of_lt hb ha hgt
    omega

end Chargen.Points
