import Chargen.SortedMap
import Mathlib.Data.List.Basic
import Mathlib.Data.List.Nodup

/-!
# Maps filled from lists

A map is filled entry by entry, so of several entries with one key the last one stays.

* `get?_insertAll_of_notMem`, `get?_insertAll_of_last`: what a look-up finds behind a run of
  insertions.
* `get?_insertAll_entries`: a map inserted into another one is asked first.
* `get?_ofList_of_mem`: a list without repeated keys is found entry by entry.
* `mem_entries_ofList`: a map filled from a list holds the last entry for each key.
* `get?_filterKeys`, `get?_erase`: what a look-up finds of a part of a map.
* `mem_keys`, `nodup_keys`: the keys of a map are those that a look-up finds, each one listed once.
-/

namespace Chargen

/-- The last item of a list with a property, if there is one. -/
theorem exists_last {α : Type} (p : α → Prop) (items : List α) : (∀ a ∈ items, ¬ p a) ∨
    ∃ front a back, items = front ++ a :: back ∧ p a ∧ ∀ later ∈ back, ¬ p later := by
  induction items with
  | nil => exact .inl (by simp)
  | cons a rest ih =>
    rcases ih with hrest | ⟨front, b, back, rfl, hb, hback⟩
    · by_cases ha : p a
      · exact .inr ⟨[], a, rest, rfl, ha, hrest⟩
      · exact .inl (List.forall_mem_cons.mpr ⟨ha, hrest⟩)
    · exact .inr ⟨a :: front, b, back, rfl, hb, hback⟩

/-- Of items that give lists, only one of which gives anything, that one gives all. -/
theorem flatMap_eq_of_unique {α β : Type} {f : α → List β} {l : List α} {a : α} (hnodup : l.Nodup)
    (ha : a ∈ l) (hothers : ∀ b ∈ l, b ≠ a → f b = []) : l.flatMap f = f a := by
  obtain ⟨front, back, rfl⟩ := List.append_of_mem ha
  obtain ⟨-, hback, hfront⟩ := List.nodup_append.mp hnodup
  have hfrontnil : front.flatMap f = [] := by
    refine List.flatMap_eq_nil_iff.mpr fun b hb => ?_
    exact hothers b (by simp [hb]) (hfront b hb a (by simp))
  have hbacknil : back.flatMap f = [] := by
    refine List.flatMap_eq_nil_iff.mpr fun b hb => ?_
    refine hothers b (by simp [hb]) ?_
    rintro rfl
    exact (List.nodup_cons.mp hback).1 hb
  rw [List.flatMap_append, List.flatMap_cons, hfrontnil, hbacknil, List.nil_append, List.append_nil]

namespace SortedMap

variable {κ ν : Type} [Ord κ] [Std.TransOrd κ] [Std.LawfulEqOrd κ]

omit [Std.TransOrd κ] in
/-- The keys of a map are those that a look-up finds. -/
theorem mem_keys {m : SortedMap κ ν} {k : κ} : k ∈ m.keys ↔ (m.get? k).isSome := by
  unfold keys
  rw [List.mem_map, Option.isSome_iff_exists]
  constructor
  · rintro ⟨⟨_, v⟩, hmem, rfl⟩
    exact ⟨v, get?_eq_some_iff.mpr hmem⟩
  · rintro ⟨v, hv⟩
    exact ⟨(k, v), get?_eq_some_iff.mp hv, rfl⟩

omit [Std.LawfulEqOrd κ] in
/-- Each key of a map is listed once. -/
theorem nodup_keys (m : SortedMap κ ν) : m.keys.Nodup := by
  unfold keys
  rw [List.Nodup, List.pairwise_map]
  refine m.ascending.imp fun {a b} hlt heq => ?_
  have hself : compare b.1 b.1 = .eq := Std.ReflCmp.compare_self
  rw [heq, hself] at hlt
  cases hlt

/-- The map with the entries of a list inserted one by one. -/
def insertAll (m : SortedMap κ ν) (es : List (κ × ν)) : SortedMap κ ν :=
  es.foldl (fun m e => m.insert e.1 e.2) m

theorem ofList_eq (es : List (κ × ν)) : ofList es = empty.insertAll es := rfl

section Lookup

variable [DecidableEq κ]

/-- Insertions at other keys are not seen. -/
theorem get?_insertAll_of_notMem {es : List (κ × ν)} {k : κ} (hk : k ∉ es.map Prod.fst)
    (m : SortedMap κ ν) : (m.insertAll es).get? k = m.get? k := by
  induction es generalizing m with
  | nil => rfl
  | cons e rest ih =>
    rw [List.map_cons, List.mem_cons, not_or] at hk
    have hrest : (m.insertAll (e :: rest)) = (m.insert e.1 e.2).insertAll rest := rfl
    rw [hrest, ih hk.2, get?_insert, if_neg hk.1]

/-- The last insertion at a key is the one that is seen. -/
theorem get?_insertAll_of_last {front back : List (κ × ν)} {k : κ} {v : ν}
    (hk : k ∉ back.map Prod.fst) (m : SortedMap κ ν) :
    (m.insertAll (front ++ (k, v) :: back)).get? k = some v := by
  have hsplit : m.insertAll (front ++ (k, v) :: back) =
      ((m.insertAll front).insert k v).insertAll back := by
    rw [insertAll, List.foldl_append]
    rfl
  rw [hsplit, get?_insertAll_of_notMem hk, get?_insert, if_pos rfl]

theorem get?_insertAll_of_mem {es : List (κ × ν)} (hnodup : (es.map Prod.fst).Nodup) {k : κ} {v : ν}
    (hmem : (k, v) ∈ es) (m : SortedMap κ ν) : (m.insertAll es).get? k = some v := by
  obtain ⟨front, back, rfl⟩ := List.append_of_mem hmem
  refine get?_insertAll_of_last ?_ m
  rw [List.map_append, List.nodup_append] at hnodup
  exact (List.nodup_cons.mp hnodup.2.1).1

/-- A list without repeated keys is found entry by entry. -/
theorem get?_ofList_of_mem {es : List (κ × ν)} (hnodup : (es.map Prod.fst).Nodup) {k : κ} {v : ν}
    (hmem : (k, v) ∈ es) : (ofList es).get? k = some v := by
  rw [ofList_eq, get?_insertAll_of_mem hnodup hmem]

/-- A map inserted into another one is asked first. -/
theorem get?_insertAll_entries (m upper : SortedMap κ ν) (k : κ) :
    (m.insertAll upper.entries).get? k = (upper.get? k).or (m.get? k) := by
  cases hupper : upper.get? k with
  | some v => exact get?_insertAll_of_mem upper.nodup_keys (get?_eq_some_iff.mp hupper) m
  | none =>
    refine get?_insertAll_of_notMem (fun hk => ?_) m
    obtain ⟨⟨_, v⟩, hmem, rfl⟩ := List.mem_map.mp hk
    rw [get?_eq_some_iff.mpr hmem] at hupper
    cases hupper

theorem get?_ofList_of_notMem {es : List (κ × ν)} {k : κ} (hk : k ∉ es.map Prod.fst) :
    (ofList es).get? k = none := by
  rw [ofList_eq, get?_insertAll_of_notMem hk, get?_empty]

/-- **A map filled from a list holds the last entry for each key.** -/
theorem mem_entries_ofList {es : List (κ × ν)} {e : κ × ν} : e ∈ (ofList es).entries ↔
    ∃ front back, es = front ++ e :: back ∧ ∀ later ∈ back, later.1 ≠ e.1 := by
  obtain ⟨k, v⟩ := e
  have hlast : ∀ {front back : List (κ × ν)} {w : ν}, (∀ later ∈ back, later.1 ≠ k) →
      (ofList (front ++ (k, w) :: back)).get? k = some w := by
    intro front back w hback
    refine get?_insertAll_of_last (fun hk => ?_) empty
    obtain ⟨later, hlater, heq⟩ := List.mem_map.mp hk
    exact hback later hlater heq
  rw [← get?_eq_some_iff]
  constructor
  · intro hfound
    rcases exists_last (fun e => e.1 = k) es with hnone | ⟨front, ⟨_, w⟩, back, rfl, rfl, hback⟩
    · have hk : k ∉ es.map Prod.fst := fun hk => by
        obtain ⟨e, he, heq⟩ := List.mem_map.mp hk
        exact hnone e he heq
      rw [get?_ofList_of_notMem hk] at hfound
      cases hfound
    · rw [hlast hback] at hfound
      obtain rfl : w = v := Option.some.inj hfound
      exact ⟨front, back, rfl, hback⟩
  · rintro ⟨front, back, rfl, hback⟩
    exact hlast hback

end Lookup

omit [Std.TransOrd κ] in
/-- A part of a map answers for the keys that it keeps. -/
theorem get?_filterKeys (m : SortedMap κ ν) (keep : κ → Bool) (k : κ) :
    (m.filterKeys keep).get? k = if keep k then m.get? k else none := by
  refine Option.ext fun v => ?_
  rw [get?_eq_some_iff, filterKeys, List.mem_filter]
  by_cases hk : keep k = true
  · rw [if_pos hk, get?_eq_some_iff]
    simp [hk]
  · simp [hk]

omit [Std.TransOrd κ] in
/-- A key that is erased is found no longer, and all others are found as before. -/
theorem get?_erase [DecidableEq κ] (m : SortedMap κ ν) (k k' : κ) :
    (m.erase k).get? k' = if k' = k then none else m.get? k' := by
  have hcompare : (compare k k' != .eq) = !decide (k' = k) := by
    rw [Bool.eq_iff_iff, bne_iff_ne, ne_eq, Std.LawfulEqCmp.compare_eq_iff_eq, eq_comm,
      Bool.not_eq_true', decide_eq_false_iff_not]
  rw [erase, get?_filterKeys, hcompare]
  by_cases hk : k' = k <;> simp [hk]

end SortedMap

end Chargen
