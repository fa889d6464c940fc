/-!
# Maps in key order

A `SortedMap` holds its entries in strictly ascending key order, so two maps with the same entries
are equal and a walk over one needs no further ordering.

* `get?_insert`: an insertion is seen at its key and nowhere else.
* `get?_eq_some_iff`: a value is found exactly when its entry is stored.
* `ext_get?`: maps that answer every look-up alike are equal.
-/

namespace Chargen

/-- Entries in strictly ascending key order. -/
structure SortedMap (κ ν : Type) [Ord κ] where
  /-- the stored pairs -/
  entries : List (κ × ν)
  /-- each key is below every later one -/
  ascending : entries.Pairwise fun a b => compare a.1 b.1 = .lt

namespace SortedMap

variable {κ ν : Type} [Ord κ]

instance [DecidableEq κ] [DecidableEq ν] : DecidableEq (SortedMap κ ν) := fun a b =>
  if h : a.entries = b.entries then
    .isTrue (by cases a; cases b; cases h; rfl)
  else .isFalse fun hab => h (congrArg entries hab)

/-- The map without entries. -/
def empty : SortedMap κ ν := ⟨[], .nil⟩

instance : Inhabited (SortedMap κ ν) := ⟨empty⟩

/-- The value stored for a key. -/
def get? (m : SortedMap κ ν) (k : κ) : Option ν :=
  (m.entries.find? fun e => compare k e.1 == .eq).map Prod.snd

/-- Whether a key has an entry. -/
def contains (m : SortedMap κ ν) (k : κ) : Bool :=
  (m.get? k).isSome

/-- The keys, ascending. -/
def keys (m : SortedMap κ ν) : List κ :=
  m.entries.map Prod.fst

/-- The number of entries. -/
def size (m : SortedMap κ ν) : Nat :=
  m.entries.length

/-- The entries whose key passes a test. -/
def filterKeys (m : SortedMap κ ν) (keep : κ → Bool) : SortedMap κ ν :=
  ⟨m.entries.filter fun e => keep e.1, m.ascending.filter _⟩

/-- An entry put at its place in a list of entries, in place of one with the same key. -/
def put (k : κ) (v : ν) : List (κ × ν) → List (κ × ν)
  | [] => [(k, v)]
  | e :: rest =>
    match compare k e.1 with
    | .lt => (k, v) :: e :: rest
    | .eq => (k, v) :: rest
    | .gt => e :: put k v rest

/-- What `put` stores is the new entry or an old one. -/
theorem mem_put {k : κ} {v : ν} {es : List (κ × ν)} {x : κ × ν} (h : x ∈ put k v es) :
    x = (k, v) ∨ x ∈ es := by
  induction es with
  | nil => simpa [put] using h
  | cons e rest ih =>
    rw [put] at h
    split at h
    · simpa using h
    · rcases List.mem_cons.mp h with rfl | hr
      · exact .inl rfl
      · exact .inr (List.mem_cons_of_mem _ hr)
    · rcases List.mem_cons.mp h with rfl | hr
      · exact .inr (by simp)
      · exact (ih hr).imp_right (List.mem_cons_of_mem _)

variable [Std.TransOrd κ] [Std.LawfulEqOrd κ]

/-- Putting an entry keeps the keys ascending. -/
theorem ascending_put {k : κ} {v : ν} {es : List (κ × ν)}
    (h : es.Pairwise fun a b => compare a.1 b.1 = .lt) :
    (put k v es).Pairwise fun a b => compare a.1 b.1 = .lt := by
  induction es with
  | nil => simp [put]
  | cons e rest ih =>
    obtain ⟨he, hrest⟩ := List.pairwise_cons.mp h
    rw [put]
    split
    · next hlt =>
      refine List.pairwise_cons.mpr ⟨fun x hx => ?_, h⟩
      rcases List.mem_cons.mp hx with rfl | hx
      · exact hlt
      · exact Std.TransCmp.lt_trans hlt (he x hx)
    · next heq =>
      have hk : k = e.1 := Std.LawfulEqCmp.compare_eq_iff_eq.mp heq
      exact List.pairwise_cons.mpr ⟨fun x hx => hk ▸ he x hx, hrest⟩
    · next hgt =>
      refine List.pairwise_cons.mpr ⟨fun x hx => ?_, ih hrest⟩
      rcases mem_put hx with rfl | hx
      · exact Std.OrientedCmp.gt_iff_lt.mp hgt
      · exact he x hx

/-- The map with `v` stored for `k`. -/
def insert (m : SortedMap κ ν) (k : κ) (v : ν) : SortedMap κ ν :=
  ⟨put k v m.entries, ascending_put m.ascending⟩

/-- The map without an entry for `k`. -/
def erase (m : SortedMap κ ν) (k : κ) : SortedMap κ ν :=
  m.filterKeys fun k' => compare k k' != .eq

/-- The entries of a list, a later one replacing an earlier one of the same key. -/
def ofList (es : List (κ × ν)) : SortedMap κ ν :=
  es.foldl (fun m e => m.insert e.1 e.2) empty

omit [Std.TransOrd κ] in
/-- A value is found exactly when its entry is stored. -/
theorem get?_eq_some_iff {m : SortedMap κ ν} {k : κ} {v : ν} :
    m.get? k = some v ↔ (k, v) ∈ m.entries := by
  obtain ⟨es, hes⟩ := m
  simp only [get?]
  induction es with
  | nil => simp
  | cons e rest ih =>
    obtain ⟨he, hrest⟩ := List.pairwise_cons.mp hes
    rw [List.find?_cons]
    cases hc : compare k e.1 == .eq with
    | true =>
      have hk : k = e.1 := by simpa using hc
      subst hk
      constructor
      · intro h
        cases h
        exact List.mem_cons_self
      · intro h
        rcases List.mem_cons.mp h with h | h
        · rw [← h]; rfl
        · simpa using he _ h
    | false =>
      rw [ih hrest]
      constructor
      · exact List.mem_cons_of_mem _
      · intro h
        rcases List.mem_cons.mp h with h | h
        · rw [← h] at hc; simp at hc
        · exact h

omit [Std.TransOrd κ] [Std.LawfulEqOrd κ] in
@[simp] theorem get?_empty (k : κ) : (empty : SortedMap κ ν).get? k = none := rfl

/-- An insertion is seen at its key and nowhere else. -/
theorem get?_insert (m : SortedMap κ ν) (k k' : κ) (v : ν) [DecidableEq κ] :
    (m.insert k v).get? k' = if k' = k then some v else m.get? k' := by
  obtain ⟨es, hes⟩ := m
  simp only [get?, insert]
  clear hes
  induction es with
  | nil => by_cases h : k' = k <;> simp [put, h]
  | cons e rest ih =>
    rw [put]
    split
    · by_cases h : k' = k <;> simp [List.find?_cons, h]
    · next heq =>
      have hk : k = e.1 := by simpa using heq
      by_cases h : k' = k <;> simp [← hk, h]
    · next hgt =>
      rw [List.find?_cons, List.find?_cons]
      by_cases he : k' = e.1
      · subst he
        have hne : e.1 ≠ k := fun hk => by simp [← hk] at hgt
        simp [hne]
      · have hb : (compare k' e.1 == .eq) = false := by
          rw [beq_eq_false_iff_ne]
          exact fun hc => he (Std.LawfulEqCmp.compare_eq_iff_eq.mp hc)
        rw [hb]
        exact ih

omit [Std.TransOrd κ] [Std.LawfulEqOrd κ] in
/-- Two ascending lists with the same members are equal. -/
theorem eq_of_ascending [Std.OrientedOrd κ] {xs ys : List (κ × ν)}
    (hx : xs.Pairwise fun a b => compare a.1 b.1 = .lt)
    (hy : ys.Pairwise fun a b => compare a.1 b.1 = .lt) (h : ∀ e, e ∈ xs ↔ e ∈ ys) : xs = ys := by
  induction xs generalizing ys with
  | nil =>
    cases ys with
    | nil => rfl
    | cons y ys => simpa using (h y).mpr (by simp)
  | cons x xs ih =>
    cases ys with
    | nil => simpa using (h x).mp (by simp)
    | cons y ys =>
      obtain ⟨hx1, hx2⟩ := List.pairwise_cons.mp hx
      obtain ⟨hy1, hy2⟩ := List.pairwise_cons.mp hy
      have irrefl : ∀ e : κ × ν, compare e.1 e.1 ≠ .lt := fun e hlt => by
        simp [Std.ReflCmp.compare_self] at hlt
      have hxy : x = y := by
        rcases List.mem_cons.mp ((h x).mp (by simp)) with hxy | hxy
        · exact hxy
        · rcases List.mem_cons.mp ((h y).mpr (by simp)) with hyx | hyx
          · exact hyx.symm
          · exact absurd (hx1 y hyx) (Std.OrientedCmp.not_lt_of_lt (hy1 x hxy))
      subst hxy
      congr 1
      refine ih hx2 hy2 fun e => ⟨fun he => ?_, fun he => ?_⟩
      · rcases List.mem_cons.mp ((h e).mp (List.mem_cons_of_mem _ he)) with rfl | he'
        · exact absurd (hx1 _ he) (irrefl _)
        · exact he'
      · rcases List.mem_cons.mp ((h e).mpr (List.mem_cons_of_mem _ he)) with rfl | he'
        · exact absurd (hy1 _ he) (irrefl _)
        · exact he'

/-- Maps that answer every look-up alike are equal. -/
theorem ext_get? {m m' : SortedMap κ ν} (h : ∀ k, m.get? k = m'.get? k) : m = m' := by
  have he : m.entries = m'.entries := eq_of_ascending m.ascending m'.ascending fun e => by
    obtain ⟨k, v⟩ := e
    rw [← get?_eq_some_iff, ← get?_eq_some_iff, h]
  cases m; cases m'; cases he; rfl

end SortedMap

end Chargen
