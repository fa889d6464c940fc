import Chargen.Proofs.Respelling
import Mathlib.Data.List.Nodup

/-!
# Names without repetitions, part by part

Names that come from several lists, each skill once, are those of the first list, then those of the
second list that are new, and so on. Lists in which repetitions were left out before give the same
names.

* `SkillName.distinct_eq_firstNames`: **names without repetitions are the first names of each
  skill**.
* `SkillName.distinct_append`: the names of two lists, each skill once.
* `SkillName.distinct_append_distinct`: repetitions may be left out before lists are put together.
* `SkillName.countP_same`: **a skill that is named is named once**.
-/

namespace Chargen.SkillName

/-- The names of skills that another list does not name. -/
def without (names others : List String) : List String :=
  names.filter fun name => !others.any (same name)

theorem without_append (names more others : List String) :
    without (names ++ more) others = without names others ++ without more others :=
  List.filter_append ..

/-- Names of a skill that is named by another list may be left out first. -/
theorem without_filter {others : List String} {skill : String}
    (h : ∃ other ∈ others, key other = key skill) (names : List String) :
    without (names.filter fun name => !same name skill) others = without names others := by
  rw [without, without, List.filter_filter]
  refine List.filter_congr fun name _ => ?_
  by_cases hsame : same name skill = true
  · obtain ⟨other, hother, hkey⟩ := h
    have hnamed : others.any (same name) = true :=
      List.any_eq_true.mpr ⟨other, hother, same_iff.mpr ((same_iff.mp hsame).trans hkey.symm)⟩
    rw [hnamed, hsame]
    rfl
  · simp [hsame]

/-- The names of skills that another list does not name are those whose keys it does not have. -/
theorem without_eq (names others : List String) :
    without names others = names.filter fun name => !(others.map key).contains (key name) := by
  refine List.filter_congr fun name _ => ?_
  rw [List.contains_map, Bool.not_inj_iff]
  exact List.any_congr rfl fun other => rfl

/-! ### Keys seen before -/

section Seen

variable {first : String} {seen : List String}

theorem distinctFrom_cons_of_mem (h : key first ∈ seen) (rest : List String) :
    distinctFrom seen (first :: rest) = distinctFrom seen rest := by
  rw [distinctFrom, if_pos (by simpa using h)]

theorem distinctFrom_cons_of_notMem (h : key first ∉ seen) (rest : List String) :
    distinctFrom seen (first :: rest) = first :: distinctFrom (key first :: seen) rest := by
  rw [distinctFrom, if_neg (by simpa using h)]

end Seen

/-- Behind the names of a list all of its keys are seen. -/
theorem distinctFrom_append (seen xs ys : List String) : distinctFrom seen (xs ++ ys) =
    distinctFrom seen xs ++ distinctFrom (xs.map key ++ seen) ys := by
  -- Only which keys were seen matters, not in which order (`distinctFrom_congr`).
  induction xs generalizing seen with
  | nil => rfl
  | cons first rest ih =>
    rw [List.cons_append]
    by_cases hseen : key first ∈ seen
    · have hkeys : ∀ k, k ∈ rest.map key ++ seen ↔ k ∈ (first :: rest).map key ++ seen := by
        intro k
        rw [List.map_cons, List.cons_append, List.mem_cons]
        refine ⟨.inr, ?_⟩
        rintro (rfl | hk)
        · exact List.mem_append_right _ hseen
        · exact hk
      rw [distinctFrom_cons_of_mem hseen, distinctFrom_cons_of_mem hseen, ih,
        distinctFrom_congr hkeys]
    · have hkeys : ∀ k, k ∈ rest.map key ++ key first :: seen ↔
          k ∈ (first :: rest).map key ++ seen := by
        intro k
        simp only [List.map_cons, List.cons_append, List.mem_cons, List.mem_append]
        exact or_left_comm
      rw [distinctFrom_cons_of_notMem hseen, distinctFrom_cons_of_notMem hseen, ih,
        distinctFrom_congr hkeys, List.cons_append]

/-- Names whose keys were seen before may be left out first. -/
theorem distinctFrom_append_seen (more seen names : List String) :
    distinctFrom (more ++ seen) names =
      distinctFrom seen (names.filter fun name => !more.contains (key name)) := by
  induction names generalizing seen with
  | nil => rfl
  | cons first rest ih =>
    by_cases hmore : key first ∈ more
    · rw [distinctFrom_cons_of_mem (List.mem_append_left _ hmore),
        List.filter_cons_of_neg (by simp [hmore]), ih]
    · rw [List.filter_cons_of_pos (by simp [hmore])]
      by_cases hseen : key first ∈ seen
      · rw [distinctFrom_cons_of_mem (List.mem_append_right _ hseen),
          distinctFrom_cons_of_mem hseen, ih]
      · have hkeys : ∀ k, k ∈ key first :: (more ++ seen) ↔ k ∈ more ++ key first :: seen := by
          intro k
          simp only [List.mem_cons, List.mem_append]
          exact or_left_comm
        have hneither : key first ∉ more ++ seen := by
          rw [List.mem_append, not_or]
          exact ⟨hmore, hseen⟩
        rw [distinctFrom_cons_of_notMem hneither, distinctFrom_cons_of_notMem hseen,
          distinctFrom_congr hkeys, ih]

/-- Repetitions may be left out first, of no more keys than are seen later. -/
theorem distinctFrom_distinctFrom {seen seen' : List String} (h : ∀ k ∈ seen', k ∈ seen)
    (names : List String) :
    distinctFrom seen (distinctFrom seen' names) = distinctFrom seen names := by
  induction names generalizing seen seen' with
  | nil => rfl
  | cons first rest ih =>
    by_cases hseen' : key first ∈ seen'
    · rw [distinctFrom_cons_of_mem hseen', distinctFrom_cons_of_mem (h _ hseen'), ih h]
    · rw [distinctFrom_cons_of_notMem hseen']
      by_cases hseen : key first ∈ seen
      · rw [distinctFrom_cons_of_mem hseen, distinctFrom_cons_of_mem hseen]
        exact ih (List.forall_mem_cons.mpr ⟨hseen, h⟩)
      · rw [distinctFrom_cons_of_notMem hseen, distinctFrom_cons_of_notMem hseen, ih]
        exact fun k hk => (List.mem_cons.mp hk).elim (· ▸ List.mem_cons_self)
          fun hk => List.mem_cons_of_mem _ (h k hk)

/-! ### First names -/

/-- The names of skills that no name before them names. -/
def firstNames (names : List String) : List String :=
  (names.zipIdx.filter fun (name, place) => !(names.take place).any (same name)).map Prod.fst

theorem any_same_iff {names : List String} {name : String} :
    names.any (same name) = true ↔ key name ∈ names.map key := by
  rw [List.any_eq_true, List.mem_map]
  constructor
  · rintro ⟨other, hother, hsame⟩
    exact ⟨other, hother, (same_iff.mp hsame).symm⟩
  · rintro ⟨other, hother, hkey⟩
    exact ⟨other, hother, same_iff.mpr hkey.symm⟩

/-- What is kept behind earlier names are the names of skills that no name before them names. -/
theorem distinctFrom_eq_firstNames (earlier names : List String) :
    distinctFrom (earlier.map key) names =
      ((names.zipIdx earlier.length).filter fun (name, place) =>
        !((earlier ++ names).take place).any (same name)).map Prod.fst := by
  induction names generalizing earlier with
  | nil => rfl
  | cons first rest ih =>
    have hkeys : ∀ k, k ∈ (earlier ++ [first]).map key ↔ k ∈ key first :: earlier.map key := by
      intro k
      rw [List.map_append, List.mem_append, List.mem_cons, List.map_singleton, List.mem_singleton]
      exact or_comm
    have hrest := ih (earlier ++ [first])
    rw [distinctFrom_congr hkeys, List.length_append, List.length_singleton, List.append_assoc,
      List.singleton_append] at hrest
    rw [List.zipIdx_cons]
    by_cases hseen : key first ∈ earlier.map key
    · have hany := any_same_iff.mpr hseen
      rw [distinctFrom_cons_of_mem hseen, List.filter_cons_of_neg (by simp [hany]), ← hrest]
      apply distinctFrom_congr
      intro k
      rw [List.mem_cons, or_iff_right_of_imp]
      rintro rfl
      exact hseen
    · have hany : earlier.any (same first) = false := by
        rw [Bool.eq_false_iff, ne_eq, any_same_iff]
        exact hseen
      rw [distinctFrom_cons_of_notMem hseen, List.filter_cons_of_pos (by simp [hany]),
        List.map_cons, ← hrest]

/-- **Names without repetitions are the first names of each skill.** -/
theorem distinct_eq_firstNames (names : List String) : distinct names = firstNames names :=
  distinctFrom_eq_firstNames [] names

/-! ### Lists put together -/

/-- Repetitions may be left out of each of several lists before they are put together. -/
theorem distinct_flatMap_distinct {α : Type} (f : α → List String) (xs : List α) :
    distinct (xs.flatMap fun x => distinct (f x)) = distinct (xs.flatMap f) := by
  have hseen : ∀ seen, distinctFrom seen (xs.flatMap fun x => distinct (f x)) =
      distinctFrom seen (xs.flatMap f) := by
    intro seen
    induction xs generalizing seen with
    | nil => rfl
    | cons x rest ih =>
      have hkeys : ∀ k, k ∈ (distinct (f x)).map key ++ seen ↔ k ∈ (f x).map key ++ seen := by
        intro k
        rw [List.mem_append, List.mem_append, mem_keys_distinct_iff]
      have hhead : distinctFrom seen (distinct (f x)) = distinctFrom seen (f x) :=
        distinctFrom_distinctFrom (by simp) (f x)
      rw [List.flatMap_cons, List.flatMap_cons, distinctFrom_append, distinctFrom_append, hhead,
        ih, distinctFrom_congr hkeys]
  exact hseen []

variable (xs ys zs : List String)

theorem distinct_append_eq : distinct (xs ++ ys) = distinct xs ++ distinctFrom (xs.map key) ys := by
  rw [distinct, distinctFrom_append, List.append_nil]
  rfl

/-- **The names of two lists, each skill once**: those of the first list, and then those of the
second one that are new. -/
theorem distinct_append : distinct (xs ++ ys) = distinct xs ++ distinct (without ys xs) := by
  have hseen := distinctFrom_append_seen (xs.map key) [] ys
  rw [List.append_nil] at hseen
  rw [distinct_append_eq, hseen, without_eq]
  rfl

/-- Repetitions may be left out before lists are put together. -/
theorem distinct_append_distinct :
    distinct (xs ++ (distinct ys ++ distinct zs)) = distinct (xs ++ (ys ++ zs)) := by
  have hkeys : ∀ k, k ∈ (distinct ys).map key ++ xs.map key ↔ k ∈ ys.map key ++ xs.map key := by
    intro k
    rw [List.mem_append, List.mem_append, mem_keys_distinct_iff]
  have hleft : ∀ seen names, distinctFrom seen (distinct names) = distinctFrom seen names :=
    fun seen names => distinctFrom_distinctFrom (by simp) names
  rw [distinct_append_eq, distinct_append_eq, distinctFrom_append, distinctFrom_append, hleft,
    hleft, distinctFrom_congr hkeys]

/-- **A skill that is named is named once** by names of different skills. -/
theorem countP_same {names : List String} (hnames : names.Pairwise fun a b => key a ≠ key b)
    {skill : String} (h : ∃ name ∈ names, key name = key skill) :
    names.countP (fun name => same name skill) = 1 := by
  have hnodup : (names.map key).Nodup := List.pairwise_map.mpr hnames
  have hcount := List.count_eq_one_of_mem hnodup (List.mem_map.mpr h)
  rw [List.count, List.countP_map] at hcount
  exact hcount

end Chargen.SkillName
