import Chargen.Proofs.SkillName
import Chargen.Proofs.SortedMap
import Chargen.Spending
import Mathlib.Algebra.BigOperators.Group.List.Basic
import Mathlib.Algebra.GroupWithZero.Nat
import Mathlib.Algebra.Ring.Int.Defs

/-!
# Points and pools

What a pool says about a skill depends on the key of its name only. Points are neither lost nor
counted twice when a pool is asked skill by skill.

* `Pool.merged_eq`: merging lists each skill once, under its first spelling, with its points.
* `Pool.points_assign`: new points for a skill are those of all its spellings, and no other skill
  changes.
* `Pool.get?_assign`: which entries a pool has then.
* `Pool.sum_points`: **the points of the skills add up to the points of the pool**.
-/

namespace Chargen

/-! ### Clipped sums -/

theorem clip_clip_add {m n : Int} (hm : 0 ≤ m) (hn : 0 ≤ n) : clip (clip m + n) = clip (m + n) := by
  unfold clip minNumber maxNumber
  split <;> split <;> (try split) <;> (try split) <;> omega

theorem clip_natCast_nonneg (n : Nat) : 0 ≤ clip n := by
  unfold clip minNumber maxNumber
  split <;> (try split) <;> omega

theorem clip_toNat {n : Int} (h : n ≤ maxNumber) : clip n.toNat = max 0 n := by
  unfold clip minNumber maxNumber
  unfold maxNumber at h
  split <;> (try split) <;> omega

/-- A bound below the greatest sheet number needs no clipping. -/
theorem le_of_clip_le {m n : Int} (hm : m < maxNumber) (h : clip n ≤ m) : n ≤ m := by
  unfold clip minNumber maxNumber at h
  unfold maxNumber at hm
  split at h <;> (try split at h) <;> omega

/-- Clipping the terms of a sum makes no difference once the sum is clipped. -/
theorem clip_sum_clip (ns : List Nat) :
    clip (ns.map fun n : Nat => clip n).sum = clip (ns.sum : Nat) := by
  have hnonneg : ∀ ns : List Nat, 0 ≤ (ns.map fun n : Nat => clip n).sum := by
    intro ns
    induction ns with
    | nil => simp
    | cons n ns ih =>
      have := clip_natCast_nonneg n
      rw [List.map_cons, List.sum_cons]
      omega
  induction ns with
  | nil => rfl
  | cons n ns ih =>
    have hsum : clip (ns.map fun n : Nat => clip n).sum + (n : Int) = clip (ns.sum : Nat) + n := by
      rw [ih]
    rw [List.map_cons, List.sum_cons, clip_clip_add (by omega) (hnonneg ns), add_comm,
      ← clip_clip_add (hnonneg ns) (by omega), hsum, clip_clip_add (by omega) (by omega),
      List.sum_cons, add_comm, Int.natCast_add]

namespace Pool

/-! ### Totals over entries -/

/-- The points of the entries whose name passes a test. -/
def total (keep : String → Bool) (es : List (String × Nat)) : Nat :=
  ((es.filter fun e => keep e.1).map Prod.snd).sum

section Total

variable {keep : String → Bool} {es fs : List (String × Nat)}

theorem sumWhere_eq_total (p : Pool) : p.sumWhere keep = total keep p.entries := rfl

theorem total_cons (e : String × Nat) :
    total keep (e :: es) = (if keep e.1 then e.2 else 0) + total keep es := by
  unfold total
  cases h : keep e.1 <;> simp [h]

theorem total_perm (h : es.Perm fs) : total keep es = total keep fs :=
  ((h.filter _).map _).sum_eq

theorem total_filter (test : String → Bool) :
    total keep (es.filter fun e => test e.1) = total (fun name => keep name && test name) es := by
  rw [total, total, List.filter_filter]

theorem total_eq_zero (h : ∀ e ∈ es, keep e.1 = false) : total keep es = 0 := by
  rw [total, List.filter_eq_nil_iff.mpr fun e he => by simp [h e he]]
  rfl

end Total

/-! ### Skill by skill -/

/-- A value given to the names of one skill, summed over names of different skills, is there once if
the skill is named. -/
theorem sum_same {names : List String}
    (hnames : names.Pairwise fun a b => SkillName.key a ≠ SkillName.key b) (skill : String)
    (v : Nat) :
    (names.map fun n => if SkillName.same skill n then v else 0).sum =
      if names.any (SkillName.same skill) then v else 0 := by
  induction names with
  | nil => rfl
  | cons first rest ih =>
    obtain ⟨hfirst, hrest⟩ := List.pairwise_cons.mp hnames
    rw [List.map_cons, List.sum_cons, ih hrest, List.any_cons]
    cases h : SkillName.same skill first with
    | false => simp
    | true =>
      have hno : rest.any (SkillName.same skill) = false := by
        rw [List.any_eq_false]
        intro n hn hsame
        rw [SkillName.same_iff] at h hsame
        exact hfirst n hn (h.symm.trans hsame)
      simp [hno]

/-- Entries split by skill add up to all of them. -/
theorem sum_total_same {names : List String} {keep : String → Bool}
    (hnames : names.Pairwise fun a b => SkillName.key a ≠ SkillName.key b)
    (hkeep : ∀ a b, SkillName.key a = SkillName.key b → keep a = keep b)
    {es : List (String × Nat)}
    (hcover : ∀ e ∈ es, ∃ n ∈ names, SkillName.key n = SkillName.key e.1) :
    ((names.filter keep).map fun n => total (fun name => SkillName.same name n) es).sum =
      total keep es := by
  induction es with
  | nil => simp [total]
  | cons e rest ih =>
    have hstep : ∀ n, total (fun name => SkillName.same name n) (e :: rest) =
        (if SkillName.same e.1 n then e.2 else 0) +
          total (fun name => SkillName.same name n) rest := fun n => total_cons e
    -- `e` counts for exactly one name, if the test keeps the names of its skill at all.
    have hany : (names.filter keep).any (SkillName.same e.1) = keep e.1 := by
      rw [Bool.eq_iff_iff, List.any_eq_true]
      constructor
      · rintro ⟨n, hn, hsame⟩
        rw [hkeep e.1 n (SkillName.same_iff.mp hsame)]
        exact (List.mem_filter.mp hn).2
      · intro he
        obtain ⟨n, hn, hkey⟩ := hcover e (by simp)
        exact ⟨n, List.mem_filter.mpr ⟨hn, by rw [hkeep n e.1 hkey, he]⟩,
          SkillName.same_iff.mpr hkey.symm⟩
    rw [List.map_congr_left fun n _ => hstep n, List.sum_map_add,
      sum_same (hnames.filter keep), hany, total_cons,
      ih fun e he => hcover e (List.mem_cons_of_mem _ he)]

variable (p : Pool)

theorem points_eq (skill : String) :
    p.points skill = clip (total (fun name => SkillName.same name skill) p.entries) := rfl

theorem points_congr {a b : String} (h : SkillName.key a = SkillName.key b) :
    p.points a = p.points b := by
  have htest : (fun name => SkillName.same name a) = fun name => SkillName.same name b := by
    funext name
    rw [SkillName.same, SkillName.same, h]
  rw [points, points, htest]

theorem points_nonneg (skill : String) : 0 ≤ p.points skill :=
  clip_natCast_nonneg _

/-- A skill with points has an entry under one of its spellings. -/
theorem exists_entry_of_points {skill : String} (h : p.points skill ≠ 0) :
    ∃ e ∈ p.entries, SkillName.key e.1 = SkillName.key skill := by
  by_contra hnone
  push Not at hnone
  have hzero : total (fun name => SkillName.same name skill) p.entries = 0 :=
    total_eq_zero fun e he => by simpa [SkillName.same] using hnone e he
  rw [points_eq, hzero] at h
  exact h rfl

/-- **The points of the skills add up to the points of the pool**, both clipped. -/
theorem sum_points {names : List String} {keep : String → Bool}
    (hnames : names.Pairwise fun a b => SkillName.key a ≠ SkillName.key b)
    (hkeep : ∀ a b, SkillName.key a = SkillName.key b → keep a = keep b)
    (hcover : ∀ e ∈ p.entries, ∃ n ∈ names, SkillName.key n = SkillName.key e.1) :
    clip ((names.filter keep).map p.points).sum = clip (p.sumWhere keep) := by
  rw [sumWhere_eq_total, ← sum_total_same hnames hkeep hcover, ← clip_sum_clip, List.map_map]
  rfl

/-! ### Merging -/

/-- Adding points to a key that is listed changes its sum only. -/
theorem addTo_of_mem {key name : String} {points : Nat} {sums : List (String × String × Nat)}
    (hdistinct : (sums.map Prod.fst).Nodup) (h : key ∈ sums.map Prod.fst) :
    addTo key name points sums =
      sums.map fun s => (s.1, s.2.1, s.2.2 + if s.1 = key then points else 0) := by
  induction sums with
  | nil => simp at h
  | cons s rest ih =>
    obtain ⟨k, n, sum⟩ := s
    rw [List.map_cons, List.nodup_cons] at hdistinct
    rw [addTo]
    by_cases hk : k = key
    · subst hk
      have hothers : rest.map (fun s => (s.1, s.2.1, s.2.2 + if s.1 = k then points else 0)) =
          rest.map id := by
        refine List.map_congr_left fun s hs => ?_
        have hne : s.1 ≠ k := fun heq => hdistinct.1 (List.mem_map.mpr ⟨s, hs, heq⟩)
        simp [hne]
      simp [hothers]
    · have hmem : key ∈ rest.map Prod.fst := by
        rcases List.mem_cons.mp h with heq | hmem
        · exact absurd heq.symm hk
        · exact hmem
      rw [if_neg (by simpa using hk), ih hdistinct.2 hmem]
      simp [hk]

/-- Points for a key that is not listed make a new entry at the end. -/
theorem addTo_of_notMem {key name : String} {points : Nat} {sums : List (String × String × Nat)}
    (h : key ∉ sums.map Prod.fst) : addTo key name points sums = sums ++ [(key, name, points)] := by
  induction sums with
  | nil => rfl
  | cons s rest ih =>
    obtain ⟨k, n, sum⟩ := s
    rw [List.map_cons, List.mem_cons, not_or] at h
    rw [addTo, if_neg (by simpa using fun hk : k = key => h.1 hk.symm), ih h.2]
    rfl

/-- A sum with the points of further entries for its key. -/
def raised (es : List (String × Nat)) (s : String × String × Nat) : String × String × Nat :=
  (s.1, s.2.1, s.2.2 + total (fun name => SkillName.key name == s.1) es)

/-- The sum of the entries of a skill, under one of its names. -/
def gathered (es : List (String × Nat)) (name : String) : String × String × Nat :=
  (SkillName.key name, name, total (fun other => SkillName.same other name) es)

theorem raised_cons (e : String × Nat) (es : List (String × Nat)) (s : String × String × Nat) :
    raised (e :: es) s =
      raised es (s.1, s.2.1, s.2.2 + if s.1 = SkillName.key e.1 then e.2 else 0) := by
  rw [raised, raised, total_cons, ← add_assoc]
  by_cases h : s.1 = SkillName.key e.1
  · rw [if_pos h, if_pos (beq_iff_eq.mpr h.symm)]
  · rw [if_neg h, if_neg fun heq => h (beq_iff_eq.mp heq).symm]

theorem raised_of_ne {e : String × Nat} {s : String × String × Nat}
    (h : s.1 ≠ SkillName.key e.1) (es : List (String × Nat)) :
    raised (e :: es) s = raised es s := by
  rw [raised_cons, if_neg h, add_zero]

theorem gathered_of_ne {e : String × Nat} {name : String}
    (h : SkillName.key name ≠ SkillName.key e.1) (es : List (String × Nat)) :
    gathered (e :: es) name = gathered es name := by
  have hsame : SkillName.same e.1 name = false := by
    rw [Bool.eq_false_iff, ne_eq, SkillName.same_iff]
    exact fun heq => h heq.symm
  rw [gathered, gathered, total_cons, hsame]
  simp

theorem gathered_self (e : String × Nat) (es : List (String × Nat)) :
    gathered (e :: es) e.1 = raised es (SkillName.key e.1, e.1, e.2) := by
  rw [gathered, raised, total_cons, SkillName.same_iff.mpr rfl]
  rfl

/-- A run of additions adds to every key that is listed, and lists every other key once, under the
first of its spellings. -/
theorem foldl_addTo (es : List (String × Nat)) {sums : List (String × String × Nat)}
    (hdistinct : (sums.map Prod.fst).Nodup) :
    es.foldl (fun sums e => addTo (SkillName.key e.1) e.1 e.2 sums) sums =
      sums.map (raised es) ++
        (SkillName.distinctFrom (sums.map Prod.fst) (es.map Prod.fst)).map (gathered es) := by
  induction es generalizing sums with
  | nil =>
    have hid : raised [] = id := rfl
    simp [SkillName.distinctFrom, hid]
  | cons e rest ih =>
    -- A name that is kept after `e` names another skill, so `e` adds nothing to it.
    have hlater : ∀ {seen}, SkillName.key e.1 ∈ seen →
        (SkillName.distinctFrom seen (rest.map Prod.fst)).map (gathered (e :: rest)) =
          (SkillName.distinctFrom seen (rest.map Prod.fst)).map (gathered rest) := by
      intro seen hseen
      refine List.map_congr_left fun n hn => gathered_of_ne ?_ rest
      exact fun heq => SkillName.key_notMem_of_mem_distinctFrom hn (heq ▸ hseen)
    rw [List.foldl_cons, List.map_cons, SkillName.distinctFrom]
    by_cases hmem : SkillName.key e.1 ∈ sums.map Prod.fst
    · rw [addTo_of_mem hdistinct hmem, if_pos (by simpa using hmem), hlater hmem, ih, List.map_map,
        List.map_map]
      · rw [List.map_congr_left fun s _ => raised_cons e rest s]
        rfl
      · rw [List.map_map]
        exact hdistinct
    · have hseen : ∀ k, k ∈ (sums ++ [(SkillName.key e.1, e.1, e.2)]).map Prod.fst ↔
          k ∈ SkillName.key e.1 :: sums.map Prod.fst := by simp [or_comm]
      rw [addTo_of_notMem hmem, if_neg (by simpa using hmem), ih, List.map_append,
        SkillName.distinctFrom_congr hseen, List.append_assoc, List.map_cons (f := gathered (e :: rest)),
        hlater List.mem_cons_self, gathered_self]
      · rw [List.map_congr_left fun s hs => raised_of_ne ?_ rest]
        · rfl
        · exact fun heq => hmem (heq ▸ List.mem_map_of_mem hs)
      · rw [List.map_append, List.map_cons, List.map_nil, List.nodup_append]
        refine ⟨hdistinct, by simp, ?_⟩
        intro k hk k' hlast heq
        rw [heq, List.mem_singleton.mp hlast] at hk
        exact hmem hk

/-- **Merging lists each skill once**, under the first of its spellings, with its points. -/
theorem merged_eq :
    p.merged = (SkillName.distinct (p.entries.map Prod.fst)).map fun n => (n, p.points n) := by
  rw [merged, foldl_addTo p.entries (by simp), List.map_nil, List.nil_append, List.map_map]
  rfl

theorem merged_names : p.merged.map Prod.fst = SkillName.distinct (p.entries.map Prod.fst) := by
  rw [merged_eq, List.map_map]
  exact List.map_id _

/-- A skill with points is listed under one of its spellings. -/
theorem exists_mem_merged {skill : String} (h : p.points skill ≠ 0) :
    ∃ n, (n, p.points skill) ∈ p.merged ∧ SkillName.key n = SkillName.key skill := by
  obtain ⟨e, he, hkey⟩ := p.exists_entry_of_points h
  obtain ⟨n, hn, hkey'⟩ := SkillName.exists_mem_distinct (List.mem_map_of_mem (f := Prod.fst) he)
  refine ⟨n, ?_, hkey'.trans hkey⟩
  rw [merged_eq, ← p.points_congr (hkey'.trans hkey)]
  exact List.mem_map.mpr ⟨n, hn, rfl⟩

/-! ### New points for a skill -/

/-- Putting an entry for a new key adds it to the entries. -/
theorem perm_put {k : String} {v : Nat} {es : List (String × Nat)} (h : ∀ e ∈ es, e.1 ≠ k) :
    (SortedMap.put k v es).Perm ((k, v) :: es) := by
  induction es with
  | nil => exact .refl _
  | cons e rest ih =>
    rw [SortedMap.put]
    split
    · exact .refl _
    · next heq => exact absurd (Std.LawfulEqCmp.compare_eq_iff_eq.mp heq).symm (h e (by simp))
    · exact ((ih fun d hd => h d (List.mem_cons_of_mem _ hd)).cons e).trans (.swap ..)

/-- New points for a skill make one entry, under its trimmed name, in place of all its spellings. -/
theorem assign_perm (skill : String) (n : Nat) :
    (p.assign skill n).entries.Perm ((if n = 0 then [] else [(Text.trimmed skill, n)]) ++
      p.entries.filter fun e => !SkillName.same e.1 skill) := by
  rw [assign]
  by_cases hn : n = 0
  · rw [if_pos hn, if_pos hn]
    exact .refl _
  · -- Every spelling of the skill is taken out first, so the trimmed one is a new key.
    rw [if_neg hn, if_neg hn]
    refine perm_put ?_
    intro e he heq
    have hother : (!SkillName.same e.1 skill) = true := (List.mem_filter.mp he).2
    rw [heq, SkillName.same, SkillName.key_trimmed] at hother
    simp at hother

/-- New points for a skill are counted once, and no other skill changes. -/
theorem total_assign (keep : String → Bool) (skill : String) (n : Nat) :
    total keep (p.assign skill n).entries =
      (if keep (Text.trimmed skill) then n else 0) +
        total (fun name => keep name && !SkillName.same name skill) p.entries := by
  rw [total_perm (p.assign_perm skill n), ← total_filter fun name => !SkillName.same name skill]
  by_cases hn : n = 0
  · simp [hn]
  · rw [if_neg hn, List.singleton_append, total_cons]

/-- New points for a skill are those of all its spellings, before anything is clipped. -/
theorem sumWhere_same_assign (skill : String) (n : Nat) (name : String) :
    (p.assign skill n).sumWhere (fun other => SkillName.same other name) =
      if SkillName.same name skill then n
      else p.sumWhere fun other => SkillName.same other name := by
  rw [sumWhere_eq_total, sumWhere_eq_total, total_assign, SkillName.same, SkillName.key_trimmed]
  by_cases h : SkillName.key name = SkillName.key skill
  · have hnone : total (fun other => SkillName.same other name && !SkillName.same other skill)
        p.entries = 0 :=
      total_eq_zero fun e _ => by simp [SkillName.same, h]
    rw [hnone, SkillName.same_iff.mpr h]
    simp [h]
  · have hsame : (fun other => SkillName.same other name && !SkillName.same other skill) =
        fun other => SkillName.same other name := by
      funext other
      by_cases ho : SkillName.key other = SkillName.key name
      · simp [SkillName.same, ho, h]
      · simp [SkillName.same, ho]
    have hne : SkillName.key skill ≠ SkillName.key name := fun heq => h heq.symm
    rw [hsame, if_neg (by simpa using hne), if_neg (by simpa [SkillName.same] using h),
      Nat.zero_add]

/-- **New points for a skill are those of all its spellings.** -/
theorem points_assign (skill : String) (n : Nat) (name : String) :
    (p.assign skill n).points name =
      if SkillName.same name skill then clip n else p.points name := by
  rw [points, sumWhere_same_assign]
  split <;> rfl

/-- New points for a skill are found under its trimmed name, and none of its other spellings is. -/
theorem get?_assign (skill : String) (n : Nat) (name : String) :
    (p.assign skill n).get? name =
      if SkillName.same name skill then
        if n ≠ 0 ∧ name = Text.trimmed skill then some n else none
      else p.get? name := by
  have hothers : (SortedMap.filterKeys p fun other => !SkillName.same other skill).get? name =
      if SkillName.same name skill then none else p.get? name := by
    rw [SortedMap.get?_filterKeys]
    cases SkillName.same name skill <;> rfl
  have htrimmed : SkillName.same (Text.trimmed skill) skill = true :=
    SkillName.same_iff.mpr (SkillName.key_trimmed skill)
  rw [assign]
  by_cases hn : n = 0
  · rw [if_pos hn, hothers]
    simp [hn]
  · rw [if_neg hn, SortedMap.get?_insert, hothers]
    by_cases hname : name = Text.trimmed skill
    · rw [if_pos hname, hname, htrimmed, if_pos rfl, if_pos ⟨hn, rfl⟩]
    · simp [hname]

/-- New points for a skill leave the entries of all other skills. -/
theorem filterKeys_assign (skill : String) (n : Nat) :
    (p.assign skill n).filterKeys (fun name => !SkillName.same name skill) =
      SortedMap.filterKeys p fun name => !SkillName.same name skill := by
  refine SortedMap.ext_get? fun name => ?_
  rw [SortedMap.get?_filterKeys, SortedMap.get?_filterKeys, get?_assign]
  cases SkillName.same name skill <;> rfl

end Pool

end Chargen
