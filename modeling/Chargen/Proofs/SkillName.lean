import Chargen.Proofs.Text
import Chargen.SkillName

/-!
# Keys and families

What `SkillName.distinct` keeps, what the family of a name is, and what a key does not depend on.

* `distinct_sublist`, `distinct_pairwise`, `exists_mem_distinct`: names without repetitions are some
  of the names, no two of them name one skill, and every skill that was named is named still.
* `family?_of_family`: a family has no family.
* `key_trimmed`: blanks around a name do not matter.
-/

namespace Chargen.SkillName

theorem same_iff {a b : String} : same a b = true ↔ key a = key b := by
  simp [same]

/-! ### The skill of the credit rating -/

theorem isCredit_credit : isCredit credit = true := by
  decide +kernel

theorem isCredit_eq_same (name : String) : isCredit name = same name credit := by
  have hkey : key credit = creditKey := beq_iff_eq.mp isCredit_credit
  rw [isCredit, same, hkey]

theorem isCredit_congr {a b : String} (h : key a = key b) : isCredit a = isCredit b := by
  rw [isCredit, isCredit, h]

theorem not_isCredit_congr (a b : String) (h : key a = key b) : (!isCredit a) = !isCredit b := by
  rw [isCredit_congr h]

/-! ### Names without repetitions -/

theorem distinctFrom_sublist (seen names : List String) :
    (distinctFrom seen names).Sublist names := by
  induction names generalizing seen with
  | nil => exact .slnil
  | cons name rest ih =>
    rw [distinctFrom]
    split
    · exact (ih seen).cons _
    · exact (ih _).cons_cons _

theorem key_notMem_of_mem_distinctFrom {seen names : List String} {name : String}
    (h : name ∈ distinctFrom seen names) : key name ∉ seen := by
  induction names generalizing seen with
  | nil => cases h
  | cons first rest ih =>
    rw [distinctFrom] at h
    split at h
    · exact ih h
    · next hfirst =>
      rcases List.mem_cons.mp h with rfl | h
      · simpa using hfirst
      · exact fun hmem => ih h (List.mem_cons_of_mem _ hmem)

theorem distinctFrom_pairwise (seen names : List String) :
    (distinctFrom seen names).Pairwise fun a b => key a ≠ key b := by
  induction names generalizing seen with
  | nil => exact .nil
  | cons first rest ih =>
    rw [distinctFrom]
    split
    · exact ih seen
    · refine .cons ?_ (ih _)
      intro name hname heq
      exact key_notMem_of_mem_distinctFrom hname (heq ▸ List.mem_cons_self)

theorem exists_mem_distinctFrom {seen names : List String} {name : String} (h : name ∈ names)
    (hseen : key name ∉ seen) : ∃ kept ∈ distinctFrom seen names, key kept = key name := by
  induction names generalizing seen with
  | nil => cases h
  | cons first rest ih =>
    rw [distinctFrom]
    split
    · next hfirst =>
      rcases List.mem_cons.mp h with rfl | h
      · exact absurd (by simpa using hfirst) hseen
      · exact ih h hseen
    · by_cases heq : key name = key first
      · exact ⟨first, List.mem_cons_self, heq.symm⟩
      · rcases List.mem_cons.mp h with rfl | h
        · exact absurd rfl heq
        · have hseen' : key name ∉ key first :: seen := by simp [heq, hseen]
          obtain ⟨kept, hkept, hkey⟩ := ih h hseen'
          exact ⟨kept, List.mem_cons_of_mem _ hkept, hkey⟩

/-- Only repetitions are left out. -/
theorem distinct_sublist (names : List String) : (distinct names).Sublist names :=
  distinctFrom_sublist [] names

theorem mem_of_mem_distinct {names : List String} {name : String} (h : name ∈ distinct names) :
    name ∈ names :=
  (distinct_sublist names).mem h

/-- No two names that are kept name one skill. -/
theorem distinct_pairwise (names : List String) :
    (distinct names).Pairwise fun a b => key a ≠ key b :=
  distinctFrom_pairwise [] names

theorem distinctFrom_eq_self {seen names : List String}
    (h : names.Pairwise fun a b => key a ≠ key b) (hseen : ∀ name ∈ names, key name ∉ seen) :
    distinctFrom seen names = names := by
  induction names generalizing seen with
  | nil => rfl
  | cons first rest ih =>
    obtain ⟨hfirst, hrest⟩ := List.pairwise_cons.mp h
    have hnew : seen.contains (key first) = false := by
      simpa using hseen first List.mem_cons_self
    rw [distinctFrom, hnew, if_neg (by simp), ih hrest]
    intro name hname hmem
    rcases List.mem_cons.mp hmem with heq | hmem
    · exact hfirst name hname heq.symm
    · exact hseen name (List.mem_cons_of_mem _ hname) hmem

/-- Names of different skills are all kept. -/
theorem distinct_eq_self {names : List String} (h : names.Pairwise fun a b => key a ≠ key b) :
    distinct names = names :=
  distinctFrom_eq_self h (by simp)

/-- Every skill that was named is named by a name that is kept. -/
theorem exists_mem_distinct {names : List String} {name : String} (h : name ∈ names) :
    ∃ kept ∈ distinct names, key kept = key name :=
  exists_mem_distinctFrom h (by simp)

/-- Which names are kept depends only on which keys were seen. -/
theorem distinctFrom_congr {seen seen' : List String} (h : ∀ k, k ∈ seen ↔ k ∈ seen')
    (names : List String) : distinctFrom seen names = distinctFrom seen' names := by
  induction names generalizing seen seen' with
  | nil => rfl
  | cons first rest ih =>
    have hcontains : seen.contains (key first) = seen'.contains (key first) := by
      rw [Bool.eq_iff_iff, List.contains_iff_mem, List.contains_iff_mem]
      exact h _
    rw [distinctFrom, distinctFrom, hcontains]
    split
    · exact ih h
    · have hseen : ∀ k, k ∈ key first :: seen ↔ k ∈ key first :: seen' := by simp [h]
      rw [ih hseen]

/-! ### Families -/

theorem forall_bne_of_notMem {c : Char} {cs : List Char} (h : c ∉ cs) :
    ∀ d ∈ cs, (d != c) = true := by
  intro d hd
  rw [bne_iff_ne]
  rintro rfl
  exact h hd

theorem familyChars?_eq_none {cs : List Char} (h : '(' ∉ cs) : familyChars? cs = none := by
  have hdrop : cs.dropWhile (· != '(') = [] :=
    List.dropWhile_eq_nil_iff.mpr (forall_bne_of_notMem h)
  rw [familyChars?, hdrop]

theorem notMem_of_familyChars? {cs family specialization : List Char}
    (h : familyChars? cs = some (family, specialization)) : '(' ∉ family := by
  unfold familyChars? at h
  split at h
  · cases h
  · split at h
    · cases h
    · dsimp only at h
      split at h
      · cases h
      · cases h
        intro hmem
        have htake := List.mem_takeWhile_imp (Text.mem_of_mem_trim hmem)
        simp at htake

theorem open_notMem_of_family? {name family specialization : String}
    (h : family? name = some (family, specialization)) : '(' ∉ family.toList := by
  rw [family?, Option.map_eq_some_iff] at h
  obtain ⟨⟨f, s⟩, hchars, heq⟩ := h
  obtain ⟨rfl, rfl⟩ := Prod.mk.inj heq
  rw [String.toList_ofList]
  exact notMem_of_familyChars? hchars

theorem family?_eq_none_of_open {name : String} (h : '(' ∉ name.toList) : family? name = none := by
  rw [family?, familyChars?_eq_none h]
  rfl

/-- **A family has no family.** -/
theorem family?_of_family {name family specialization : String}
    (h : family? name = some (family, specialization)) : family? family = none :=
  family?_eq_none_of_open (open_notMem_of_family? h)

/-! ### Blanks around a name -/

/-- Blanks become blanks when accents are dropped and capitals are lowered. -/
theorem isBlank_of_mem_fold {b c : Char} (hb : Text.isBlank b = true) (hc : c ∈ fold b) :
    Text.isBlank c = true := by
  have hfold : (fold b).all Text.isBlank = true :=
    Text.of_isBlank (p := fun d => (fold d).all Text.isBlank) (by decide +kernel) hb
  exact List.all_eq_true.mp hfold c hc

theorem isBlank_of_mem_flatMap_fold {bs : List Char} (hbs : ∀ b ∈ bs, Text.isBlank b = true) :
    ∀ c ∈ bs.flatMap fold, Text.isBlank c = true := by
  intro c hc
  obtain ⟨b, hb, hc⟩ := List.mem_flatMap.mp hc
  exact isBlank_of_mem_fold (hbs b hb) hc

theorem keyChars_of_trim (cs : List Char) : keyChars (Text.trim cs) = keyChars cs := by
  obtain ⟨front, back, hcs, hfront, hback⟩ := Text.exists_trim cs
  rw [congrArg keyChars hcs, keyChars, keyChars, List.flatMap_append, List.flatMap_append,
    Text.words_append_blank (isBlank_of_mem_flatMap_fold hback),
    Text.words_blank_append (isBlank_of_mem_flatMap_fold hfront)]

/-- **Blanks around a name do not matter.** -/
theorem key_trimmed (name : String) : key (Text.trimmed name) = key name := by
  rw [key, key, Text.trimmed, String.toList_ofList, keyChars_of_trim]

end Chargen.SkillName
