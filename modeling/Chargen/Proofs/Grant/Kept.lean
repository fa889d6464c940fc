import Chargen.Grant.InTurn
import Chargen.Proofs.Grant.Picks
import Chargen.Proofs.InPlace
import Chargen.Proofs.SkillName.Distinct

/-!
# Picks that are kept

Picks for a group can be taken one by one, with the keys of those kept and the number still wanted.
What is kept that way can be said without the walk: of the picks that count, the first names of each
skill, up to the number that the group asks for. So kept picks are all kept again, and picks that
are stored later never displace them.

* `properInTurn_eq`: what the walk keeps from any state of it.
* `proper_proper`: **kept picks are kept again**.
* `proper_extends`: **more picks only add to the kept ones at their end**.
* `allows_mono`: what may receive points still may with more picks.
* `proper_stable`: the three together, with what is kept.
-/

namespace Chargen

/-- The picks found after picks were stored for one group. -/
theorem Selection.picksFor_setPicks (s : Selection) (index : Nat) (skills : List String)
    (other : Nat) : (s.setPicks index skills).picksFor other =
      if other = index then skills else s.picksFor other := by
  have hstored := InPlace.get?_setPicks s index skills (s.groupRef other)
  have hfound : (s.setPicks index skills).picksFor other =
      ((s.setPicks index skills).picks.get? (s.groupRef other)).getD [] := rfl
  rw [hfound, hstored]
  by_cases h : other = index
  · rw [if_pos (by rw [h]), if_pos h]
    cases skills <;> rfl
  · have hne : s.groupRef other ≠ s.groupRef index := by
      intro heq
      exact h (congrArg GroupRef.index heq)
    rw [if_neg hne, if_neg h]
    rfl

namespace Grant

variable {r : Rulebook} {o : Occupation} {s s' : Selection} {skill : String}

/-! ### One by one -/

/-- The picks that count for a group, without the blanks around them. -/
def counting (r : Rulebook) (g : PickGroup) (picks : List String) : List String :=
  (picks.map Text.trimmed).filter (counts r g)

theorem counting_append (g : PickGroup) (picks more : List String) :
    counting r g (picks ++ more) = counting r g picks ++ counting r g more := by
  rw [counting, List.map_append, List.filter_append]
  rfl

theorem counting_cons (g : PickGroup) (written : String) (rest : List String) :
    counting r g (written :: rest) = if counts r g (Text.trimmed written) = true then
      Text.trimmed written :: counting r g rest else counting r g rest :=
  List.filter_cons

/-- **What the walk keeps** when it has seen some keys and still wants so many picks. -/
theorem properInTurn_eq (g : PickGroup) (seen : List String) (wanted : Nat) (picks : List String) :
    properInTurn r g seen wanted picks =
      (SkillName.distinctFrom seen (counting r g picks)).take wanted := by
  -- On the picks: a pick that is kept uses up one place and adds its key to those seen.
  induction picks generalizing seen wanted with
  | nil => cases wanted <;> rfl
  | cons written rest ih =>
    cases wanted with
    | zero => rfl
    | succ wanted =>
      rw [properInTurn, counting_cons]
      by_cases hcounts : counts r g (Text.trimmed written) = true
      · by_cases hseen : SkillName.key (Text.trimmed written) ∈ seen
        · rw [if_pos hcounts, SkillName.distinctFrom_cons_of_mem hseen, if_neg (by simp [hseen])]
          exact ih seen (wanted + 1)
        · rw [if_pos hcounts, SkillName.distinctFrom_cons_of_notMem hseen,
            if_pos (by simp [hcounts, hseen]), List.take_succ_cons, ih]
      · rw [if_neg hcounts, if_neg (by simp [hcounts])]
        exact ih seen (wanted + 1)

theorem counting_eq (g : PickGroup) (picks : List String) : counting r g picks =
    (tidy picks).filter fun pick => offers r g pick && !r.isForbidden pick := by
  rw [tidy, List.filter_filter]
  apply List.filter_congr
  intro pick _
  rw [counts, Bool.and_assoc, Bool.and_comm]

theorem proper_eq (g : PickGroup) (picks : List String) :
    proper r g picks = (SkillName.distinct (counting r g picks)).take g.count := by
  rw [counting_eq]
  rfl

/-- **One by one the same picks are kept.** -/
theorem properInTurn_eq_proper (g : PickGroup) (picks : List String) :
    properInTurn r g [] g.count picks = proper r g picks := by
  rw [properInTurn_eq, proper_eq]
  rfl

/-! ### Kept picks -/

/-- Picks that are kept count as they are written. -/
theorem counts_of_mem_proper {g : PickGroup} {picks : List String} {pick : String}
    (h : pick ∈ proper r g picks) : Text.trimmed pick = pick ∧ counts r g pick = true := by
  rw [proper_eq] at h
  have hcounting := SkillName.mem_of_mem_distinct (List.mem_of_mem_take h)
  obtain ⟨hmem, hcounts⟩ := List.mem_filter.mp hcounting
  obtain ⟨written, -, rfl⟩ := List.mem_map.mp hmem
  exact ⟨Text.trimmed_trimmed written, hcounts⟩

/-- **Kept picks are kept again**, all of them. -/
theorem proper_proper (g : PickGroup) (picks : List String) :
    proper r g (proper r g picks) = proper r g picks := by
  have htrimmed : (proper r g picks).map Text.trimmed = proper r g picks := by
    have hid : (proper r g picks).map Text.trimmed = (proper r g picks).map id := by
      apply List.map_congr_left
      intro pick hpick
      exact (counts_of_mem_proper hpick).1
    rw [hid, List.map_id]
  have hcounting : counting r g (proper r g picks) = proper r g picks := by
    rw [counting, htrimmed]
    apply List.filter_eq_self.mpr
    intro pick hpick
    exact (counts_of_mem_proper hpick).2
  have hdistinct : (proper r g picks).Pairwise fun a b => SkillName.key a ≠ SkillName.key b := by
    rw [proper_eq]
    exact (SkillName.distinct_pairwise _).sublist (List.take_sublist _ _)
  have hlength : (proper r g picks).length ≤ g.count := by
    rw [proper_eq]
    exact List.length_take_le _ _
  rw [proper_eq, hcounting, SkillName.distinct_eq_self hdistinct, List.take_of_length_le hlength]

/-! ### More picks -/

/-- **More picks only add to the kept ones at their end.** -/
theorem proper_extends (g : PickGroup) {picks picks' : List String} (h : picks <+: picks') :
    proper r g picks <+: proper r g picks' := by
  obtain ⟨more, rfl⟩ := h
  rw [proper_eq, proper_eq, counting_append, SkillName.distinct_append]
  apply List.IsPrefix.take
  exact List.prefix_append _ _

/-- **What may receive points still may with more picks.** -/
theorem allows_mono (hpicks : ∀ index, s.picksFor index <+: s'.picksFor index)
    (h : allows r o s skill = true) : allows r o s' skill = true := by
  rcases allows_iff.mp h with hcredit | ⟨entry, hentry, hcovers⟩
  · exact allows_iff.mpr (.inl hcredit)
  · rcases List.mem_append.mp hentry with hgrant | hpick
    · exact allows_iff.mpr (.inr ⟨entry, List.mem_append_left _ hgrant, hcovers⟩)
    · obtain ⟨g, index, hg, hproper⟩ := mem_properPicks.mp hpick
      have hkept : entry ∈ proper r g (s'.picksFor index) :=
        (proper_extends g (hpicks index)).mem hproper
      exact allows_of_mem_properPicks (mem_properPicks.mpr ⟨g, index, hg, hkept⟩) hcovers

theorem picksFor_append (s : Selection) (index : Nat) (more : List String) (other : Nat) :
    s.picksFor other <+: (s.setPicks index (s.picksFor index ++ more)).picksFor other := by
  rw [Selection.picksFor_setPicks]
  split
  · next h =>
    rw [h]
    exact List.prefix_append _ _
  · exact List.prefix_rfl

/-- **Keeping picks is a stable and bounded filter.** Of the picks without the blanks around them,
those are kept that are not empty, that the group offers and that are not forbidden at creation;
each skill by its first name, and no more than the group asks for. The walk over the picks keeps the
same ones. Kept picks are kept again, more picks only add to them at the end, and with picks added
to any groups every skill that may receive points still may. -/
theorem proper_stable (r : Rulebook) (g : PickGroup) (picks : List String) :
    proper r g picks = (SkillName.firstNames ((picks.map Text.trimmed).filter fun pick =>
        !pick.isEmpty && offers r g pick && !r.isForbidden pick)).take g.count ∧
      properInTurn r g [] g.count picks = proper r g picks ∧
      proper r g (proper r g picks) = proper r g picks ∧
      (∀ more, proper r g picks <+: proper r g (picks ++ more)) ∧
      (∀ o s s' skill, (∀ index, s.picksFor index <+: s'.picksFor index) →
        allows r o s skill = true → allows r o s' skill = true) ∧
      ∀ (s : Selection) index more other,
        s.picksFor other <+: (s.setPicks index (s.picksFor index ++ more)).picksFor other := by
  refine ⟨?_, properInTurn_eq_proper g picks, proper_proper g picks, ?_, ?_, picksFor_append⟩
  · rw [← SkillName.distinct_eq_firstNames]
    exact proper_eq g picks
  · intro more
    exact proper_extends g (List.prefix_append picks more)
  · intro o s s' skill hpicks hallows
    exact allows_mono hpicks hallows

/-- Picks with a blank one, one in two spellings, an unknown one and a forbidden one. -/
theorem proper_stable_actress : ∃ r o, Rulebook.ofJson Rulebook.overlapDocument = .ok r ∧
    r.occupation? "Actriz" = some o ∧
    let g : PickGroup := ⟨"Una más", 2, ["Ciencia", "Cualquiera"]⟩
    let picks := [" ciencia ", "", "CIENCIA", "Nadie", "Ciencia (Oculta)"]
    let s := actress picks
    proper r g picks = ["ciencia"] ∧ proper r g (picks ++ ["Arte", "Arte (Óleo)"]) =
        ["ciencia", "Arte"] ∧
      allows r o s "Ciencia (Física)" = true ∧
      allows r o (s.setPicks 0 (s.picksFor 0 ++ ["Arte"])) "Ciencia (Física)" = true ∧
      properInTurn r g [] g.count picks = proper r g picks ∧
      proper r g (proper r g picks) = proper r g picks := by
  have hsample : ∃ r o, Rulebook.ofJson Rulebook.overlapDocument = .ok r ∧
      r.occupation? "Actriz" = some o ∧
      let g : PickGroup := ⟨"Una más", 2, ["Ciencia", "Cualquiera"]⟩
      let picks := [" ciencia ", "", "CIENCIA", "Nadie", "Ciencia (Oculta)"]
      proper r g picks = ["ciencia"] ∧ proper r g (picks ++ ["Arte", "Arte (Óleo)"]) =
          ["ciencia", "Arte"] ∧
        allows r o (actress picks) "Ciencia (Física)" = true :=
    Rulebook.exists_occupation_of_decide (by decide +kernel)
  obtain ⟨r, o, hr, ho, hkept, hmore, hallows⟩ := hsample
  obtain ⟨-, hwalk, hagain, -, hmono, hadded⟩ :=
    proper_stable r ⟨"Una más", 2, ["Ciencia", "Cualquiera"]⟩
      [" ciencia ", "", "CIENCIA", "Nadie", "Ciencia (Oculta)"]
  exact ⟨r, o, hr, ho, hkept, hmore, hallows,
    hmono o _ _ _ (hadded _ 0 ["Arte"]) hallows, hwalk, hagain⟩

end Grant

end Chargen
