import Chargen.Proofs.Points.Cache
import Chargen.Proofs.Rulebook
import Chargen.Rulebook.Loading

/-!
# Loading through a cache

Loading a rulebook reads the formulas of its occupations through a cache. What the cache holds does
not change what is loaded, and a load that fails has read the formulas up to its fault.

* `reads_load`: **a load through a cache gives the rulebook that the document holds**, and reads its
  `formulasRead`.
* `getElem?_formulasRead`: which formulas these are: that of an occupation is read exactly if the
  load comes to it.
-/

namespace Chargen

open Points.Cache (Reads)

namespace Rulebook

/-! ### The result of a load -/

theorem ok_bind {ε α β : Type} (a : α) (f : α → Except ε β) : Except.ok a >>= f = f a := rfl

theorem checkOccupation_of_isCreditRange {o : Occupation} (h : isCreditRange o.credit = true) :
    checkOccupation o = checkFormula o (Points.Formula.parse o.pointsFormula) := by
  unfold checkOccupation
  rw [if_neg (by simp [h])]
  rfl

theorem checkOccupation_of_not_isCreditRange {o : Occupation}
    (h : ¬ isCreditRange o.credit = true) :
    checkOccupation o = .error (.catalog (.creditRange o.credit o.name)) := by
  unfold checkOccupation
  rw [if_pos (by simp [h])]

/-- Filing through a cache files what filing without one does. -/
theorem reads_fileThrough (seen : List String) (occupations : List Occupation) :
    Reads (fileThrough seen occupations).run (occupationFormulas seen occupations)
      (fileOccupations seen occupations) := by
  induction occupations generalizing seen with
  | nil => exact Reads.pure _
  | cons o rest ih =>
    rw [fileThrough, occupationFormulas, fileOccupations]
    by_cases hseen : seen.contains (SkillName.key o.name) = true
    · rw [if_pos hseen, if_pos hseen, hseen, Bool.true_or, if_pos rfl]
      exact Reads.throw _
    rw [if_neg hseen, if_neg hseen, Bool.eq_false_iff.mpr hseen, Bool.false_or]
    by_cases hcredit : isCreditRange o.credit = true
    · rw [checkOccupation_of_isCreditRange hcredit, hcredit, Bool.not_true,
        if_neg Bool.false_ne_true, if_neg Bool.false_ne_true]
      refine Reads.bind_read ?_
      -- from here on the formula is at hand, and the load stops or goes on as its test says
      cases hcheck : checkFormula o (Points.Formula.parse o.pointsFormula) with
      | error cause => exact Reads.bind_error (Reads.lift _)
      | ok _ =>
        exact Reads.bind_lift (Reads.bind_pure (ih (SkillName.key o.name :: seen)) _)
    · rw [checkOccupation_of_not_isCreditRange hcredit, Bool.eq_false_iff.mpr hcredit,
        Bool.not_false, if_pos rfl, if_pos rfl]
      exact Reads.throw _

/-- **A load through a cache gives the rulebook that the document holds.** -/
theorem reads_load (d : RulebookDocument) :
    Reads (load d).run (formulasRead d) (ofDocument d) := by
  unfold load formulasRead ofDocument
  -- nothing is read before the occupations
  cases readGeneration (Profile.uniform none) d.characteristics.entries with
  | error cause => exact Reads.bind_error (Reads.lift _)
  | ok known =>
    refine Reads.bind_lift ?_
    rw [ok_bind, ok_bind]
    cases completeGeneration known with
    | error cause => exact Reads.bind_error (Reads.lift _)
    | ok generation =>
      refine Reads.bind_lift ?_
      rw [ok_bind, ok_bind]
      cases fileSkills [] d.skills with
      | error cause => exact Reads.bind_error (Reads.lift _)
      | ok skills =>
        refine Reads.bind_lift ?_
        rw [ok_bind]
        have hfile := reads_fileThrough [] d.occupations
        cases hfiled : fileOccupations [] d.occupations with
        | error cause =>
          rw [hfiled] at hfile
          exact Reads.bind_error hfile
        | ok occupations =>
          rw [hfiled] at hfile
          rw [ok_bind, ← List.append_nil (occupationFormulas [] d.occupations)]
          exact Reads.bind_ok hfile (Reads.bind_pure (Reads.lift (checkBands d.bands)) _)

/-! ### The formulas that a load reads -/

/-- Filing occupations, with some keys seen before, comes to the formula of the one at a place: the
earlier ones pass their test, the names up to it have new keys, and its credit ratings are good. -/
structure FilingComesTo (seen : List String) (occupations : List Occupation) (i : Nat)
    (o : Occupation) : Prop where
  listed : occupations[i]? = some o
  earlier : ∀ p ∈ occupations.take i, checkOccupation p = .ok ()
  unseen : ∀ p ∈ occupations.take (i + 1), SkillName.key p.name ∉ seen
  distinct : ((occupations.take (i + 1)).map fun p => SkillName.key p.name).Nodup
  credit : isCreditRange o.credit = true

theorem filingComesTo_zero_iff {seen : List String} {o p : Occupation} {rest : List Occupation} :
    FilingComesTo seen (o :: rest) 0 p ↔
      o = p ∧ SkillName.key o.name ∉ seen ∧ isCreditRange o.credit = true := by
  constructor
  · intro h
    obtain rfl : o = p := by simpa using h.listed
    exact ⟨rfl, h.unseen o (by simp), h.credit⟩
  · rintro ⟨rfl, hseen, hcredit⟩
    exact ⟨by simp, by simp, by simpa using hseen, by simp, hcredit⟩

theorem filingComesTo_succ_iff {seen : List String} {o p : Occupation} {rest : List Occupation}
    {i : Nat} : FilingComesTo seen (o :: rest) (i + 1) p ↔
      SkillName.key o.name ∉ seen ∧ checkOccupation o = .ok () ∧
        FilingComesTo (SkillName.key o.name :: seen) rest i p := by
  constructor
  · intro h
    obtain ⟨hlisted, hearlier, hunseen, hdistinct, hcredit⟩ := h
    rw [List.take_succ_cons, List.forall_mem_cons] at hearlier hunseen
    rw [List.take_succ_cons, List.map_cons, List.nodup_cons] at hdistinct
    refine ⟨hunseen.1, hearlier.1, by simpa using hlisted, hearlier.2, fun q hq => ?_, hdistinct.2,
      hcredit⟩
    rw [List.mem_cons, not_or]
    refine ⟨fun heq => ?_, hunseen.2 q hq⟩
    exact hdistinct.1 (List.mem_map.mpr ⟨q, hq, heq⟩)
  · rintro ⟨hseen, hcheck, hlisted, hearlier, hunseen, hdistinct, hcredit⟩
    have hnew : SkillName.key o.name ∉
        (rest.take (i + 1)).map fun p => SkillName.key p.name := by
      intro hmem
      obtain ⟨q, hq, heq⟩ := List.mem_map.mp hmem
      exact hunseen q hq (List.mem_cons.mpr (.inl heq))
    refine ⟨by simpa using hlisted, ?_, ?_, ?_, hcredit⟩
    · rw [List.take_succ_cons, List.forall_mem_cons]
      exact ⟨hcheck, hearlier⟩
    · rw [List.take_succ_cons, List.forall_mem_cons]
      exact ⟨hseen, fun q hq hmem => hunseen q hq (List.mem_cons_of_mem _ hmem)⟩
    · rw [List.take_succ_cons, List.map_cons, List.nodup_cons]
      exact ⟨hnew, hdistinct⟩

/-- Filing reads the formula of an occupation exactly if it comes to it. -/
theorem getElem?_occupationFormulas {occupations : List Occupation} {seen : List String} {i : Nat}
    {text : String} : (occupationFormulas seen occupations)[i]? = some text ↔
      ∃ o, FilingComesTo seen occupations i o ∧ o.pointsFormula = text := by
  induction occupations generalizing seen i with
  | nil =>
    constructor
    · intro h
      cases h
    · rintro ⟨o, h, -⟩
      cases h.listed
  | cons o rest ih =>
    rw [occupationFormulas]
    by_cases hnew : SkillName.key o.name ∉ seen ∧ isCreditRange o.credit = true
    · obtain ⟨hseen, hcredit⟩ := hnew
      rw [if_neg (by simp [hseen, hcredit])]
      cases i with
      | zero => simp [filingComesTo_zero_iff, hseen, hcredit]
      | succ i =>
        simp only [filingComesTo_succ_iff]
        cases hcheck : checkOccupation o with
        | error cause => simp
        | ok _ => simp [ih, hseen]
    · -- the load stops at this occupation, so it comes to no formula any more
      rw [if_pos (by simpa [or_iff_not_imp_left] using hnew)]
      constructor
      · intro h
        cases h
      · rintro ⟨p, h, -⟩
        refine absurd ?_ hnew
        cases i with
        | zero => exact (filingComesTo_zero_iff.mp h).2
        | succ i =>
          obtain ⟨hseen, hcheck, -⟩ := filingComesTo_succ_iff.mp h
          refine ⟨hseen, ?_⟩
          by_contra hcredit
          rw [checkOccupation_of_not_isCreditRange hcredit] at hcheck
          cases hcheck

/-- What stands before the occupations is good: all characteristics have dice, and the names of the
skills have different keys. -/
structure GoodOpening (d : RulebookDocument) : Prop where
  generation : ∃ known generation,
    readGeneration (Profile.uniform none) d.characteristics.entries = .ok known ∧
      completeGeneration known = .ok generation
  skills : ∃ filed, fileSkills [] d.skills = .ok filed

theorem formulasRead_of_goodOpening {d : RulebookDocument} (h : GoodOpening d) :
    formulasRead d = occupationFormulas [] d.occupations := by
  obtain ⟨known, generation, hknown, hgeneration⟩ := h.generation
  obtain ⟨filed, hskills⟩ := h.skills
  unfold formulasRead
  rw [hknown, ok_bind, hgeneration, ok_bind, hskills]
  rfl

theorem goodOpening_of_getElem?_formulasRead {d : RulebookDocument} {i : Nat} {text : String}
    (h : (formulasRead d)[i]? = some text) : GoodOpening d := by
  simp only [formulasRead] at h
  split at h
  · next hbefore =>
    obtain ⟨known, hknown, hbefore⟩ := bind_ok_iff.mp hbefore
    obtain ⟨generation, hgeneration, hbefore⟩ := bind_ok_iff.mp hbefore
    obtain ⟨filed, hskills, -⟩ := bind_ok_iff.mp hbefore
    exact ⟨⟨known, generation, hknown, hgeneration⟩, filed, hskills⟩
  · cases h

/-- A load comes to the formula of the occupation at a place. -/
def ComesTo (d : RulebookDocument) (i : Nat) (o : Occupation) : Prop :=
  GoodOpening d ∧ FilingComesTo [] d.occupations i o

/-- **The formulas that a load reads**, in the order of the occupations: the one at a place is read
exactly if the load comes to it. -/
theorem getElem?_formulasRead {d : RulebookDocument} {i : Nat} {text : String} :
    (formulasRead d)[i]? = some text ↔ ∃ o, ComesTo d i o ∧ o.pointsFormula = text := by
  constructor
  · intro h
    have hopening := goodOpening_of_getElem?_formulasRead h
    rw [formulasRead_of_goodOpening hopening] at h
    obtain ⟨o, ho, htext⟩ := getElem?_occupationFormulas.mp h
    exact ⟨o, ⟨hopening, ho⟩, htext⟩
  · rintro ⟨o, ⟨hopening, ho⟩, htext⟩
    rw [formulasRead_of_goodOpening hopening]
    exact getElem?_occupationFormulas.mpr ⟨o, ho, htext⟩

/-- Three occupations, the last of which has the name of the first one in other letters. -/
def repeatedName : RulebookDocument :=
  let occupation name formula : Occupation :=
    { name, credit := ⟨9, 70⟩, pointsFormula := formula, grants := [], pickGroups := [] }
  { standardDocument with
    skills := []
    occupations :=
      [occupation "Actriz" "EDUx4", occupation "Médico" "EDUx2+INTx2",
        occupation "ACTRIZ" "APAx4"] }

example : ((load repeatedName).run SortedMap.empty).2.keys = ["EDUx2+INTx2", "EDUx4"] := by
  decide +kernel

end Rulebook

end Chargen
