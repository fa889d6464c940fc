import Chargen.Draft.InPlace
import Chargen.Proofs.Rulebook.Lookup
import Chargen.Proofs.SortedMap
import Chargen.Rulebook.Standard

/-!
# What changes in place leave

A change in place reads and writes the draft step by step. It still acts as the transition that
gives a new draft or none at all: it writes nothing before all that can fail is behind it. So a
change that fails leaves the draft as it was, and one that succeeds writes its own part only.

* `InPlace.outcome_bind`: a step behind another one starts from what that one has left.
* `InPlace.outcome_pickBest`: picking options one by one, by induction on the choices.
* `InPlace.Acts`: what a change does, when it fails and what it leaves.
* `InPlace.Selects`, `InPlace.ChangesSelection`, `InPlace.Suggests`: the drafts that changes leave.
* `InPlace.FillsBlank`: what a money field is left with, blank or not.
* `InPlace.changes_act`: **every change acts at once and writes its own part only**.
-/

namespace Chargen.InPlace

variable {α β : Type} {r : Rulebook} {d : Draft}

/-! ### Steps -/

/-- What a transition gives, with the draft that is left: the new one, or the old one if there is no
new one. -/
def atOnce (d : Draft) : Except Fault (α × Draft) → Except Fault α × Draft
  | .ok (a, d') => (.ok a, d')
  | .error cause => (.error cause, d)

/-- A step behind another one starts from what that one has left, and is not taken if that one
fails. -/
theorem outcome_bind (first : InPlace α) (next : α → InPlace β) (d : Draft) :
    (first >>= next).outcome d = match first.outcome d with
      | (.ok a, d') => (next a).outcome d'
      | (.error cause, d') => (.error cause, d') := by
  have hstep : (first >>= next).outcome d =
      ExceptT.bindCont next (first.outcome d).1 (first.outcome d).2 := rfl
  rw [hstep]
  rcases first.outcome d with ⟨_ | _, d'⟩ <;> rfl

theorem outcome_get (next : Draft → InPlace α) (d : Draft) :
    (get >>= next).outcome d = (next d).outcome d :=
  outcome_bind get next d

theorem outcome_selected (d : Draft) : selected.outcome d = match d.selection with
    | none => (.error .noOccupation, d)
    | some s => (.ok s, d) := by
  have hstep : selected.outcome d = ExceptT.run (m := StateM Draft) (match d.selection with
    | none => throw .noOccupation
    | some s => pure s) d := rfl
  rw [hstep]
  cases d.selection <;> rfl

theorem outcome_known (r : Rulebook) (name : String) (d : Draft) :
    (known r name).outcome d = match r.occupation? name with
      | none => (.error (.unknownOccupation name), d)
      | some o => (.ok o, d) := by
  unfold known
  cases r.occupation? name <;> rfl

theorem outcome_changeSelection (change : Selection → Selection) (d : Draft) :
    (changeSelection change).outcome d =
      atOnce d ((d.changeSelection change).map ((), ·)) := by
  unfold changeSelection Draft.changeSelection
  rw [outcome_bind, outcome_selected]
  cases d.selection <;> rfl

theorem outcome_selectOccupation (r : Rulebook) (name : String) (d : Draft) :
    (selectOccupation r name).outcome d =
      atOnce d ((d.selectOccupation r name).map ((), ·)) := by
  unfold selectOccupation Draft.selectOccupation
  rw [outcome_bind, outcome_known]
  cases r.occupation? name with
  | none => rfl
  | some o =>
    dsimp only
    rw [outcome_get]
    split <;> rfl

/-- The options picked one by one, all at once. -/
theorem outcome_pickBest (best : Points.Picks) (groups : List Points.ChoiceGroup) {d : Draft}
    {s : Selection} (hs : d.selection = some s) :
    let picked := groups.filterMap fun g => (best.get? g.key).map (g.key, ·)
    (pickBest best groups).outcome d =
      (.ok picked.length, { d with
        selection := some { s with formulaPicks := s.formulaPicks.insertAll picked } }) := by
  induction groups generalizing d s with
  | nil =>
    cases d
    cases hs
    rfl
  | cons g rest ih =>
    rw [pickBest, List.filterMap_cons]
    cases best.get? g.key with
    | none => exact ih hs
    | some option =>
      -- The rest is picked in the draft that has the first option.
      have hpick : (setFormulaPick g.key option).outcome d = (.ok (), { d with
          selection := some { s with formulaPicks := s.formulaPicks.insert g.key option } }) := by
        rw [setFormulaPick, outcome_changeSelection, Draft.changeSelection, hs]
        rfl
      dsimp only [Option.map_some]
      rw [outcome_bind, hpick]
      dsimp only
      rw [outcome_bind, ih rfl]
      rfl

theorem outcome_fillFormulaPicks (r : Rulebook) (d : Draft) :
    (fillFormulaPicks r).outcome d = atOnce d (d.fillFormulaPicks r) := by
  unfold fillFormulaPicks Draft.fillFormulaPicks
  rw [outcome_get, outcome_bind, outcome_selected]
  cases hs : d.selection with
  | none => rfl
  | some s =>
    dsimp only
    rw [outcome_bind, outcome_known]
    cases r.occupation? s.name with
    | none => rfl
    | some o =>
      dsimp only
      rw [outcome_pickBest _ _ hs]
      rfl

theorem outcome_suggestEquipment (r : Rulebook) (d : Draft) :
    (suggestEquipment r).outcome d = atOnce d ((d.suggestEquipment r).map ((), ·)) := by
  unfold suggestEquipment Draft.suggestEquipment
  rw [outcome_bind, outcome_selected]
  cases hs : d.selection with
  | none => rfl
  | some s =>
    dsimp only
    rw [← hs]
    cases r.wealth? s.creditRating <;> rfl

/-! ### What a change does -/

/-- What a change in place does to a draft: it gives what a transition gives; it fails exactly if a
condition holds, and then leaves the draft as it was; and if it does not fail, a property holds of
the draft that it leaves. -/
structure Acts (change : InPlace α) (d : Draft) (transition : Except Fault (α × Draft))
    (fails : Prop) (left : Draft → Prop) : Prop where
  /-- The change gives what the transition gives. -/
  at_once : change.outcome d = atOnce d transition
  /-- The change fails exactly if the condition holds. -/
  fails_iff : (∃ cause, (change.outcome d).1 = .error cause) ↔ fails
  /-- A change that fails leaves the draft as it was. -/
  unchanged : fails → (change.outcome d).2 = d
  /-- A change that does not fail leaves a draft with the property. -/
  leaves : ¬ fails → left (change.outcome d).2

section Acts

variable {change : InPlace α} {transition : Except Fault (α × Draft)} {fails : Prop}
  {left : Draft → Prop}

/-- What a change does is what is known of its transition. -/
theorem Acts.of_atOnce (h : change.outcome d = atOnce d transition)
    (hfails : (∃ cause, transition = .error cause) ↔ fails)
    (hleft : ∀ a d', transition = .ok (a, d') → left d') : Acts change d transition fails left := by
  cases htransition : transition with
  | error cause =>
    rw [htransition] at h
    have hfail : fails := hfails.mp ⟨cause, htransition⟩
    have herror : (change.outcome d).1 = .error cause := by rw [h]; rfl
    exact ⟨h, iff_of_true ⟨cause, herror⟩ hfail, fun _ => by rw [h]; rfl, (absurd hfail ·)⟩
  | ok result =>
    obtain ⟨a, d'⟩ := result
    rw [htransition] at h
    have hsucceed : ¬ fails := by
      rw [← hfails, htransition]
      rintro ⟨cause, hcause⟩
      cases hcause
    have hok : ¬ ∃ cause, (change.outcome d).1 = .error cause := by
      rw [h]
      rintro ⟨cause, hcause⟩
      cases hcause
    refine ⟨h, iff_of_false hok hsucceed, (absurd · hsucceed), fun _ => ?_⟩
    rw [h]
    exact hleft a d' htransition

end Acts

/-! ### What a change leaves -/

/-- No occupation has a name, in any spelling. -/
def Unlisted (doc : RulebookDocument) (name : String) : Prop :=
  ∀ o ∈ doc.occupations, SkillName.key o.name ≠ SkillName.key name

/-- A draft in which an occupation is selected. -/
structure Selects (doc : RulebookDocument) (d : Draft) (name : String) (d' : Draft) : Prop where
  /-- Nothing but the selection changes. -/
  elsewhere : { d' with selection := d.selection } = d
  /-- An occupation that is selected already, under any spelling, keeps its choices. -/
  again : ∀ s, d.selection = some s → SkillName.key s.name = SkillName.key name → d' = d
  /-- Any other one starts without choices and with its least credit rating. -/
  afresh : (∀ s, d.selection = some s → SkillName.key s.name ≠ SkillName.key name) →
    ∃ o ∈ doc.occupations, SkillName.key o.name = SkillName.key name ∧
      d'.selection = some ⟨o.name, o.credit.min, SortedMap.empty, SortedMap.empty⟩

/-- A draft in which nothing but the selection changes, and that in a certain way. -/
def ChangesSelection (d : Draft) (change : Selection → Selection → Prop) (d' : Draft) : Prop :=
  ∃ s s', d.selection = some s ∧ d' = { d with selection := some s' } ∧ change s s'

/-- What a money field is left with when an amount is suggested for it. -/
structure FillsBlank (amount : Float) (before after : String) : Prop where
  /-- The amount is written over blanks. -/
  blank : (∀ c ∈ before.toList, Text.isBlank c = true) → after = Money.text amount
  /-- Whatever else was written is kept. -/
  kept : (∃ c ∈ before.toList, Text.isBlank c = false) → after = before

/-- A draft in which money is suggested: the same one if no band covers the credit rating, and else
the one with the amounts of the first band that does, in the money fields that were blank. -/
structure Suggests (doc : RulebookDocument) (d : Draft) (s : Selection) (d' : Draft) : Prop where
  /-- Nothing but the three money fields changes. -/
  elsewhere : { d' with
    equipment :=
      { d'.equipment with
        spendingLevel := d.equipment.spendingLevel
        cash := d.equipment.cash
        assets := d.equipment.assets } } = d
  /-- Without a band they do not change either. -/
  uncovered : (∀ band ∈ doc.bands, ¬ (band.min ≤ s.creditRating ∧ s.creditRating ≤ band.max)) →
    d' = d
  /-- With a band each of them is filled if it was blank, and kept if it was not. -/
  covered : ∀ band, (doc.bands.find? fun band =>
      band.min ≤ s.creditRating ∧ s.creditRating ≤ band.max) = some band →
    FillsBlank band.spendingLevel d.equipment.spendingLevel d'.equipment.spendingLevel ∧
      FillsBlank (band.cash.amount s.creditRating) d.equipment.cash d'.equipment.cash ∧
      FillsBlank (band.assets.amount s.creditRating) d.equipment.assets d'.equipment.assets

/-- An amount in place of a blank text fills it, and any other text is kept. -/
theorem fillsBlank_filledWith (amount : Float) (text : String) :
    FillsBlank amount text (Draft.filledWith text amount) where
  blank h := Draft.filledWith_of_blank (List.all_eq_true.mpr h) amount
  kept := by
    rintro ⟨c, hc, hwritten⟩
    refine Draft.filledWith_of_not_blank ?_ amount
    exact List.all_eq_false.mpr ⟨c, hc, by rw [hwritten]; exact Bool.false_ne_true⟩

/-- A change to the selection needs one and writes nothing else. -/
theorem acts_changeSelection {change : Selection → Selection} {way : Selection → Selection → Prop}
    (hway : ∀ s, way s (change s)) (d : Draft) :
    Acts (changeSelection change) d ((d.changeSelection change).map ((), ·)) (d.selection = none)
      (ChangesSelection d way) := by
  refine .of_atOnce (outcome_changeSelection change d) ?_ ?_
  · unfold Draft.changeSelection
    cases d.selection <;> simp [Except.map]
  · intro _ d' h
    unfold Draft.changeSelection at h
    split at h
    · cases h
    · next s hs =>
      cases h
      exact ⟨s, change s, hs, rfl, hway s⟩

/-- New picks for a group are found there, unless there are none, and the picks of all other groups
are found as before. -/
theorem get?_setPicks (s : Selection) (index : Nat) (skills : List String) (g : GroupRef) :
    (s.setPicks index skills).picks.get? g =
      if g = s.groupRef index then (if skills = [] then none else some skills)
      else s.picks.get? g := by
  unfold Selection.setPicks
  cases skills with
  | nil => exact SortedMap.get?_erase s.picks (s.groupRef index) g
  | cons skill others => exact SortedMap.get?_insert s.picks (s.groupRef index) g (skill :: others)

section Rulebook

variable {doc : RulebookDocument}

theorem acts_selectOccupation (hr : Rulebook.ofDocument doc = .ok r) (d : Draft) (name : String) :
    Acts (selectOccupation r name) d ((d.selectOccupation r name).map ((), ·)) (Unlisted doc name)
      (Selects doc d name) := by
  refine .of_atOnce (outcome_selectOccupation r name d) ?_ ?_
  · rw [Unlisted, ← Rulebook.occupation?_eq_none_iff hr]
    unfold Draft.selectOccupation
    cases r.occupation? name with
    | none => simp [Except.map]
    | some o =>
      dsimp only
      split <;> simp [Except.map]
  · intro _ d' h
    unfold Draft.selectOccupation at h
    split at h
    · cases h
    · next o ho =>
      obtain ⟨hmem, hkey⟩ := (Rulebook.occupation?_eq_some_iff hr).mp ho
      -- The occupation is compared by the name that the rulebook has for it, not by the given one.
      have hsame : (d.selection.any fun s => SkillName.same s.name o.name) = true ↔
          ∃ s, d.selection = some s ∧ SkillName.key s.name = SkillName.key name := by
        simp [Option.any_eq_true, SkillName.same, hkey]
      split at h
      · next hselected =>
        obtain ⟨s, hs, hsname⟩ := hsame.mp hselected
        cases h
        exact ⟨rfl, fun _ _ _ => rfl, fun hother => absurd hsname (hother s hs)⟩
      · next hselected =>
        rw [hsame] at hselected
        cases h
        refine ⟨rfl, fun s hs hsname => ?_, fun _ => ⟨o, hmem, hkey, rfl⟩⟩
        exact absurd ⟨s, hs, hsname⟩ hselected

theorem acts_fillFormulaPicks (hr : Rulebook.ofDocument doc = .ok r) (d : Draft) :
    Acts (fillFormulaPicks r) d (d.fillFormulaPicks r)
      (d.selection = none ∨ ∃ s, d.selection = some s ∧ Unlisted doc s.name)
      (ChangesSelection d fun s s' => s' = { s with formulaPicks := s'.formulaPicks } ∧
        ∃ o ∈ doc.occupations, SkillName.key o.name = SkillName.key s.name ∧
          ∀ key, (∀ g ∈ (Points.Formula.parse o.pointsFormula).openGroups s.formulaPicks,
            g.key ≠ key) → s'.formulaPicks.get? key = s.formulaPicks.get? key) := by
  refine .of_atOnce (outcome_fillFormulaPicks r d) ?_ ?_
  · simp only [Unlisted, ← Rulebook.occupation?_eq_none_iff hr]
    unfold Draft.fillFormulaPicks
    cases d.selection with
    | none => simp
    | some s =>
      dsimp only
      cases hfound : r.occupation? s.name <;> simp [hfound]
  · intro count d' h
    unfold Draft.fillFormulaPicks at h
    split at h
    · cases h
    · next s hs =>
      split at h
      · cases h
      · next o ho =>
        obtain ⟨hmem, hkey⟩ := (Rulebook.occupation?_eq_some_iff hr).mp ho
        cases h
        refine ⟨s, _, hs, rfl, rfl, o, hmem, hkey, fun key hclosed => ?_⟩
        refine SortedMap.get?_insertAll_of_notMem (fun hpicked => ?_) s.formulaPicks
        obtain ⟨e, he, rfl⟩ := List.mem_map.mp hpicked
        obtain ⟨g, hg, heq⟩ := List.mem_filterMap.mp he
        obtain ⟨option, -, rfl⟩ := Option.map_eq_some_iff.mp heq
        exact hclosed g hg rfl

theorem acts_suggestEquipment (hr : Rulebook.ofDocument doc = .ok r) (d : Draft) :
    Acts (suggestEquipment r) d ((d.suggestEquipment r).map ((), ·)) (d.selection = none) fun d' =>
      ∃ s, d.selection = some s ∧ Suggests doc d s d' := by
  have hbands : r.bands = doc.bands := (Rulebook.entries_of_ofDocument hr).2.2
  refine .of_atOnce (outcome_suggestEquipment r d) ?_ ?_
  · unfold Draft.suggestEquipment
    cases d.selection with
    | none => simp [Except.map]
    | some s =>
      dsimp only
      cases r.wealth? s.creditRating <;> simp [Except.map]
  · intro _ d' h
    unfold Draft.suggestEquipment at h
    split at h
    · cases h
    · next s hs =>
      have hwealth : r.wealth? s.creditRating = (doc.bands.find? fun band =>
          band.min ≤ s.creditRating ∧ s.creditRating ≤ band.max).map fun band =>
            ⟨s.creditRating, band.spendingLevel, band.cash.amount s.creditRating,
              band.assets.amount s.creditRating⟩ := by
        rw [Rulebook.wealth?, hbands, Wealth.find?]
        simp only [Bool.decide_and]
      rw [hwealth] at h
      refine ⟨s, hs, ?_, fun hnone => ?_, fun band hband => ?_⟩
      · split at h <;> cases h <;> rfl
      · rw [List.find?_eq_none.mpr (by simpa using hnone)] at h
        cases h
        rfl
      · rw [hband] at h
        cases h
        exact ⟨fillsBlank_filledWith _ _, fillsBlank_filledWith _ _, fillsBlank_filledWith _ _⟩

/-- **Every change acts at once and writes its own part only.** A change that fails leaves the draft
as it was. Selecting an occupation keeps the draft if the occupation is selected already, under any
spelling, and starts a selection without choices otherwise; the other changes to the selection keep
all else in it; and the money fields that are not blank are kept. -/
theorem changes_act (hr : Rulebook.ofDocument doc = .ok r) (d : Draft) :
    (∀ name, Acts (selectOccupation r name) d ((d.selectOccupation r name).map ((), ·))
      (Unlisted doc name) (Selects doc d name)) ∧
    (∀ rating, Acts (setCreditRating rating) d ((d.setCreditRating rating).map ((), ·))
      (d.selection = none) (ChangesSelection d fun s s' => s' = { s with creditRating := rating })) ∧
    (∀ index skills, Acts (setPicks index skills) d ((d.setPicks index skills).map ((), ·))
      (d.selection = none) (ChangesSelection d fun s s' => s' = { s with picks := s'.picks } ∧
        ∀ g, s'.picks.get? g =
          if g = s.groupRef index then (if skills = [] then none else some skills)
          else s.picks.get? g)) ∧
    (∀ key option, Acts (setFormulaPick key option) d
      ((d.setFormulaPick key option).map ((), ·)) (d.selection = none)
      (ChangesSelection d fun s s' => s' = { s with formulaPicks := s'.formulaPicks } ∧
        ∀ k, s'.formulaPicks.get? k = if k = key then some option else s.formulaPicks.get? k)) ∧
    Acts (fillFormulaPicks r) d (d.fillFormulaPicks r)
      (d.selection = none ∨ ∃ s, d.selection = some s ∧ Unlisted doc s.name)
      (ChangesSelection d fun s s' => s' = { s with formulaPicks := s'.formulaPicks } ∧
        ∃ o ∈ doc.occupations, SkillName.key o.name = SkillName.key s.name ∧
          ∀ key, (∀ g ∈ (Points.Formula.parse o.pointsFormula).openGroups s.formulaPicks,
            g.key ≠ key) → s'.formulaPicks.get? key = s.formulaPicks.get? key) ∧
    Acts (suggestEquipment r) d ((d.suggestEquipment r).map ((), ·)) (d.selection = none) fun d' =>
      ∃ s, d.selection = some s ∧ Suggests doc d s d' := by
  refine ⟨acts_selectOccupation hr d, fun rating => ?_, fun index skills => ?_,
    fun key option => ?_, acts_fillFormulaPicks hr d, acts_suggestEquipment hr d⟩
  · refine acts_changeSelection (fun s => ?_) d
    rfl
  · exact acts_changeSelection (fun s => ⟨rfl, get?_setPicks s index skills⟩) d
  · refine acts_changeSelection (fun s => ⟨rfl, fun k => ?_⟩) d
    exact SortedMap.get?_insert s.formulaPicks key k option

end Rulebook

/-- A rulebook with two occupations. -/
def twoOccupations : RulebookDocument :=
  { Rulebook.standardDocument with
    skills := []
    occupations := [⟨"Actriz", ⟨9, 70⟩, "EDUx4", [], []⟩, ⟨"Médico", ⟨30, 80⟩, "EDUx4", [], []⟩] }

/-- The actress selected again, another occupation, an unknown one, picks without any, and money
suggested where cash is written already. -/
theorem changes_act_actress : ∃ r, Rulebook.ofDocument twoOccupations = .ok r ∧
    let picks := SortedMap.ofList [((⟨"Actriz", 0⟩ : GroupRef), ["Canto"])]
    let d := { Draft.fresh with selection := some ⟨"Actriz", 20, picks, SortedMap.empty⟩ }
    ((selectOccupation r " ACTRIZ").outcome d).2 = d ∧
      ((selectOccupation r "medico").outcome d).2.selection =
        some ⟨"Médico", 30, SortedMap.empty, SortedMap.empty⟩ ∧
      (∃ cause, ((selectOccupation r "Nadie").outcome d).1 = .error cause) ∧
      ((selectOccupation r "Nadie").outcome d).2 = d ∧
      ((setPicks 0 ["Canto"]).outcome Draft.fresh).2 = Draft.fresh ∧
      let rich := { d with equipment := { d.equipment with spendingLevel := " \t", cash := "$5" } }
      let suggested := ((suggestEquipment r).outcome rich).2.equipment
      suggested.cash = "$5" ∧ suggested.notes = rich.equipment.notes ∧
        ∃ band ∈ twoOccupations.bands, band.min = 10 ∧ band.max = 49 ∧
          suggested.spendingLevel = Money.text band.spendingLevel ∧
          suggested.assets = Money.text (band.assets.amount 20) := by
  obtain ⟨r, hr⟩ : ∃ r, Rulebook.ofDocument twoOccupations = .ok r :=
    Rulebook.exists_of_isOk (by decide +kernel)
  let picks := SortedMap.ofList [((⟨"Actriz", 0⟩ : GroupRef), ["Canto"])]
  let d := { Draft.fresh with selection := some ⟨"Actriz", 20, picks, SortedMap.empty⟩ }
  obtain ⟨hselect, -⟩ := changes_act hr d
  obtain ⟨-, -, hpicks, -⟩ := changes_act hr Draft.fresh
  have hactress : ¬ ∀ o ∈ twoOccupations.occupations,
      SkillName.key o.name ≠ SkillName.key " ACTRIZ" := by decide +kernel
  have hdoctor : ¬ ∀ o ∈ twoOccupations.occupations,
      SkillName.key o.name ≠ SkillName.key "medico" := by decide +kernel
  have hnobody : ∀ o ∈ twoOccupations.occupations,
      SkillName.key o.name ≠ SkillName.key "Nadie" := by decide +kernel
  have hother : ∀ s, d.selection = some s → SkillName.key s.name ≠ SkillName.key "medico" := by
    rintro _ ⟨⟩
    decide +kernel
  have hnamed : ∀ o ∈ twoOccupations.occupations,
      SkillName.key o.name = SkillName.key "medico" → o.name = "Médico" ∧ o.credit.min = 30 := by
    decide +kernel
  refine ⟨r, hr, ?_, ?_, (hselect "Nadie").fails_iff.mpr hnobody,
    (hselect "Nadie").unchanged hnobody, (hpicks 0 ["Canto"]).unchanged rfl, ?_⟩
  · exact ((hselect " ACTRIZ").leaves hactress).again _ rfl (by decide +kernel)
  · obtain ⟨o, ho, hkey, hselection⟩ := ((hselect "medico").leaves hdoctor).afresh hother
    obtain ⟨hname, hmin⟩ := hnamed o ho hkey
    rw [hname, hmin] at hselection
    exact hselection
  · let rich := { d with equipment := { d.equipment with spendingLevel := " \t", cash := "$5" } }
    obtain ⟨-, -, -, -, -, hsuggest⟩ := changes_act hr rich
    obtain ⟨s, hs, hsuggested⟩ := hsuggest.leaves (Option.some_ne_none _)
    cases hs
    have hband : (twoOccupations.bands.find? fun band => band.min ≤ (20 : Int) ∧
        (20 : Int) ≤ band.max) = some ⟨10, 49, 10, ⟨0, 2⟩, ⟨0, 50⟩⟩ := rfl
    obtain ⟨hspending, hcash, hassets⟩ := hsuggested.covered _ hband
    have hnotes := congrArg (fun d' => d'.equipment.notes) hsuggested.elsewhere
    have hblank : " \t".toList.all Text.isBlank = true := by decide
    exact ⟨hcash.kept ⟨'$', by decide, by decide⟩, hnotes, _, List.mem_of_find?_eq_some hband, rfl,
      rfl, hspending.blank (List.all_eq_true.mp hblank), hassets.blank (fun _ hc => nomatch hc)⟩

end Chargen.InPlace
