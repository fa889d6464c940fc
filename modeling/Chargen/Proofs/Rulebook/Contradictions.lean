import Chargen.Proofs.Loading
import Mathlib.Data.List.Basic

/-!
# The contradictions of a document

A load stops at the first thing that is wrong. What is wrong with a document can be said without
loading it: `contradictions` lists all of it, each condition by itself, in the order in which a load
looks at the conditions. So a load succeeds exactly with the documents in which nothing is wrong,
and fails with the first contradiction of any other.

* `RulebookDocument.Consistent`: nothing is wrong with a document.
* `RulebookDocument.contradictions`: all that is wrong with a document, in order.
* `contradictions_eq_nil_iff`: a document is consistent exactly if it has no contradictions.
* `StopsAtFirst.bind`: steps one after the other stop at the first of all their faults.
* `Rulebook.ofDocument_accepts`: **a load accepts exactly the consistent documents**, and gives the
  first contradiction of any other.
-/

namespace Chargen

/-! ### Consistent documents -/

/-- A document in which nothing is wrong. -/
structure RulebookDocument.Consistent (d : RulebookDocument) : Prop where
  /-- Every key names a characteristic. -/
  recognized : ∀ e ∈ d.characteristics.entries, ∃ c, Characteristic.ofKey? e.1 = some c
  /-- Every formula of a characteristic is one of dice. -/
  dice : ∀ e ∈ d.characteristics.entries, ∃ dice, Dice.parse e.2 = .ok dice
  /-- Every characteristic is named by some key. -/
  covered : ∀ c, ∃ e ∈ d.characteristics.entries, Characteristic.ofKey? e.1 = some c
  /-- No two skills have one name. -/
  skills : d.skills.Pairwise fun s t => SkillName.key s.name ≠ SkillName.key t.name
  /-- No two occupations have one name. -/
  occupations : d.occupations.Pairwise fun o p => SkillName.key o.name ≠ SkillName.key p.name
  /-- The credit ratings of every occupation are a range within those that there are. -/
  credit : ∀ o ∈ d.occupations,
    0 ≤ o.credit.min ∧ o.credit.min ≤ o.credit.max ∧ o.credit.max ≤ 99
  /-- The formula of every occupation passes the strict test. -/
  formula : ∀ o ∈ d.occupations, (Points.Formula.parse o.pointsFormula).check = .ok ()
  /-- Something is picked from every group, and it offers something. -/
  groups : ∀ o ∈ d.occupations, ∀ g ∈ o.pickGroups, 1 ≤ g.count ∧ g.options ≠ []
  /-- The ratings of every finance band are a range. -/
  bands : ∀ band ∈ d.bands, band.min ≤ band.max

/-! ### Contradictions -/

/-- What is wrong with the items of a list that stands behind earlier items, one item after the
other, each of them seen with all those before it. -/
def inTurn {α : Type} (faults : List α → α → List Fault) (earlier items : List α) : List Fault :=
  items.zipIdx.flatMap fun e => faults (earlier ++ items.take e.2) e.1

namespace RulebookDocument

/-- What is wrong with an entry of the characteristics: its key, and then its formula. -/
def entryFaults (e : String × String) : List Fault :=
  (if (Characteristic.ofKey? e.1).isNone then [.unknownCharacteristic e.1] else []) ++
    match Dice.parse e.2 with
    | .ok _ => []
    | .error cause => [.dice cause]

/-- The characteristics that no key names, in sheet order. -/
def uncovered (entries : List (String × String)) : List Characteristic :=
  Characteristic.all.filter fun c => !entries.any fun e => Characteristic.ofKey? e.1 == some c

/-- Whether an item has the name of one before it. -/
def repeats {α : Type} (name : α → String) (earlier : List α) (item : α) : Bool :=
  earlier.any fun p => SkillName.same (name p) (name item)

/-- What is wrong with a skill that stands behind others: its name. -/
def skillFaults (earlier : List Skill) (s : Skill) : List Fault :=
  if repeats Skill.name earlier s then [.catalog (.duplicateSkill s.name)] else []

/-- What is wrong with an occupation by itself: its credit ratings, its formula, and then each of
its groups. -/
def ownFaults (o : Occupation) : List Fault :=
  (if 0 ≤ o.credit.min ∧ o.credit.min ≤ o.credit.max ∧ o.credit.max ≤ 99 then []
    else [.catalog (.creditRange o.credit o.name)]) ++
  (match (Points.Formula.parse o.pointsFormula).check with
    | .ok () => []
    | .error cause => [.occupationFormula cause o.name]) ++
  (o.pickGroups.filter fun g => g.count = 0 ∨ g.options = []).map fun g =>
    .catalog (.emptyGroup g.label o.name)

/-- What is wrong with an occupation that stands behind others: its name, and then what is wrong
with it by itself. -/
def occupationFaults (earlier : List Occupation) (o : Occupation) : List Fault :=
  (if repeats Occupation.name earlier o then [.catalog (.duplicateOccupation o.name)] else []) ++
    ownFaults o

/-- What is wrong with finance bands, one by one. -/
def bandFaults (bands : List FinanceBand) : List Fault :=
  (bands.filter fun band => band.max < band.min).map fun band =>
    .catalog (.financeBand band.min band.max)

/-- All that is wrong with a document: its characteristics in key order, those that are missing in
sheet order, its skills, its occupations one by one, and its finance bands. -/
def contradictions (d : RulebookDocument) : List Fault :=
  d.characteristics.entries.flatMap entryFaults ++
    ((uncovered d.characteristics.entries).map fun c => .catalog (.noGeneration c)) ++
    inTurn skillFaults [] d.skills ++ inTurn occupationFaults [] d.occupations ++
    bandFaults d.bands

/-! ### Nothing wrong -/

section InTurn

variable {α : Type} {items : List α}

theorem repeats_eq_false_iff {name : α → String} {earlier : List α} {item : α} :
    repeats name earlier item = false ↔
      ∀ p ∈ earlier, SkillName.key (name p) ≠ SkillName.key (name item) := by
  simp [repeats, SkillName.same]

theorem inTurn_eq_nil_iff {faults : List α → α → List Fault} :
    inTurn faults [] items = [] ↔ ∀ e ∈ items.zipIdx, faults (items.take e.2) e.1 = [] :=
  List.flatMap_eq_nil_iff

/-- No item repeats a name exactly if the names differ pairwise. -/
theorem forall_repeats_iff {name : α → String} :
    (∀ e ∈ items.zipIdx, repeats name (items.take e.2) e.1 = false) ↔
      items.Pairwise fun a b => SkillName.key (name a) ≠ SkillName.key (name b) := by
  simp only [repeats_eq_false_iff]
  rw [List.pairwise_iff_getElem]
  constructor
  · intro h j i hj hi hlt
    refine h (items[i], i) (List.mem_zipIdx_iff_getElem?.mpr (List.getElem?_eq_getElem hi)) _ ?_
    exact List.mem_take_iff_getElem.mpr ⟨j, by omega, rfl⟩
  · intro h e he p hp
    obtain ⟨hi, hitem⟩ := List.getElem?_eq_some_iff.mp (List.mem_zipIdx_iff_getElem?.mp he)
    obtain ⟨j, hj, rfl⟩ := List.mem_take_iff_getElem.mp hp
    rw [← hitem]
    exact h j e.2 (by omega) hi (by omega)

/-- What holds of every item holds of it where it stands. -/
theorem forall_zipIdx_iff {P : α → Prop} :
    (∀ e ∈ items.zipIdx, P e.1) ↔ ∀ item ∈ items, P item := by
  constructor
  · intro h item hitem
    obtain ⟨i, hi⟩ := List.mem_iff_getElem?.mp hitem
    exact h (item, i) (List.mem_zipIdx_iff_getElem?.mpr hi)
  · intro h e he
    exact h e.1 (List.mem_of_getElem? (List.mem_zipIdx_iff_getElem?.mp he))

end InTurn

theorem entryFaults_eq_nil_iff {e : String × String} : entryFaults e = [] ↔
    (∃ c, Characteristic.ofKey? e.1 = some c) ∧ ∃ dice, Dice.parse e.2 = .ok dice := by
  rw [entryFaults, List.append_eq_nil_iff]
  refine and_congr ?_ ?_
  · cases Characteristic.ofKey? e.1 <;> simp
  · cases Dice.parse e.2 <;> simp

theorem uncovered_eq_nil_iff {entries : List (String × String)} : uncovered entries = [] ↔
    ∀ c, ∃ e ∈ entries, Characteristic.ofKey? e.1 = some c := by
  simp [uncovered, Characteristic.mem_all]

theorem inTurn_skillFaults_eq_nil_iff {skills : List Skill} : inTurn skillFaults [] skills = [] ↔
    skills.Pairwise fun s t => SkillName.key s.name ≠ SkillName.key t.name := by
  rw [inTurn_eq_nil_iff, ← forall_repeats_iff]
  simp [skillFaults]

theorem ownFaults_eq_nil_iff {o : Occupation} : ownFaults o = [] ↔
    (0 ≤ o.credit.min ∧ o.credit.min ≤ o.credit.max ∧ o.credit.max ≤ 99) ∧
      (Points.Formula.parse o.pointsFormula).check = .ok () ∧
      ∀ g ∈ o.pickGroups, 1 ≤ g.count ∧ g.options ≠ [] := by
  rw [ownFaults, List.append_eq_nil_iff, List.append_eq_nil_iff, and_assoc]
  refine and_congr ?_ (and_congr ?_ ?_)
  · simp
  · cases (Points.Formula.parse o.pointsFormula).check <;> simp
  · simp [Nat.one_le_iff_ne_zero]

theorem inTurn_occupationFaults_eq_nil_iff {occupations : List Occupation} :
    inTurn occupationFaults [] occupations = [] ↔
      (occupations.Pairwise fun o p => SkillName.key o.name ≠ SkillName.key p.name) ∧
        ∀ o ∈ occupations, ownFaults o = [] := by
  have hown : (∀ o ∈ occupations, ownFaults o = []) ↔
      ∀ e ∈ occupations.zipIdx, ownFaults e.1 = [] := forall_zipIdx_iff.symm
  rw [inTurn_eq_nil_iff, ← forall_repeats_iff, hown, ← forall₂_and]
  simp [occupationFaults]

theorem bandFaults_eq_nil_iff {bands : List FinanceBand} : bandFaults bands = [] ↔
    ∀ band ∈ bands, band.min ≤ band.max := by
  simp [bandFaults]

/-- **A document is consistent exactly if it has no contradictions.** -/
theorem contradictions_eq_nil_iff (d : RulebookDocument) :
    d.contradictions = [] ↔ d.Consistent := by
  simp only [contradictions, List.append_eq_nil_iff, List.flatMap_eq_nil_iff, List.map_eq_nil_iff,
    entryFaults_eq_nil_iff, uncovered_eq_nil_iff, inTurn_skillFaults_eq_nil_iff,
    inTurn_occupationFaults_eq_nil_iff, ownFaults_eq_nil_iff, bandFaults_eq_nil_iff]
  constructor
  · rintro ⟨⟨⟨⟨hentries, hcovered⟩, hskills⟩, hnames, hown⟩, hbands⟩
    exact {
      recognized := fun e he => (hentries e he).1
      dice := fun e he => (hentries e he).2
      covered := hcovered
      skills := hskills
      occupations := hnames
      credit := fun o ho => (hown o ho).1
      formula := fun o ho => (hown o ho).2.1
      groups := fun o ho => (hown o ho).2.2
      bands := hbands }
  · intro h
    exact ⟨⟨⟨⟨fun e he => ⟨h.recognized e he, h.dice e he⟩, h.covered⟩, h.skills⟩,
      h.occupations, fun o ho => ⟨h.credit o ho, h.formula o ho, h.groups o ho⟩⟩, h.bands⟩

end RulebookDocument

/-! ### Steps that stop at their first fault -/

/-- A step fails with the first of its faults, and succeeds if there is none. -/
def StopsAtFirst {α : Type} (faults : List Fault) : Except Fault α → Prop
  | .ok _ => faults = []
  | .error cause => faults.head? = some cause

namespace StopsAtFirst

variable {α β : Type} {faults later : List Fault}

theorem ok_iff {x : Except Fault α} (h : StopsAtFirst faults x) : (∃ a, x = .ok a) ↔ faults = [] := by
  cases x with
  | ok a => exact ⟨fun _ => h, fun _ => ⟨a, rfl⟩⟩
  | error cause =>
    constructor
    · rintro ⟨a, ha⟩
      cases ha
    · rintro rfl
      cases h

theorem error_iff {x : Except Fault α} (h : StopsAtFirst faults x) (cause : Fault) :
    x = .error cause ↔ faults.head? = some cause := by
  cases x with
  | ok a =>
    have hnone : faults = [] := h
    simp [hnone]
  | error other =>
    have hfirst : faults.head? = some other := h
    simp [hfirst]

/-- Steps one after the other stop at the first of all their faults. -/
theorem bind {x : Except Fault α} {f : α → Except Fault β} (hx : StopsAtFirst faults x)
    (hf : ∀ a, x = .ok a → StopsAtFirst later (f a)) :
    StopsAtFirst (faults ++ later) (x >>= f) := by
  cases x with
  | ok a =>
    have hnone : faults = [] := hx
    rw [hnone]
    exact hf a rfl
  | error cause =>
    have hfirst : faults.head? = some cause := hx
    show (faults ++ later).head? = some cause
    rw [List.head?_append, hfirst]
    rfl

/-- What is made of the result at the end adds no fault. -/
theorem bind_pure {x : Except Fault α} (hx : StopsAtFirst faults x) (g : α → β) :
    StopsAtFirst faults (x >>= fun a => pure (g a)) := by
  have hlast : StopsAtFirst (faults ++ []) (x >>= fun a => pure (g a)) := hx.bind fun _ _ => rfl
  rwa [List.append_nil] at hlast

/-- A test that looks for a bad item stops at the first of all bad items. -/
theorem of_find? {items : List α} {bad : α → Bool} {fault : α → Fault} {x : Except Fault β}
    (hbad : ∀ item, items.find? bad = some item → x = .error (fault item))
    (hgood : items.find? bad = none → ∃ b, x = .ok b) :
    StopsAtFirst ((items.filter bad).map fault) x := by
  cases hfind : items.find? bad with
  | some item =>
    rw [hbad item hfind]
    have hfirst : ((items.filter bad).map fault).head? = some (fault item) := by
      rw [List.head?_map, List.head?_filter, hfind]
      rfl
    exact hfirst
  | none =>
    obtain ⟨b, hb⟩ := hgood hfind
    rw [hb]
    have hnone : (items.filter bad).map fault = [] := by
      rw [List.map_eq_nil_iff, List.filter_eq_nil_iff]
      exact List.find?_eq_none.mp hfind
    exact hnone

end StopsAtFirst

namespace Rulebook

open RulebookDocument

/-! ### Characteristics -/

theorem stopsAtFirst_readGeneration (known : Profile (Option Dice))
    (entries : List (String × String)) :
    StopsAtFirst (entries.flatMap entryFaults) (readGeneration known entries) := by
  induction entries generalizing known with
  | nil => rfl
  | cons e rest ih =>
    obtain ⟨key, formula⟩ := e
    rw [readGeneration, List.flatMap_cons, entryFaults]
    cases Characteristic.ofKey? key with
    | none => rfl
    | some c =>
      cases Dice.parse formula with
      | error cause => rfl
      | ok dice => exact ih _

/-- Dice are known for the characteristics that they were known for before, and for those that some
key names. -/
theorem isSome_get_of_readGeneration {known known' : Profile (Option Dice)}
    {entries : List (String × String)} (h : readGeneration known entries = .ok known')
    (c : Characteristic) : (known'.get c).isSome =
      ((known.get c).isSome || entries.any fun e => Characteristic.ofKey? e.1 == some c) := by
  induction entries generalizing known with
  | nil =>
    cases h
    simp
  | cons e rest ih =>
    obtain ⟨key, formula⟩ := e
    rw [readGeneration] at h
    split at h
    · cases h
    · next named hnamed =>
      split at h
      · cases h
      · rw [ih h, Profile.get_set, List.any_cons, hnamed]
        by_cases hc : c = named
        · simp [hc]
        · have hne : (named == c) = false := beq_eq_false_iff_ne.mpr (Ne.symm hc)
          simp [hc, hne]

/-- A profile that holds a value for every characteristic is complete. -/
theorem exists_complete {known : Profile (Option Dice)} (h : ∀ c, (known.get c).isSome) :
    ∃ generation, known.complete? = some generation := by
  refine ⟨known.map fun dice => dice.getD default, Profile.complete?_eq_some_iff.mpr ?_⟩
  refine Profile.ext_get fun c => ?_
  obtain ⟨dice, hdice⟩ := Option.isSome_iff_exists.mp (h c)
  rw [Profile.get_map, Profile.get_map, hdice]
  rfl

theorem stopsAtFirst_completeGeneration {known : Profile (Option Dice)}
    {entries : List (String × String)}
    (h : readGeneration (Profile.uniform none) entries = .ok known) :
    StopsAtFirst ((uncovered entries).map fun c => .catalog (.noGeneration c))
      (completeGeneration known) := by
  have huncovered : uncovered entries = Characteristic.all.filter fun c => (known.get c).isNone := by
    refine List.filter_congr fun c _ => ?_
    rw [← Option.not_isSome, isSome_get_of_readGeneration h, Profile.get_uniform, Option.isSome_none,
      Bool.false_or]
  rw [huncovered, completeGeneration]
  refine .of_find? (fun c hc => ?_) fun hnone => ?_
  · cases hcomplete : known.complete? with
    | none => rw [hc]; rfl
    | some generation =>
      have hmissing := List.find?_some hc
      rw [Profile.complete?_eq_some_iff.mp hcomplete, Profile.get_map] at hmissing
      cases hmissing
  · have hall : ∀ c, (known.get c).isSome := by
      intro c
      rw [Option.isSome_iff_ne_none]
      simpa using List.find?_eq_none.mp hnone c (Characteristic.mem_all c)
    obtain ⟨generation, hgeneration⟩ := exists_complete hall
    exact ⟨generation, by rw [hgeneration]⟩

/-! ### Skills and occupations -/

/-- The keys that filing has seen behind some items, the last one first. -/
def seenKeys {α : Type} (name : α → String) (earlier : List α) : List String :=
  (earlier.map fun item => SkillName.key (name item)).reverse

theorem seenKeys_concat {α : Type} (name : α → String) (earlier : List α) (item : α) :
    seenKeys name (earlier ++ [item]) = SkillName.key (name item) :: seenKeys name earlier := by
  simp [seenKeys]

/-- A name is repeated exactly if filing has seen its key. -/
theorem repeats_eq {α : Type} (name : α → String) (earlier : List α) (item : α) :
    repeats name earlier item = (seenKeys name earlier).contains (SkillName.key (name item)) := by
  rw [Bool.eq_iff_iff, repeats, List.contains_iff_mem, List.any_eq_true]
  simp [seenKeys, SkillName.same]

/-- What is wrong with items in turn: what is wrong with the first of them, and then with the
rest. -/
theorem inTurn_cons {α : Type} (faults : List α → α → List Fault) (earlier : List α) (item : α)
    (rest : List α) : inTurn faults earlier (item :: rest) =
      faults earlier item ++ inTurn faults (earlier ++ [item]) rest := by
  rw [inTurn, List.zipIdx_cons, List.flatMap_cons, List.zipIdx_eq_map_add, List.flatMap_map, inTurn]
  simp [Nat.add_comm 1]

theorem stopsAtFirst_fileSkills (earlier skills : List Skill) :
    StopsAtFirst (inTurn skillFaults earlier skills)
      (fileSkills (seenKeys Skill.name earlier) skills) := by
  induction skills generalizing earlier with
  | nil => rfl
  | cons s rest ih =>
    rw [inTurn_cons, skillFaults, fileSkills, repeats_eq]
    split
    · rfl
    · rw [← seenKeys_concat]
      exact (ih (earlier ++ [s])).bind_pure _

theorem stopsAtFirst_checkOccupation (o : Occupation) :
    StopsAtFirst (ownFaults o) (checkOccupation o) := by
  have hrange : isCreditRange o.credit = true ↔
      0 ≤ o.credit.min ∧ o.credit.min ≤ o.credit.max ∧ o.credit.max ≤ 99 := by
    simp [isCreditRange, and_assoc]
  have hempty : (o.pickGroups.filter fun g => g.count = 0 ∨ g.options = []) =
      o.pickGroups.filter isEmptyGroup := by
    refine List.filter_congr fun g _ => ?_
    rw [Bool.eq_iff_iff]
    simp [isEmptyGroup]
  rw [ownFaults, checkOccupation, hempty]
  by_cases hcredit : isCreditRange o.credit = true
  · rw [if_pos (hrange.mp hcredit), hcredit, Bool.not_true, if_neg Bool.false_ne_true]
    cases (Points.Formula.parse o.pointsFormula).check with
    | error cause => rfl
    | ok _ =>
      rw [List.nil_append]
      exact .of_find? (fun g hg => by rw [hg]) fun hnone => ⟨(), by rw [hnone]⟩
  · rw [if_neg (hrange.not.mp hcredit), if_pos (by simpa using hcredit)]
    rfl

theorem stopsAtFirst_fileOccupations (earlier occupations : List Occupation) :
    StopsAtFirst (inTurn occupationFaults earlier occupations)
      (fileOccupations (seenKeys Occupation.name earlier) occupations) := by
  induction occupations generalizing earlier with
  | nil => rfl
  | cons o rest ih =>
    rw [inTurn_cons, occupationFaults, fileOccupations, repeats_eq]
    split
    · rfl
    · rw [← seenKeys_concat]
      refine (stopsAtFirst_checkOccupation o).bind fun _ _ => ?_
      exact (ih (earlier ++ [o])).bind_pure _

theorem stopsAtFirst_checkBands (bands : List FinanceBand) :
    StopsAtFirst (bandFaults bands) (checkBands bands) := by
  unfold bandFaults checkBands
  exact .of_find? (fun band hband => by rw [hband]) fun hnone => ⟨(), by rw [hnone]⟩

/-! ### Documents -/

/-- A load stops at the first contradiction. -/
theorem stopsAtFirst_ofDocument (d : RulebookDocument) :
    StopsAtFirst d.contradictions (ofDocument d) := by
  rw [contradictions, ofDocument]
  simp only [List.append_assoc]
  refine (stopsAtFirst_readGeneration _ _).bind fun known hknown => ?_
  refine (stopsAtFirst_completeGeneration hknown).bind fun generation _ => ?_
  refine (stopsAtFirst_fileSkills [] d.skills).bind fun skills _ => ?_
  refine (stopsAtFirst_fileOccupations [] d.occupations).bind fun occupations _ => ?_
  exact (stopsAtFirst_checkBands d.bands).bind_pure _

/-- **A load accepts exactly the consistent documents.** Whatever formulas were read before, a load
gives the rulebook of the document; there is one exactly if the document is consistent, and for any
other document there is a fault, which is its first contradiction. -/
theorem ofDocument_accepts (d : RulebookDocument) :
    (∀ texts, ((load d).run (Points.Cache.readAll SortedMap.empty texts)).1 = ofDocument d) ∧
      ((∃ r, ofDocument d = .ok r) ↔ d.Consistent) ∧
      ∀ cause, ofDocument d = .error cause ↔ d.contradictions.head? = some cause := by
  have hstops := stopsAtFirst_ofDocument d
  refine ⟨fun texts => ?_, ?_, hstops.error_iff⟩
  · have hfaithful := Points.Cache.faithful_readAll Points.Cache.faithful_empty texts
    exact congrArg Prod.fst (reads_load d _ hfaithful)
  · rw [← contradictions_eq_nil_iff]
    exact hstops.ok_iff

/-- A document with a key that names nothing, a text that names no dice, a missing characteristic, a
repeated name and a band that is no range. -/
def contradictory : RulebookDocument :=
  { repeatedName with
    characteristics := SortedMap.ofList
      (("PELO", "0D6") :: Characteristic.all.dropLast.map fun c => (c.name, "3D6x5"))
    bands := [⟨50, 10, 0, .nothing, .nothing⟩] }

example : contradictory.contradictions =
    [.unknownCharacteristic "PELO", .dice (.notPositive "0D6"), .catalog (.noGeneration .suerte),
      .catalog (.duplicateOccupation "ACTRIZ"), .catalog (.financeBand 50 10)] := by
  decide +kernel

end Rulebook

end Chargen
