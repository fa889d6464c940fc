import Chargen.Rulebook

/-!
# What reading ensures of a rulebook

A rulebook that is read is `Consistent`: its entries are filed under the keys of their names, each
key is used once, and every entry has passed its test.

* `consistent_of_ofJson`: **a rulebook that is read is consistent**.
* `legal_generation`: the dice of a rulebook that is read are legal.
* `Consistent.specializationNames_eq`: the table of specializations lists for each family the skills
  of the catalog that belong to it.
* `Consistent.mem_specializationNames_iff`: which skills these are.
-/

namespace Chargen

/-- What an action followed by another gives, if neither of them fails. -/
theorem bind_ok_iff {ε α β : Type} {x : Except ε α} {f : α → Except ε β} {b : β} :
    x >>= f = .ok b ↔ ∃ a, x = .ok a ∧ f a = .ok b := by
  cases x with
  | error e =>
    constructor
    · intro h
      cases h
    · rintro ⟨a, ha, -⟩
      cases ha
  | ok a =>
    constructor
    · intro h
      exact ⟨a, rfl, h⟩
    · rintro ⟨a', ha, h⟩
      cases ha
      exact h

namespace Rulebook

/-! ### Filing -/

/-- Entries filed under the keys of their names, which differ from each other and from those
seen. -/
structure FiledApart {α : Type} (name : α → String) (seen : List String)
    (filed : List (Filed α)) : Prop where
  key_eq : ∀ f ∈ filed, f.key = SkillName.key (name f.entry)
  unseen : ∀ f ∈ filed, f.key ∉ seen
  distinct : filed.Pairwise fun a b => a.key ≠ b.key

theorem FiledApart.nil {α : Type} (name : α → String) (seen : List String) :
    FiledApart name seen [] :=
  ⟨by simp, by simp, .nil⟩

theorem FiledApart.cons {α : Type} {name : α → String} {seen : List String} {x : α}
    {filed : List (Filed α)} (h : FiledApart name (SkillName.key (name x) :: seen) filed)
    (hx : SkillName.key (name x) ∉ seen) :
    FiledApart name seen (⟨SkillName.key (name x), x⟩ :: filed) where
  key_eq := by
    rintro f hf
    rcases List.mem_cons.mp hf with rfl | hf
    · rfl
    · exact h.key_eq f hf
  unseen := by
    rintro f hf
    rcases List.mem_cons.mp hf with rfl | hf
    · exact hx
    · exact fun hmem => h.unseen f hf (List.mem_cons_of_mem _ hmem)
  distinct := by
    refine .cons ?_ h.distinct
    intro f hf heq
    exact h.unseen f hf (heq ▸ List.mem_cons_self)

theorem filedApart_of_fileSkills {seen : List String} {skills : List Skill}
    {filed : List (Filed Skill)} (h : fileSkills seen skills = .ok filed) :
    FiledApart Skill.name seen filed := by
  induction skills generalizing seen filed with
  | nil =>
    cases h
    exact .nil _ _
  | cons s rest ih =>
    rw [fileSkills] at h
    split at h
    · cases h
    · next hseen =>
      obtain ⟨tail, htail, heq⟩ := bind_ok_iff.mp h
      cases heq
      exact (ih htail).cons (by simpa using hseen)

theorem filedApart_of_fileOccupations {seen : List String} {occupations : List Occupation}
    {filed : List (Filed Occupation)} (h : fileOccupations seen occupations = .ok filed) :
    FiledApart Occupation.name seen filed ∧ ∀ f ∈ filed, checkOccupation f.entry = .ok () := by
  induction occupations generalizing seen filed with
  | nil =>
    cases h
    exact ⟨.nil _ _, by simp⟩
  | cons o rest ih =>
    rw [fileOccupations] at h
    split at h
    · cases h
    · next hseen =>
      obtain ⟨_, hcheck, hrest⟩ := bind_ok_iff.mp h
      obtain ⟨tail, htail, heq⟩ := bind_ok_iff.mp hrest
      cases heq
      obtain ⟨hfiled, hchecked⟩ := ih htail
      refine ⟨hfiled.cons (by simpa using hseen), ?_⟩
      intro f hf
      rcases List.mem_cons.mp hf with rfl | hf
      · exact hcheck
      · exact hchecked f hf

/-! ### The table of specializations -/

/-- A name that is added is listed last for its family, and nothing changes for other families. -/
theorem lookup_addSpecialization (family name other : String)
    (table : List (String × List String)) :
    ((addSpecialization family name table).lookup other).getD [] =
      (table.lookup other).getD [] ++ if other = family then [name] else [] := by
  induction table with
  | nil =>
    rw [addSpecialization, List.lookup_cons]
    by_cases h : other = family
    · simp [h]
    · simp [h, beq_eq_false_iff_ne.mpr h]
  | cons entry rest ih =>
    obtain ⟨f, names⟩ := entry
    rw [addSpecialization]
    by_cases hf : f = family
    · subst hf
      rw [if_pos (beq_self_eq_true f), List.lookup_cons, List.lookup_cons]
      by_cases h : other = f
      · simp [h]
      · simp [h, beq_eq_false_iff_ne.mpr h]
    · rw [if_neg (by simpa using hf), List.lookup_cons, List.lookup_cons]
      by_cases h : other = f
      · simp [h, hf]
      · rw [beq_eq_false_iff_ne.mpr h]
        exact ih

/-- Whether a filed skill belongs to a family. -/
def inFamily (family : String) (s : Filed Skill) : Bool :=
  (SkillName.family? s.key).map Prod.fst == some family

/-- A run of steps, each of which lists one skill for its family, lists the members of a family in
order. -/
theorem lookup_foldl {family : String}
    {step : List (String × List String) → Filed Skill → List (String × List String)}
    (hstep : ∀ table s, ((step table s).lookup family).getD [] =
      (table.lookup family).getD [] ++ if inFamily family s then [s.entry.name] else [])
    (skills : List (Filed Skill)) (table : List (String × List String)) :
    ((skills.foldl step table).lookup family).getD [] =
      (table.lookup family).getD [] ++
        (skills.filter (inFamily family)).map fun s => s.entry.name := by
  induction skills generalizing table with
  | nil => simp
  | cons s rest ih =>
    rw [List.foldl_cons, ih, hstep, List.append_assoc, List.filter_cons]
    cases inFamily family s <;> rfl

/-- The table of a catalog lists for each family its members in order. -/
theorem lookup_specializationsOf (skills : List (Filed Skill)) (family : String) :
    ((specializationsOf skills).lookup family).getD [] =
      (skills.filter (inFamily family)).map fun s => s.entry.name := by
  refine lookup_foldl ?_ skills []
  intro table s
  rw [inFamily]
  cases hs : SkillName.family? s.key with
  | none => simp
  | some parts =>
    obtain ⟨f, specialization⟩ := parts
    dsimp only
    rw [lookup_addSpecialization]
    by_cases hf : family = f
    · simp [hf]
    · have hf' : f ≠ family := fun h => hf h.symm
      simp [hf, hf']

/-! ### Consistent rulebooks -/

/-- What reading ensures of a rulebook. -/
structure Consistent (r : Rulebook) : Prop where
  skills_apart : FiledApart Skill.name [] r.skills
  specializations_eq : r.specializations = specializationsOf r.skills
  family_key : ∀ f ∈ r.families, f.key = SkillName.key f.entry.name
  occupations_apart : FiledApart Occupation.name [] r.occupations
  occupation_ok : ∀ o ∈ r.occupations, checkOccupation o.entry = .ok ()
  band_ok : ∀ band ∈ r.bands, band.min ≤ band.max

theorem band_le_of_checkBands {bands : List FinanceBand} (h : checkBands bands = .ok ()) :
    ∀ band ∈ bands, band.min ≤ band.max := by
  unfold checkBands at h
  split at h
  · cases h
  · next hfind =>
    intro band hband
    have hnot := List.find?_eq_none.mp hfind band hband
    simpa using hnot

theorem consistent_of_ofDocument {d : RulebookDocument} {r : Rulebook}
    (h : ofDocument d = .ok r) : Consistent r := by
  unfold ofDocument at h
  obtain ⟨known, -, h⟩ := bind_ok_iff.mp h
  obtain ⟨generation, -, h⟩ := bind_ok_iff.mp h
  obtain ⟨skills, hskills, h⟩ := bind_ok_iff.mp h
  obtain ⟨occupations, hoccupations, h⟩ := bind_ok_iff.mp h
  obtain ⟨_, hbands, h⟩ := bind_ok_iff.mp h
  cases h
  obtain ⟨hapart, hchecked⟩ := filedApart_of_fileOccupations hoccupations
  exact {
    skills_apart := filedApart_of_fileSkills hskills
    specializations_eq := rfl
    family_key := by
      intro f hf
      obtain ⟨f, -, rfl⟩ := List.mem_map.mp hf
      rfl
    occupations_apart := hapart
    occupation_ok := hchecked
    band_ok := band_le_of_checkBands hbands }

/-- **A rulebook that is read is consistent.** -/
theorem consistent_of_ofJson {j : Json} {r : Rulebook} (h : ofJson j = .ok r) : Consistent r := by
  unfold ofJson at h
  split at h
  · exact consistent_of_ofDocument h
  · cases h

/-- The catalog of a consistent rulebook names different skills. -/
theorem Consistent.pairwise_skillNames {r : Rulebook} (hr : Consistent r) :
    r.skillNames.Pairwise fun a b => SkillName.key a ≠ SkillName.key b := by
  rw [skillNames, List.pairwise_map]
  refine hr.skills_apart.distinct.imp_of_mem fun {a b} ha hb hne => ?_
  rwa [hr.skills_apart.key_eq a ha, hr.skills_apart.key_eq b hb] at hne

/-- **The specializations of a family** are the skills of the catalog that belong to it. -/
theorem Consistent.specializationNames_eq {r : Rulebook} (hr : Consistent r) (family : String) :
    r.specializationNames family =
      (r.skills.filter (inFamily (SkillName.key family))).map fun s => s.entry.name := by
  rw [specializationNames, hr.specializations_eq, lookup_specializationsOf]

/-- A skill is listed for a family exactly if it is one of the catalog and the family is its own. -/
theorem Consistent.mem_specializationNames_iff {r : Rulebook} (hr : Consistent r)
    {family name : String} : name ∈ r.specializationNames family ↔ name ∈ r.skillNames ∧
      ∃ specialization, SkillName.family? (SkillName.key name) =
        some (SkillName.key family, specialization) := by
  have hfamily : ∀ f ∈ r.skills, inFamily (SkillName.key family) f = true ↔
      ∃ specialization, SkillName.family? (SkillName.key f.entry.name) =
        some (SkillName.key family, specialization) := by
    intro f hf
    rw [inFamily, hr.skills_apart.key_eq f hf, beq_iff_eq, Option.map_eq_some_iff]
    constructor
    · rintro ⟨⟨_, specialization⟩, hparts, rfl⟩
      exact ⟨specialization, hparts⟩
    · rintro ⟨specialization, hparts⟩
      exact ⟨_, hparts, rfl⟩
  rw [hr.specializationNames_eq, skillNames, List.mem_map, List.mem_map]
  constructor
  · rintro ⟨f, hf, rfl⟩
    obtain ⟨hmem, hin⟩ := List.mem_filter.mp hf
    exact ⟨⟨f, hmem, rfl⟩, (hfamily f hmem).mp hin⟩
  · rintro ⟨⟨f, hmem, rfl⟩, hparts⟩
    exact ⟨f, List.mem_filter.mpr ⟨hmem, (hfamily f hmem).mpr hparts⟩, rfl⟩

/-! ### The dice of a rulebook -/

theorem legal_of_readGeneration {known known' : Profile (Option Dice)}
    {entries : List (String × String)} (h : readGeneration known entries = .ok known')
    (hknown : ∀ c d, known.get c = some d → d.Legal) :
    ∀ c d, known'.get c = some d → d.Legal := by
  induction entries generalizing known with
  | nil =>
    cases h
    exact hknown
  | cons entry rest ih =>
    obtain ⟨key, formula⟩ := entry
    rw [readGeneration] at h
    split at h
    · cases h
    · next c hc =>
      split at h
      · cases h
      · next dice hdice =>
        refine ih h fun c' d hd => ?_
        rw [Profile.get_set] at hd
        split at hd
        · cases hd
          exact Dice.legal_of_parse hdice
        · exact hknown c' d hd

/-- **The dice of a rulebook that is read are legal.** -/
theorem legal_generation {j : Json} {r : Rulebook} (h : ofJson j = .ok r) (c : Characteristic) :
    (r.generation.get c).Legal := by
  unfold ofJson at h
  split at h
  · next d _ =>
    unfold ofDocument at h
    obtain ⟨known, hknown, h⟩ := bind_ok_iff.mp h
    obtain ⟨generation, hgeneration, h⟩ := bind_ok_iff.mp h
    obtain ⟨skills, -, h⟩ := bind_ok_iff.mp h
    obtain ⟨occupations, -, h⟩ := bind_ok_iff.mp h
    obtain ⟨_, -, h⟩ := bind_ok_iff.mp h
    cases h
    have hlegal := legal_of_readGeneration hknown (by simp)
    unfold completeGeneration at hgeneration
    split at hgeneration
    · next hcomplete =>
      cases hgeneration
      refine hlegal c _ ?_
      rw [Profile.complete?_eq_some_iff.mp hcomplete, Profile.get_map]
    · cases hgeneration
  · cases h

/-! ### Looking up -/

/-- Whether a skill is forbidden depends on its key only. -/
theorem isForbidden_congr {a b : String} (h : SkillName.key a = SkillName.key b) (r : Rulebook) :
    r.isForbidden a = r.isForbidden b := by
  rw [isForbidden, isForbidden, skill?, skill?, SkillName.isCredit, SkillName.isCredit, h]

/-- The skill of the credit rating is forbidden, and so is what the catalog forbids. -/
theorem isForbidden_iff {r : Rulebook} {skill : String} : r.isForbidden skill = true ↔
    SkillName.isCredit skill = true ∨
      ∃ entry, r.skill? skill = some entry ∧ entry.forbidden = true := by
  rw [isForbidden, Bool.or_eq_true]
  cases r.skill? skill with
  | none => simp
  | some entry => simp

/-- An occupation that is found is filed. -/
theorem mem_of_occupation? {r : Rulebook} {name : String} {o : Occupation}
    (h : r.occupation? name = some o) : ∃ f ∈ r.occupations, f.entry = o := by
  obtain ⟨f, hf, rfl⟩ := Option.map_eq_some_iff.mp h
  exact ⟨f, List.mem_of_find?_eq_some hf, rfl⟩

/-- A rulebook with a family of two skills, a forbidden skill, and an occupation that grants the
family and one pick. -/
def sampleDocument : Json :=
  .object [
    ("characteristics", .object [("FUE", .string "3D6x5"), ("CON", .string "3D6x5"),
      ("TAM", .string "(2D6+6)x5"), ("DES", .string "3D6x5"), ("APA", .string "3D6x5"),
      ("INT", .string "(2D6+6)x5"), ("POD", .string "3D6x5"), ("EDU", .string "(2D6+6)x5"),
      ("SUERTE", .string "3D6x5")]),
    ("skills", .array [
      .object [("name", .string "Crédito")],
      .object [("name", .string "Arte (Óleo)"), ("base", .integer 5)],
      .object [("name", .string "Arte (Foto)"), ("base", .integer 5)],
      .object [("name", .string "Mitos"), ("forbidden_at_creation", .bool true)]]),
    ("occupations", .array [
      .object [("name", .string "Actriz"),
        ("credit_rating", .object [("min", .integer 9), ("max", .integer 70)]),
        ("points_formula", .string "EDUx2+(DESx2OAPAx2)"),
        ("skills", .array [.string "arte"]),
        ("choice_groups", .array [.object [("label", .string "Una más"), ("count", .integer 1),
          ("options", .array [.string "cualquiera"])]])]])]

/-- A rulebook whose skill names read as entries: one is a family too, one has the word `o`, and one
is a forbidden skill of a family that a group offers. -/
def overlapDocument : Json :=
  .object [
    ("characteristics", .object (Characteristic.all.map fun c => (c.name, .string "3D6x5"))),
    ("skills", .array [
      .object [("name", .string "Arte")],
      .object [("name", .string "Arte (Óleo)")],
      .object [("name", .string "Ciencia (Física)")],
      .object [("name", .string "Ciencia (Oculta)"), ("forbidden_at_creation", .bool true)],
      .object [("name", .string "Canto o Baile")]]),
    ("occupations", .array [
      .object [("name", .string "Actriz"),
        ("credit_rating", .object [("min", .integer 9), ("max", .integer 70)]),
        ("points_formula", .string "EDUx4"),
        ("skills", .array [.string "Arte"]),
        ("choice_groups", .array [.object [("label", .string "Una más"), ("count", .integer 1),
          ("options", .array [.string "Ciencia", .string "Cualquiera"])]])]])]

/-- What holds by evaluation of the rulebook of a document and an occupation of it. -/
theorem exists_occupation_of_decide {j : Json} {name : String} {P : Rulebook → Occupation → Prop}
    [∀ r o, Decidable (P r o)]
    (h : ((ofJson j).toOption.bind fun r => (r.occupation? name).map fun o => decide (P r o)) =
      some true) : ∃ r o, ofJson j = .ok r ∧ r.occupation? name = some o ∧ P r o := by
  cases hr : ofJson j with
  | error cause =>
    rw [hr] at h
    cases h
  | ok r =>
    rw [hr] at h
    obtain ⟨o, ho, hP⟩ := Option.map_eq_some_iff.mp h
    exact ⟨r, o, rfl, ho, of_decide_eq_true hP⟩

end Rulebook

end Chargen
