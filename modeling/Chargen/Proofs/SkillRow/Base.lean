import Chargen.Proofs.Respelling
import Chargen.Proofs.Rulebook.Index
import Chargen.Proofs.SkillName.Stable

/-!
# The base of a skill

The base of a skill is looked up by key, and keys are looked up once more by their own keys. What
comes out is what the rulebook's document says about the name itself, in whatever spelling: education
for one's own language, half of dexterity for dodging, else the catalog, else the family that the
name belongs to, else the name as a family.

* `SkillName.SplitsWithKey`: a name whose family and specialization can be read from its key, which
  by `splitsWithKey_iff` is every name whose family and specialization have keys that are not empty.
* `RulebookDocument.base`: the base that a document gives to a name.
* `SkillRow.baseValue_of_ofJson`: **the base of a skill is what the document says**, and it is the
  same in every spelling.
-/

namespace Chargen

/-! ### Names that a skill or family covers -/

namespace SkillName

/-- The parts of the key of a name are the keys of its parts. -/
def SplitsWithKey (name : String) : Prop :=
  family? (key name) = (family? name).map fun pair => (key pair.1, key pair.2)

instance (name : String) : Decidable (SplitsWithKey name) :=
  inferInstanceAs (Decidable (_ = _))

/-- Only a part that consists of marks is lost in the key. -/
theorem splitsWithKey_iff {name : String} : SplitsWithKey name ↔
    ∀ family specialization, family? name = some (family, specialization) →
      key family ≠ "" ∧ key specialization ≠ "" := by
  rw [SplitsWithKey, family?_key]
  cases family? name with
  | none => simp
  | some pair =>
    rw [Option.bind_some, Option.map_some]
    split
    · next hempty =>
      have hlost : ¬ (key pair.1 ≠ "" ∧ key pair.2 ≠ "") := fun h => hempty.elim h.1 h.2
      exact iff_of_false (by simp) fun h => hlost (h pair.1 pair.2 rfl)
    · next hkept =>
      refine iff_of_true rfl ?_
      rintro family specialization ⟨⟩
      exact not_or.mp hkept

/-- Whether a name names a skill, or something in the family of that name, in any spelling. -/
def isOrBelongs (skill name : String) : Bool :=
  same name skill || (family? name).any fun pair => same pair.1 skill

end SkillName

/-! ### What a document says -/

namespace RulebookDocument

variable (d : RulebookDocument)

/-- The last skill family listed with a name, in any spelling. -/
def familyNamed? (name : String) : Option SkillFamily :=
  (d.families.filter fun f => SkillName.same f.name name).getLast?

/-- The skill of the catalog with a name, in any spelling. -/
def skillNamed? (name : String) : Option Skill :=
  d.skills.find? fun s => SkillName.same s.name name

/-- The skill family that a name belongs to, or else the one that it names. -/
def familyOf? (name : String) : Option SkillFamily :=
  ((SkillName.family? name).bind fun pair => d.familyNamed? pair.1).or (d.familyNamed? name)

/-- The base that a document gives to a name. -/
def base (b : Block) (name : String) : Int :=
  if SkillName.isOrBelongs SkillName.ownLanguage name then b.edu
  else if SkillName.isOrBelongs SkillName.dodge name then b.des.tdiv 2
  else ((d.skillNamed? name).map Skill.base).getD
    (((d.familyOf? name).map SkillFamily.base).getD 0)

end RulebookDocument

namespace Rulebook

variable {d : RulebookDocument} {r : Rulebook}

/-- A key finds the skill that its name finds. -/
theorem skill?_key (r : Rulebook) (name : String) :
    r.skill? (SkillName.key name) = r.skill? name := by
  rw [skill?, skill?, SkillName.key_key]

/-- A key finds the skill family that its name finds. -/
theorem family?_key (r : Rulebook) (name : String) :
    r.family? (SkillName.key name) = r.family? name := by
  rw [family?, family?, SkillName.key_key]

theorem skillNamed?_of_ofDocument (h : ofDocument d = .ok r) (name : String) :
    d.skillNamed? name = r.skill? name := by
  have hskill := (searched_of_ofDocument h name).skill
  rw [RulebookDocument.skillNamed?, ← List.head?_filter, hskill]
  cases r.skill? name with
  | none => rfl
  | some s => rfl

theorem familyNamed?_of_ofDocument (h : ofDocument d = .ok r) (name : String) :
    d.familyNamed? name = r.family? name :=
  (searched_of_ofDocument h name).family

end Rulebook

/-! ### The base of a skill -/

namespace SkillRow

variable {name : String}

/-- A key names a skill, alone or by its family, where the name does. -/
theorem names_key (h : SkillName.SplitsWithKey name) (skill : String) :
    names skill (SkillName.key name) ((SkillName.family? (SkillName.key name)).map Prod.fst) =
      SkillName.isOrBelongs skill name := by
  have hfamily : ∀ k : String, (((SkillName.family? (SkillName.key name)).map Prod.fst) == some k) =
      (SkillName.family? name).any fun pair => SkillName.key pair.1 == k := by
    intro k
    rw [h]
    cases SkillName.family? name with
    | none => rfl
    | some pair => rw [Option.map_some, Option.map_some, Option.any_some, Option.some_beq_some]
  simp only [names, hfamily, SkillName.isOrBelongs, SkillName.same]

/-- The families of a rulebook give to a key what its document gives to the name. -/
theorem familyBase_key {d : RulebookDocument} {r : Rulebook} (hd : Rulebook.ofDocument d = .ok r)
    (h : SkillName.SplitsWithKey name) :
    familyBase r (SkillName.key name) ((SkillName.family? (SkillName.key name)).map Prod.fst) =
      ((d.familyOf? name).map SkillFamily.base).getD 0 := by
  have hfamily : (((SkillName.family? (SkillName.key name)).map Prod.fst).bind r.family?) =
      (SkillName.family? name).bind fun pair => d.familyNamed? pair.1 := by
    rw [h]
    cases SkillName.family? name with
    | none => rfl
    | some pair =>
      simp only [Option.map_some, Option.bind_some, Rulebook.family?_key,
        Rulebook.familyNamed?_of_ofDocument hd]
  rw [familyBase, hfamily, Rulebook.family?_key, ← Rulebook.familyNamed?_of_ofDocument hd,
    ← RulebookDocument.familyOf?]
  cases d.familyOf? name with
  | none => rfl
  | some f => rfl

theorem baseValue_of_ofDocument {d : RulebookDocument} {r : Rulebook}
    (hd : Rulebook.ofDocument d = .ok r) (b : Block) (h : SkillName.SplitsWithKey name) :
    baseValue r b name = d.base b name := by
  rw [baseValue, RulebookDocument.base]
  simp only [names_key h, Rulebook.skill?_key, familyBase_key hd h,
    Rulebook.skillNamed?_of_ofDocument hd]
  cases r.skill? name with
  | none => rfl
  | some s => rfl

/-- **The base of a skill is what the document says** about its name, for every name whose key has
the parts of the name; and two spellings of a name have one base. -/
theorem baseValue_of_ofJson {j : Json} {r : Rulebook} (h : Rulebook.ofJson j = .ok r) :
    ∃ d, j.asRulebook? = some d ∧ ∀ b name,
      (SkillName.SplitsWithKey name → baseValue r b name = d.base b name) ∧
        ∀ name', SkillName.same name' name = true → baseValue r b name' = baseValue r b name := by
  unfold Rulebook.ofJson at h
  split at h
  · next d hd =>
    refine ⟨d, hd, fun b name => ⟨baseValue_of_ofDocument h b, fun name' hsame => ?_⟩⟩
    exact baseValue_congr (SkillName.same_iff.mp hsame) r b
  · cases h

/-- Names in spellings of their own: one's own language by its family, dodging, a skill of the
catalog, something in a family that is listed twice, a family, and a name that is not listed. -/
def respelledNames : List String :=
  ["LENGUA  propia (Español)", "esquívar", "arte (oleo)", "Arte (nueva)", "CIENCIA", "Telepatía"]

/-- A block to look up bases in. -/
def learned : Block :=
  { Profile.uniform (50 : Int) with edu := 75, des := 61 }

/-- The catalog counts before the family, and the later spelling of the family before the earlier. -/
theorem baseValue_of_ofJson_respelled : ∃ r,
    Rulebook.ofJson IndexedRulebook.respelledDocument = .ok r ∧
      respelledNames.map (baseValue r learned) = [75, 30, 5, 10, 1, 0] := by
  have hread : ∃ r o, Rulebook.ofJson IndexedRulebook.respelledDocument = .ok r ∧
      r.occupation? "actriz" = some o ∧ True :=
    Rulebook.exists_occupation_of_decide (by decide +kernel)
  obtain ⟨r, -, hr, -⟩ := hread
  obtain ⟨d, hd, hbase⟩ := baseValue_of_ofJson hr
  -- What is evaluated is the document; the rulebook follows it name by name.
  have hsplit : ∀ name ∈ respelledNames, SkillName.SplitsWithKey name := by decide +kernel
  have hvalues : (IndexedRulebook.respelledDocument.asRulebook?.map fun d =>
      respelledNames.map (d.base learned)) = some [75, 30, 5, 10, 1, 0] := by decide +kernel
  rw [hd, Option.map_some, Option.some.injEq] at hvalues
  refine ⟨r, hr, ?_⟩
  rw [← hvalues]
  exact List.map_congr_left fun name hname => (hbase learned name).1 (hsplit name hname)

end SkillRow

end Chargen
