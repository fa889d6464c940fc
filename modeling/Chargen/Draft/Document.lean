import Chargen.Draft
import Chargen.Json.Record
import Chargen.Numeral

/-!
# Drafts as documents

A draft is kept as a JSON document. A field that the document leaves out means that nothing is
entered there, and a written draft has every field. The picks of a selection are a list of entries,
one for each group, in order.

* `Draft.toJson`: writes a draft.
* `Json.asDraft?`: reads one.
-/

namespace Chargen

namespace Json

/-- A list of texts. -/
def asTexts? : Json → Option (List String) :=
  asList? asString?

/-- A block with all nine characteristics. -/
def asBlock? (j : Json) : Option Block := do
  let values ← j.fields (Characteristic.all.map Characteristic.name)
  let numbers ← values.mapM (required asNumber?)
  match numbers with
  | [fue, con, tam, des, apa, int, pod, edu, suerte] =>
    return { fue, con, tam, des, apa, int, pod, edu, suerte }
  | _ => none

/-- A split of the age penalties. -/
def asSplit? (j : Json) : Option Split := do
  match ← j.fields ["youth_fue", "youth_tam", "mature_fue", "mature_con", "mature_des"] with
  | [youthFue, youthTam, matureFue, matureCon, matureDes] =>
    return { youthFue := ← withDefault 0 asCount? youthFue
             youthTam := ← withDefault 0 asCount? youthTam
             matureFue := ← withDefault 0 asCount? matureFue
             matureCon := ← withDefault 0 asCount? matureCon
             matureDes := ← withDefault 0 asCount? matureDes }
  | _ => none

/-- A characteristic of a block under construction, with its value. -/
def addCharacteristic? (b : PartialBlock) (m : MemberName × Json) : Option PartialBlock := do
  let c ← Characteristic.ofName? m.1.text
  let n ← m.2.asNumber?
  return b.set c (some n)

/-- A block under construction: the characteristics known, by name. -/
def asPartialBlock? (j : Json) : Option PartialBlock := do
  (← j.asObject?).foldlM addCharacteristic? (Profile.uniform none)

/-- The number of 64 bits that is the name of a member: its plain numeral, without a sign, a leading
zero or an escape. -/
def asPlainIndex? (name : MemberName) : Option Nat :=
  match name.plain, numeral? 18446744073709551616 name.text.toList with
  | true, some n => if toString n == name.text then some n else none
  | _, _ => none

/-- The options picked for a formula, by number. -/
def asFormulaPicks? (j : Json) : Option Points.Picks := do
  let entries ← (← j.asObject?).mapM fun m => do
    return (← asPlainIndex? m.1, ← m.2.asString?)
  return SortedMap.ofList entries

/-- A pool of points, by skill. -/
def asPool? (j : Json) : Option Pool := do
  let entries ← (← j.asObject?).mapM fun m => (m.2.asCount?).map (m.1.text, ·)
  return SortedMap.ofList entries

/-- The points spent. -/
def asSpending? (j : Json) : Option Spending := do
  match ← j.fields ["occupation", "personal"] with
  | [occupation, personal] =>
    return { occupation := ← withDefault SortedMap.empty asPool? occupation
             personal := ← withDefault SortedMap.empty asPool? personal }
  | _ => none

/-- A group of picks. -/
def asGroupRef? (j : Json) : Option GroupRef := do
  match ← j.fields ["occupation", "group_index"] with
  | [occupation, index] =>
    return { occupation := ← required asString? occupation, index := ← required asIndex? index }
  | _ => none

/-- A group with its picks. -/
def asPickEntry? (j : Json) : Option (GroupRef × List String) := do
  match ← j.fields ["group", "skills"] with
  | [group, skills] => return (← required asGroupRef? group, ← withDefault [] asTexts? skills)
  | _ => none

/-- The picks of a selection; of two entries for one group the later one counts. -/
def asPicks? (j : Json) : Option (SortedMap GroupRef (List String)) := do
  return SortedMap.ofList (← j.asList? asPickEntry?)

/-- A selection. -/
def asSelection? (j : Json) : Option Selection := do
  match ← j.fields ["name", "credit_rating", "choices", "formula_choices"] with
  | [name, creditRating, picks, formulaPicks] =>
    return { name := ← required asString? name
             creditRating := ← required asNumber? creditRating
             picks := ← withDefault SortedMap.empty asPicks? picks
             formulaPicks := ← withDefault SortedMap.empty asFormulaPicks? formulaPicks }
  | _ => none

/-- Who an investigator is. -/
def asIdentity? (j : Json) : Option Identity := do
  match ← j.fields ["name", "player", "gender", "residence", "birthplace"] with
  | [name, player, gender, residence, birthplace] =>
    return { name := ← withDefault "" asString? name
             player := ← withDefault "" asString? player
             gender := ← withDefault "" asString? gender
             residence := ← withDefault "" asString? residence
             birthplace := ← withDefault "" asString? birthplace }
  | _ => none

/-- A background. -/
def asBackground? (j : Json) : Option Background := do
  match ← j.fields ["description", "ideology", "significant_people", "meaningful_locations",
      "treasured_possessions", "traits", "core_bond"] with
  | [description, ideology, people, locations, possessions, traits, coreBond] =>
    return { description := ← withDefault "" asString? description
             ideology := ← withDefault "" asString? ideology
             significantPeople := ← withDefault "" asString? people
             meaningfulLocations := ← withDefault "" asString? locations
             treasuredPossessions := ← withDefault "" asString? possessions
             traits := ← withDefault "" asString? traits
             coreBond := ← withDefault "" asString? coreBond }
  | _ => none

/-- A companion. -/
def asCompanion? (j : Json) : Option Companion := do
  match ← j.fields ["name", "relationship", "notes"] with
  | [name, relationship, notes] =>
    return { name := ← withDefault "" asString? name
             relationship := ← withDefault "" asString? relationship
             notes := ← withDefault "" asString? notes }
  | _ => none

/-- The equipment. -/
def asEquipment? (j : Json) : Option Equipment := do
  match ← j.fields ["spending_level", "cash", "assets", "notes", "items"] with
  | [level, cash, assets, notes, items] =>
    return { spendingLevel := ← withDefault "" asString? level
             cash := ← withDefault "" asString? cash
             assets := ← withDefault "" asString? assets
             notes := ← withDefault "" asString? notes
             items := ← withDefault [] asTexts? items }
  | _ => none

/-- A draft. -/
def asDraft? (j : Json) : Option Draft := do
  match ← j.fields ["identity", "age", "age_penalties", "characteristics", "rolled_at_age",
      "occupation", "skills", "background", "companions", "equipment"] with
  | [identity, age, split, characteristics, rolledAt, selection, spending, background, companions,
      equipment] =>
    return { identity := ← withDefault Identity.blank asIdentity? identity
             age := ← withDefault Draft.startAge asCount? age
             split := ← withDefault Split.none asSplit? split
             characteristics := ← withDefault (Profile.uniform none) asPartialBlock? characteristics
             rolledAt := ← withDefault none (asOption? asCount?) rolledAt
             selection := ← withDefault none (asOption? asSelection?) selection
             spending := ← withDefault Spending.nothing asSpending? spending
             background := ← withDefault Background.blank asBackground? background
             companions := ← withDefault [] (asList? asCompanion?) companions
             equipment := ← withDefault Equipment.blank asEquipment? equipment }
  | _ => none

/-- A number that is not negative. -/
def ofNat (n : Nat) : Json := .integer n

/-- A list of texts. -/
def ofTexts (texts : List String) : Json :=
  .array (texts.map Json.string)

/-- A value that may be missing, which is then null. -/
def ofOption {α : Type} (value : α → Json) : Option α → Json
  | none => .null
  | some a => value a

end Json

namespace Profile

/-- One value for each characteristic, by name. -/
def toJson {α : Type} (value : α → Json) (p : Profile α) : Json :=
  .object (p.toList.map fun e => (e.1.name, value e.2))

/-- The values that are known, by the name of the characteristic. -/
def knownToJson (b : PartialBlock) : Json :=
  .object (b.toList.filterMap fun e => e.2.map fun n => (e.1.name, Json.integer n))

end Profile

/-- A split of the age penalties as a document. -/
def Split.toJson (s : Split) : Json :=
  .object [("youth_fue", .ofNat s.youthFue), ("youth_tam", .ofNat s.youthTam),
    ("mature_fue", .ofNat s.matureFue), ("mature_con", .ofNat s.matureCon),
    ("mature_des", .ofNat s.matureDes)]

/-- The options picked for a formula as a document. -/
def Points.Picks.toJson (p : Points.Picks) : Json :=
  .object (p.entries.map fun e => (toString e.1, Json.string e.2))

/-- A pool of points as a document. -/
def Pool.toJson (p : Pool) : Json :=
  .object (p.entries.map fun e => (e.1, Json.ofNat e.2))

/-- The points spent as a document. -/
def Spending.toJson (s : Spending) : Json :=
  .object [("occupation", s.occupation.toJson), ("personal", s.personal.toJson)]

/-- A group of picks as a document. -/
def GroupRef.toJson (g : GroupRef) : Json :=
  .object [("occupation", .string g.occupation), ("group_index", .ofNat g.index)]

namespace Selection

/-- The picks of a selection as a document: an entry for each group, in order. -/
def picksToJson (p : SortedMap GroupRef (List String)) : Json :=
  .array (p.entries.map fun e =>
    Json.object [("group", e.1.toJson), ("skills", Json.ofTexts e.2)])

/-- A selection as a document. -/
def toJson (s : Selection) : Json :=
  .object [("name", .string s.name), ("credit_rating", .integer s.creditRating),
    ("choices", picksToJson s.picks), ("formula_choices", s.formulaPicks.toJson)]

end Selection

/-- An identity as a document. -/
def Identity.toJson (i : Identity) : Json :=
  .object [("name", .string i.name), ("player", .string i.player), ("gender", .string i.gender),
    ("residence", .string i.residence), ("birthplace", .string i.birthplace)]

/-- A background as a document. -/
def Background.toJson (b : Background) : Json :=
  .object [("description", .string b.description), ("ideology", .string b.ideology),
    ("significant_people", .string b.significantPeople),
    ("meaningful_locations", .string b.meaningfulLocations),
    ("treasured_possessions", .string b.treasuredPossessions), ("traits", .string b.traits),
    ("core_bond", .string b.coreBond)]

/-- A companion as a document. -/
def Companion.toJson (c : Companion) : Json :=
  .object [("name", .string c.name), ("relationship", .string c.relationship),
    ("notes", .string c.notes)]

/-- An equipment as a document. -/
def Equipment.toJson (e : Equipment) : Json :=
  .object [("spending_level", .string e.spendingLevel), ("cash", .string e.cash),
    ("assets", .string e.assets), ("notes", .string e.notes), ("items", .ofTexts e.items)]

/-- A draft as a document, with every field. -/
def Draft.toJson (d : Draft) : Json :=
  .object [("identity", d.identity.toJson), ("age", .ofNat d.age),
    ("age_penalties", d.split.toJson), ("characteristics", d.characteristics.knownToJson),
    ("rolled_at_age", .ofOption Json.ofNat d.rolledAt),
    ("occupation", .ofOption Selection.toJson d.selection), ("skills", d.spending.toJson),
    ("background", d.background.toJson),
    ("companions", .array (d.companions.map Companion.toJson)),
    ("equipment", d.equipment.toJson)]

end Chargen
