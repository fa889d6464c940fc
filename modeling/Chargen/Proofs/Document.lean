import Chargen.Proofs.Json
import Chargen.Proofs.Numeral

/-!
# Drafts survive their documents

A written draft is read back without a loss. Every field is written, so no default is used in
reading; a map goes into its document in key order, under numerals or names as keys, or, where its
keys are groups, as a list of entries.

* `Draft.Fits`: the numbers of a draft fit the words that hold them.
* `Draft.asDraft?_toJson`: a written draft is read back.
* `Selection.picksToJson_asPicks?`: a list of picks, read and written again, is sorted and holds the
  last entry for each group.
* `Draft.document_roundTrip`: **drafts survive their documents**.
-/

namespace Chargen

open Json (maxCount maxIndex)

/-! ### Drafts whose numbers fit -/

/-- The numbers of a split fit the words that hold them. -/
structure Split.Fits (s : Split) : Prop where
  youthFue : s.youthFue ≤ maxCount
  youthTam : s.youthTam ≤ maxCount
  matureFue : s.matureFue ≤ maxCount
  matureCon : s.matureCon ≤ maxCount
  matureDes : s.matureDes ≤ maxCount

/-- The numbers of a block under construction fit the words that hold them. -/
def Profile.Fits (b : PartialBlock) : Prop :=
  ∀ c n, b.get c = some n → minNumber ≤ n ∧ n ≤ maxNumber

/-- The numbers of a selection fit the words that hold them. -/
structure Selection.Fits (s : Selection) : Prop where
  creditRating : minNumber ≤ s.creditRating ∧ s.creditRating ≤ maxNumber
  picks : ∀ e ∈ s.picks.entries, e.1.index ≤ maxIndex
  formulaPicks : ∀ e ∈ s.formulaPicks.entries, e.1 ≤ maxIndex

/-- The points of a pool fit the words that hold them. -/
def Pool.Fits (p : Pool) : Prop :=
  ∀ e ∈ p.entries, e.2 ≤ maxCount

/-- The numbers of a draft fit the words that hold them. -/
structure Draft.Fits (d : Draft) : Prop where
  age : d.age ≤ maxCount
  split : d.split.Fits
  characteristics : Profile.Fits d.characteristics
  rolledAt : ∀ age, d.rolledAt = some age → age ≤ maxCount
  selection : ∀ s, d.selection = some s → s.Fits
  occupation : d.spending.occupation.Fits
  personal : d.spending.personal.Fits

/-! ### Records of texts -/

theorem Identity.asIdentity?_toJson (i : Identity) : i.toJson.asIdentity? = some i := by
  rw [Json.asIdentity?, toJson]
  exact Json.read_object rfl (by decide) rfl

theorem Background.asBackground?_toJson (b : Background) : b.toJson.asBackground? = some b := by
  rw [Json.asBackground?, toJson]
  exact Json.read_object rfl (by decide) rfl

theorem Companion.asCompanion?_toJson (c : Companion) : c.toJson.asCompanion? = some c := by
  rw [Json.asCompanion?, toJson]
  exact Json.read_object rfl (by decide) rfl

theorem Equipment.asEquipment?_toJson (e : Equipment) : e.toJson.asEquipment? = some e := by
  rw [Json.asEquipment?, toJson]
  refine Json.read_object rfl (by decide) ?_
  simp [Json.withDefault, Json.asString?, Json.asTexts?_ofTexts]

/-! ### Numbers and maps -/

theorem Split.asSplit?_toJson {s : Split} (h : s.Fits) : s.toJson.asSplit? = some s := by
  rw [Json.asSplit?, toJson]
  refine Json.read_object rfl (by decide) ?_
  simp [Json.withDefault, Json.asCount?_ofNat, h.youthFue, h.youthTam, h.matureFue, h.matureCon,
    h.matureDes]

/-- The numeral of a number names the number. -/
theorem Json.asPlainIndex?_toString {n : Nat} (h : n ≤ maxIndex) :
    asPlainIndex? (toString n : String) = some n := by
  have hread : numeral? 18446744073709551616 (toString n).toList = some n := by
    rw [Nat.toString_eq_repr, Nat.toList_repr]
    exact numeral?_toDigits (Nat.lt_succ_of_le h)
  rw [asPlainIndex?]
  dsimp only
  rw [hread]
  dsimp only
  rw [if_pos (beq_self_eq_true _)]

theorem Points.Picks.asFormulaPicks?_toJson {p : Points.Picks}
    (h : ∀ e ∈ p.entries, e.1 ≤ maxIndex) : p.toJson.asFormulaPicks? = some p := by
  rw [Json.asFormulaPicks?, toJson, Json.asObject?, Option.bind_eq_bind, Option.bind_some]
  refine SortedMap.ofList_mapM_map fun e he => ?_
  rw [Json.asPlainIndex?_toString (h e he)]
  rfl

theorem Pool.asPool?_toJson {p : Pool} (h : p.Fits) : p.toJson.asPool? = some p := by
  rw [Json.asPool?, toJson, Json.asObject?, Option.bind_eq_bind, Option.bind_some]
  refine SortedMap.ofList_mapM_map fun e he => ?_
  rw [Json.asCount?_ofNat (h e he)]
  rfl

theorem Spending.asSpending?_toJson {s : Spending} (hoccupation : s.occupation.Fits)
    (hpersonal : s.personal.Fits) : s.toJson.asSpending? = some s := by
  rw [Json.asSpending?, toJson]
  refine Json.read_object rfl (by decide) ?_
  simp [Json.withDefault, Pool.asPool?_toJson hoccupation, Pool.asPool?_toJson hpersonal]

/-! ### Blocks under construction -/

/-- The members written for some characteristics. -/
def Profile.knownMembers (b : PartialBlock) (cs : List Characteristic) :
    List (MemberName × Json) :=
  (cs.map fun c => (c, b.get c)).filterMap fun e => e.2.map fun n => (e.1.name, Json.integer n)

theorem Profile.knownToJson_eq (b : PartialBlock) :
    b.knownToJson = .object (b.knownMembers Characteristic.all) := rfl

/-- Reading the members for some characteristics fills in those characteristics. -/
theorem Json.foldlM_addCharacteristic? {b : PartialBlock} (h : Profile.Fits b)
    (cs : List Characteristic) (start : PartialBlock) :
    ∃ filled, (b.knownMembers cs).foldlM addCharacteristic? start = some filled ∧
      ∀ c, filled.get c = if c ∈ cs then (b.get c).or (start.get c) else start.get c := by
  -- A value that is not known has no member, so the block read so far stays as it is.
  induction cs generalizing start with
  | nil => exact ⟨start, rfl, fun c => by rw [if_neg List.not_mem_nil]⟩
  | cons first rest ih =>
    rw [Profile.knownMembers, List.map_cons, List.filterMap_cons]
    cases hfirst : b.get first with
    | none =>
      obtain ⟨filled, hfilled, hget⟩ := ih start
      refine ⟨filled, hfilled, fun c => ?_⟩
      rw [hget c]
      by_cases hc : c = first
      · simp [hc, hfirst]
      · simp [hc]
    | some n =>
      obtain ⟨hlo, hhi⟩ := h first n hfirst
      have hadd : addCharacteristic? start ((first.name : MemberName), Json.integer n) =
          some (start.set first (some n)) := by
        rw [addCharacteristic?, Characteristic.ofName?_name, Json.asNumber?_integer hlo hhi]
        rfl
      obtain ⟨filled, hfilled, hget⟩ := ih (start.set first (some n))
      refine ⟨filled, ?_, fun c => ?_⟩
      · dsimp only [Option.map_some]
        rw [List.foldlM_cons, hadd]
        exact hfilled
      · rw [hget c, Profile.get_set]
        by_cases hc : c = first
        · simp [hc, hfirst]
        · simp [hc]

theorem Profile.asPartialBlock?_knownToJson {b : PartialBlock} (h : Fits b) :
    b.knownToJson.asPartialBlock? = some b := by
  obtain ⟨filled, hfilled, hget⟩ :=
    Json.foldlM_addCharacteristic? h Characteristic.all (uniform none)
  have hsame : filled = b := ext_get fun c => by
    rw [hget c, if_pos (Characteristic.mem_all c), get_uniform, Option.or_none]
  rw [Json.asPartialBlock?, knownToJson_eq, Json.asObject?, Option.bind_eq_bind, Option.bind_some,
    hfilled, hsame]

/-! ### Selections and drafts -/

theorem GroupRef.asGroupRef?_toJson {g : GroupRef} (h : g.index ≤ maxIndex) :
    g.toJson.asGroupRef? = some g := by
  rw [Json.asGroupRef?, toJson]
  refine Json.read_object rfl (by decide) ?_
  simp [Json.required, Json.asString?, Json.asIndex?_ofNat h]

/-- The picks for one group as a document. -/
def Selection.entryToJson (e : GroupRef × List String) : Json :=
  .object [("group", e.1.toJson), ("skills", Json.ofTexts e.2)]

theorem Selection.picksToJson_eq (p : SortedMap GroupRef (List String)) :
    picksToJson p = .array (p.entries.map entryToJson) := rfl

theorem Selection.asPickEntry?_entryToJson {e : GroupRef × List String} (h : e.1.index ≤ maxIndex) :
    Json.asPickEntry? (entryToJson e) = some e := by
  unfold Json.asPickEntry? entryToJson
  refine Json.read_object rfl (by decide) ?_
  simp [Json.required, Json.withDefault, GroupRef.asGroupRef?_toJson h, Json.asTexts?_ofTexts]

theorem Selection.asPicks?_picksToJson {p : SortedMap GroupRef (List String)}
    (h : ∀ e ∈ p.entries, e.1.index ≤ maxIndex) : (picksToJson p).asPicks? = some p := by
  rw [Json.asPicks?, picksToJson_eq]
  exact SortedMap.ofList_mapM_map fun e he => asPickEntry?_entryToJson (h e he)

theorem Selection.asSelection?_toJson {s : Selection} (h : s.Fits) :
    s.toJson.asSelection? = some s := by
  rw [Json.asSelection?, toJson]
  refine Json.read_object rfl (by decide) ?_
  simp [Json.required, Json.withDefault, Json.asString?,
    Json.asNumber?_integer h.creditRating.1 h.creditRating.2, asPicks?_picksToJson h.picks,
    Points.Picks.asFormulaPicks?_toJson h.formulaPicks]

/-- A written draft is read back. -/
theorem Draft.asDraft?_toJson {d : Draft} (h : d.Fits) : Json.asDraft? d.toJson = some d := by
  have hrolledAt : (Json.ofOption Json.ofNat d.rolledAt).asOption? Json.asCount? =
      some d.rolledAt :=
    Json.asOption?_ofOption (fun _ => nofun) fun age hage =>
      Json.asCount?_ofNat (h.rolledAt age hage)
  have hselection : (Json.ofOption Selection.toJson d.selection).asOption? Json.asSelection? =
      some d.selection :=
    Json.asOption?_ofOption (fun _ => nofun) fun s hs =>
      Selection.asSelection?_toJson (h.selection s hs)
  have hcompanions : (Json.array (d.companions.map Companion.toJson)).asList? Json.asCompanion? =
      some d.companions :=
    Json.asList?_map fun c _ => c.asCompanion?_toJson
  rw [Json.asDraft?, toJson]
  refine Json.read_object rfl (by decide) ?_
  simp [Json.withDefault, Identity.asIdentity?_toJson, Json.asCount?_ofNat h.age,
    Split.asSplit?_toJson h.split, Profile.asPartialBlock?_knownToJson h.characteristics, hrolledAt,
    hselection, Spending.asSpending?_toJson h.occupation h.personal,
    Background.asBackground?_toJson, hcompanions, Equipment.asEquipment?_toJson]

/-! ### Lists of picks -/

/-- Whether a group stands before another one: by the occupation, then by the index. -/
def GroupRef.Before (a b : GroupRef) : Prop :=
  a.occupation < b.occupation ∨ a.occupation = b.occupation ∧ a.index < b.index

theorem GroupRef.compare_eq_lt_iff {a b : GroupRef} : compare a b = .lt ↔ a.Before b := by
  have hthen : compare a b = (compare a.occupation b.occupation).then (compare a.index b.index) :=
    rfl
  -- `Std.compare_eq_lt` wants an instance that texts do not have.
  have hoccupation : compare a.occupation b.occupation = .lt ↔ a.occupation < b.occupation :=
    compareOfLessAndEq_eq_lt
  rw [hthen, Ordering.then_eq_lt, hoccupation, Std.LawfulEqCmp.compare_eq_iff_eq, Nat.compare_eq_lt,
    Before]

/-- The entry is the last one of the list for its group. -/
def Selection.IsLastPick (entries : List (GroupRef × List String)) (e : GroupRef × List String) :
    Prop :=
  ∃ front back, entries = front ++ e :: back ∧ ∀ later ∈ back, later.1 ≠ e.1

/-- A list of picks is read and written again: sorted, with the last entry for each group. -/
theorem Selection.picksToJson_asPicks? {j : Json} {entries : List (GroupRef × List String)}
    (h : j.asList? Json.asPickEntry? = some entries) :
    ∃ written : List (GroupRef × List String),
      j.asPicks?.map picksToJson = some (.array (written.map entryToJson)) ∧
      written.Pairwise (fun a b => a.1.Before b.1) ∧
      ∀ e, e ∈ written ↔ IsLastPick entries e := by
  refine ⟨(SortedMap.ofList entries).entries, ?_, ?_, fun e => SortedMap.mem_entries_ofList⟩
  · rw [Json.asPicks?, h]
    rfl
  · exact (SortedMap.ofList entries).ascending.imp GroupRef.compare_eq_lt_iff.mp

/-! ### The result -/

/-- **Drafts survive their documents.** A written draft is read back, a written map of picks is, and
a list of picks, read and written again, is sorted by occupation and index and holds the last entry
for each group. -/
theorem Draft.document_roundTrip :
    (∀ d : Draft, d.Fits → Json.asDraft? d.toJson = some d) ∧
      (∀ p : SortedMap GroupRef (List String), (∀ e ∈ p.entries, e.1.index ≤ maxIndex) →
        (Selection.picksToJson p).asPicks? = some p) ∧
      ∀ (j : Json) (entries : List (GroupRef × List String)),
        j.asList? Json.asPickEntry? = some entries →
        ∃ written : List (GroupRef × List String),
          j.asPicks?.map Selection.picksToJson =
            some (.array (written.map Selection.entryToJson)) ∧
          written.Pairwise (fun a b => a.1.Before b.1) ∧
          ∀ e, e ∈ written ↔ Selection.IsLastPick entries e :=
  ⟨fun _ h => asDraft?_toJson h, fun _ h => Selection.asPicks?_picksToJson h,
    fun _ _ h => Selection.picksToJson_asPicks? h⟩

/-- A draft with an entry in each of its maps. -/
def Draft.officer : Draft :=
  { fresh with
    characteristics := ((Profile.uniform none).set .fue (some 50)).set .suerte (some 35)
    rolledAt := some 25
    selection := some
      { Selection.start "Policía" 20 with
        picks := SortedMap.empty.insert ⟨"Policía", 1⟩ ["Equitación"]
        formulaPicks := SortedMap.empty.insert 10 "FUE" }
    spending := ⟨SortedMap.empty.insert "Descubrir" 30, SortedMap.empty⟩
    companions := [⟨"Ana", "hermana", ""⟩] }

/-- Picks in which a group is left without skills and another one is repeated. -/
def Selection.repeatedPicks : Json :=
  .array [entryToJson (⟨"Policía", 1⟩, ["Equitación"]),
    .object [("group", GroupRef.toJson ⟨"Policía", 0⟩)],
    entryToJson (⟨"Policía", 1⟩, ["Psicología"])]

theorem Draft.officer_fits : officer.Fits where
  age := by decide
  split := ⟨by decide, by decide, by decide, by decide, by decide⟩
  characteristics c n h := by
    cases c <;> cases h <;> decide
  rolledAt age h := by
    cases h
    decide
  selection s h := by
    cases h
    exact ⟨by decide, by decide, by decide⟩
  occupation := by unfold Pool.Fits; decide
  personal := by unfold Pool.Fits; decide

theorem Draft.document_roundTrip_officer :
    (officer.Fits ∧ Json.asDraft? officer.toJson = some officer) ∧
      ∃ written : List (GroupRef × List String),
        Selection.repeatedPicks.asPicks?.map Selection.picksToJson =
            some (.array (written.map Selection.entryToJson)) ∧
          written.Pairwise (fun a b => a.1.Before b.1) ∧
          (⟨"Policía", 0⟩, []) ∈ written ∧ (⟨"Policía", 1⟩, ["Psicología"]) ∈ written := by
  obtain ⟨hdraft, -, hpicks⟩ := document_roundTrip
  obtain ⟨written, hwritten, hsorted, hmem⟩ := hpicks Selection.repeatedPicks
    [(⟨"Policía", 1⟩, ["Equitación"]), (⟨"Policía", 0⟩, []), (⟨"Policía", 1⟩, ["Psicología"])] rfl
  refine ⟨⟨officer_fits, hdraft officer officer_fits⟩, written, hwritten, hsorted, ?_, ?_⟩
  · exact (hmem _).mpr ⟨[_], [_], rfl, by decide⟩
  · exact (hmem _).mpr ⟨[_, _], [], rfl, nofun⟩

end Chargen
