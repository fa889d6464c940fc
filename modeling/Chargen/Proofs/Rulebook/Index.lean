import Chargen.Proofs.Rulebook.Lookup
import Chargen.Proofs.SkillName
import Chargen.Proofs.SortedMap
import Chargen.Rulebook.Index

/-!
# Looking up is searching

A name finds an entry of a rulebook by its key. What it finds is what a search of the document for
the names that have this key gives, and the same is found through the indices of an
`IndexedRulebook`, whose places stay within the lists that they point into.

* `FindsLast`: an index finds the last entry with a key; `FindsLast.insert` files one more entry.
* `CatalogIndex.Finds`: the indices of a catalog find its skills; `CatalogIndex.Finds.add` files one
  more skill.
* `IndexedRulebook.ofDocument_eq`: **filling the indices changes nothing about reading**.
* `Rulebook.searched_of_ofDocument`: **looking up is searching**, for every name.
* `IndexedRulebook.lookups_search`: **with indices and without them, looking up is searching**, and
  no place lies beyond the end of a list.
-/

namespace Chargen

/-! ### Places -/

section Places

variable {α : Type}

/-- What stands at a place of a list stands there in any longer list. -/
theorem entryAt_append {entries more : List α} {place : Nat} {entry : α}
    (h : entryAt entries place = .ok entry) : entryAt (entries ++ more) place = .ok entry := by
  unfold entryAt at h
  split at h
  · next found hfound =>
    cases h
    rw [entryAt, List.getElem?_append_left (List.getElem?_eq_some_iff.mp hfound).1, hfound]
  · cases h

/-- The entry behind a list stands at the place of its length. -/
theorem entryAt_length (entries : List α) (entry : α) :
    entryAt (entries ++ [entry]) entries.length = .ok entry := by
  rw [entryAt, List.getElem?_concat_length]

theorem mapM_entryAt_append {entries more : List α} {places : List Nat} {found : List α}
    (h : places.mapM (entryAt entries) = .ok found) :
    places.mapM (entryAt (entries ++ more)) = .ok found := by
  induction places generalizing found with
  | nil => exact h
  | cons place rest ih =>
    rw [List.mapM_cons] at h ⊢
    obtain ⟨entry, hentry, h⟩ := bind_ok_iff.mp h
    obtain ⟨others, hothers, h⟩ := bind_ok_iff.mp h
    rw [entryAt_append hentry]
    refine bind_ok_iff.mpr ⟨entry, rfl, ?_⟩
    exact bind_ok_iff.mpr ⟨others, ih hothers, h⟩

/-- A key without a place finds nothing. -/
theorem indexed?_of_none {index : SortedMap String Nat} {key : String}
    (h : index.get? key = none) (entries : List α) : indexed? index entries key = .ok none := by
  rw [indexed?, h]
  rfl

/-- A key with a place finds what stands there. -/
theorem indexed?_of_some {index : SortedMap String Nat} {key : String} {place : Nat}
    (h : index.get? key = some place) (entries : List α) :
    indexed? index entries key = (entryAt entries place).map some := by
  rw [indexed?, h, Option.mapM_some]
  cases entryAt entries place <;> rfl

theorem indexed?_append {index : SortedMap String Nat} {entries more : List α} {key : String}
    {found : Option α} (h : indexed? index entries key = .ok found) :
    indexed? index (entries ++ more) key = .ok found := by
  cases hplace : index.get? key with
  | none =>
    rw [indexed?_of_none hplace] at h ⊢
    exact h
  | some place =>
    rw [indexed?_of_some hplace] at h ⊢
    cases hentry : entryAt entries place with
    | error cause =>
      rw [hentry] at h
      cases h
    | ok entry =>
      rw [hentry] at h
      rw [entryAt_append hentry, h]

/-- An index that has places for the keys seen has places for one more when that one is filed. -/
theorem contains_insert_iff {index : SortedMap String Nat} {seen : List String}
    (hseen : ∀ key, index.contains key = true ↔ key ∈ seen) (new : String) (place : Nat) :
    ∀ key, (index.insert new place).contains key = true ↔ key ∈ new :: seen := by
  intro key
  rw [List.mem_cons, ← hseen, SortedMap.contains, SortedMap.contains, SortedMap.get?_insert]
  by_cases h : key = new <;> simp [h]

/-- An index finds the last entry with a key. -/
def FindsLast (name : α → String) (entries : List α) (index : SortedMap String Nat) : Prop :=
  ∀ key, indexed? index entries key =
    .ok (entries.filter fun e => SkillName.key (name e) == key).getLast?

theorem findsLast_empty (name : α → String) : FindsLast name [] .empty :=
  fun key => indexed?_of_none (SortedMap.get?_empty key) []

/-- Filing a further entry keeps an index finding the last entry with a key: the new entry is the
last one with its own key, and no other key finds anything else than before. -/
theorem FindsLast.insert {name : α → String} {entries : List α} {index : SortedMap String Nat}
    (h : FindsLast name entries index) (entry : α) : FindsLast name (entries ++ [entry])
      (index.insert (SkillName.key (name entry)) entries.length) := by
  intro key
  rw [List.filter_append]
  by_cases hkey : key = SkillName.key (name entry)
  · have hplace : (index.insert (SkillName.key (name entry)) entries.length).get? key =
        some entries.length := by rw [SortedMap.get?_insert, if_pos hkey]
    rw [indexed?_of_some hplace, entryAt_length, hkey]
    simp [Except.map]
  · have hplace : (index.insert (SkillName.key (name entry)) entries.length).get? key =
        index.get? key := by rw [SortedMap.get?_insert, if_neg hkey]
    have hother : [entry].filter (fun e => SkillName.key (name e) == key) = [] := by
      simpa using Ne.symm hkey
    rw [hother, List.append_nil, ← indexed?_append (h key), indexed?, indexed?, hplace]

/-- Filing a list of entries, one after the other. -/
theorem FindsLast.insertAll {name : α → String} {front : List α} {index : SortedMap String Nat}
    (h : FindsLast name front index) (entries : List α) : FindsLast name (front ++ entries)
      (index.insertAll (IndexedRulebook.placed name (entries.zipIdx front.length))) := by
  induction entries generalizing front index with
  | nil =>
    rw [List.append_nil]
    exact h
  | cons entry rest ih =>
    have hrest := ih (h.insert entry)
    rw [List.length_append, List.append_assoc] at hrest
    exact hrest

end Places

/-! ### The catalog -/

/-- Whether a skill belongs to a family. -/
def Skill.belongs (family : String) (s : Skill) : Bool :=
  (SkillName.family? (SkillName.key s.name)).map Prod.fst == some family

namespace CatalogIndex

/-- The places of the specializations of a family. -/
def placesOf (index : CatalogIndex) (family : String) : List Nat :=
  (index.specializations.get? family).getD []

/-- The indices of a catalog find its skills. -/
structure Finds (skills : List Skill) (index : CatalogIndex) : Prop where
  last : FindsLast Skill.name skills index.places
  members : ∀ family,
    (index.placesOf family).mapM (entryAt skills) = .ok (skills.filter (Skill.belongs family))

theorem finds_empty : Finds [] empty where
  last := findsLast_empty Skill.name
  members _ := rfl

/-- A further skill gets its place in its own family and in no other. -/
theorem placesOf_add (index : CatalogIndex) (s : Skill) (place : Nat) (family : String) :
    (index.add (s, place)).placesOf family =
      index.placesOf family ++ if s.belongs family then [place] else [] := by
  unfold placesOf add Skill.belongs
  cases hs : SkillName.family? (SkillName.key s.name) with
  | none => simp
  | some parts =>
    obtain ⟨own, specialization⟩ := parts
    dsimp only
    rw [SortedMap.get?_insert]
    by_cases hown : family = own
    · simp [hown]
    · simp [hown, Ne.symm hown]

/-- A further skill is found as those before it. -/
theorem Finds.add {skills : List Skill} {index : CatalogIndex} (h : index.Finds skills)
    (s : Skill) : (index.add (s, skills.length)).Finds (skills ++ [s]) where
  last := h.last.insert s
  members family := by
    rw [placesOf_add, List.mapM_append, mapM_entryAt_append (h.members family),
      List.filter_append]
    by_cases hs : s.belongs family = true
    · rw [if_pos hs, List.mapM_cons, entryAt_length, List.filter_cons_of_pos hs]
      rfl
    · rw [if_neg hs, List.filter_cons_of_neg hs]
      rfl

/-- All skills of a catalog are found. -/
theorem Finds.foldl {front : List Skill} {index : CatalogIndex} (h : index.Finds front)
    (skills : List Skill) :
    ((skills.zipIdx front.length).foldl CatalogIndex.add index).Finds (front ++ skills) := by
  induction skills generalizing front index with
  | nil =>
    rw [List.append_nil]
    exact h
  | cons s rest ih =>
    have hrest := ih (h.add s)
    rw [List.length_append, List.append_assoc] at hrest
    exact hrest

/-- Filing the skills of a catalog fails where filing them under their keys does, and fills the
indices otherwise. -/
theorem foldlM_file {index : CatalogIndex} {seen : List String}
    (hseen : ∀ key, index.places.contains key = true ↔ key ∈ seen) (skills : List Skill)
    (place : Nat) : (skills.zipIdx place).foldlM file index =
      (fun _ => (skills.zipIdx place).foldl add index) <$> Rulebook.fileSkills seen skills := by
  induction skills generalizing index seen place with
  | nil => rfl
  | cons s rest ih =>
    rw [List.zipIdx_cons, List.foldlM_cons, List.foldl_cons, Rulebook.fileSkills, file]
    by_cases hnew : SkillName.key s.name ∈ seen
    · rw [if_pos ((hseen _).mpr hnew), if_pos (by simpa using hnew)]
      rfl
    · have hseen' := contains_insert_iff hseen (SkillName.key s.name) place
      rw [if_neg (by simpa [hseen] using hnew), if_neg (by simpa using hnew)]
      simp only [bind_pure_comp, Functor.map_map]
      exact ih hseen' (place + 1)

end CatalogIndex

/-! ### Reading -/

namespace IndexedRulebook

/-- Filing occupations fails where filing them under their keys does, and fills the index
otherwise. -/
theorem foldlM_fileOccupation {places : SortedMap String Nat} {seen : List String}
    (hseen : ∀ key, places.contains key = true ↔ key ∈ seen) (occupations : List Occupation)
    (place : Nat) : (occupations.zipIdx place).foldlM fileOccupation places =
      (fun _ => places.insertAll (placed Occupation.name (occupations.zipIdx place))) <$>
        Rulebook.fileOccupations seen occupations := by
  induction occupations generalizing places seen place with
  | nil => rfl
  | cons o rest ih =>
    rw [List.zipIdx_cons, List.foldlM_cons, Rulebook.fileOccupations, fileOccupation]
    by_cases hnew : SkillName.key o.name ∈ seen
    · rw [if_pos ((hseen _).mpr hnew), if_pos (by simpa using hnew)]
      rfl
    · have hseen' := contains_insert_iff hseen (SkillName.key o.name) place
      rw [if_neg (by simpa [hseen] using hnew), if_neg (by simpa using hnew)]
      simp only [bind_pure_comp, bind_map_left, map_bind, Functor.map_map, ih hseen' (place + 1)]
      rfl

/-- The rulebook of a document with its indices, given its dice. -/
def ofEntries (d : RulebookDocument) (generation : Profile Dice) : IndexedRulebook where
  generation
  skills := d.skills
  families := d.families
  occupations := d.occupations
  bands := d.bands
  catalog := d.skills.zipIdx.foldl CatalogIndex.add .empty
  familyPlaces := SortedMap.ofList (placed SkillFamily.name d.families.zipIdx)
  occupationPlaces := SortedMap.ofList (placed Occupation.name d.occupations.zipIdx)

/-- **Filling the indices changes nothing about reading**: it fails where reading without them does,
with the same fault. -/
theorem ofDocument_eq (d : RulebookDocument) :
    ofDocument d = (fun r => ofEntries d r.generation) <$> Rulebook.ofDocument d := by
  have hskills : d.skills.zipIdx.foldlM CatalogIndex.file .empty =
      (fun _ => d.skills.zipIdx.foldl CatalogIndex.add .empty) <$>
        Rulebook.fileSkills [] d.skills :=
    CatalogIndex.foldlM_file (by simp [CatalogIndex.empty, SortedMap.contains]) d.skills 0
  have hoccupations : d.occupations.zipIdx.foldlM fileOccupation .empty =
      (fun _ => SortedMap.ofList (placed Occupation.name d.occupations.zipIdx)) <$>
        Rulebook.fileOccupations [] d.occupations :=
    foldlM_fileOccupation (by simp [SortedMap.contains]) d.occupations 0
  unfold ofDocument Rulebook.ofDocument
  rw [hskills, hoccupations]
  simp only [map_bind, bind_map_left, map_pure]
  rfl

end IndexedRulebook

/-! ### Searching -/

/-- Looking a name up in a rulebook is searching its document for what is named so, in any
spelling. -/
structure RulebookDocument.Searched (d : RulebookDocument) (r : Rulebook) (name : String) :
    Prop where
  /-- The skill with a name is the only one in the catalog. -/
  skill : (d.skills.filter fun s => SkillName.same s.name name) = (r.skill? name).toList
  /-- The occupation with a name is the only one. -/
  occupation :
    (d.occupations.filter fun o => SkillName.same o.name name) = (r.occupation? name).toList
  /-- The skill family with a name is the last one listed. -/
  family : (d.families.filter fun f => SkillName.same f.name name).getLast? = r.family? name
  /-- The specializations of a family are the skills that belong to it, in order. -/
  specializations :
    (d.skills.filter (Skill.belongs (SkillName.key name))).map Skill.name =
      r.specializationNames name
  /-- No specialization is listed twice. -/
  nodup : (r.specializationNames name).Nodup
  /-- The skill of the credit rating is forbidden, and so is what the catalog forbids. -/
  forbidden : r.isForbidden name = true ↔ SkillName.same name SkillName.credit = true ∨
    ∃ s ∈ d.skills, SkillName.same s.name name = true ∧ s.forbidden = true

/-- Of items whose keys differ, those with one key are the one that is found. -/
theorem filter_eq_toList_find? {α : Type} {key : α → String} {items : List α}
    (h : items.Pairwise fun a b => key a ≠ key b) (k : String) :
    items.filter (fun a => key a == k) = (items.find? fun a => key a == k).toList := by
  induction items with
  | nil => rfl
  | cons a rest ih =>
    obtain ⟨ha, hrest⟩ := List.pairwise_cons.mp h
    by_cases hk : key a = k
    · have hothers : rest.filter (fun b => key b == k) = [] := by
        refine List.filter_eq_nil_iff.mpr fun b hb hbk => ha b hb ?_
        rw [hk, beq_iff_eq.mp hbk]
      simp [hk, hothers]
    · simp [hk, ih hrest]

namespace Rulebook

variable {d : RulebookDocument} {r : Rulebook}

/-- Where no two entries have one key, the entries that are named by a key are the one that it
finds. -/
theorem FiledApart.filter_eq {α : Type} {name : α → String} {seen : List String}
    {filed : List (Filed α)} (h : FiledApart name seen filed) (text : String) :
    ((filed.map Filed.entry).filter fun x => SkillName.same (name x) text) =
      ((filed.find? fun f => f.key == SkillName.key text).map Filed.entry).toList := by
  have hkeys : filed.filter ((fun x => SkillName.same (name x) text) ∘ Filed.entry) =
      filed.filter fun f => f.key == SkillName.key text :=
    List.filter_congr fun f hf => by rw [h.key_eq f hf]; rfl
  rw [List.filter_map, hkeys, filter_eq_toList_find? h.distinct, Option.toList_map]

theorem families_of_ofDocument (h : ofDocument d = .ok r) :
    r.families = d.families.map fun f => ⟨SkillName.key f.name, f⟩ := by
  unfold ofDocument at h
  obtain ⟨known, -, h⟩ := bind_ok_iff.mp h
  obtain ⟨generation, -, h⟩ := bind_ok_iff.mp h
  obtain ⟨skills, -, h⟩ := bind_ok_iff.mp h
  obtain ⟨occupations, -, h⟩ := bind_ok_iff.mp h
  obtain ⟨_, -, h⟩ := bind_ok_iff.mp h
  cases h
  rfl

/-- The skills of the catalog that belong to a family are its specializations. -/
theorem specializationNames_of_ofDocument (h : ofDocument d = .ok r) (name : String) :
    (d.skills.filter (Skill.belongs (SkillName.key name))).map Skill.name =
      r.specializationNames name := by
  have hr := consistent_of_ofDocument h
  have hfamily : r.skills.filter (Skill.belongs (SkillName.key name) ∘ Filed.entry) =
      r.skills.filter (inFamily (SkillName.key name)) :=
    List.filter_congr fun f hf => by rw [inFamily, hr.skills_apart.key_eq f hf]; rfl
  rw [hr.specializationNames_eq, ← (entries_of_ofDocument h).1, List.filter_map, hfamily,
    List.map_map]
  rfl

/-- No two skills of the catalog have one name. -/
theorem nodup_skillNames (h : ofDocument d = .ok r) : (d.skills.map Skill.name).Nodup := by
  rw [← skillNames_of_ofDocument h]
  exact (consistent_of_ofDocument h).pairwise_skillNames.imp fun hne hname =>
    hne (congrArg SkillName.key hname)

/-- **Looking up is searching**, whatever the name. -/
theorem searched_of_ofDocument (h : ofDocument d = .ok r) (name : String) : d.Searched r name := by
  have hr := consistent_of_ofDocument h
  obtain ⟨hskills, hoccupations, -⟩ := entries_of_ofDocument h
  have hskill : (d.skills.filter fun s => SkillName.same s.name name) =
      (r.skill? name).toList := by
    rw [← hskills]
    exact hr.skills_apart.filter_eq name
  refine ⟨hskill, ?_, ?_, specializationNames_of_ofDocument h name, ?_, ?_⟩
  · rw [← hoccupations]
    exact hr.occupations_apart.filter_eq name
  · rw [family?, families_of_ofDocument h, ← List.map_reverse, List.find?_map, Option.map_map,
      ← List.head?_filter, List.filter_reverse, List.head?_reverse]
    exact (congrFun Option.map_id _).symm
  · rw [← specializationNames_of_ofDocument h]
    exact (nodup_skillNames h).sublist (List.filter_sublist.map _)
  · have hfound : ∀ s, r.skill? name = some s ↔
        s ∈ d.skills ∧ SkillName.same s.name name = true := by
      intro s
      rw [← Option.mem_toList, ← hskill, List.mem_filter]
    rw [isForbidden_iff, SkillName.isCredit_eq_same]
    simp only [hfound, and_assoc]

end Rulebook

namespace IndexedRulebook

/-- The look-ups through the indices find what those without them find. -/
structure Answers (x : IndexedRulebook) (d : RulebookDocument) (r : Rulebook) (name : String) :
    Prop where
  skill : x.skill? name = .ok (r.skill? name)
  occupation : x.occupation? name = .ok (r.occupation? name)
  family : x.family? name = .ok (r.family? name)
  specializations :
    x.specializations name = .ok (d.skills.filter (Skill.belongs (SkillName.key name)))
  forbidden : x.isForbidden name = .ok (r.isForbidden name)

/-- An index that finds the last entry finds the only one. -/
theorem indexed?_of_filter_eq {α : Type} {name : α → String} {entries : List α}
    {index : SortedMap String Nat} {text : String} {found : Option α}
    (h : FindsLast name entries index)
    (hfound : (entries.filter fun e => SkillName.same (name e) text) = found.toList) :
    indexed? index entries (SkillName.key text) = .ok found := by
  have hlast := h (SkillName.key text)
  have hone : (entries.filter fun e => SkillName.key (name e) == SkillName.key text) =
      found.toList := hfound
  rw [hlast, hone]
  cases found <;> rfl

/-- **The look-ups through the indices are those without them**, and none of them goes beyond the
end of a list. -/
theorem answers_of_ofDocument {d : RulebookDocument} {r : Rulebook}
    (h : Rulebook.ofDocument d = .ok r) (name : String) :
    (ofEntries d r.generation).Answers d r name := by
  have hsearched := Rulebook.searched_of_ofDocument h name
  have hcatalog : (ofEntries d r.generation).catalog.Finds d.skills :=
    CatalogIndex.finds_empty.foldl d.skills
  have hfamilies : FindsLast SkillFamily.name d.families
      (ofEntries d r.generation).familyPlaces := (findsLast_empty _).insertAll d.families
  have hoccupations : FindsLast Occupation.name d.occupations
      (ofEntries d r.generation).occupationPlaces := (findsLast_empty _).insertAll d.occupations
  have hskill : (ofEntries d r.generation).skill? name = .ok (r.skill? name) :=
    indexed?_of_filter_eq hcatalog.last hsearched.skill
  refine ⟨hskill, indexed?_of_filter_eq hoccupations hsearched.occupation, ?_, ?_, ?_⟩
  · rw [← hsearched.family]
    exact hfamilies (SkillName.key name)
  · have hmembers := hcatalog.members (SkillName.key name)
    rw [← hmembers, specializations, CatalogIndex.placesOf]
    cases (ofEntries d r.generation).catalog.specializations.get? (SkillName.key name) <;> rfl
  · have hindexed : indexed? (ofEntries d r.generation).catalog.places
        (ofEntries d r.generation).skills (SkillName.key name) = .ok (r.skill? name) := hskill
    rw [isForbidden, Rulebook.isForbidden, SkillName.isCredit_eq_same, SkillName.same, hindexed]
    by_cases hcredit : (SkillName.key name == SkillName.key SkillName.credit) = true
    · rw [if_pos hcredit, hcredit, Bool.true_or]
    · rw [if_neg hcredit, Bool.eq_false_iff.mpr hcredit, Bool.false_or]
      cases r.skill? name <;> rfl

/-- **Looking up in a rulebook that is read is searching its document**, with indices and without
them, and no index leads beyond the end of a list. -/
theorem lookups_search {j : Json} {r : Rulebook} (h : Rulebook.ofJson j = .ok r) :
    ∃ d x, j.asRulebook? = some d ∧ IndexedRulebook.ofJson j = .ok x ∧
      ∀ name, d.Searched r name ∧ x.Answers d r name := by
  unfold Rulebook.ofJson at h
  split at h
  · next d hd =>
    refine ⟨d, ofEntries d r.generation, hd, ?_, fun name => ?_⟩
    · rw [ofJson, hd]
      dsimp only
      rw [ofDocument_eq, h]
      rfl
    · exact ⟨Rulebook.searched_of_ofDocument h name, answers_of_ofDocument h name⟩
  · cases h

/-- A rulebook that lists a skill family twice, in two spellings, and the family's specializations
in two others. -/
def respelledDocument : Json :=
  .object [
    ("characteristics", .object (Characteristic.all.map fun c => (c.name, .string "3D6x5"))),
    ("skill_families", .array [
      .object [("name", .string "Arte"), ("base", .integer 5)],
      .object [("name", .string "Ciencia"), ("base", .integer 1)],
      .object [("name", .string " ÁRTE"), ("base", .integer 10)]]),
    ("skills", .array [
      .object [("name", .string "Arte (Óleo)"), ("base", .integer 5)],
      .object [("name", .string "Mitos"), ("forbidden_at_creation", .bool true)],
      .object [("name", .string "ARTE  ( Foto )"), ("base", .integer 5)]]),
    ("occupations", .array [
      .object [("name", .string "Actriz"),
        ("credit_rating", .object [("min", .integer 9), ("max", .integer 70)]),
        ("points_formula", .string "EDUx4")]])]

/-- The later spelling of the family counts, and its specializations are listed in catalog order. -/
theorem lookups_search_respelled : ∃ r x, Rulebook.ofJson respelledDocument = .ok r ∧
    IndexedRulebook.ofJson respelledDocument = .ok x ∧
    x.skill? "arte  (oleo)" = .ok (some ⟨"Arte (Óleo)", 5, false⟩) ∧
    x.family? "arte" = .ok (some ⟨" ÁRTE", 10⟩) ∧
    x.occupation? "actor" = .ok none ∧
    r.specializationNames "Arte" = ["Arte (Óleo)", "ARTE  ( Foto )"] ∧
    (r.specializationNames "Arte").Nodup ∧
    x.isForbidden " CREDITO" = .ok true ∧ x.isForbidden "mitos" = .ok true := by
  have hfound : ∃ r o, Rulebook.ofJson respelledDocument = .ok r ∧
      r.occupation? "actriz" = some o ∧
      r.skill? "arte  (oleo)" = some ⟨"Arte (Óleo)", 5, false⟩ ∧
      r.family? "arte" = some ⟨" ÁRTE", 10⟩ ∧ r.occupation? "actor" = none ∧
      r.specializationNames "Arte" = ["Arte (Óleo)", "ARTE  ( Foto )"] ∧
      r.isForbidden " CREDITO" = true ∧ r.isForbidden "mitos" = true :=
    Rulebook.exists_occupation_of_decide (by decide +kernel)
  obtain ⟨r, o, hr, -, hskill, hfamily, hoccupation, hnames, hcredit, hmitos⟩ := hfound
  obtain ⟨d, x, -, hx, hnamed⟩ := lookups_search hr
  refine ⟨r, x, hr, hx, ?_, ?_, ?_, hnames, (hnamed "Arte").1.nodup, ?_, ?_⟩
  · rw [(hnamed _).2.skill, hskill]
  · rw [(hnamed _).2.family, hfamily]
  · rw [(hnamed _).2.occupation, hoccupation]
  · rw [(hnamed _).2.forbidden, hcredit]
  · rw [(hnamed _).2.forbidden, hmitos]

end IndexedRulebook

end Chargen
