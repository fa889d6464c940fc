import Chargen.Proofs.Sheet
import Chargen.Proofs.SortedMap
import Mathlib.Data.List.Nodup

/-!
# The picks on a sheet

The review judges the picks of a group without the blank ones and knows the group by its index. The
sheet copies them as they are stored and files them under the label of the group, where a later
group with the same label takes the place of an earlier one.

* `Draft.get?_sheetPicks_of_last`: what the sheet has under a label.
* `Draft.finish_copiesPicks`: **a sheet copies the picks of the last group with each label**, which
  tells what groups it reports.
* `Draft.not_reports`: a blank pick, or a second group with the label, and a group is not reported.
-/

namespace Chargen

/-! ### Blank picks -/

namespace Grant

theorem tidy_of_forall {picks : List String}
    (h : ∀ pick ∈ picks, Text.isBlankText pick = false) : tidy picks = picks.map Text.trimmed := by
  refine List.filter_eq_self.mpr fun pick hpick => ?_
  obtain ⟨stored, hstored, rfl⟩ := List.mem_map.mp hpick
  rw [Text.isEmpty_trimmed, h stored hstored]
  rfl

/-- Picks that fill a group name different skills as they are stored, unless one is blank. -/
theorem Fills.of_forall {r : Rulebook} {g : PickGroup} {picks : List String} (h : Fills r g picks)
    (hblank : ∀ pick ∈ picks, Text.isBlankText pick = false) :
    picks.length = g.count ∧
      picks.Pairwise fun a b => SkillName.key a ≠ SkillName.key b := by
  have htidy := tidy_of_forall hblank
  have hlength := h.length_eq
  have hdistinct := h.distinct
  rw [htidy, List.length_map] at hlength
  rw [htidy, List.pairwise_map] at hdistinct
  refine ⟨hlength, hdistinct.imp fun hkey => ?_⟩
  rwa [SkillName.key_trimmed, SkillName.key_trimmed] at hkey

end Grant

/-! ### Picks by label -/

/-- The last group of an occupation with a label. -/
def Occupation.LastLabelled (o : Occupation) (label : String) (g : PickGroup) (index : Nat) :
    Prop :=
  (g, index) ∈ o.pickGroups.zipIdx ∧ g.label = label ∧
    ∀ g' later, (g', later) ∈ o.pickGroups.zipIdx → index < later → g'.label ≠ label

theorem Occupation.exists_lastLabelled {o : Occupation} {g : PickGroup} {index : Nat}
    (hg : (g, index) ∈ o.pickGroups.zipIdx) : ∃ g' last, o.LastLabelled g.label g' last := by
  -- On the number of groups behind this one.
  induction hn : o.pickGroups.length - index using Nat.strongRecOn generalizing g index with
  | ind n ih =>
    by_cases hlater : ∃ g' later, (g', later) ∈ o.pickGroups.zipIdx ∧ index < later ∧
        g'.label = g.label
    · obtain ⟨g', later, hg', hlt, hlabel⟩ := hlater
      have hbound : later < o.pickGroups.length := List.snd_lt_of_mem_zipIdx hg'
      rw [← hlabel]
      exact ih (o.pickGroups.length - later) (by omega) hg' rfl
    · refine ⟨g, index, hg, rfl, fun g' later hg' hlt hlabel => ?_⟩
      exact hlater ⟨g', later, hg', hlt, hlabel⟩

namespace Sheet

/-- The sheet has under the label of a group just what is stored for it: as many names as the group
asks for, none of them blank and no two of one skill. -/
def Reports (sheet : Sheet) (g : PickGroup) (stored : List String) : Prop :=
  ∃ names, sheet.occupation.picks.get? g.label = some names ∧ names.length = g.count ∧
    (∀ name ∈ names, Text.isBlankText name = false) ∧
    names.Pairwise (fun a b => SkillName.key a ≠ SkillName.key b) ∧ ∀ name ∈ names, name ∈ stored

/-- The picks that a sheet has of a selection, which the review has seen group by group. -/
structure CopiesPicks (r : Rulebook) (o : Occupation) (s : Selection) (sheet : Sheet) : Prop where
  /-- It has nothing but the picks of groups. -/
  only : ∀ label, (∀ g ∈ o.pickGroups, g.label ≠ label) → sheet.occupation.picks.get? label = none
  /-- The picks stored for a group fill it, blank ones aside. -/
  fills : ∀ g index, (g, index) ∈ o.pickGroups.zipIdx → Grant.Fills r g (s.picksFor index)
  /-- Under a label it has what is stored for the last group with the label, blank picks included.
  This reports a group exactly if there is none, and if the two groups ask for equally many picks
  and have them in common. -/
  copied : ∀ g index, (g, index) ∈ o.pickGroups.zipIdx → ∃ g' last,
    o.LastLabelled g.label g' last ∧
      sheet.occupation.picks.get? g.label = some (s.picksFor last) ∧
      (sheet.Reports g (s.picksFor index) ↔ g'.count = g.count ∧
        ∀ pick ∈ s.picksFor last, Text.isBlankText pick = false ∧ pick ∈ s.picksFor index)

end Sheet

namespace Draft

variable {r : Rulebook} {d : Draft} {o : Occupation} {s : Selection} {b : Block}

theorem get?_sheetPicks_of_forall_ne {label : String} (h : ∀ g ∈ o.pickGroups, g.label ≠ label) :
    (sheetOccupation r o s b).picks.get? label = none := by
  refine SortedMap.get?_ofList_of_notMem ?_
  rw [List.map_map, List.mem_map]
  rintro ⟨⟨g, index⟩, hg, hlabel⟩
  exact h g (List.fst_mem_of_mem_zipIdx hg) hlabel

/-- The sheet has under a label what is stored for the last group with it. -/
theorem get?_sheetPicks_of_last {label : String} {g : PickGroup} {last : Nat}
    (h : o.LastLabelled label g last) :
    (sheetOccupation r o s b).picks.get? label = some (s.picksFor last) := by
  obtain ⟨hg, rfl, hlast⟩ := h
  obtain ⟨front, back, hsplit⟩ := List.append_of_mem hg
  -- The groups behind this one have greater indices.
  have hlater : ∀ e ∈ back, last < e.2 := by
    have hascending : (o.pickGroups.zipIdx.map Prod.snd).Pairwise (· < ·) := by
      rw [List.zipIdx_map_snd]
      exact List.pairwise_lt_range'
    rw [hsplit, List.map_append, List.map_cons, List.pairwise_append, List.pairwise_cons]
      at hascending
    intro e he
    exact hascending.2.1.1 e.2 (List.mem_map_of_mem he)
  have hback : g.label ∉ (back.map fun e => (e.1.label, s.picksFor e.2)).map Prod.fst := by
    rw [List.map_map, List.mem_map]
    rintro ⟨⟨g', later⟩, he, hlabel⟩
    exact hlast g' later (hsplit ▸ by simp [he]) (hlater _ he) hlabel
  rw [sheetOccupation, hsplit, List.map_append, List.map_cons]
  exact SortedMap.get?_insertAll_of_last hback SortedMap.empty

/-- When the picks under a label report a group. -/
theorem reports_iff {sheet : Sheet} {g g' : PickGroup} {stored copied : List String}
    (hcopied : sheet.occupation.picks.get? g.label = some copied)
    (hfills : Grant.Fills r g' copied) :
    sheet.Reports g stored ↔ g'.count = g.count ∧
      ∀ pick ∈ copied, Text.isBlankText pick = false ∧ pick ∈ stored := by
  constructor
  · rintro ⟨names, hnames, hcount, hblank, -, hstored⟩
    obtain rfl : copied = names := Option.some.inj (hcopied.symm.trans hnames)
    refine ⟨?_, fun pick hpick => ⟨hblank pick hpick, hstored pick hpick⟩⟩
    rw [← hcount, (hfills.of_forall hblank).1]
  · rintro ⟨hcount, hall⟩
    obtain ⟨hlength, hdistinct⟩ := hfills.of_forall fun pick hpick => (hall pick hpick).1
    exact ⟨copied, hcopied, hlength.trans hcount, fun pick hpick => (hall pick hpick).1, hdistinct,
      fun pick hpick => (hall pick hpick).2⟩

/-- **A sheet copies the picks of the last group with each label.** They were reviewed without the
blank ones and by index, so a group is reported exactly if none of them is blank and they are its
own, too. -/
theorem finish_copiesPicks {sheet : Sheet} (h : d.finish r = .ok sheet) :
    ∃ o s, d.selection = some s ∧ r.occupation? s.name = some o ∧ sheet.occupation.name = o.name ∧
      sheet.CopiesPicks r o s := by
  obtain ⟨hclean, b, s, o, -, hs, ho, rfl⟩ := finish_eq h
  obtain ⟨o', s', hs', ho', hknown, -⟩ := hclean.exists_occupation
  obtain rfl : s = s' := Option.some.inj (hs.symm.trans hs')
  obtain rfl : o = o' := Option.some.inj (ho.symm.trans ho')
  have hfills : ∀ g index, (g, index) ∈ o.pickGroups.zipIdx → Grant.Fills r g (s.picksFor index) :=
    fun g index hg => hclean.fills hknown hg
  refine ⟨o, s, hs, ho, rfl, fun label => get?_sheetPicks_of_forall_ne, hfills, ?_⟩
  intro g index hg
  obtain ⟨g', last, hlast⟩ := Occupation.exists_lastLabelled hg
  have hcopied : (d.sheetOf r o s (finishBlock b)).occupation.picks.get? g.label =
      some (s.picksFor last) := get?_sheetPicks_of_last hlast
  exact ⟨g', last, hlast, hcopied, reports_iff hcopied (hfills g' last hlast.1)⟩

/-- What holds by evaluation of a sheet. -/
theorem exists_sheet_of_decide {j : Json} {d : Draft} {P : Rulebook → Sheet → Prop}
    [∀ r sheet, Decidable (P r sheet)]
    (h : ((Rulebook.ofJson j).toOption.bind fun r => (d.finish r).toOption.map fun sheet =>
      decide (P r sheet)) = some true) :
    ∃ r sheet, Rulebook.ofJson j = .ok r ∧ d.finish r = .ok sheet ∧ P r sheet := by
  cases hr : Rulebook.ofJson j with
  | error cause =>
    rw [hr] at h
    cases h
  | ok r =>
    rw [hr] at h
    obtain ⟨sheet, hsheet, hP⟩ := Option.map_eq_some_iff.mp h
    refine ⟨r, sheet, rfl, ?_, of_decide_eq_true hP⟩
    cases hfinish : d.finish r with
    | error cause =>
      rw [hfinish] at hsheet
      cases hsheet
    | ok sheet' =>
      rw [hfinish] at hsheet
      cases hsheet
      rfl

/-- The picks on the sheet of the small rulebook. -/
theorem finish_copiesPicks_sample : ∃ r sheet, Rulebook.ofJson Rulebook.sampleDocument = .ok r ∧
    sample.finish r = .ok sheet ∧ ∃ o s, sample.selection = some s ∧
      r.occupation? s.name = some o ∧ sheet.occupation.name = o.name ∧ sheet.CopiesPicks r o s := by
  have hsample : ∃ r sheet, Rulebook.ofJson Rulebook.sampleDocument = .ok r ∧
      sample.finish r = .ok sheet ∧ sheet.occupation.points = 200 :=
    exists_sheet_of_decide (by decide +kernel)
  obtain ⟨r, sheet, hr, hsheet, -⟩ := hsample
  exact ⟨r, sheet, hr, hsheet, finish_copiesPicks hsheet⟩

/-! ### Groups that are not reported -/

/-- An occupation whose two groups have one label. -/
def twinDocument : Json :=
  .object [
    ("characteristics", .object (Characteristic.all.map fun c => (c.name, .string "3D6x5"))),
    ("skills", .array [.object [("name", .string "Canto")], .object [("name", .string "Baile")]]),
    ("occupations", .array [
      .object [("name", .string "Actriz"),
        ("credit_rating", .object [("min", .integer 9), ("max", .integer 70)]),
        ("points_formula", .string "EDUx4"),
        ("choice_groups", .array [
          .object [("label", .string "Una más"), ("count", .integer 1),
            ("options", .array [.string "Canto"])],
          .object [("label", .string "Una más"), ("count", .integer 1),
            ("options", .array [.string "Baile"])]])]])]

/-- A draft of the actress with picks for her groups. -/
def actressDraft (picks : List (GroupRef × List String)) : Draft :=
  { sample with
    selection := some ⟨"Actriz", 20, SortedMap.ofList picks, SortedMap.ofList [(0, "apa x2")]⟩
    spending := ⟨SortedMap.empty, SortedMap.empty⟩ }

/-- A blank pick is on the sheet, and the picks of a group are not if another one has its label. -/
theorem not_reports : (∃ r sheet, Rulebook.ofJson Rulebook.sampleDocument = .ok r ∧
      (actressDraft [(⟨"Actriz", 0⟩, [" ", "Arte (Foto)"])]).finish r = .ok sheet ∧
      ¬ sheet.Reports ⟨"Una más", 1, ["cualquiera"]⟩ [" ", "Arte (Foto)"]) ∧
    ∃ r sheet, Rulebook.ofJson twinDocument = .ok r ∧
      (actressDraft [(⟨"Actriz", 0⟩, ["Canto"]), (⟨"Actriz", 1⟩, ["Baile"])]).finish r =
        .ok sheet ∧
      ¬ sheet.Reports ⟨"Una más", 1, ["Canto"]⟩ ["Canto"] := by
  constructor
  · have hsheet : ∃ r sheet, Rulebook.ofJson Rulebook.sampleDocument = .ok r ∧
        (actressDraft [(⟨"Actriz", 0⟩, [" ", "Arte (Foto)"])]).finish r = .ok sheet ∧
        sheet.occupation.picks.get? "Una más" = some [" ", "Arte (Foto)"] :=
      exists_sheet_of_decide (by decide +kernel)
    obtain ⟨r, sheet, hr, hfinish, hpicks⟩ := hsheet
    refine ⟨r, sheet, hr, hfinish, ?_⟩
    rintro ⟨names, hnames, hcount, -⟩
    rw [← Option.some.inj (hpicks.symm.trans hnames)] at hcount
    cases hcount
  · have hsheet : ∃ r sheet, Rulebook.ofJson twinDocument = .ok r ∧
        (actressDraft [(⟨"Actriz", 0⟩, ["Canto"]), (⟨"Actriz", 1⟩, ["Baile"])]).finish r =
          .ok sheet ∧
        sheet.occupation.picks.get? "Una más" = some ["Baile"] :=
      exists_sheet_of_decide (by decide +kernel)
    obtain ⟨r, sheet, hr, hfinish, hpicks⟩ := hsheet
    refine ⟨r, sheet, hr, hfinish, ?_⟩
    rintro ⟨names, hnames, -, -, -, hstored⟩
    have hbaile : "Baile" ∈ names := by
      rw [← Option.some.inj (hpicks.symm.trans hnames)]
      exact List.mem_singleton_self _
    exact absurd (hstored "Baile" hbaile) (by decide)

end Draft

end Chargen
