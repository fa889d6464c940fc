import Chargen.Proofs.Grant.Listing
import Chargen.Proofs.Rulebook.Lookup
import Chargen.Proofs.SkillName.Distinct
import Chargen.Proofs.SkillRow
import Chargen.Rulebook.Standard

/-!
# The rows account for all points

The points of a pool are asked for in several ways: merged skill by skill, name by name in the rows,
and all together. Each way groups and clips the same entries by itself. The rows take their names
from the catalog, from what the occupation grants and from both pools, and still no points are lost
or counted twice.

* `Pool.mergedPoints_eq`, `Pool.clip_sum_merged`: merging keeps the points of each skill and their
  sum.
* `SkillRow.rowNames_eq`: the names of the rows, whatever was merged before.
* `SkillRow.Balances`, `SkillRow.AccountFor`: rows in which all points are found once.
* `Draft.rows_account`: **the rows account for all points**, those of a block and those of a draft.
-/

namespace Chargen

/-! ### Merged points -/

namespace Pool

variable (p : Pool)

/-- The points that merging lists for a skill; zero if it lists none. -/
def mergedPoints (name : String) : Int :=
  ((p.merged.find? fun e => SkillName.same e.1 name).map Prod.snd).getD 0

/-- Merging lists for each skill its points. -/
theorem mergedPoints_eq (name : String) : p.mergedPoints name = p.points name := by
  rw [mergedPoints]
  cases hfind : p.merged.find? fun e => SkillName.same e.1 name with
  | none =>
    by_contra hpoints
    obtain ⟨n, hn, hkey⟩ := p.exists_mem_merged fun hzero => hpoints hzero.symm
    exact List.find?_eq_none.mp hfind _ hn (SkillName.same_iff.mpr hkey)
  | some e =>
    have hmem := List.mem_of_find?_eq_some hfind
    have hsame : SkillName.same e.1 name = true := by simpa using List.find?_some hfind
    rw [merged_eq] at hmem
    obtain ⟨n, -, rfl⟩ := List.mem_map.mp hmem
    exact p.points_congr (SkillName.same_iff.mp hsame)

/-- The merged points of all skills but the one that the credit rating feeds add up to what is
spent. -/
theorem clip_sum_merged :
    clip ((p.merged.filter fun e => !SkillName.isCredit e.1).map Prod.snd).sum = p.spent := by
  have hmerged : (p.merged.filter fun e => !SkillName.isCredit e.1).map Prod.snd =
      ((SkillName.distinct p.keys).filter fun name => !SkillName.isCredit name).map p.points := by
    rw [merged_eq, List.filter_map, List.map_map]
    rfl
  rw [hmerged, spent]
  exact p.sum_points (SkillName.distinct_pairwise _) SkillName.not_isCredit_congr fun e he =>
    SkillName.exists_mem_distinct (List.mem_map_of_mem he)

end Pool

namespace SkillRow

variable {r : Rulebook}

/-! ### The names of the rows -/

/-- The rows have the names of the catalog, of further skills that are granted, and of the entries
of both pools, each skill once. -/
theorem rowNames_eq (r : Rulebook) (spending : Spending) (granted : List String) :
    rowNames r spending granted = SkillName.distinct
      (r.skillNames ++ granted ++ (spending.occupation.keys ++ spending.personal.keys)) := by
  rw [rowNames, Pool.merged_names, Pool.merged_names, SkillName.distinct_append_distinct]
  rfl

/-- New points for a skill that is named already name no further skill. -/
theorem distinct_append_assign {named others : List String} {skill : String}
    (h : ∃ name ∈ named, SkillName.key name = SkillName.key skill) (p : Pool) (n : Nat) :
    SkillName.distinct (named ++ ((p.assign skill n).keys ++ others)) =
      SkillName.distinct (named ++ (p.keys ++ others)) := by
  have hkeys : ∀ q : Pool, q.keys.filter (fun name => !SkillName.same name skill) =
      (SortedMap.filterKeys q fun name => !SkillName.same name skill).keys := by
    intro q
    rw [SortedMap.keys, SortedMap.keys, List.filter_map]
    rfl
  have hnew : SkillName.without (p.assign skill n).keys named =
      SkillName.without p.keys named := by
    rw [← SkillName.without_filter h, ← SkillName.without_filter h p.keys, hkeys, hkeys,
      Pool.filterKeys_assign]
  rw [SkillName.distinct_append, SkillName.distinct_append, SkillName.without_append,
    SkillName.without_append, hnew]

/-! ### Accounts -/

/-- A column of rows, the merged points of a pool and what is spent from it come to the same once
clipped, all without the skill that the credit rating feeds. -/
def Balances (table : List SkillRow) (column : SkillRow → Int) (p : Pool) : Prop :=
  clip ((table.filter fun row => !SkillName.isCredit row.name).map column).sum = p.spent ∧
    clip ((p.merged.filter fun e => !SkillName.isCredit e.1).map Prod.snd).sum = p.spent

/-- Rows in which the points spent are found once. They name the catalog, then the skills granted
and the skills with entries that are new, each skill once and no other skill. Their points are the
merged ones, those for the skill that the credit rating feeds apart, and both columns balance. -/
structure AccountFor (table : List SkillRow) (catalog granted : List String)
    (spending : Spending) : Prop where
  /-- No two rows name one skill. -/
  distinct : table.Pairwise fun row row' => SkillName.key row.name ≠ SkillName.key row'.name
  /-- The names of the rows, in order. -/
  names : table.map SkillRow.name = catalog ++ SkillName.without granted catalog ++
    SkillName.distinct (SkillName.without (spending.occupation.keys ++ spending.personal.keys)
      (catalog ++ granted))
  /-- Every skill of the catalog, granted skill and skill with an entry has one row. -/
  once : ∀ name ∈ catalog ++ granted ++ (spending.occupation.keys ++ spending.personal.keys),
    table.countP (fun row => SkillName.same row.name name) = 1
  /-- There are no other rows. -/
  named : ∀ row ∈ table,
    row.name ∈ catalog ++ granted ++ (spending.occupation.keys ++ spending.personal.keys)
  /-- The occupation points of a row are the merged ones. -/
  occupation : ∀ row ∈ table, SkillName.isCredit row.name = false →
    row.occupation = spending.occupation.mergedPoints row.name
  /-- The personal points of a row are the merged ones. -/
  personal : ∀ row ∈ table, row.personal = spending.personal.mergedPoints row.name
  /-- The occupation points balance. -/
  occupation_balances : Balances table SkillRow.occupation spending.occupation
  /-- The personal points balance. -/
  personal_balances : Balances table SkillRow.personal spending.personal

/-- Rows account for the points spent if their names and their points are those of the entries. -/
theorem AccountFor.of_names {table : List SkillRow} {catalog granted : List String}
    {spending : Spending}
    (hcatalog : catalog.Pairwise fun a b => SkillName.key a ≠ SkillName.key b)
    (hgranted : granted.Pairwise fun a b => SkillName.key a ≠ SkillName.key b)
    (hnames : table.map SkillRow.name = SkillName.distinct
      (catalog ++ granted ++ (spending.occupation.keys ++ spending.personal.keys)))
    (hoccupation : ∀ row ∈ table, SkillName.isCredit row.name = false →
      row.occupation = spending.occupation.points row.name)
    (hpersonal : ∀ row ∈ table, row.personal = spending.personal.points row.name) :
    AccountFor table catalog granted spending := by
  have hdistinct : (table.map SkillRow.name).Pairwise fun a b =>
      SkillName.key a ≠ SkillName.key b := by
    rw [hnames]
    exact SkillName.distinct_pairwise _
  have hnamed : ∀ name ∈ catalog ++ granted ++
      (spending.occupation.keys ++ spending.personal.keys),
      ∃ n ∈ table.map SkillRow.name, SkillName.key n = SkillName.key name := by
    rw [hnames]
    exact fun name hname => SkillName.exists_mem_distinct hname
  have hnew : SkillName.distinct (catalog ++ granted) =
      catalog ++ SkillName.without granted catalog := by
    have hpairwise : (SkillName.without granted catalog).Pairwise fun a b =>
        SkillName.key a ≠ SkillName.key b := hgranted.filter _
    rw [SkillName.distinct_append, SkillName.distinct_eq_self hcatalog,
      SkillName.distinct_eq_self hpairwise]
  -- A column adds up to what is spent, because every entry of its pool has a row.
  have hbalances : ∀ (p : Pool) (column : SkillRow → Int),
      (∀ name ∈ p.keys, name ∈ spending.occupation.keys ++ spending.personal.keys) →
      (∀ row ∈ table, SkillName.isCredit row.name = false → column row = p.points row.name) →
      Balances table column p := by
    intro p column hkeys hpoints
    refine ⟨?_, p.clip_sum_merged⟩
    rw [Pool.spent]
    refine clip_sum_column hdistinct (fun e he => ?_) SkillName.not_isCredit_congr ?_
    · exact hnamed e.1 (List.mem_append_right _ (hkeys e.1 (List.mem_map_of_mem he)))
    · exact fun row hrow hkeep => hpoints row hrow (by simpa using hkeep)
  exact {
    distinct := by
      rw [List.pairwise_map] at hdistinct
      exact hdistinct
    names := by rw [hnames, SkillName.distinct_append, hnew]
    once := by
      intro name hname
      have hcount := SkillName.countP_same hdistinct (hnamed name hname)
      rwa [List.countP_map] at hcount
    named := by
      intro row hrow
      have hmem := List.mem_map_of_mem (f := SkillRow.name) hrow
      rw [hnames] at hmem
      exact SkillName.mem_of_mem_distinct hmem
    occupation := by
      intro row hrow hcredit
      rw [Pool.mergedPoints_eq, hoccupation row hrow hcredit]
    personal := by
      intro row hrow
      rw [Pool.mergedPoints_eq, hpersonal row hrow]
    occupation_balances := by
      refine hbalances spending.occupation SkillRow.occupation ?_ hoccupation
      exact fun name hname => List.mem_append_left _ hname
    personal_balances := by
      refine hbalances spending.personal SkillRow.personal ?_ fun row hrow _ => hpersonal row hrow
      exact fun name hname => List.mem_append_right _ hname }

/-- **The rows of a block account for the points spent.** -/
theorem accountFor_rows (hr : r.Consistent) (b : Block) (spending : Spending) :
    AccountFor (rows r b spending []) r.skillNames [] spending := by
  refine .of_names hr.pairwise_skillNames .nil ?_ ?_ ?_
  · rw [map_name_rows, rowNames_eq]
  · exact fun row hrow _ => congrArg SkillRow.occupation (eq_of_mem_rows hrow)
  · exact fun row hrow => congrArg SkillRow.personal (eq_of_mem_rows hrow)

end SkillRow

namespace Draft

variable {r : Rulebook} {d : Draft} {s : Selection} {o : Occupation}

/-- The rows of a draft name the catalog, what the occupation grants, and the skills with entries,
each skill once: the credit rating names no further skill, as the one that it feeds is granted. -/
theorem map_name_rows (hknown : ∀ s, d.selection = some s → (r.occupation? s.name).isSome) :
    (d.rows r).map SkillRow.name = SkillName.distinct (r.skillNames ++ d.granted r ++
      (d.spending.occupation.keys ++ d.spending.personal.keys)) := by
  rw [rows, SkillRow.map_name_rows, SkillRow.rowNames_eq, sheetSpending_personal]
  cases hs : d.selection with
  | none => rw [sheetSpending, hs]
  | some s =>
    obtain ⟨o, ho⟩ := Option.isSome_iff_exists.mp (hknown s hs)
    have hcredit : ∃ name ∈ r.skillNames ++ d.granted r,
        SkillName.key name = SkillName.key SkillName.credit := by
      obtain ⟨name, hname, hcredit⟩ := Grant.exists_credit_mem_listed r o s
      rw [SkillName.isCredit_eq_same, SkillName.same_iff] at hcredit
      rw [granted_eq hs ho]
      exact ⟨name, List.mem_append_right _ hname, hcredit⟩
    rw [sheetSpending_occupation hs, SkillRow.distinct_append_assign hcredit]

/-- **The rows of a draft account for the points spent**, as if the credit rating were none of
them. -/
theorem accountFor_rows (hr : r.Consistent) (hs : d.selection = some s)
    (ho : r.occupation? s.name = some o) :
    SkillRow.AccountFor (d.rows r) r.skillNames (Grant.listed r o s) d.spending := by
  refine .of_names hr.pairwise_skillNames (SkillName.distinct_pairwise _) ?_ ?_ ?_
  · rw [map_name_rows, granted_eq hs ho]
    intro s' hs'
    obtain rfl := Option.some.inj (hs.symm.trans hs')
    exact Option.isSome_iff_exists.mpr ⟨o, ho⟩
  · intro row hrow hcredit
    rw [occupation_of_mem_rows hs hrow, hcredit, if_neg Bool.false_ne_true]
  · exact fun row hrow => personal_of_mem_rows hrow

/-- The rows of a draft have one row that the credit rating feeds, and its occupation points are the
rating. -/
theorem credit_of_rows (hr : r.Consistent) (hs : d.selection = some s)
    (ho : r.occupation? s.name = some o) :
    (d.rows r).countP (fun row => SkillName.isCredit row.name) = 1 ∧
      ∀ row ∈ d.rows r, SkillName.isCredit row.name = true → s.creditRating ≤ maxNumber →
        row.occupation = max 0 s.creditRating := by
  constructor
  · obtain ⟨name, hname, hcredit⟩ := Grant.exists_credit_mem_listed r o s
    have honce := (accountFor_rows hr hs ho).once name (by simp [hname])
    rw [SkillName.isCredit_eq_same, SkillName.same_iff] at hcredit
    have hsame : ∀ row : SkillRow,
        SkillName.same row.name name = SkillName.isCredit row.name := by
      intro row
      rw [SkillName.isCredit_eq_same, SkillName.same, SkillName.same, hcredit]
    simpa only [hsame] using honce
  · intro row hrow hcredit hrating
    rw [occupation_of_mem_rows hs hrow, hcredit, if_pos rfl, clip_toNat hrating]

/-- **The rows account for all points.** The rows of a block, with any points spent, name the
catalog and then the skills with entries, each skill once, and hold the merged points of both pools.
The rows of a draft with a known occupation name the skills that it grants in between, and the
credit rating stands for the occupation points of the skill that it feeds. Without that skill, the
rows, the merged points and what is spent come to the same in either pool, once clipped. -/
theorem rows_account {doc : RulebookDocument} (hr : Rulebook.ofDocument doc = .ok r) :
    (∀ b spending, SkillRow.AccountFor (SkillRow.rows r b spending []) (doc.skills.map Skill.name)
        [] spending ∧
      ∀ row ∈ SkillRow.rows r b spending [],
        row.occupation = spending.occupation.mergedPoints row.name) ∧
    ∀ d s o, d.selection = some s → o ∈ doc.occupations →
      SkillName.key o.name = SkillName.key s.name →
      SkillRow.AccountFor (rows r d) (doc.skills.map Skill.name) (Grant.listed r o s) d.spending ∧
        (rows r d).countP (fun row => SkillName.isCredit row.name) = 1 ∧
        ∀ row ∈ rows r d, SkillName.isCredit row.name = true → s.creditRating ≤ maxNumber →
          row.occupation = max 0 s.creditRating := by
  have hconsistent := Rulebook.consistent_of_ofDocument hr
  rw [← Rulebook.skillNames_of_ofDocument hr]
  refine ⟨fun b spending => ⟨SkillRow.accountFor_rows hconsistent b spending, ?_⟩, ?_⟩
  · intro row hrow
    rw [Pool.mergedPoints_eq]
    exact congrArg SkillRow.occupation (SkillRow.eq_of_mem_rows hrow)
  · intro d s o hs hmem hkey
    have ho := (Rulebook.occupation?_eq_some_iff hr).mpr ⟨hmem, hkey⟩
    exact ⟨accountFor_rows hconsistent hs ho, credit_of_rows hconsistent hs ho⟩

/-- A rulebook with two skills and an actress, who is granted a third one. -/
def singingActress : RulebookDocument :=
  { Rulebook.standardDocument with
    families := []
    skills := [⟨"Crédito", 0, true⟩, ⟨"Arte (Óleo)", 5, false⟩]
    occupations := [⟨"Actriz", ⟨9, 70⟩, "EDUx4", ["Canto"], []⟩] }

/-- A draft with two spellings of one skill, points for the skill of the credit rating, and points
for a skill that is not listed anywhere. -/
theorem rows_account_actress : ∃ r, Rulebook.ofDocument singingActress = .ok r ∧
    let s := Selection.start "ACTRIZ" 20
    let spending : Spending :=
      ⟨SortedMap.ofList [("CANTO", 7), ("arte (oleo)", 40), ("crédito", 8), ("Arte (Óleo)", 25)],
        SortedMap.ofList [("Baile", 60)]⟩
    let d := { fresh with selection := some s, spending }
    (d.rows r).map SkillRow.name = ["Crédito", "Arte (Óleo)", "Canto", "Baile"] ∧
      clip (((d.rows r).filter fun row => !SkillName.isCredit row.name).map
        SkillRow.occupation).sum = 72 ∧
      ∀ row ∈ d.rows r, SkillName.isCredit row.name = true → row.occupation = 20 := by
  let o : Occupation := ⟨"Actriz", ⟨9, 70⟩, "EDUx4", ["Canto"], []⟩
  let s := Selection.start "ACTRIZ" 20
  let spending : Spending :=
    ⟨SortedMap.ofList [("CANTO", 7), ("arte (oleo)", 40), ("crédito", 8), ("Arte (Óleo)", 25)],
      SortedMap.ofList [("Baile", 60)]⟩
  obtain ⟨r, hr, hgranted⟩ : ∃ r, Rulebook.ofDocument singingActress = .ok r ∧
      Grant.listed r o s = ["Canto", "Crédito"] := Rulebook.exists_of_decide (by decide +kernel)
  obtain ⟨haccount, -, hcredit⟩ := (rows_account hr).2 { fresh with selection := some s, spending }
    s o rfl List.mem_cons_self (by decide +kernel)
  rw [hgranted] at haccount
  refine ⟨r, hr, ?_, ?_, ?_⟩
  · exact haccount.names.trans (by decide +kernel)
  · exact haccount.occupation_balances.1.trans (by decide +kernel)
  · exact fun row hrow hrowCredit => hcredit row hrow hrowCredit (by decide)

end Draft

end Chargen
