import Chargen.Dice.WordStream
import Chargen.Draft.Run
import Chargen.Proofs.Review
import Chargen.Proofs.Rulebook
import Chargen.Proofs.SortedMap
import Chargen.Proofs.Spending
import Chargen.Proofs.Text

/-!
# What every run keeps

Changes test nothing, and they touch overlapping parts of a draft. Still a run from a fresh draft
keeps its bookkeeping: an occupation under its listed name with picks of its own, pools in which
every skill is spelled once, and the age at which the block was stored last.

* `Draft.Orderly`: what the selection and the pools keep; `Draft.Orderly.step`: every change keeps
  it.
* `Draft.LastStored`: the age at which a run stored its block last; `Draft.run_block`: the block and
  the age recorded after a run.
* `Draft.run_orderly`: **what every run keeps**, and when the review calls the block stale.
-/

namespace Chargen

/-! ### Orderly drafts -/

/-- A selection under the exact name of an occupation of the rulebook, with picks for groups of this
occupation only and no empty picks. -/
structure Selection.Orderly (r : Rulebook) (s : Selection) : Prop where
  listed : ∃ f ∈ r.occupations, f.entry.name = s.name
  own : ∀ e ∈ s.picks.entries, e.1.occupation = s.name
  picked : ∀ e ∈ s.picks.entries, e.2 ≠ []

/-- A pool with one entry for each skill, under a trimmed name and with points. -/
structure Pool.Orderly (p : Pool) : Prop where
  distinct : p.entries.Pairwise fun a b => SkillName.key a.1 ≠ SkillName.key b.1
  positive : ∀ e ∈ p.entries, 0 < e.2
  trimmed : ∀ e ∈ p.entries, Text.trimmed e.1 = e.1

/-- A draft whose selection and pools are orderly. -/
structure Draft.Orderly (r : Rulebook) (d : Draft) : Prop where
  selection : ∀ s, d.selection = some s → s.Orderly r
  occupation : d.spending.occupation.Orderly
  personal : d.spending.personal.Orderly

theorem Pool.Orderly.empty : Pool.Orderly SortedMap.empty :=
  ⟨.nil, by simp [SortedMap.empty], by simp [SortedMap.empty]⟩

/-- New points for a skill replace all its spellings by one entry. -/
theorem Pool.Orderly.assign {p : Pool} (h : p.Orderly) (skill : String) (n : Nat) :
    (p.assign skill n).Orderly := by
  have hperm := p.assign_perm skill n
  have hmem : ∀ e ∈ (p.assign skill n).entries,
      (n ≠ 0 ∧ e = (Text.trimmed skill, n)) ∨ e ∈ p.entries := by
    intro e he
    rcases List.mem_append.mp (hperm.mem_iff.mp he) with he | he
    · by_cases hn : n = 0
      · simp [hn] at he
      · rw [if_neg hn, List.mem_singleton] at he
        exact .inl ⟨hn, he⟩
    · exact .inr (List.mem_filter.mp he).1
  constructor
  · have hsymm : ∀ {a b : String × Nat}, SkillName.key a.1 ≠ SkillName.key b.1 →
        SkillName.key b.1 ≠ SkillName.key a.1 := fun hab hba => hab hba.symm
    refine (hperm.pairwise_iff hsymm).mpr (List.pairwise_append.mpr ⟨?_, h.distinct.filter _, ?_⟩)
    · split
      · exact .nil
      · exact List.pairwise_singleton _ _
    · intro a ha b hb heq
      have hother : (!SkillName.same b.1 skill) = true := (List.mem_filter.mp hb).2
      by_cases hn : n = 0
      · simp [hn] at ha
      · rw [if_neg hn, List.mem_singleton] at ha
        rw [ha, SkillName.key_trimmed] at heq
        rw [SkillName.same, heq] at hother
        simp at hother
  · intro e he
    rcases hmem e he with ⟨hn, rfl⟩ | he
    · exact Nat.pos_of_ne_zero hn
    · exact h.positive e he
  · intro e he
    rcases hmem e he with ⟨-, rfl⟩ | he
    · exact Text.trimmed_trimmed skill
    · exact h.trimmed e he

namespace Selection

variable {r : Rulebook} {s : Selection}

/-- An occupation is selected without picks under the name that the rulebook has for it. -/
theorem orderly_start {name : String} {o : Occupation} (ho : r.occupation? name = some o)
    (rating : Int) : (start o.name rating).Orderly r := by
  obtain ⟨f, hf, rfl⟩ := Rulebook.mem_of_occupation? ho
  exact ⟨⟨f, hf, rfl⟩, by simp [start, SortedMap.empty], by simp [start, SortedMap.empty]⟩

/-- Picks are stored for the selected occupation, and empty ones are not stored. -/
theorem Orderly.setPicks (h : s.Orderly r) (index : Nat) (skills : List String) :
    (s.setPicks index skills).Orderly r := by
  have hmem : ∀ e ∈ (s.setPicks index skills).picks.entries,
      (skills ≠ [] ∧ e = (s.groupRef index, skills)) ∨ e ∈ s.picks.entries := by
    intro e he
    rw [Selection.setPicks] at he
    cases skills with
    | nil => exact .inr (List.mem_filter.mp he).1
    | cons skill others =>
      exact (SortedMap.mem_put he).imp_left fun heq => ⟨List.cons_ne_nil _ _, heq⟩
  refine ⟨h.listed, ?_, ?_⟩
  · intro e he
    rcases hmem e he with ⟨-, rfl⟩ | he
    · rfl
    · exact h.own e he
  · intro e he
    rcases hmem e he with ⟨hskills, rfl⟩ | he
    · exact hskills
    · exact h.picked e he

end Selection

namespace Draft

variable {r : Rulebook} {d d' : Draft}

theorem orderly_fresh (r : Rulebook) : fresh.Orderly r :=
  ⟨by simp [fresh], .empty, .empty⟩

/-! ### What a change does -/

/-- What a change may do to the selection. -/
inductive EditsSelection (r : Rulebook) : Option Selection → Option Selection → Prop where
  /-- nothing -/
  | keep (selection : Option Selection) : EditsSelection r selection selection
  /-- an occupation is selected without picks -/
  | start (selection : Option Selection) (rating : Int) {name : String} {o : Occupation}
      (ho : r.occupation? name = some o) :
      EditsSelection r selection (some (Selection.start o.name rating))
  /-- the picks for one group change -/
  | setPicks (s : Selection) (index : Nat) (skills : List String) :
      EditsSelection r (some s) (some (s.setPicks index skills))
  /-- the credit rating and the options of the formula change -/
  | values (s : Selection) (creditRating : Int) (formulaPicks : Points.Picks) :
      EditsSelection r (some s) (some { s with creditRating, formulaPicks })

/-- A pool with new points for at most one skill. -/
def EditsPool (p q : Pool) : Prop :=
  q = p ∨ ∃ skill n, q = p.assign skill n

/-- What a change that touches no block may do to a draft. -/
structure Edits (r : Rulebook) (d d' : Draft) : Prop where
  characteristics : d'.characteristics = d.characteristics
  rolledAt : d'.rolledAt = d.rolledAt
  selection : EditsSelection r d.selection d'.selection
  occupation : EditsPool d.spending.occupation d'.spending.occupation
  personal : EditsPool d.spending.personal d'.spending.personal

theorem Edits.refl (r : Rulebook) (d : Draft) : d.Edits r d :=
  ⟨rfl, rfl, .keep _, .inl rfl, .inl rfl⟩

theorem Edits.orKeep {x : Except Fault Draft} (h : ∀ d', x = .ok d' → d.Edits r d') :
    d.Edits r (d.orKeep x) := by
  cases x with
  | error cause => exact .refl r d
  | ok d' => exact h d' rfl

theorem edits_of_selectOccupation {name : String} (h : d.selectOccupation r name = .ok d') :
    d.Edits r d' := by
  unfold selectOccupation at h
  split at h
  · cases h
  · next o ho =>
    split at h
    · cases h
      exact .refl r d
    · cases h
      exact ⟨rfl, rfl, .start _ _ ho, .inl rfl, .inl rfl⟩

theorem edits_of_changeSelection {change : Selection → Selection}
    (hchange : ∀ s, EditsSelection r (some s) (some (change s)))
    (h : d.changeSelection change = .ok d') : d.Edits r d' := by
  unfold changeSelection at h
  split at h
  · cases h
  · next s hs =>
    cases h
    exact ⟨rfl, rfl, hs ▸ hchange s, .inl rfl, .inl rfl⟩

theorem edits_of_fillFormulaPicks (h : (d.fillFormulaPicks r).map Prod.snd = .ok d') :
    d.Edits r d' := by
  unfold fillFormulaPicks at h
  split at h
  · cases h
  · next s hs =>
    split at h
    · cases h
    · cases h
      exact ⟨rfl, rfl, hs ▸ .values s _ _, .inl rfl, .inl rfl⟩

theorem edits_of_suggestEquipment (h : d.suggestEquipment r = .ok d') : d.Edits r d' := by
  unfold suggestEquipment at h
  split at h
  · cases h
  · split at h
    · cases h
      exact .refl r d
    · cases h
      exact ⟨rfl, rfl, .keep _, .inl rfl, .inl rfl⟩

variable {σ : Type} [DieSource σ]

/-- **What one change does**: it starts over, stores a block, or leaves the block alone. -/
theorem step_cases (r : Rulebook) (d : Draft) (c : Change) (s : σ) :
    (c = .reset ∧ (step r d c s).1 = fresh) ∨
      (c.storesBlock = true ∧ ∃ b, (step r d c s).1 = d.setBlock b) ∨
      (c.touchesBlock = false ∧ d.Edits r (step r d c s).1) := by
  cases c with
  | reset => exact .inl ⟨rfl, rfl⟩
  | setBlock b => exact .inr (.inl ⟨rfl, b, rfl⟩)
  | roll => exact .inr (.inl ⟨rfl, _, rfl⟩)
  | setAge age => exact .inr (.inr ⟨rfl, rfl, rfl, .keep _, .inl rfl, .inl rfl⟩)
  | selectOccupation name =>
    exact .inr (.inr ⟨rfl, .orKeep fun _ => edits_of_selectOccupation⟩)
  | setCreditRating rating =>
    exact .inr (.inr ⟨rfl, .orKeep fun _ =>
      edits_of_changeSelection fun s => .values s rating s.formulaPicks⟩)
  | setPicks index skills =>
    exact .inr (.inr ⟨rfl, .orKeep fun _ =>
      edits_of_changeSelection fun s => .setPicks s index skills⟩)
  | setFormulaPick key option =>
    exact .inr (.inr ⟨rfl, .orKeep fun _ =>
      edits_of_changeSelection fun s => .values s s.creditRating _⟩)
  | fillFormulaPicks => exact .inr (.inr ⟨rfl, .orKeep fun _ => edits_of_fillFormulaPicks⟩)
  | allocateOccupation skill points =>
    exact .inr (.inr ⟨rfl, rfl, rfl, .keep _, .inr ⟨skill, points, rfl⟩, .inl rfl⟩)
  | allocatePersonal skill points =>
    exact .inr (.inr ⟨rfl, rfl, rfl, .keep _, .inl rfl, .inr ⟨skill, points, rfl⟩⟩)
  | suggestEquipment => exact .inr (.inr ⟨rfl, .orKeep fun _ => edits_of_suggestEquipment⟩)

/-! ### Order is kept -/

theorem EditsPool.orderly {p q : Pool} (h : EditsPool p q) (hp : p.Orderly) : q.Orderly := by
  rcases h with rfl | ⟨skill, n, rfl⟩
  · exact hp
  · exact hp.assign skill n

theorem EditsSelection.orderly {selection selection' : Option Selection}
    (h : EditsSelection r selection selection') (hs : ∀ s, selection = some s → s.Orderly r) :
    ∀ s, selection' = some s → s.Orderly r := by
  cases h with
  | keep => exact hs
  | start _ rating ho =>
    rintro _ ⟨⟩
    exact Selection.orderly_start ho rating
  | setPicks s index skills =>
    rintro _ ⟨⟩
    exact (hs s rfl).setPicks index skills
  | values s rating formulaPicks =>
    rintro _ ⟨⟩
    obtain ⟨hlisted, hown, hpicked⟩ := hs s rfl
    exact ⟨hlisted, hown, hpicked⟩

/-- **Every change keeps a draft orderly.** -/
theorem Orderly.step (h : d.Orderly r) (c : Change) (s : σ) :
    (Draft.step r d c s).1.Orderly r := by
  rcases step_cases r d c s with ⟨-, heq⟩ | ⟨-, b, heq⟩ | ⟨-, hedits⟩
  · rw [heq]
    exact orderly_fresh r
  · rw [heq]
    exact ⟨h.selection, h.occupation, h.personal⟩
  · exact ⟨hedits.selection.orderly h.selection, hedits.occupation.orderly h.occupation,
      hedits.personal.orderly h.personal⟩

theorem Orderly.run (h : d.Orderly r) (changes : List Change) (s : σ) :
    (Draft.run r changes d s).1.Orderly r := by
  induction changes generalizing d s with
  | nil => exact h
  | cons c rest ih => exact ih (h.step c s) _

/-! ### The block and its age -/

/-- A draft holds a block stored at an age, or no block and no age. -/
def Holds (d : Draft) : Option Nat → Prop
  | none => d.characteristics = Profile.uniform none ∧ d.rolledAt = none
  | some age => (∃ b : Block, d.characteristics = b.known) ∧ d.rolledAt = some age

theorem holds_fresh : fresh.Holds none :=
  ⟨rfl, rfl⟩

theorem holds_setBlock (d : Draft) (b : Block) : (d.setBlock b).Holds (some d.age) :=
  ⟨⟨b, rfl⟩, rfl⟩

theorem Edits.holds (h : d.Edits r d') {age : Option Nat} (hd : d.Holds age) : d'.Holds age := by
  cases age <;> rw [Holds, h.characteristics, h.rolledAt] <;> exact hd

/-- A run of changes that touch no block leaves it with its age. -/
theorem Holds.run {age : Option Nat} (h : d.Holds age) {changes : List Change}
    (hchanges : ∀ c ∈ changes, c.touchesBlock = false) (s : σ) :
    (Draft.run r changes d s).1.Holds age := by
  induction changes generalizing d s with
  | nil => exact h
  | cons c rest ih =>
    obtain ⟨hc, hrest⟩ := List.forall_mem_cons.mp hchanges
    refine ih ?_ hrest _
    rcases step_cases r d c s with ⟨rfl, -⟩ | ⟨hstores, -⟩ | ⟨-, hedits⟩
    · cases hc
    · simp [Change.touchesBlock, hstores] at hc
    · exact hedits.holds h

theorem run_cons (r : Rulebook) (c : Change) (rest : List Change) (d : Draft) (s : σ) :
    run r (c :: rest) d s = run r rest (step r d c s).1 (step r d c s).2 := rfl

theorem run_append (r : Rulebook) (front back : List Change) (d : Draft) (s : σ) :
    run r (front ++ back) d s = run r back (run r front d s).1 (run r front d s).2 := by
  induction front generalizing d s with
  | nil => rfl
  | cons c rest ih => exact ih _ _

/-- A run from a fresh draft stored its last block at an age: the block was neither replaced nor
taken away after that change. -/
def LastStored (r : Rulebook) (changes : List Change) (s : σ) (age : Nat) : Prop :=
  ∃ front c back, changes = front ++ c :: back ∧ c.storesBlock = true ∧
    (∀ later ∈ back, later.touchesBlock = false) ∧ (run r front fresh s).1.age = age

/-- The block stored last is the one that a draft holds, with its age. -/
theorem LastStored.holds {changes : List Change} {s : σ} {age : Nat}
    (h : LastStored r changes s age) : (run r changes fresh s).1.Holds (some age) := by
  obtain ⟨front, c, back, rfl, hc, hback, rfl⟩ := h
  rw [run_append, run_cons]
  refine Holds.run ?_ hback _
  rcases step_cases r (run r front fresh s).1 c (run r front fresh s).2 with
    ⟨rfl, -⟩ | ⟨-, b, heq⟩ | ⟨htouches, -⟩
  · cases hc
  · rw [heq]
    exact holds_setBlock _ b
  · simp [Change.touchesBlock, hc] at htouches

/-- **The block and the age after a run**: a block was stored last at some age and is held with it,
or none was stored since the start and none is held. -/
theorem run_block (r : Rulebook) (changes : List Change) (s : σ) :
    (∃ age, LastStored r changes s age) ∨ (run r changes fresh s).1.Holds none := by
  -- All changes after the last one that touches the block keep what that one has left.
  rcases exists_last (fun c => c.touchesBlock = true) changes with
    hnone | ⟨front, c, back, rfl, hc, hback⟩
  · have hnone : ∀ c ∈ changes, c.touchesBlock = false :=
      fun c hc => Bool.eq_false_iff.mpr (hnone c hc)
    exact .inr (holds_fresh.run hnone s)
  · have hback : ∀ later ∈ back, later.touchesBlock = false :=
      fun later hlater => Bool.eq_false_iff.mpr (hback later hlater)
    rw [Change.touchesBlock, Bool.or_eq_true, beq_iff_eq] at hc
    rcases hc with hstores | rfl
    · exact .inl ⟨_, front, c, back, rfl, hstores, hback, rfl⟩
    · rw [run_append, run_cons]
      exact .inr (holds_fresh.run hback _)

/-! ### The stale block -/

theorem code_of_characteristicIssue? {c : Characteristic} {value : Option Int} {i : Issue}
    (hi : characteristicIssue? c value = some i) :
    i.code = .characteristicsMissing ∨ i.code = .characteristicOutOfRange := by
  unfold characteristicIssue? at hi
  split at hi
  · cases hi
    exact .inl rfl
  · split at hi
    · cases hi
    · cases hi
      exact .inr rfl

theorem staleIssue?_eq_some_iff {i : Issue} : d.staleIssue? = some i ↔
    ∃ age, d.rolledAt = some age ∧ age ≠ d.age ∧ d.characteristics.isVoid = false ∧
      i = .characteristicsStale age d.age := by
  unfold staleIssue?
  cases d.rolledAt with
  | none => simp
  | some age =>
    simp only [Option.some.injEq, exists_eq_left', Option.ite_none_right_eq_some, Bool.and_eq_true,
      bne_iff_ne, Bool.not_eq_true', and_assoc]
    rw [eq_comm (a := i)]

/-- The review of the characteristics calls a block stale if it was stored at another age. -/
theorem stale_iff (r : Rulebook) (d : Draft) :
    IssueCode.characteristicsStaleAge ∈ (d.review r (Stage.ofInt 2)).issues.map Issue.code ↔
      d.characteristics.isVoid = false ∧ ∃ age, d.rolledAt = some age ∧ age ≠ d.age := by
  have hissues : (d.review r (Stage.ofInt 2)).issues =
      d.ageIssues ++ (d.characteristicIssues ++ []) := rfl
  rw [hissues, List.append_nil, List.mem_map]
  constructor
  · rintro ⟨i, hi, hcode⟩
    rcases List.mem_append.mp hi with hi | hi
    · have hstage := stage_of_mem_ageIssues hi
      rw [hcode] at hstage
      cases hstage
    · rcases List.mem_append.mp hi with hi | hi
      · obtain ⟨e, -, he⟩ := List.mem_filterMap.mp hi
        rcases code_of_characteristicIssue? he with h | h <;> rw [h] at hcode <;> cases hcode
      · obtain ⟨age, hage, hne, hvoid, -⟩ := staleIssue?_eq_some_iff.mp (Option.mem_toList.mp hi)
        exact ⟨hvoid, age, hage, hne⟩
  · rintro ⟨hvoid, age, hage, hne⟩
    have hstale : d.staleIssue? = some (.characteristicsStale age d.age) :=
      staleIssue?_eq_some_iff.mpr ⟨age, hage, hne, hvoid, rfl⟩
    exact ⟨_, List.mem_append_right _ (List.mem_append_right _ (Option.mem_toList.mpr hstale)), rfl⟩

theorem isVoid_known (b : Block) : b.known.isVoid = false := by
  simp [Profile.isVoid, Profile.toList, Profile.known, Characteristic.all]

/-- **What every run keeps.** After any run of changes from a fresh draft, failed ones included, the
draft is orderly. Either no block was stored since the start, and no characteristic and no age is
kept, or a complete block is kept with the one age at which a block was stored last. The review of
the characteristics calls the block stale exactly if there is one and the age has changed since. -/
theorem run_orderly (r : Rulebook) (changes : List Change) (s : σ) :
    let d := (run r changes fresh s).1
    d.Orderly r ∧
      (((∀ age, ¬ LastStored r changes s age) ∧ d.characteristics = Profile.uniform none ∧
          d.rolledAt = none) ∨
        ∃ age, (∀ other, LastStored r changes s other ↔ other = age) ∧
          (∃ b : Block, d.characteristics = b.known) ∧ d.rolledAt = some age) ∧
      (IssueCode.characteristicsStaleAge ∈ (d.review r (Stage.ofInt 2)).issues.map Issue.code ↔
        ∃ age, LastStored r changes s age ∧ d.age ≠ age) := by
  dsimp only
  refine ⟨(orderly_fresh r).run changes s, ?_⟩
  rw [stale_iff]
  rcases run_block r changes s with ⟨age, hage⟩ | ⟨hvoid, hnone⟩
  · obtain ⟨⟨b, hb⟩, hrolled⟩ := hage.holds
    have hunique : ∀ other, LastStored r changes s other ↔ other = age := by
      intro other
      constructor
      · intro hother
        exact Option.some.inj (hother.holds.2.symm.trans hrolled)
      · rintro rfl
        exact hage
    refine ⟨.inr ⟨age, hunique, ⟨b, hb⟩, hrolled⟩, ?_⟩
    simp [hunique, hb, hrolled, isVoid_known, eq_comm]
  · have hno : ∀ age, ¬ LastStored r changes s age := by
      intro age hage
      rw [hage.holds.2] at hnone
      cases hnone
    refine ⟨.inl ⟨hno, hvoid, hnone⟩, ?_⟩
    simp [hno, hnone]

/-- A run with two changes that fail, an age changed after the block was stored, picks that are
withdrawn and one skill under two spellings. -/
def actressRun : List Change :=
  [.setCreditRating 5, .setBlock (Profile.uniform 50), .setAge 42, .selectOccupation "actriz",
    .selectOccupation "Nadie", .setPicks 0 ["Arte (Foto)"], .setPicks 0 [],
    .allocateOccupation " arte (oleo) " 40, .allocateOccupation "ARTE (ÓLEO) " 20]

/-- What that run leads to, and what it has kept. -/
theorem run_orderly_actress : ∃ r, Rulebook.ofJson Rulebook.sampleDocument = .ok r ∧
    let d := (run r actressRun fresh (WordStream.start [] 0)).1
    d = { fresh with
          age := 42
          characteristics := Profile.uniform (some 50)
          rolledAt := some 25
          selection := some (Selection.start "Actriz" 9)
          spending := ⟨SortedMap.ofList [("ARTE (ÓLEO)", 20)], SortedMap.empty⟩ } ∧
      d.Orderly r ∧ LastStored r actressRun (WordStream.start [] 0) 25 ∧
      IssueCode.characteristicsStaleAge ∈
        (d.review r (Stage.ofInt 2)).issues.map Issue.code := by
  have hrun : ∃ r o, Rulebook.ofJson Rulebook.sampleDocument = .ok r ∧
      r.occupation? "Actriz" = some o ∧
      (run r actressRun fresh (WordStream.start [] 0)).1 =
        { fresh with
          age := 42
          characteristics := Profile.uniform (some 50)
          rolledAt := some 25
          selection := some (Selection.start "Actriz" 9)
          spending := ⟨SortedMap.ofList [("ARTE (ÓLEO)", 20)], SortedMap.empty⟩ } :=
    Rulebook.exists_occupation_of_decide (by decide +kernel)
  obtain ⟨r, o, hr, -, hd⟩ := hrun
  have hstored : LastStored r actressRun (WordStream.start [] 0) 25 :=
    ⟨[.setCreditRating 5], .setBlock (Profile.uniform 50), _, rfl, rfl, by decide, rfl⟩
  obtain ⟨horderly, -, hstale⟩ := run_orderly r actressRun (WordStream.start [] 0)
  refine ⟨r, hr, hd, horderly, hstored, hstale.mpr ⟨25, hstored, ?_⟩⟩
  rw [hd]
  decide

end Draft

end Chargen
