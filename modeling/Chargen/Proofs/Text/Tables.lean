import Chargen.Proofs.Text.CodeSet
import Chargen.Text.Blank
import Chargen.Text.Decomposition
import Chargen.Text.LowerCase
import Chargen.Text.Mark

/-!
# What the character tables have in common

What a decomposition consists of has no decomposition of its own, and the small letter of a character
that is decomposed and no mark is decomposed, no mark and small itself. Neither step makes a
parenthesis out of anything else. These are facts about whole tables, tested on the sets of their
code points.

* `isBare_of_mem_decompose`: **decompositions are full**.
* `Settled`: a character that neither decomposing nor lowering changes.
* `settled_toLowerCase`: **lowering settles a decomposed character**.
* `eq_of_mem_decompose`, `eq_of_toLowerCase`: a parenthesis comes from itself only.
-/

namespace Chargen.Text

/-- Whether the keys of a table ascend, the first of them being `low` or greater. -/
def ascendFrom {α : Type} (low : Nat) : List (Nat × α) → Bool
  | [] => true
  | row :: rest => low ≤ row.1 && ascendFrom (row.1 + 1) rest

/-- Every row of an ascending table is found. -/
theorem lookupAscending_of_mem {α : Type} {rows : List (Nat × α)} {low : Nat}
    (hrows : ascendFrom low rows = true) {c : Nat} {v : α} (h : (c, v) ∈ rows) :
    low ≤ c ∧ lookupAscending c rows = some v := by
  induction rows generalizing low with
  | nil => cases h
  | cons row rest ih =>
    rw [ascendFrom, Bool.and_eq_true, decide_eq_true_iff] at hrows
    obtain ⟨hlow, hrest⟩ := hrows
    rcases List.mem_cons.mp h with rfl | h
    · exact ⟨hlow, by rw [lookupAscending, if_pos rfl]⟩
    · obtain ⟨hlt, hlookup⟩ := ih hrest h
      refine ⟨by omega, ?_⟩
      rw [lookupAscending, if_neg (by omega), if_neg (by omega), hlookup]

theorem ascendFrom_decompositions : ascendFrom 0 decompositions = true := by
  decide +kernel

/-- A number that is no code point stands for the first character. -/
theorem toNat_ofNat_cases (n : Nat) : (Char.ofNat n).toNat = n ∨ (Char.ofNat n).toNat = 0 := by
  by_cases hvalid : n.isValidChar
  · have hcode : Char.ofNat n = Char.ofNatAux n hvalid := dif_pos hvalid
    exact .inl (by rw [hcode]; rfl)
  · have hfirst : Char.ofNat n = '\x00' := dif_neg hvalid
    exact .inr (by rw [hfirst]; rfl)

/-! ### The sets -/

/-- The ASCII characters, which are never looked up. -/
def ascii : Nat :=
  rangeSet [(0, 0x7F)]

/-- The code points that have a decomposition of their own. -/
def decomposable : Nat :=
  codeSet (decompositions.map Prod.fst) |||
    rangeSet [(firstSyllable, firstSyllable + syllableCount - 1)]

/-- The code points of the letters that Hangul syllables consist of. -/
def syllableParts : List (Nat × Nat) :=
  [(0x1100, 0x1112), (0x1161, 0x1175), (0x11A8, 0x11C2)]

/-- The code points that decompositions consist of. -/
def decomposed : Nat :=
  codeSet (decompositions.flatMap Prod.snd) ||| rangeSet syllableParts

/-- The parentheses. -/
def parentheses : Nat :=
  codeSet ['('.toNat, ')'.toNat]

/-- The capitals of a run. -/
def CapitalRun.capitals (run : CapitalRun) : Nat :=
  codeSet (List.range' run.first ((run.last - run.first) / run.step + 1) run.step)

/-- The small letters of a set of capitals of a run. -/
def CapitalRun.lowered (run : CapitalRun) (set : Nat) : Nat :=
  if run.shift < 0 then set >>> (-run.shift).toNat else set <<< run.shift.toNat

/-- All capitals. -/
def capitals : Nat :=
  unionOf CapitalRun.capitals capitalRuns

/-- The small letters of the capitals that have no decomposition. -/
def smallLetters : Nat :=
  unionOf (fun run => run.lowered (run.capitals ^^^ (run.capitals &&& decomposable))) capitalRuns

theorem decomposed_apart : ascii &&& decomposable = 0 ∧
    decomposed &&& (decomposable ||| parentheses) = 0 := by
  decide +kernel

theorem smallLetters_apart : (1 ||| smallLetters) &&& (decomposable ||| rangeSet markRanges |||
    capitals ||| parentheses) = 0 := by
  decide +kernel

/-! ### Decomposing -/

/-- A character without a decomposition of its own. -/
def IsBare (c : Char) : Prop :=
  decomposable.testBit c.toNat = false

/-- A character is bare if no row and no range of syllables speaks of it. -/
theorem isBare_iff {c : Char} : IsBare c ↔ lookupAscending c.toNat decompositions = none ∧
    ¬ (firstSyllable ≤ c.toNat ∧ c.toNat < firstSyllable + syllableCount) := by
  have hkey : (codeSet (decompositions.map Prod.fst)).testBit c.toNat = false ↔
      lookupAscending c.toNat decompositions = none := by
    rw [← Bool.not_eq_true, testBit_codeSet, List.mem_map, Option.eq_none_iff_forall_ne_some]
    constructor
    · intro hkeys v hv
      exact hkeys ⟨(c.toNat, v), mem_of_lookupAscending hv, rfl⟩
    · rintro hnone ⟨⟨key, v⟩, hrow, rfl⟩
      exact hnone v (lookupAscending_of_mem ascendFrom_decompositions hrow).2
  have hrange : (rangeSet [(firstSyllable, firstSyllable + syllableCount - 1)]).testBit c.toNat =
      false ↔ ¬ (firstSyllable ≤ c.toNat ∧ c.toNat < firstSyllable + syllableCount) := by
    have hpos : 0 < syllableCount := by decide
    rw [← Bool.not_eq_true, testBit_rangeSet]
    simp only [List.mem_singleton, exists_eq_left]
    omega
  rw [IsBare, decomposable, Nat.testBit_or, Bool.or_eq_false_iff, hkey, hrange]

theorem decompose_of_isBare {c : Char} (hc : IsBare c) : decompose c = [c] := by
  obtain ⟨hlookup, hsyllable⟩ := isBare_iff.mp hc
  rw [decompose, decomposeCode, hlookup]
  simp [hsyllable]

theorem testBit_syllableParts {index v : Nat} (hindex : index < syllableCount)
    (h : v ∈ syllableLetters index) : (rangeSet syllableParts).testBit v = true := by
  rw [testBit_rangeSet]
  simp only [syllableParts, List.mem_cons, List.not_mem_nil, or_false, exists_eq_or_imp,
    exists_eq_left]
  simp only [syllableLetters, syllableCount] at h hindex
  split at h
  · simp only [List.mem_cons, List.not_mem_nil, or_false] at h
    omega
  · simp only [List.mem_cons, List.not_mem_nil, or_false] at h
    omega

/-- What a decomposition consists of: the character itself if it is bare, the code points of a row,
or the letters of a syllable. -/
theorem mem_decompose_cases {c d : Char} (h : d ∈ decompose c) :
    (d = c ∧ IsBare c) ∨ (∃ row ∈ decompositions, ∃ v ∈ row.2, d = Char.ofNat v) ∨
      ∃ v, (rangeSet syllableParts).testBit v = true ∧ d = Char.ofNat v := by
  rw [decompose] at h
  split at h
  · -- An ASCII character is not looked up, and the tables do not speak of any.
    next hascii =>
    have hset : ascii.testBit c.toNat = true :=
      testBit_rangeSet.mpr ⟨_, List.mem_singleton_self _, Nat.zero_le _, by simp only; omega⟩
    exact .inl ⟨List.mem_singleton.mp h, testBit_eq_false_of_and decomposed_apart.1 hset⟩
  · rw [decomposeCode] at h
    split at h
    · -- A syllable.
      next hsyllable =>
      obtain ⟨v, hv, hd⟩ := List.mem_map.mp h
      rw [Bool.and_eq_true, decide_eq_true_iff, decide_eq_true_iff] at hsyllable
      exact .inr (.inr ⟨v, testBit_syllableParts (by omega) hv, hd.symm⟩)
    · next hsyllable =>
      rw [Bool.and_eq_true, decide_eq_true_iff, decide_eq_true_iff] at hsyllable
      cases hlookup : lookupAscending c.toNat decompositions with
      | none =>
        rw [hlookup, Option.getD_none, List.map_singleton, Char.ofNat_toNat] at h
        exact .inl ⟨List.mem_singleton.mp h, isBare_iff.mpr ⟨hlookup, hsyllable⟩⟩
      | some vs =>
        rw [hlookup, Option.getD_some] at h
        obtain ⟨v, hv, hd⟩ := List.mem_map.mp h
        exact .inr (.inl ⟨(c.toNat, vs), mem_of_lookupAscending hlookup, v, hv, hd.symm⟩)

/-- What a decomposition consists of is the character itself, which then is bare, or made from a code
point that decompositions consist of. -/
theorem mem_decompose_apart {c d : Char} (h : d ∈ decompose c) :
    (d = c ∧ IsBare c) ∨ ∃ v, decomposed.testBit v = true ∧ d = Char.ofNat v := by
  rcases mem_decompose_cases h with hself | ⟨row, hrow, v, hv, hd⟩ | ⟨v, hv, hd⟩
  · exact .inl hself
  · refine .inr ⟨v, ?_, hd⟩
    rw [decomposed, Nat.testBit_or, Bool.or_eq_true]
    exact .inl (testBit_codeSet.mpr (List.mem_flatMap.mpr ⟨row, hrow, hv⟩))
  · refine .inr ⟨v, ?_, hd⟩
    rw [decomposed, Nat.testBit_or, hv, Bool.or_true]

/-- A character made from a number is outside a set that has neither the number nor zero. -/
theorem testBit_ofNat {set v : Nat} (hv : set.testBit v = false) (hzero : set.testBit 0 = false) :
    set.testBit (Char.ofNat v).toNat = false := by
  rcases toNat_ofNat_cases v with hcode | hcode
  · rw [hcode, hv]
  · rw [hcode, hzero]

/-- **Decompositions are full**: what a decomposition consists of is decomposed. -/
theorem isBare_of_mem_decompose {c d : Char} (h : d ∈ decompose c) : IsBare d := by
  rcases mem_decompose_apart h with ⟨rfl, hbare⟩ | ⟨v, hv, rfl⟩
  · exact hbare
  · have hapart := testBit_eq_false_of_and decomposed_apart.2 hv
    rw [Nat.testBit_or, Bool.or_eq_false_iff] at hapart
    have hascii : ascii.testBit 0 = true := by decide +kernel
    exact testBit_ofNat hapart.1 (testBit_eq_false_of_and decomposed_apart.1 hascii)

/-! ### Parentheses in decompositions -/

/-- A parenthesis. -/
def isParenthesis (c : Char) : Bool :=
  c == '(' || c == ')'

theorem isParenthesis_cases {c : Char} (hc : isParenthesis c = true) : c = '(' ∨ c = ')' := by
  simpa [isParenthesis] using hc

theorem testBit_parentheses (c : Char) : parentheses.testBit c.toNat = isParenthesis c := by
  rw [Bool.eq_iff_iff, parentheses, testBit_codeSet, isParenthesis, Bool.or_eq_true, beq_iff_eq,
    beq_iff_eq, ← Char.toNat_inj, ← Char.toNat_inj, List.mem_cons, List.mem_singleton]

/-- A code point outside the set of some ranges is not found in them. -/
theorem inRanges_eq_false {ranges : List (Nat × Nat)} {c : Nat}
    (h : (rangeSet ranges).testBit c = false) : inRanges c ranges = false := by
  rw [← Bool.not_eq_true] at h ⊢
  intro hfound
  exact h (testBit_rangeSet.mpr (exists_of_inRanges hfound))

/-- Only a parenthesis decomposes into a parenthesis. -/
theorem eq_of_mem_decompose {c d : Char} (h : d ∈ decompose c) (hd : isParenthesis d = true) :
    d = c := by
  rcases mem_decompose_apart h with ⟨rfl, -⟩ | ⟨v, hv, rfl⟩
  · rfl
  · have hapart := testBit_eq_false_of_and decomposed_apart.2 hv
    have hzero : parentheses.testBit 0 = false := by decide +kernel
    rw [Nat.testBit_or, Bool.or_eq_false_iff] at hapart
    rw [← testBit_parentheses, testBit_ofNat hapart.2 hzero] at hd
    cases hd

/-! ### Lowering -/

/-- A capital has the small letter of its run. -/
theorem lowerIn_cases (c : Nat) (runs : List CapitalRun) : lowerIn c runs = c ∨
    ∃ run ∈ runs, run.capitals.testBit c = true ∧ lowerIn c runs = ((c : Int) + run.shift).toNat := by
  induction runs with
  | nil => exact .inl rfl
  | cons run rest ih =>
    have hrest : lowerIn c rest = c ∨ ∃ r ∈ run :: rest, r.capitals.testBit c = true ∧
        lowerIn c rest = ((c : Int) + r.shift).toNat := by
      rcases ih with h | ⟨r, hr, h⟩
      · exact .inl h
      · exact .inr ⟨r, List.mem_cons_of_mem _ hr, h⟩
    rw [lowerIn]
    split
    · exact .inl rfl
    · next hfirst =>
      split
      · next hlast =>
        split
        · next hstep =>
          refine .inr ⟨run, List.mem_cons_self, ?_, rfl⟩
          rw [CapitalRun.capitals, testBit_codeSet, List.mem_range']
          refine ⟨(c - run.first) / run.step, ?_, ?_⟩
          · exact Nat.lt_succ_of_le (Nat.div_le_div_right (by omega))
          · rw [Nat.mul_div_cancel' (Nat.dvd_of_mod_eq_zero hstep)]
            omega
        · exact hrest
      · exact hrest

/-- The small letter of a member of a set is a member of the set of small letters, or zero. -/
theorem testBit_lowered {run : CapitalRun} {set c : Nat} (h : set.testBit c = true) :
    (run.lowered set).testBit ((c : Int) + run.shift).toNat = true ∨
      ((c : Int) + run.shift).toNat = 0 := by
  rw [CapitalRun.lowered]
  split
  · next hneg =>
    by_cases hpos : 0 ≤ (c : Int) + run.shift
    · have hcode : (-run.shift).toNat + ((c : Int) + run.shift).toNat = c := by omega
      rw [Nat.testBit_shiftRight, hcode]
      exact .inl h
    · exact .inr (by omega)
  · have hcode : ((c : Int) + run.shift).toNat - run.shift.toNat = c := by omega
    have hge : run.shift.toNat ≤ ((c : Int) + run.shift).toNat := by omega
    rw [Nat.testBit_shiftLeft, hcode, decide_eq_true hge, Bool.true_and]
    exact .inl h

/-- The small letter of a bare capital lies in the set of small letters. -/
theorem testBit_smallLetters {run : CapitalRun} (hrun : run ∈ capitalRuns) {c : Nat}
    (hc : run.capitals.testBit c = true) (hbare : decomposable.testBit c = false) :
    (1 ||| smallLetters).testBit ((c : Int) + run.shift).toNat = true := by
  have hset : (run.capitals ^^^ (run.capitals &&& decomposable)).testBit c = true := by
    rw [Nat.testBit_xor, Nat.testBit_and, hc, hbare]
    rfl
  rw [Nat.testBit_or, Bool.or_eq_true]
  rcases testBit_lowered hset with hbit | hzero
  · exact .inr (testBit_unionOf.mpr ⟨run, hrun, hbit⟩)
  · rw [hzero]
    exact .inl rfl

/-- A character that is decomposed, no mark and small. -/
structure Settled (c : Char) : Prop where
  isBare : IsBare c
  isMark : isMark c = false
  toLowerCase : toLowerCase c = c

/-- A character that is no capital is its own small letter. -/
theorem toLowerCase_of_testBit {c : Char} (h : capitals.testBit c.toNat = false) :
    toLowerCase c = c := by
  rcases lowerIn_cases c.toNat capitalRuns with hsame | ⟨run, hrun, hcapital, -⟩
  · rw [toLowerCase, hsame, Char.ofNat_toNat]
  · rw [capitals, testBit_unionOf.mpr ⟨run, hrun, hcapital⟩] at h
    cases h

/-- A bare character has no small letter, or one that is settled and no parenthesis. -/
theorem toLowerCase_cases {c : Char} (hbare : IsBare c) : toLowerCase c = c ∨
    Settled (toLowerCase c) ∧ isParenthesis (toLowerCase c) = false := by
  rcases lowerIn_cases c.toNat capitalRuns with hsame | ⟨run, hrun, hcapital, hlower⟩
  · left
    rw [toLowerCase, hsame, Char.ofNat_toNat]
  · right
    have hsmall := testBit_smallLetters hrun hcapital hbare
    have hone : (1 ||| smallLetters).testBit 0 = true := by
      rw [Nat.testBit_or]
      rfl
    have hapart : (decomposable ||| rangeSet markRanges ||| capitals ||| parentheses).testBit
        (toLowerCase c).toNat = false := by
      rw [toLowerCase, hlower]
      exact testBit_ofNat (testBit_eq_false_of_and smallLetters_apart hsmall)
        (testBit_eq_false_of_and smallLetters_apart hone)
    simp only [Nat.testBit_or, Bool.or_eq_false_iff] at hapart
    obtain ⟨⟨⟨hdecomposable, hmarks⟩, hcapitals⟩, hparentheses⟩ := hapart
    rw [testBit_parentheses] at hparentheses
    exact ⟨⟨hdecomposable, inRanges_eq_false hmarks, toLowerCase_of_testBit hcapitals⟩, hparentheses⟩

/-- **Lowering settles a decomposed character** that is no mark. -/
theorem settled_toLowerCase {c : Char} (hbare : IsBare c) (hmark : isMark c = false) :
    Settled (toLowerCase c) := by
  rcases toLowerCase_cases hbare with hsame | hsmall
  · exact ⟨by rwa [hsame], by rwa [hsame], by rw [hsame, hsame]⟩
  · exact hsmall.1

/-- Lowering makes no parentheses. -/
theorem eq_of_toLowerCase {c : Char} (hbare : IsBare c)
    (h : isParenthesis (toLowerCase c) = true) : toLowerCase c = c := by
  rcases toLowerCase_cases hbare with hsame | hsmall
  · exact hsame
  · rw [hsmall.2] at h
    cases h

end Chargen.Text
