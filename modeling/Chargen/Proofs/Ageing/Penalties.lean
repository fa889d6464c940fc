import Chargen.Age.Resolution
import Mathlib.Data.Int.ModEq

/-!
# Age penalties add up

The review tests a split by itself, and the penalties are resolved from it by themselves. Both come
to the same: a sum that is asked for is so small that, where the words of the split do not overflow,
its parts are read as they are; and a sum beyond the signed words is read as a negative number,
which nothing asks for.

* `Age.decadePenalties`: what the decades ask for, as a table.
* `Split.resolve_eq`: **resolving step by step gives the penalties** of the split.
* `Split.penalties_of_mismatch`: a split that does not add up counts as the even one.
* `Split.word_sub_amount`: a value that loses its penalty stays a sheet number.
* `Split.penalties_add_up`: **penalties add up**, whatever the split.
-/

namespace Chargen

namespace Age

/-- What the decades ask for: what strength, constitution and dexterity lose together, and what
appearance loses. -/
def decadePenalties (age : Nat) : Nat × Nat :=
  if age < 40 then (0, 0)
  else if age < 50 then (5, 5)
  else if age < 60 then (10, 10)
  else if age < 70 then (20, 15)
  else if age < 80 then (40, 20)
  else (80, 25)

/-- An age from forty on is in the first decade or a later one. -/
theorem decade_of_le {age : Nat} (h : 40 ≤ age) : decade age = min ((age - 30) / 10) 5 := by
  rw [decade, if_neg (by omega)]

/-- The penalties of the decades are those of the table. -/
theorem decadePenalties_eq (age : Nat) :
    decadePenalties age = (maturePenalty age, appearancePenalty age) := by
  have hdecade : ∀ n, decade age = n → (maturePenalty age, appearancePenalty age) =
      (if n = 0 then 0 else 5 <<< (n - 1), 5 * n) := by
    rintro n rfl
    rfl
  unfold decadePenalties
  split_ifs with forty fifty sixty seventy eighty
  · rw [hdecade 0 (if_pos forty)]
    rfl
  · rw [hdecade 1 (by rw [decade_of_le] <;> omega)]
    rfl
  · rw [hdecade 2 (by rw [decade_of_le] <;> omega)]
    rfl
  · rw [hdecade 3 (by rw [decade_of_le] <;> omega)]
    rfl
  · rw [hdecade 4 (by rw [decade_of_le] <;> omega)]
    rfl
  · rw [hdecade 5 (by rw [decade_of_le] <;> omega)]
    rfl

/-- The decades ask for eighty points and twenty-five at most. -/
theorem decadePenalties_le (age : Nat) :
    (decadePenalties age).1 ≤ 80 ∧ (decadePenalties age).2 ≤ 25 := by
  unfold decadePenalties
  split_ifs <;> decide

theorem isYouth_iff {age : Nat} : isYouth age = true ↔ 15 ≤ age ∧ age ≤ 19 := by
  simp [isYouth]

/-- Something is asked for from forty on. -/
theorem maturePenalty_pos_iff {age : Nat} : 0 < maturePenalty age ↔ 40 ≤ age := by
  have htable : (decadePenalties age).1 = maturePenalty age := by rw [decadePenalties_eq]
  rw [← htable, decadePenalties]
  split_ifs <;> simp only <;> omega

/-- Nothing is asked for both in youth and from forty on. -/
theorem bracket_cases (age : Nat) :
    (isYouth age = true ∧ ¬ 0 < maturePenalty age) ∨
      (isYouth age = false ∧ 0 < maturePenalty age) ∨
      (isYouth age = false ∧ ¬ 0 < maturePenalty age) := by
  rw [← Bool.not_eq_true, isYouth_iff, maturePenalty_pos_iff]
  omega

theorem isYouth_of_le {age : Nat} (h : 40 ≤ age) : isYouth age = false := by
  rw [Bool.eq_false_iff, Ne, isYouth_iff]
  omega

theorem maturePenalty_le (age : Nat) : maturePenalty age ≤ 80 := by
  have htable : (decadePenalties age).1 = maturePenalty age := by rw [decadePenalties_eq]
  rw [← htable]
  exact (decadePenalties_le age).1

end Age

namespace Split

/-! ### Words -/

/-- The words of a split do not overflow where they are added. -/
structure SumsFit (s : Split) : Prop where
  youth : s.youthFue + s.youthTam < 4294967296
  mature : s.matureFue + s.matureCon + s.matureDes < 4294967296

variable {age : Nat} {s : Split}

theorem youthSum_beq (hs : s.SumsFit) :
    (s.youthSum == (youthPenalty : Int)) = true ↔ s.youthFue + s.youthTam = youthPenalty := by
  rw [beq_iff_eq]
  exact word_natCast_eq_iff hs.youth (by decide)

theorem matureSum_beq (hs : s.SumsFit) : (s.matureSum == (Age.maturePenalty age : Int)) = true ↔
    s.matureFue + s.matureCon + s.matureDes = Age.maturePenalty age := by
  have hle := Age.maturePenalty_le age
  rw [beq_iff_eq]
  exact word_natCast_eq_iff hs.mature (by unfold maxNumber; omega)

/-! ### Two ways to resolve -/

/-- **Resolving step by step gives the penalties** of a split whose words do not overflow. -/
theorem resolve_eq (hs : s.SumsFit) (age : Nat) : s.resolve age = (s.penalties age).signed := by
  rcases Age.bracket_cases age with ⟨hyouth, hmature⟩ | ⟨hyouth, hmature⟩ | ⟨hyouth, hmature⟩
  · simp only [resolve, penalties, hyouth, hmature, if_true, if_false, resolveYouth]
    by_cases hfits : (s.youthSum == (youthPenalty : Int)) = true
    · have hsum := (youthSum_beq hs).mp hfits
      have hpart : ∀ part : Nat, part ≤ youthPenalty → word part = part :=
        fun part hpart => word_natCast (by unfold youthPenalty at hpart; unfold maxNumber; omega)
      simp only [hfits, hpart s.youthFue (by omega), hpart s.youthTam (by omega), if_true,
        Bool.not_true]
      rfl
    · simp only [hfits, if_false, Bool.false_eq_true]
      rfl
  · have hle := Age.maturePenalty_le age
    simp only [resolve, penalties, hyouth, hmature, if_true, if_false, Bool.false_eq_true,
      resolveMature]
    by_cases hfits : (s.matureSum == (Age.maturePenalty age : Int)) = true
    · -- No part is more than the sum, which is small, so each word is read as it is.
      have hsum := (matureSum_beq hs).mp hfits
      have hpart : ∀ part : Nat, part ≤ Age.maturePenalty age → word part = part :=
        fun part hpart => word_natCast (by unfold maxNumber; omega)
      simp only [hfits, hpart s.matureFue (by omega), hpart s.matureCon (by omega),
        hpart s.matureDes (by omega), if_true, Bool.not_true]
      rfl
    · have hshare : ((Age.maturePenalty age - 2 * (Age.maturePenalty age / 3) : Nat) : Int) =
          Age.maturePenalty age - 2 * (Age.maturePenalty age / 3) := by omega
      simp only [hfits, if_false, Bool.false_eq_true, Penalties.signed, hshare]
      rfl
  · simp only [resolve, penalties, hyouth, hmature, if_false, Bool.false_eq_true]
    rfl

/-! ### Splits that do not add up -/

/-- The penalties are divided evenly exactly if the split is reported. -/
theorem evenSplit_penalties (age : Nat) (s : Split) :
    (s.penalties age).evenSplit = (s.mismatch? age).isSome := by
  rcases Age.bracket_cases age with ⟨hyouth, hmature⟩ | ⟨hyouth, hmature⟩ | ⟨hyouth, hmature⟩
  · by_cases hfits : s.youthSum = youthPenalty <;>
      simp [penalties, mismatch?, hyouth, hmature, hfits]
  · by_cases hfits : s.matureSum = Age.maturePenalty age <;>
      simp [penalties, mismatch?, hyouth, hmature, hfits]
  · simp [penalties, mismatch?, hyouth, hmature]

theorem sumsFit_even (age : Nat) : (even age).SumsFit := by
  have hle := Age.maturePenalty_le age
  constructor
  · simp only [even]
    split <;> decide
  · simp only [even]
    omega

theorem youthSum_even (h : Age.isYouth age = true) : (even age).youthSum = youthPenalty := by
  simp only [youthSum, even, h, if_true]
  decide

theorem matureSum_even (age : Nat) : (even age).matureSum = Age.maturePenalty age := by
  have hsum : (even age).matureFue + (even age).matureCon + (even age).matureDes =
      Age.maturePenalty age := by
    simp only [even]
    omega
  exact beq_iff_eq.mp ((matureSum_beq (sumsFit_even age)).mpr hsum)

/-- The even split adds up. -/
theorem mismatch?_even (age : Nat) : (even age).mismatch? age = Option.none := by
  by_cases hyouth : Age.isYouth age = true
  · simp [mismatch?, youthSum_even hyouth, matureSum_even]
  · simp [mismatch?, hyouth, matureSum_even]

/-- A split that does not add up counts as the even one, and says so. -/
theorem penalties_of_mismatch (h : (s.mismatch? age).isSome = true) :
    s.penalties age = { (even age).penalties age with evenSplit := true } := by
  rw [← evenSplit_penalties] at h
  rcases Age.bracket_cases age with ⟨hyouth, -⟩ | ⟨hyouth, hmature⟩ | ⟨hyouth, hmature⟩
  · have hfits : (s.youthSum == (youthPenalty : Int)) = false := by
      simpa [penalties, hyouth] using h
    have hfue : (even age).youthFue = youthPenalty / 2 := by simp [even, hyouth]
    have htam : (even age).youthTam = youthPenalty - youthPenalty / 2 := by simp [even, hyouth]
    simp [penalties, hyouth, hfits, youthSum_even hyouth, hfue, htam]
  · have hfits : (s.matureSum == (Age.maturePenalty age : Int)) = false := by
      simpa [penalties, hyouth, hmature] using h
    have hfue : (even age).matureFue = Age.maturePenalty age / 3 := rfl
    have hcon : (even age).matureCon = Age.maturePenalty age / 3 := rfl
    have hdes : (even age).matureDes =
        Age.maturePenalty age - 2 * (Age.maturePenalty age / 3) := rfl
    simp [penalties, hyouth, hmature, hfits, matureSum_even, hfue, hcon, hdes]
  · simp [penalties, hyouth, hmature] at h

/-! ### Sums -/

/-- In youth strength and size lose what is asked for together. -/
theorem penalties_of_isYouth (hs : s.SumsFit) (h : Age.isYouth age = true) :
    (s.penalties age).fue + (s.penalties age).tam = youthPenalty := by
  by_cases hfits : (s.youthSum == (youthPenalty : Int)) = true
  · simp only [penalties, h, hfits, if_true]
    exact (youthSum_beq hs).mp hfits
  · simp only [penalties, h, hfits, if_true, if_false, Bool.false_eq_true]
    rfl

/-- From forty on strength, constitution and dexterity lose what is asked for together. -/
theorem penalties_of_mature (hs : s.SumsFit) (h : 40 ≤ age) :
    (s.penalties age).fue + (s.penalties age).con + (s.penalties age).des =
      Age.maturePenalty age := by
  have hyouth := Age.isYouth_of_le h
  have hmature := Age.maturePenalty_pos_iff.mpr h
  by_cases hfits : (s.matureSum == (Age.maturePenalty age : Int)) = true
  · simp only [penalties, hyouth, hmature, hfits, if_true, if_false, Bool.false_eq_true]
    exact (matureSum_beq hs).mp hfits
  · simp only [penalties, hyouth, hmature, hfits, if_true, if_false, Bool.false_eq_true]
    omega

end Split

/-- Penalties add up to what an age asks for: they take nothing but that, and nothing negative. -/
structure SignedPenalties.AddUp (age : Nat) (p : SignedPenalties) : Prop where
  nonneg : 0 ≤ p.fue ∧ 0 ≤ p.con ∧ 0 ≤ p.tam ∧ 0 ≤ p.des ∧ 0 ≤ p.apa ∧ 0 ≤ p.edu
  youth : 15 ≤ age → age ≤ 19 →
    p.fue + p.tam = 5 ∧ p.edu = 5 ∧ p.con = 0 ∧ p.des = 0 ∧ p.apa = 0 ∧ p.luckRolls = 2
  mature : 40 ≤ age →
    p.fue + p.con + p.des = (Age.decadePenalties age).1 ∧ p.apa = (Age.decadePenalties age).2 ∧
      p.tam = 0 ∧ p.edu = 0
  other : age < 15 ∨ 19 < age ∧ age < 40 →
    p.fue = 0 ∧ p.con = 0 ∧ p.tam = 0 ∧ p.des = 0 ∧ p.apa = 0 ∧ p.edu = 0

namespace Split

/-- The penalties of a split whose words do not overflow add up. -/
theorem addUp_penalties {s : Split} (hs : s.SumsFit) (age : Nat) :
    (s.penalties age).signed.AddUp age where
  nonneg := by simp [Penalties.signed]
  youth hmin hmax := by
    have hyouth := Age.isYouth_iff.mpr ⟨hmin, hmax⟩
    have hsum : ((s.penalties age).fue : Int) + (s.penalties age).tam = 5 := by
      exact_mod_cast penalties_of_isYouth hs hyouth
    have hrest : (s.penalties age).edu = 5 ∧ (s.penalties age).con = 0 ∧
        (s.penalties age).des = 0 ∧ (s.penalties age).apa = 0 ∧
        (s.penalties age).luckRolls = 2 := by
      simp only [penalties, hyouth, if_true, and_true]
      rfl
    obtain ⟨hedu, hcon, hdes, hapa, hluck⟩ := hrest
    exact ⟨hsum, congrArg Nat.cast hedu, congrArg Nat.cast hcon, congrArg Nat.cast hdes,
      congrArg Nat.cast hapa, hluck⟩
  mature h := by
    have hyouth := Age.isYouth_of_le h
    have hmature := Age.maturePenalty_pos_iff.mpr h
    rw [Age.decadePenalties_eq]
    have hsum : ((s.penalties age).fue : Int) + (s.penalties age).con + (s.penalties age).des =
        Age.maturePenalty age := by
      exact_mod_cast penalties_of_mature hs h
    have hrest : (s.penalties age).apa = Age.appearancePenalty age ∧ (s.penalties age).tam = 0 ∧
        (s.penalties age).edu = 0 := by
      simp only [penalties, hyouth, hmature, if_true, if_false, Bool.false_eq_true, and_true]
    obtain ⟨hapa, htam, hedu⟩ := hrest
    exact ⟨hsum, congrArg Nat.cast hapa, congrArg Nat.cast htam, congrArg Nat.cast hedu⟩
  other h := by
    have hyouth : Age.isYouth age = false := by
      rw [Bool.eq_false_iff, Ne, Age.isYouth_iff]
      omega
    have hmature : ¬ 0 < Age.maturePenalty age := by
      rw [Age.maturePenalty_pos_iff]
      omega
    simp [Penalties.signed, penalties, hyouth, hmature]

/-- No characteristic loses more than eighty. -/
theorem amount_le {s : Split} (hs : s.SumsFit) (age : Nat) (c : Characteristic) :
    (s.penalties age).amount c ≤ 80 := by
  have hadd := addUp_penalties hs age
  have hyouth := hadd.youth
  have hmature := hadd.mature
  have hother := hadd.other
  obtain ⟨hsum, happearance⟩ := Age.decadePenalties_le age
  simp only [Penalties.signed] at hyouth hmature hother
  cases c with
  | int | pod | suerte => exact Nat.zero_le _
  | _ => simp only [Penalties.amount]; omega

/-- A value that loses its penalty stays a sheet number, unless it is among the least ones. -/
theorem word_sub_amount {s : Split} (hs : s.SumsFit) (age : Nat) (c : Characteristic) {value : Int}
    (hlo : minNumber + 80 ≤ value) (hhi : value ≤ maxNumber) :
    word (value - (s.penalties age).amount c) = value - (s.penalties age).amount c := by
  have hle := amount_le hs age c
  exact word_of_mem (by omega) (by omega)

/-- **Penalties add up**, whatever the split, as long as its words do not overflow where they are
added. They are divided evenly exactly if the review reports the split; the even split is never
reported, and one that is reported counts as the even one. What a value loses does not overflow. -/
theorem penalties_add_up (age : Nat) (s : Split) (hs : s.SumsFit) :
    s.resolve age = (s.penalties age).signed ∧
    (s.resolve age).AddUp age ∧
    ((s.resolve age).evenSplit = true ↔ (s.mismatch? age).isSome = true) ∧
    (even age).SumsFit ∧ (even age).mismatch? age = Option.none ∧
    ((s.mismatch? age).isSome = true →
      s.resolve age = { (even age).resolve age with evenSplit := true }) ∧
    ∀ c value, minNumber + 80 ≤ value → value ≤ maxNumber →
      word (value - (s.penalties age).amount c) = value - (s.penalties age).amount c := by
  rw [resolve_eq hs, resolve_eq (sumsFit_even age)]
  refine ⟨rfl, addUp_penalties hs age, ?_, sumsFit_even age, mismatch?_even age, fun h => ?_,
    fun c _ => word_sub_amount hs age c⟩
  · rw [← evenSplit_penalties]
    rfl
  · rw [penalties_of_mismatch h]
    rfl

/-- A split whose sum from forty on is read as a negative number, with its words for youth set. -/
def wrapped : Split := ⟨4, 1, 4294967290, 3, 2⟩

/-- A sum that is read as minus one does not count at forty-five; the words for youth do not matter
there, and add up at seventeen. -/
theorem penalties_add_up_wrapped :
    (wrapped.mismatch? 45 = some ⟨false, 5, -1⟩ ∧
      wrapped.resolve 45 = { (even 45).resolve 45 with evenSplit := true }) ∧
    (wrapped.resolve 17).evenSplit = false ∧ (wrapped.resolve 17).fue = 4 ∧
      (wrapped.resolve 17).AddUp 17 := by
  have hfit : wrapped.SumsFit := ⟨by decide, by decide⟩
  have mature := penalties_add_up 45 wrapped hfit
  have youth := penalties_add_up 17 wrapped hfit
  refine ⟨⟨by decide, mature.2.2.2.2.2.1 (by decide)⟩, ?_, by decide, youth.2.1⟩
  rw [Bool.eq_false_iff, Ne, youth.2.2.1]
  decide

end Split

end Chargen
