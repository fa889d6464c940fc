import Chargen.Numeral
import Chargen.Text.Alphabetic
import Chargen.Text.Blank

/-!
# Numerals

A numeral is a run of the digits `0` to `9`, of any length and with zeros in front, that stands for
a number. Exactly the numerals of numbers below a limit are read, and a number written in decimal
digits is one of its numerals.

* `numeral?_eq_some_iff`: **exactly the numerals of numbers below the limit are read**.
* `isNumeral_toDigits`: decimal digits are a numeral of the number that they are written for.
-/

namespace Chargen

/-! ### Digits and signs -/

/-- A statement about the first 128 characters can be tested on each of them. -/
theorem of_ascii {P : Char → Prop} (h : ∀ n : Fin 128, P (Char.ofNat n)) {c : Char}
    (hc : c.toNat < 128) : P c := by
  simpa using h ⟨c.toNat, hc⟩

theorem isPlainDigit_iff {c : Char} : isPlainDigit c = true ↔ 48 ≤ c.toNat ∧ c.toNat ≤ 57 := by
  simp [isPlainDigit, Char.le_def, UInt32.le_iff_toNat_le]

theorem toNat_lt_of_isPlainDigit {c : Char} (hc : isPlainDigit c = true) : c.toNat < 128 := by
  have := isPlainDigit_iff.mp hc
  omega

theorem isBlank_of_isPlainDigit {c : Char} (hc : isPlainDigit c = true) :
    Text.isBlank c = false := by
  have hall : ∀ n : Fin 128, isPlainDigit (Char.ofNat n) = true →
      Text.isBlank (Char.ofNat n) = false := by decide
  simpa [hc] using of_ascii (P := fun c => isPlainDigit c = true → Text.isBlank c = false) hall
    (toNat_lt_of_isPlainDigit hc)

/-- The digits `0` to `9` are the decimal digits of one script. -/
theorem isDecimalDigit_of_isPlainDigit {c : Char} (hc : isPlainDigit c = true) :
    Text.isDecimalDigit c = true := by
  have hbounds := isPlainDigit_iff.mp hc
  unfold Text.isDecimalDigit
  rw [List.any_eq_true]
  refine ⟨0x0030, by decide, ?_⟩
  simp only [Bool.and_eq_true, decide_eq_true_eq]
  omega

/-- The multiplication signs. -/
theorem isTimes_iff {c : Char} : isTimes c = true ↔ c = 'x' ∨ c = 'X' ∨ c = '×' ∨ c = '*' := by
  simp [isTimes, or_assoc]

/-! ### Numerals of a number -/

/-- A numeral of a number: a run of the digits `0` to `9` that stands for it. -/
structure IsNumeral (ds : List Char) (n : Nat) : Prop where
  ne_nil : ds ≠ []
  digits : ∀ c ∈ ds, isPlainDigit c = true
  value_eq : digitsValue 0 ds = n

theorem IsNumeral.isBlank_of_mem {ds : List Char} {n : Nat} (h : IsNumeral ds n) {c : Char}
    (hc : c ∈ ds) : Text.isBlank c = false :=
  isBlank_of_isPlainDigit (h.digits c hc)

/-- **Exactly the numerals of numbers below the limit are read.** -/
theorem numeral?_eq_some_iff {limit n : Nat} {ds : List Char} :
    numeral? limit ds = some n ↔ IsNumeral ds n ∧ n < limit := by
  unfold numeral?
  constructor
  · intro h
    split at h
    · next hc =>
      cases h
      simp only [Bool.and_eq_true, Bool.not_eq_true', List.isEmpty_eq_false_iff, List.all_eq_true,
        decide_eq_true_eq] at hc
      exact ⟨⟨hc.1.1, hc.1.2, rfl⟩, hc.2⟩
    · cases h
  · rintro ⟨hds, hlt⟩
    have hdigits : ds.all isPlainDigit = true := List.all_eq_true.mpr hds.digits
    simp [hds.ne_nil, hdigits, hds.value_eq, hlt]

theorem digitsValue_toDigits (n : Nat) : digitsValue 0 (Nat.toDigits 10 n) = n :=
  Nat.ofDigitChars_ten_toDigits

theorem isPlainDigit_of_mem_toDigits {n : Nat} {c : Char} (hc : c ∈ Nat.toDigits 10 n) :
    isPlainDigit c = true := by
  have hdigit : c.isDigit = true := Nat.isDigit_of_mem_toDigits (by decide) (by decide) hc
  simp only [Char.isDigit, ge_iff_le, Bool.and_eq_true, decide_eq_true_eq] at hdigit
  simp only [isPlainDigit, Bool.and_eq_true, decide_eq_true_eq]
  exact hdigit

/-- **Decimal digits are a numeral of the number** that they are written for. -/
theorem isNumeral_toDigits (n : Nat) : IsNumeral (Nat.toDigits 10 n) n where
  ne_nil := Nat.toDigits_ne_nil
  digits _ hc := isPlainDigit_of_mem_toDigits hc
  value_eq := digitsValue_toDigits n

/-- A number below the limit is read as itself. -/
theorem numeral?_toDigits {limit n : Nat} (h : n < limit) :
    numeral? limit (Nat.toDigits 10 n) = some n :=
  numeral?_eq_some_iff.mpr ⟨isNumeral_toDigits n, h⟩

end Chargen
