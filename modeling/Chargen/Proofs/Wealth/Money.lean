import Chargen.Proofs.Numeral
import Chargen.Wealth.Money

/-!
# Commas in amounts of money

A whole amount is to have a comma at every place between two digits that has a multiple of three
digits behind it, and nowhere else. What is written for an amount counts all characters and not the
digits, so a minus sign is taken for one more digit: a negative amount gets a comma behind its sign
if the number of its digits is a multiple of three. All other whole amounts are written as they are
to be.

* `Grouped`: a text with its commas where they belong.
* `grouped_of_digits`: digits get their commas where they belong.
* `text_of_holds`: a whole amount is written with the commas of its numeral.
* `grouped_iff`: **a whole amount is written rightly exactly if it is not negative with a multiple of
  three digits**; if it is, there is a comma between its sign and its digits.
* `not_grouped_hundred`: a hundred dollars of debt.
-/

namespace Chargen

/-- A floating-point number is exactly a whole number. -/
def Binary.Holds (b : Binary) (n : Int) : Prop :=
  ∃ negative mantissa exponent size, b = .finite negative mantissa exponent ∧
    (fraction mantissa exponent).1 = size * (fraction mantissa exponent).2 ∧
    n = if negative then -(size : Int) else size

theorem Binary.fraction_pos (mantissa : Nat) (exponent : Int) :
    0 < (fraction mantissa exponent).2 := by
  cases exponent with
  | ofNat e => exact Nat.one_pos
  | negSucc e =>
    rw [fraction, Nat.one_shiftLeft]
    exact Nat.two_pow_pos _

namespace Money

/-- The number of digits in a text. -/
def digitCount (cs : List Char) : Nat :=
  cs.countP isPlainDigit

/-- A text begins with a digit. -/
def BeginsWithDigit (cs : List Char) : Prop :=
  ∃ c ∈ cs.head?, isPlainDigit c = true

/-- A text ends with a digit. -/
def EndsWithDigit (cs : List Char) : Prop :=
  ∃ c ∈ cs.getLast?, isPlainDigit c = true

/-- **A text with its commas where they belong**: between two digits, with a multiple of three digits
behind, and nowhere else. -/
structure Grouped (plain written : List Char) : Prop where
  /-- Without its commas it is the plain text. -/
  without_commas : written.filter (· != ',') = plain
  /-- Every comma stands between two digits and has a positive multiple of three digits behind it. -/
  comma : ∀ front back, written = front ++ ',' :: back →
    EndsWithDigit front ∧ BeginsWithDigit back ∧ 0 < digitCount back ∧ 3 ∣ digitCount back
  /-- No comma is left out between two digits. -/
  complete : ∀ front back, written = front ++ back → EndsWithDigit front → BeginsWithDigit back →
    ¬ 3 ∣ digitCount back

/-! ### Placing commas -/

theorem not_isPlainDigit_comma : isPlainDigit ',' = false := by decide

theorem digitCount_cons_comma (cs : List Char) : digitCount (',' :: cs) = digitCount cs :=
  List.countP_cons_of_neg (by simp [not_isPlainDigit_comma])

theorem digitCount_cons_digit {c : Char} (hc : isPlainDigit c = true) (cs : List Char) :
    digitCount (c :: cs) = digitCount cs + 1 :=
  List.countP_cons_of_pos hc

theorem endsWithDigit_singleton {c : Char} : EndsWithDigit [c] ↔ isPlainDigit c = true := by
  simp [EndsWithDigit]

theorem endsWithDigit_cons {c d : Char} {cs : List Char} :
    EndsWithDigit (c :: d :: cs) ↔ EndsWithDigit (d :: cs) := by
  rw [EndsWithDigit, EndsWithDigit, List.getLast?_cons_cons]

theorem beginsWithDigit_cons {c : Char} {cs : List Char} :
    BeginsWithDigit (c :: cs) ↔ isPlainDigit c = true := by
  simp [BeginsWithDigit]

theorem EndsWithDigit.ne_nil {cs : List Char} (h : EndsWithDigit cs) : cs ≠ [] := by
  rintro rfl
  obtain ⟨c, hc, -⟩ := h
  cases hc

theorem EndsWithDigit.cons {cs : List Char} (h : EndsWithDigit cs) (c : Char) :
    EndsWithDigit (c :: cs) := by
  obtain ⟨d, rest, rfl⟩ := List.exists_cons_of_ne_nil h.ne_nil
  exact endsWithDigit_cons.mpr h

namespace Grouped

theorem nil : Grouped [] [] where
  without_commas := rfl
  comma front back heq := by simp at heq
  complete front back heq hends := by
    obtain ⟨rfl, -⟩ := List.append_eq_nil_iff.mp heq.symm
    exact absurd rfl hends.ne_nil

/-- A character goes in front of a text without a comma if no comma belongs there. -/
theorem cons {plain written : List Char} (h : Grouped plain written) {c : Char} (hc : c ≠ ',')
    (hplace : isPlainDigit c = true → BeginsWithDigit written → ¬ 3 ∣ digitCount written) :
    Grouped (c :: plain) (c :: written) where
  without_commas := by
    rw [List.filter_cons_of_pos (by simpa using hc), h.without_commas]
  comma front back heq := by
    cases front with
    | nil => exact absurd (List.cons.inj heq).1 hc
    | cons d front =>
      obtain ⟨hends, hrest⟩ := h.comma front back (List.cons.inj heq).2
      exact ⟨hends.cons d, hrest⟩
  complete front back heq hends hbegins := by
    obtain ⟨d, front, rfl⟩ := List.exists_cons_of_ne_nil hends.ne_nil
    obtain ⟨rfl, hwritten⟩ := List.cons.inj heq
    cases front with
    | nil =>
      rw [hwritten] at hplace
      exact hplace (endsWithDigit_singleton.mp hends) hbegins
    | cons e front => exact h.complete _ back hwritten (endsWithDigit_cons.mp hends) hbegins

/-- A digit goes in front of a text with a comma if one belongs there. -/
theorem cons_comma {plain written : List Char} (h : Grouped plain written) {c : Char}
    (hc : isPlainDigit c = true) (hbegins : BeginsWithDigit written) (hpos : 0 < digitCount written)
    (hplace : 3 ∣ digitCount written) : Grouped (c :: plain) (c :: ',' :: written) where
  without_commas := by
    have hne : c ≠ ',' := by
      rintro rfl
      cases hc
    rw [List.filter_cons_of_pos (by simpa using hne), List.filter_cons_of_neg (by simp),
      h.without_commas]
  comma front back heq := by
    cases front with
    | nil =>
      rw [(List.cons.inj heq).1] at hc
      cases hc
    | cons d front =>
      rw [List.cons_append, List.cons.injEq] at heq
      obtain ⟨rfl, heq⟩ := heq
      cases front with
      | nil =>
        rw [List.nil_append, List.cons.injEq] at heq
        obtain ⟨-, rfl⟩ := heq
        exact ⟨endsWithDigit_singleton.mpr hc, hbegins, hpos, hplace⟩
      | cons e front =>
        rw [List.cons_append, List.cons.injEq] at heq
        obtain ⟨hends, hrest⟩ := h.comma front back heq.2
        exact ⟨(hends.cons e).cons c, hrest⟩
  complete front back heq hends hback := by
    obtain ⟨d, front, rfl⟩ := List.exists_cons_of_ne_nil hends.ne_nil
    rw [List.cons_append, List.cons.injEq] at heq
    obtain ⟨-, heq⟩ := heq
    cases front with
    | nil =>
      rw [← heq.trans (List.nil_append back)] at hback
      cases beginsWithDigit_cons.mp hback
    | cons e front =>
      rw [List.cons_append, List.cons.injEq] at heq
      obtain ⟨rfl, hwritten⟩ := heq
      cases front with
      | nil => cases endsWithDigit_singleton.mp (endsWithDigit_cons.mp hends)
      | cons f front =>
        exact h.complete _ back hwritten (endsWithDigit_cons.mp (endsWithDigit_cons.mp hends)) hback

end Grouped

/-! ### Digits -/

theorem grouped_cons {c : Char} {rest : List Char} (h : rest ≠ []) : grouped (c :: rest) =
    if rest.length % 3 = 0 then c :: ',' :: grouped rest else c :: grouped rest := by
  obtain ⟨d, rest, rfl⟩ := List.exists_cons_of_ne_nil h
  rfl

/-- The first digit stays the first character. -/
theorem beginsWithDigit_grouped {ds : List Char} (hne : ds ≠ [])
    (hds : ∀ c ∈ ds, isPlainDigit c = true) : BeginsWithDigit (grouped ds) := by
  obtain ⟨c, rest, rfl⟩ := List.exists_cons_of_ne_nil hne
  have hc : isPlainDigit c = true := hds c List.mem_cons_self
  by_cases hrest : rest = []
  · rw [hrest]
    exact beginsWithDigit_cons.mpr hc
  · rw [grouped_cons hrest]
    split <;> exact beginsWithDigit_cons.mpr hc

/-- Commas are no digits. -/
theorem digitCount_grouped {ds : List Char} (hds : ∀ c ∈ ds, isPlainDigit c = true) :
    digitCount (grouped ds) = ds.length := by
  induction ds with
  | nil => rfl
  | cons c rest ih =>
    obtain ⟨hc, hdigits⟩ := List.forall_mem_cons.mp hds
    by_cases hrest : rest = []
    · rw [hrest]
      exact digitCount_cons_digit hc []
    · rw [grouped_cons hrest]
      split
      · rw [digitCount_cons_digit hc, digitCount_cons_comma, ih hdigits, List.length_cons]
      · rw [digitCount_cons_digit hc, ih hdigits, List.length_cons]

/-- **Digits get their commas where they belong.** -/
theorem grouped_of_digits {ds : List Char} (hds : ∀ c ∈ ds, isPlainDigit c = true) :
    Grouped ds (grouped ds) := by
  induction ds with
  | nil => exact .nil
  | cons c rest ih =>
    obtain ⟨hc, hdigits⟩ := List.forall_mem_cons.mp hds
    have hgrouped : Grouped rest (grouped rest) := ih hdigits
    have hcount : digitCount (grouped rest) = rest.length := digitCount_grouped hdigits
    have hne : c ≠ ',' := by
      rintro rfl
      cases hc
    by_cases hrest : rest = []
    · subst hrest
      refine hgrouped.cons hne ?_
      rintro - ⟨d, hd, -⟩
      cases hd
    · have hbegins := beginsWithDigit_grouped hrest hdigits
      have hpos : 0 < rest.length := List.length_pos_iff.mpr hrest
      rw [grouped_cons hrest]
      split
      · next hplace =>
        refine hgrouped.cons_comma hc hbegins ?_ ?_ <;> omega
      · next hplace =>
        refine hgrouped.cons hne fun _ _ => ?_
        omega

/-! ### Whole amounts -/

theorem toList_toString (n : Int) : (toString n).toList =
    if n < 0 then '-' :: Nat.toDigits 10 n.natAbs else Nat.toDigits 10 n.natAbs := by
  cases n with
  | ofNat m => simp [toString, Int.repr]
  | negSucc m => simp [toString, Int.repr]

theorem toList_wholeText (n : Int) :
    (wholeText n).toList = '$' :: grouped (toString n).toList := by
  simp [wholeText]

/-- **A whole amount is written with the commas of its numeral**, as long as the word holds it. -/
theorem text_of_holds {amount : Float} {n : Int} (h : (Binary.ofFloat amount).Holds n)
    (hlo : minAmount ≤ n) (hhi : n ≤ maxAmount) : text amount = wholeText n := by
  obtain ⟨negative, mantissa, exponent, size, hb, hsize, hn⟩ := h
  have hpos := Binary.fraction_pos mantissa exponent
  have hwhole : hasFraction (Binary.fraction mantissa exponent).1
      (Binary.fraction mantissa exponent).2 = false := by
    rw [hasFraction, hsize, Nat.mul_mod_left, Nat.zero_shiftLeft]
    exact decide_eq_false (Nat.not_lt_zero _)
  have hquotient : (Binary.fraction mantissa exponent).1 /
      (Binary.fraction mantissa exponent).2 = size := by
    rw [hsize, Nat.mul_div_cancel _ hpos]
  have hclip : clipAmount n = n := by
    unfold clipAmount
    rw [if_neg (by omega), if_neg (by omega)]
  rw [text, hb, textOf]
  simp only [hwhole, Bool.false_eq_true, if_false, ← Int.natCast_ediv, hquotient, ← hn, hclip]

/-- The sign counts as a digit when commas are placed. -/
theorem grouped_sign {ds : List Char} (hne : ds ≠ []) : grouped ('-' :: ds) =
    if 3 ∣ ds.length then '-' :: ',' :: grouped ds else '-' :: grouped ds := by
  rw [grouped_cons hne]
  by_cases hthree : 3 ∣ ds.length
  · rw [if_pos (Nat.mod_eq_zero_of_dvd hthree), if_pos hthree]
  · rw [if_neg fun hmod => hthree (Nat.dvd_of_mod_eq_zero hmod), if_neg hthree]

/-- **A whole amount is written rightly exactly if it is not negative with a multiple of three
digits.** If it is, a comma stands between its sign and its digits, which have theirs where they
belong. -/
theorem grouped_iff {amount : Float} {n : Int} (h : (Binary.ofFloat amount).Holds n)
    (hlo : minAmount ≤ n) (hhi : n ≤ maxAmount) :
    ((∃ written, (text amount).toList = '$' :: written ∧ Grouped (toString n).toList written) ↔
        ¬ (n < 0 ∧ 3 ∣ (Nat.toDigits 10 n.natAbs).length)) ∧
      (n < 0 → 3 ∣ (Nat.toDigits 10 n.natAbs).length → ∃ written,
        (text amount).toList = '$' :: '-' :: ',' :: written ∧
          Grouped (Nat.toDigits 10 n.natAbs) written) := by
  have hdigits : ∀ c ∈ Nat.toDigits 10 n.natAbs, isPlainDigit c = true :=
    fun c hc => isPlainDigit_of_mem_toDigits hc
  have hne : Nat.toDigits 10 n.natAbs ≠ [] := Nat.toDigits_ne_nil
  have hgrouped := grouped_of_digits hdigits
  rw [text_of_holds h hlo hhi, toList_wholeText, toList_toString]
  by_cases hneg : n < 0
  · rw [if_pos hneg, grouped_sign hne]
    by_cases hthree : 3 ∣ (Nat.toDigits 10 n.natAbs).length
    · rw [if_pos hthree]
      refine ⟨⟨?_, fun hnot => absurd ⟨hneg, hthree⟩ hnot⟩, fun _ _ => ⟨_, rfl, hgrouped⟩⟩
      rintro ⟨written, heq, hwritten⟩
      have hends := (hwritten.comma ['-'] _ (List.cons.inj heq).2.symm).1
      cases endsWithDigit_singleton.mp hends
    · rw [if_neg hthree]
      refine ⟨⟨fun _ hboth => hthree hboth.2, fun _ => ⟨_, rfl, ?_⟩⟩,
        fun _ hboth => absurd hboth hthree⟩
      refine hgrouped.cons (by decide) ?_
      rintro ⟨⟩
  · rw [if_neg hneg]
    exact ⟨⟨fun _ hboth => hneg hboth.1, fun _ => ⟨_, rfl, hgrouped⟩⟩,
      fun hlt => absurd hlt hneg⟩

/-- A debt of seven digits is written rightly. -/
theorem grouped_iff_million : (Binary.ofFloat (-1234567)).Holds (-1234567) ∧
    text (-1234567) = "$-1,234,567" ∧ ∃ written, (text (-1234567)).toList = '$' :: written ∧
      Grouped (toString (-1234567 : Int)).toList written := by
  have hholds : (Binary.ofFloat (-1234567)).Holds (-1234567) :=
    ⟨true, 5302424889720832, -32, 1234567, by decide +kernel, by decide +kernel, by decide⟩
  refine ⟨hholds, by decide +kernel, ?_⟩
  exact (grouped_iff hholds (by decide) (by decide)).1.mpr (by decide +kernel)

/-- **A hundred dollars of debt get a comma behind the sign**, where none belongs. -/
theorem not_grouped_hundred : (Binary.ofFloat (-100)).Holds (-100) ∧ text (-100) = "$-,100" ∧
    ¬ ∃ written, (text (-100)).toList = '$' :: written ∧
      Grouped (toString (-100 : Int)).toList written := by
  have htext : text (-100) = "$-,100" := by decide +kernel
  refine ⟨⟨true, 7036874417766400, -46, 100, by decide +kernel, by decide +kernel, by decide⟩,
    htext, ?_⟩
  rintro ⟨written, heq, hwritten⟩
  rw [htext] at heq
  have hends := (hwritten.comma ['-'] ['1', '0', '0'] (List.cons.inj heq).2.symm).1
  cases endsWithDigit_singleton.mp hends

end Money

end Chargen
