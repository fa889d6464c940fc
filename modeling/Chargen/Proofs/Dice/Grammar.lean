import Chargen.Dice.Reader
import Chargen.Proofs.Numeral

/-!
# The grammar of dice texts

A dice text without blanks is `NdS` or `(NdS+K)`, and then perhaps a multiplication sign and a
numeral. The reader first takes a text apart by the digits of any script and reads the numerals
afterwards; what it accepts in the end are the texts of this grammar whose numbers are within the
limits of dice.

* `takePair_append`, `eq_of_takePair`: the number of dice and of sides, written and taken apart.
* `readMultiplier_iff`: the multipliers that are read.
* `denotes_of_readShape`, `exists_readShape_of_denotes`: the texts that are taken apart into
  numerals of dice are those of the grammar.
* `parse_eq_ok_iff`: which dice a text names.
* `parse_accepts`: **exactly the texts of the grammar are accepted**, and every other text is refused
  with a fault that holds it.
-/

namespace Chargen

/-- The text that a fault holds. -/
def DiceFault.text : DiceFault → String
  | .unsupported text => text
  | .unreadableNumber text => text
  | .notPositive text => text
  | .tooLarge text => text

namespace Dice

/-! ### The grammar -/

/-- Dice as they are thrown: `NdS`, or `(NdS+K)`. -/
inductive Thrown : List Char → Nat → Nat → Nat → Prop
  /-- dice without a modifier -/
  | plain {count sides : List Char} {letter : Char} {n s : Nat} (hcount : IsNumeral count n)
      (hletter : letter = 'd' ∨ letter = 'D') (hsides : IsNumeral sides s) :
      Thrown (count ++ letter :: sides) n s 0
  /-- dice with a modifier -/
  | modified {count sides modifier : List Char} {letter : Char} {n s k : Nat}
      (hcount : IsNumeral count n) (hletter : letter = 'd' ∨ letter = 'D')
      (hsides : IsNumeral sides s) (hmodifier : IsNumeral modifier k) :
      Thrown ('(' :: (count ++ letter :: (sides ++ '+' :: (modifier ++ [')'])))) n s k

/-- What dice are multiplied by: nothing, or a multiplication sign and a numeral. -/
inductive Multiplied : List Char → Nat → Prop
  /-- no multiplier -/
  | absent : Multiplied [] 1
  /-- a multiplier -/
  | times {multiplier : List Char} {sign : Char} {m : Nat}
      (hsign : sign = 'x' ∨ sign = 'X' ∨ sign = '×' ∨ sign = '*')
      (hmultiplier : IsNumeral multiplier m) : Multiplied (sign :: multiplier) m

/-- **A text without blanks that names dice.** -/
def Denotes (cs : List Char) (d : Dice) : Prop :=
  ∃ thrown multiplied, cs = thrown ++ multiplied ∧
    Thrown thrown d.count d.sides d.modifier ∧ Multiplied multiplied d.multiplier

/-! ### Numerals and signs -/

/-- A text does not go on with a digit. -/
def Ends (rest : List Char) : Prop :=
  ∀ c ∈ rest.head?, Text.isDecimalDigit c = false

theorem ends_cons {c : Char} (hc : Text.isDecimalDigit c = false) (rest : List Char) :
    Ends (c :: rest) := by
  intro d hd
  rw [← Option.some.inj hd]
  exact hc

theorem isDecimalDigit_letter {letter : Char} (h : letter = 'd' ∨ letter = 'D') :
    Text.isDecimalDigit letter = false := by
  rcases h with rfl | rfl <;> decide

theorem Multiplied.ends {cs : List Char} {m : Nat} (h : Multiplied cs m) : Ends cs := by
  cases h with
  | absent => simp [Ends]
  | times hsign hmultiplier =>
    apply ends_cons
    rcases hsign with rfl | rfl | rfl | rfl <;> decide

/-- A numeral is taken whole if no digit follows. -/
theorem takeNumeral_append {ds rest : List Char} {n : Nat} (hds : IsNumeral ds n)
    (hrest : Ends rest) : takeNumeral (ds ++ rest) = some (ds, rest) := by
  have hdigits : ∀ c ∈ ds, Text.isDecimalDigit c = true :=
    fun c hc => isDecimalDigit_of_isPlainDigit (hds.digits c hc)
  have hend : rest.takeWhile Text.isDecimalDigit = [] ∧
      rest.dropWhile Text.isDecimalDigit = rest := by
    cases rest with
    | nil => exact ⟨rfl, rfl⟩
    | cons c rest =>
      have hc : Text.isDecimalDigit c = false := hrest c rfl
      exact ⟨List.takeWhile_cons_of_neg (by simp [hc]), List.dropWhile_cons_of_neg (by simp [hc])⟩
  have htake : (ds ++ rest).takeWhile Text.isDecimalDigit = ds := by
    rw [List.takeWhile_append_of_pos hdigits, hend.1, List.append_nil]
  have hdrop : (ds ++ rest).dropWhile Text.isDecimalDigit = rest := by
    rw [List.dropWhile_append_of_pos hdigits, hend.2]
  obtain ⟨d, others, rfl⟩ := List.exists_cons_of_ne_nil hds.ne_nil
  rw [takeNumeral, htake, hdrop]

theorem eq_of_takeNumeral {cs ds rest : List Char} (h : takeNumeral cs = some (ds, rest)) :
    cs = ds ++ rest := by
  unfold takeNumeral at h
  split at h
  · cases h
  · cases h
    exact List.takeWhile_append_dropWhile.symm

theorem takeLetter_eq_some_iff {cs rest : List Char} :
    takeLetter cs = some rest ↔ ∃ letter, (letter = 'd' ∨ letter = 'D') ∧ cs = letter :: rest := by
  constructor
  · intro h
    unfold takeLetter at h
    split at h
    · cases h
      exact ⟨'d', .inl rfl, rfl⟩
    · cases h
      exact ⟨'D', .inr rfl, rfl⟩
    · cases h
  · rintro ⟨letter, rfl | rfl, rfl⟩ <;> rfl

/-- The number of dice and of sides are taken whole if no digit follows. -/
theorem takePair_append {count sides rest : List Char} {letter : Char} {n s : Nat}
    (hcount : IsNumeral count n) (hletter : letter = 'd' ∨ letter = 'D')
    (hsides : IsNumeral sides s) (hrest : Ends rest) :
    takePair (count ++ letter :: (sides ++ rest)) = some (count, sides, rest) := by
  have hafter : Ends (letter :: (sides ++ rest)) := ends_cons (isDecimalDigit_letter hletter) _
  have htake : takeLetter (letter :: (sides ++ rest)) = some (sides ++ rest) :=
    takeLetter_eq_some_iff.mpr ⟨letter, hletter, rfl⟩
  simp [takePair, takeNumeral_append hcount hafter, htake, takeNumeral_append hsides hrest]

theorem eq_of_takePair {cs count sides rest : List Char}
    (h : takePair cs = some (count, sides, rest)) :
    ∃ letter, (letter = 'd' ∨ letter = 'D') ∧ cs = count ++ letter :: (sides ++ rest) := by
  simp only [takePair, Option.bind_eq_bind, Option.bind_eq_some_iff] at h
  obtain ⟨⟨count', afterCount⟩, hcount, afterLetter, hletter, ⟨sides', rest'⟩, hsides, hpair⟩ := h
  cases hpair
  obtain ⟨letter, hd, rfl⟩ := takeLetter_eq_some_iff.mp hletter
  refine ⟨letter, hd, ?_⟩
  rw [eq_of_takeNumeral hcount, eq_of_takeNumeral hsides]

/-! ### Multipliers -/

/-- **The multipliers that are read**: none, which is a one, or a numeral of a number that fits. -/
theorem readMultiplier_iff {cs : List Char} {m : Nat} :
    (∃ multiplier, readMultiplier cs = some multiplier ∧
      numeral? numeralLimit (multiplier.getD ['1']) = some m) ↔
      Multiplied cs m ∧ m < numeralLimit := by
  constructor
  · rintro ⟨multiplier, hread, hm⟩
    obtain ⟨hnumeral, hlt⟩ := numeral?_eq_some_iff.mp hm
    refine ⟨?_, hlt⟩
    cases cs with
    | nil =>
      cases hread
      have hone : m = 1 := hnumeral.value_eq.symm
      rw [hone]
      exact .absent
    | cons sign rest =>
      rw [readMultiplier] at hread
      split at hread
      · next hsign =>
        split at hread
        · next ds htake =>
          cases hread
          rw [eq_of_takeNumeral htake, List.append_nil]
          exact .times (isTimes_iff.mp hsign) hnumeral
        · cases hread
      · cases hread
  · rintro ⟨h, hlt⟩
    cases h with
    | absent => exact ⟨none, rfl, by decide⟩
    | @times ds sign m hsign hds =>
      refine ⟨some ds, ?_, numeral?_eq_some_iff.mpr ⟨hds, hlt⟩⟩
      have hend : Ends [] := by simp [Ends]
      have htake := takeNumeral_append hds hend
      rw [List.append_nil] at htake
      rw [readMultiplier, if_pos (isTimes_iff.mpr hsign), htake]

/-! ### Whole texts -/

/-- The numbers of dice fit the numerals of a dice text. -/
structure Fits (d : Dice) : Prop where
  count_lt : d.count < numeralLimit
  sides_lt : d.sides < numeralLimit
  modifier_lt : d.modifier < numeralLimit
  multiplier_lt : d.multiplier < numeralLimit

theorem Legal.fits {d : Dice} (h : d.Legal) : d.Fits := by
  obtain ⟨-, hcount, -, hsides, hmodifier, -, hmultiplier⟩ := h
  unfold maxCount at hcount
  unfold maxSides at hsides
  unfold maxModifier at hmodifier
  unfold maxMultiplier at hmultiplier
  constructor <;> unfold numeralLimit <;> omega

theorem Shape.dice?_eq_some_iff {s : Shape} {d : Dice} : s.dice? = some d ↔
    numeral? numeralLimit s.count = some d.count ∧
      numeral? numeralLimit s.sides = some d.sides ∧
      numeral? numeralLimit (s.modifier.getD ['0']) = some d.modifier ∧
      numeral? numeralLimit (s.multiplier.getD ['1']) = some d.multiplier := by
  simp only [Shape.dice?, Option.bind_eq_bind, Option.bind_eq_some_iff]
  constructor
  · rintro ⟨count, hcount, sides, hsides, modifier, hmodifier, multiplier, hmultiplier, hd⟩
    cases hd
    exact ⟨hcount, hsides, hmodifier, hmultiplier⟩
  · rintro ⟨hcount, hsides, hmodifier, hmultiplier⟩
    exact ⟨_, hcount, _, hsides, _, hmodifier, _, hmultiplier, rfl⟩

/-- A text that does not begin with a parenthesis has no modifier. -/
theorem readShape_of_ne {cs : List Char} (h : cs.head? ≠ some '(') :
    readShape cs = (takePair cs).bind fun (count, sides, rest) =>
      (readMultiplier rest).bind fun multiplier => some ⟨count, sides, none, multiplier⟩ := by
  unfold readShape
  split
  · exact absurd rfl h
  · rfl

theorem denotes_of_readShape {cs : List Char} {s : Shape} {d : Dice}
    (hread : readShape cs = some s) (hd : s.dice? = some d) : Denotes cs d := by
  obtain ⟨hcount, hsides, hmodifier, hmultiplier⟩ := Shape.dice?_eq_some_iff.mp hd
  have hn := (numeral?_eq_some_iff.mp hcount).1
  have hs := (numeral?_eq_some_iff.mp hsides).1
  have hk := (numeral?_eq_some_iff.mp hmodifier).1
  by_cases hopen : cs.head? = some '('
  · obtain ⟨inner, rfl⟩ := List.head?_eq_some_iff.mp hopen
    simp only [readShape, Option.bind_eq_bind, Option.bind_eq_some_iff] at hread
    obtain ⟨⟨count, sides, afterPair⟩, hpair, hread⟩ := hread
    obtain ⟨letter, hletter, rfl⟩ := eq_of_takePair hpair
    split at hread
    · next afterPlus hplus =>
      cases hplus
      obtain ⟨⟨modifier, afterModifier⟩, htake, hread⟩ := Option.bind_eq_some_iff.mp hread
      split at hread
      · next rest hafter =>
        obtain ⟨multiplier, hrest, hshape⟩ := Option.bind_eq_some_iff.mp hread
        cases hshape
        cases hafter
        have hmultiplied := (readMultiplier_iff.mp ⟨multiplier, hrest, hmultiplier⟩).1
        refine ⟨_, rest, ?_, .modified hn hletter hs hk, hmultiplied⟩
        rw [eq_of_takeNumeral htake]
        simp
      · cases hread
    · cases hread
  · rw [readShape_of_ne hopen] at hread
    simp only [Option.bind_eq_some_iff] at hread
    obtain ⟨⟨count, sides, rest⟩, hpair, multiplier, hrest, hshape⟩ := hread
    cases hshape
    obtain ⟨letter, hletter, rfl⟩ := eq_of_takePair hpair
    have hmultiplied := (readMultiplier_iff.mp ⟨multiplier, hrest, hmultiplier⟩).1
    have hzero : d.modifier = 0 := hk.value_eq.symm
    refine ⟨count ++ letter :: sides, rest, by simp, ?_, hmultiplied⟩
    rw [hzero]
    exact .plain hn hletter hs

theorem exists_readShape_of_denotes {cs : List Char} {d : Dice} (h : Denotes cs d)
    (hfits : d.Fits) : ∃ s, readShape cs = some s ∧ s.dice? = some d := by
  have hzero : numeral? numeralLimit ['0'] = some 0 := by decide
  obtain ⟨thrown, rest, rfl, hthrown, hmultiplied⟩ := h
  obtain ⟨multiplier, hread, hmultiplier⟩ :=
    readMultiplier_iff.mpr ⟨hmultiplied, hfits.multiplier_lt⟩
  generalize hcount : d.count = n at hthrown
  generalize hsides : d.sides = s at hthrown
  generalize hmodifier : d.modifier = k at hthrown
  cases hthrown with
  | @plain count sides letter n s hn hletter hs =>
    have hpair := takePair_append hn hletter hs hmultiplied.ends
    refine ⟨⟨count, sides, none, multiplier⟩, ?_, Shape.dice?_eq_some_iff.mpr ⟨?_, ?_, ?_, ?_⟩⟩
    · have hopen : (count ++ letter :: sides ++ rest).head? ≠ some '(' := by
        obtain ⟨c, others, rfl⟩ := List.exists_cons_of_ne_nil hn.ne_nil
        have hc := hn.digits c List.mem_cons_self
        rintro ⟨⟩
        exact absurd hc (by decide)
      rw [readShape_of_ne hopen, List.append_assoc, List.cons_append, hpair]
      simp [hread]
    · exact numeral?_eq_some_iff.mpr ⟨hcount ▸ hn, hfits.count_lt⟩
    · exact numeral?_eq_some_iff.mpr ⟨hsides ▸ hs, hfits.sides_lt⟩
    · rw [hmodifier]
      exact hzero
    · exact hmultiplier
  | @modified count sides modifier letter n s k hn hletter hs hk =>
    have hplus : Ends ('+' :: (modifier ++ ')' :: rest)) := ends_cons (by decide) _
    have hclose : Ends (')' :: rest) := ends_cons (by decide) _
    have hpair := takePair_append hn hletter hs hplus
    have htake := takeNumeral_append hk hclose
    refine ⟨⟨count, sides, some modifier, multiplier⟩, ?_,
      Shape.dice?_eq_some_iff.mpr ⟨?_, ?_, ?_, ?_⟩⟩
    · have hchars : '(' :: (count ++ letter :: (sides ++ '+' :: (modifier ++ [')']))) ++ rest =
          '(' :: (count ++ letter :: (sides ++ '+' :: (modifier ++ ')' :: rest))) := by
        simp
      rw [hchars, readShape]
      simp [hpair, htake, hread]
    · exact numeral?_eq_some_iff.mpr ⟨hcount ▸ hn, hfits.count_lt⟩
    · exact numeral?_eq_some_iff.mpr ⟨hsides ▸ hs, hfits.sides_lt⟩
    · exact numeral?_eq_some_iff.mpr ⟨hmodifier ▸ hk, hfits.modifier_lt⟩
    · exact hmultiplier

/-! ### Reading -/

/-- Dice are read if their text is taken apart into them and they are within their limits. -/
theorem parse_eq_ok_iff_exists {text : String} {d : Dice} : parse text = .ok d ↔
    (∃ s, readShape (Text.strip text.toList) = some s ∧ s.dice? = some d) ∧ d.Legal := by
  constructor
  · intro h
    refine ⟨?_, legal_of_parse h⟩
    unfold parse at h
    split at h
    · cases h
    · next s hs =>
      split at h
      · cases h
      · next d' hd =>
        split at h
        · cases h
        · split at h
          · cases h
          · cases h
            exact ⟨s, hs, hd⟩
  · rintro ⟨⟨s, hs, hd⟩, hlegal⟩
    obtain ⟨hcount, hcountLe, hsides, hsidesLe, hmodifier, hmultiplier, hmultiplierLe⟩ := hlegal
    unfold parse
    simp only [hs, hd]
    rw [if_neg (by omega), if_neg (by omega)]

/-- **Which dice a text names**: those that the grammar gives for it without its blanks, if they are
within their limits. -/
theorem parse_eq_ok_iff {text : String} {d : Dice} :
    parse text = .ok d ↔ Denotes (Text.strip text.toList) d ∧ d.Legal := by
  rw [parse_eq_ok_iff_exists]
  constructor
  · rintro ⟨⟨s, hs, hd⟩, hlegal⟩
    exact ⟨denotes_of_readShape hs hd, hlegal⟩
  · rintro ⟨hdenotes, hlegal⟩
    exact ⟨exists_readShape_of_denotes hdenotes hlegal.fits, hlegal⟩

/-- A fault holds the text that is refused. -/
theorem text_of_parse {text : String} {cause : DiceFault} (h : parse text = .error cause) :
    cause.text = text := by
  unfold parse at h
  split at h
  · cases h
    rfl
  · split at h
    · cases h
      rfl
    · split at h
      · cases h
        rfl
      · split at h
        · cases h
          rfl
        · cases h

/-- **Exactly the texts of the grammar are accepted**, as the dice that they name, if all numbers
are within the limits. Every other text is refused with a fault that holds it. -/
theorem parse_accepts (text : String) :
    (∀ d, parse text = .ok d ↔ Denotes (Text.strip text.toList) d ∧ d.Legal) ∧
      ((∃ cause, parse text = .error cause ∧ cause.text = text) ↔
        ∀ d, ¬ (Denotes (Text.strip text.toList) d ∧ d.Legal)) := by
  refine ⟨fun d => parse_eq_ok_iff, ?_⟩
  constructor
  · rintro ⟨cause, hcause, -⟩ d hd
    have hok := parse_eq_ok_iff.mpr hd
    rw [hcause] at hok
    cases hok
  · intro hnone
    cases hparse : parse text with
    | error cause => exact ⟨cause, rfl, text_of_parse hparse⟩
    | ok d => exact absurd (parse_eq_ok_iff.mp hparse) (hnone d)

end Dice

end Chargen
