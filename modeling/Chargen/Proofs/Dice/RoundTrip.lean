import Chargen.Proofs.Dice.Grammar

/-!
# Canonical dice texts

Dice have one written form, `Dice.text`, which leaves out a modifier of zero and a multiplier of one.
A text that names dice is made canonical by reading it and writing down what was read.

* `denotes_text`: the written form belongs to the grammar of dice texts.
* `parse_text`: **reading undoes writing**, for all dice within their limits.
* `exists_parse_iff`: these are exactly the dice that some text names.
* `canonical_fixed`: **canonical texts name the same dice and are fixed**, and they are the same
  exactly for texts that name the same dice.
-/

namespace Chargen

namespace Dice

/-- The written form of the dice that a text names. -/
def canonical (text : String) : Except DiceFault String :=
  (parse text).map Dice.text

/-! ### The written form -/

/-- The written form without what is added and without what it is multiplied by. -/
def bareText (d : Dice) : String :=
  s!"{d.count}D{d.sides}"

theorem toList_bareText (d : Dice) :
    d.bareText.toList = Nat.toDigits 10 d.count ++ 'D' :: Nat.toDigits 10 d.sides := by
  simp [bareText, toString]

theorem toList_modified (thrown : String) (k : Nat) :
    (s!"({thrown}+{k})").toList =
      '(' :: (thrown.toList ++ '+' :: (Nat.toDigits 10 k ++ [')'])) := by
  simp [toString]

theorem toList_times (sum : String) (m : Nat) :
    (s!"{sum}x{m}").toList = sum.toList ++ 'x' :: Nat.toDigits 10 m := by
  simp [toString]

/-- What is written before the multiplier. -/
theorem exists_thrown (d : Dice) : ∃ sum : String,
    Thrown sum.toList d.count d.sides d.modifier ∧
      d.text = if d.multiplier = 1 then sum else s!"{sum}x{d.multiplier}" := by
  have hcount : IsNumeral (Nat.toDigits 10 d.count) d.count := isNumeral_toDigits d.count
  have hsides : IsNumeral (Nat.toDigits 10 d.sides) d.sides := isNumeral_toDigits d.sides
  by_cases hmodifier : d.modifier = 0
  · refine ⟨d.bareText, ?_, ?_⟩
    · rw [toList_bareText, hmodifier]
      exact .plain hcount (.inr rfl) hsides
    · simp only [text, if_pos hmodifier, bareText]
  · refine ⟨s!"({d.bareText}+{d.modifier})", ?_, ?_⟩
    · rw [toList_modified, toList_bareText, List.append_assoc, List.cons_append]
      exact .modified hcount (.inr rfl) hsides (isNumeral_toDigits d.modifier)
    · simp only [text, if_neg hmodifier, bareText]

/-- **The written form belongs to the grammar**, whatever the dice are. -/
theorem denotes_text (d : Dice) : Denotes d.text.toList d := by
  obtain ⟨sum, hsum, htext⟩ := exists_thrown d
  by_cases hmultiplier : d.multiplier = 1
  · refine ⟨sum.toList, [], ?_, hsum, ?_⟩
    · rw [htext, if_pos hmultiplier, List.append_nil]
    · rw [hmultiplier]
      exact .absent
  · refine ⟨sum.toList, 'x' :: Nat.toDigits 10 d.multiplier, ?_, hsum, ?_⟩
    · rw [htext, if_neg hmultiplier, toList_times]
    · exact .times (.inl rfl) (isNumeral_toDigits d.multiplier)

/-! ### Texts of the grammar have no blanks -/

theorem isBlank_letter {letter : Char} (h : letter = 'd' ∨ letter = 'D') :
    Text.isBlank letter = false := by
  rcases h with rfl | rfl <;> decide

theorem Thrown.isBlank_of_mem {cs : List Char} {n s k : Nat} (h : Thrown cs n s k) {c : Char}
    (hc : c ∈ cs) : Text.isBlank c = false := by
  have hopen : Text.isBlank '(' = false := by decide
  have hplus : Text.isBlank '+' = false := by decide
  have hclose : Text.isBlank ')' = false := by decide
  cases h with
  | plain hcount hletter hsides =>
    simp only [List.mem_append, List.mem_cons] at hc
    rcases hc with hc | rfl | hc
    · exact hcount.isBlank_of_mem hc
    · exact isBlank_letter hletter
    · exact hsides.isBlank_of_mem hc
  | modified hcount hletter hsides hmodifier =>
    simp only [List.mem_append, List.mem_cons, List.not_mem_nil, or_false] at hc
    rcases hc with rfl | hc | rfl | hc | rfl | hc | rfl
    · exact hopen
    · exact hcount.isBlank_of_mem hc
    · exact isBlank_letter hletter
    · exact hsides.isBlank_of_mem hc
    · exact hplus
    · exact hmodifier.isBlank_of_mem hc
    · exact hclose

theorem Multiplied.isBlank_of_mem {cs : List Char} {m : Nat} (h : Multiplied cs m) {c : Char}
    (hc : c ∈ cs) : Text.isBlank c = false := by
  cases h with
  | absent => cases hc
  | times hsign hmultiplier =>
    rcases List.mem_cons.mp hc with rfl | hc
    · rcases hsign with rfl | rfl | rfl | rfl <;> decide
    · exact hmultiplier.isBlank_of_mem hc

theorem Denotes.strip_eq {cs : List Char} {d : Dice} (h : Denotes cs d) : Text.strip cs = cs := by
  obtain ⟨thrown, multiplied, rfl, hthrown, hmultiplied⟩ := h
  apply Text.strip_of_forall
  intro c hc
  rcases List.mem_append.mp hc with hc | hc
  · exact hthrown.isBlank_of_mem hc
  · exact hmultiplied.isBlank_of_mem hc

/-! ### Reading what was written -/

/-- **Reading undoes writing**, for dice within their limits. -/
theorem parse_text {d : Dice} (h : d.Legal) : parse d.text = .ok d := by
  have hdenotes : Denotes d.text.toList d := denotes_text d
  apply parse_eq_ok_iff.mpr
  rw [hdenotes.strip_eq]
  exact ⟨hdenotes, h⟩

/-- The dice that some text names are those within their limits. -/
theorem exists_parse_iff {d : Dice} : (∃ text, parse text = .ok d) ↔ d.Legal := by
  constructor
  · rintro ⟨text, h⟩
    exact legal_of_parse h
  · intro h
    exact ⟨d.text, parse_text h⟩

/-- Dice within their limits are told apart by their written forms. -/
theorem Legal.text_inj {d d' : Dice} (h : d.Legal) (h' : d'.Legal) : d.text = d'.text ↔ d = d' := by
  constructor
  · intro htext
    have hread : parse d.text = .ok d := parse_text h
    rw [htext, parse_text h'] at hread
    exact (Except.ok.inj hread).symm
  · intro hd
    rw [hd]

theorem canonical_of_parse {text : String} {d : Dice} (h : parse text = .ok d) :
    canonical text = .ok d.text := by
  rw [canonical, h]
  rfl

/-- **Canonical texts**: the canonical form of a text that names dice names the same dice, is the
written form of those dice and is its own canonical form. Two texts that name dice have one written
form exactly if they name the same dice. -/
theorem canonical_fixed {text text' : String} {d d' : Dice} (h : parse text = .ok d)
    (h' : parse text' = .ok d') :
    parse d.text = .ok d ∧ canonical text = .ok d.text ∧ canonical d.text = .ok d.text ∧
      (d.text = d'.text ↔ d = d') := by
  have hlegal : d.Legal := legal_of_parse h
  have hread : parse d.text = .ok d := parse_text hlegal
  exact ⟨hread, canonical_of_parse h, canonical_of_parse hread,
    hlegal.text_inj (legal_of_parse h')⟩

/-- Zeros in front, blanks and another multiplication sign change nothing. -/
theorem canonical_fixed_spaced :
    parse "( 02 d 6 + 6 ) × 05" = .ok ⟨2, 6, 6, 5⟩ ∧ parse "(2D6+6)x5" = .ok ⟨2, 6, 6, 5⟩ ∧
      canonical "( 02 d 6 + 6 ) × 05" = .ok "(2D6+6)x5" ∧
      canonical "(2D6+6)x5" = .ok "(2D6+6)x5" := by
  have hspaced : parse "( 02 d 6 + 6 ) × 05" = .ok ⟨2, 6, 6, 5⟩ := by rfl
  have hplain : parse "(2D6+6)x5" = .ok ⟨2, 6, 6, 5⟩ := by rfl
  obtain ⟨-, hcanonical, hfixed, -⟩ := canonical_fixed hspaced hplain
  exact ⟨hspaced, hplain, hcanonical, hfixed⟩

end Dice

end Chargen
