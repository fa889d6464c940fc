import Chargen.Text.Blank
import Mathlib.Data.List.DropRight
import Mathlib.Data.List.Infix
import Mathlib.Data.List.TakeWhile

/-!
# Blanks and words

What blanks around and inside a text do to its words. A solid text has a character and no blank, so
it lies in one word.

* `words_append_cons`: the words around a blank.
* `words_blank_append`, `words_append_blank`: blanks at the ends make no words.
* `exists_trim`, `trimmed_trimmed`: trimming takes away blanks, and all of them at once.
* `Solid.infix_blank_iff`: a solid text does not reach across a blank.
* `Solid.infix_words_iff`: **a solid text lies in one word**.
-/

namespace Chargen.Text

/-- What holds of every blank by enumeration. -/
theorem of_isBlank {p : Char → Bool} (hall : blankRanges.all (fun r =>
    (List.range' r.1 (r.2 + 1 - r.1)).all fun n => p (Char.ofNat n)) = true) {b : Char}
    (hb : isBlank b = true) : p b = true := by
  obtain ⟨r, hr, hlo, hhi⟩ := exists_of_inRanges hb
  have hp := List.all_eq_true.mp (List.all_eq_true.mp hall r hr) b.toNat
    (List.mem_range'_1.mpr ⟨hlo, by omega⟩)
  rwa [Char.ofNat_toNat] at hp

/-! ### Words -/

theorem pieces_ne_nil (cs : List Char) : pieces cs ≠ [] := by
  cases cs with
  | nil => simp [pieces]
  | cons c rest =>
    rw [pieces]
    split
    · simp
    · split <;> simp

/-- Blanks in front make no words. -/
theorem words_blank_append {bs : List Char} (hbs : ∀ b ∈ bs, isBlank b = true) (cs : List Char) :
    words (bs ++ cs) = words cs := by
  induction bs with
  | nil => rfl
  | cons b bs ih =>
    rw [List.cons_append, words, pieces, if_pos (hbs b (by simp)), List.filter_cons_of_neg (by simp)]
    exact ih fun d hd => hbs d (List.mem_cons_of_mem _ hd)

/-- A blank ends one piece and begins another. -/
theorem pieces_append_cons {b : Char} (hb : isBlank b = true) (xs ys : List Char) :
    pieces (xs ++ b :: ys) = pieces xs ++ pieces ys := by
  induction xs with
  | nil => simp [pieces, hb]
  | cons c xs ih =>
    rw [List.cons_append, pieces, pieces, ih]
    split
    · rfl
    · obtain ⟨piece, others, h⟩ := List.exists_cons_of_ne_nil (pieces_ne_nil xs)
      rw [h]
      rfl

/-- **The words around a blank** are those before it and those behind it. -/
theorem words_append_cons {b : Char} (hb : isBlank b = true) (xs ys : List Char) :
    words (xs ++ b :: ys) = words xs ++ words ys := by
  rw [words, pieces_append_cons hb, List.filter_append]
  rfl

/-- Blanks at the end make no words. -/
theorem words_append_blank {bs : List Char} (hbs : ∀ b ∈ bs, isBlank b = true) (cs : List Char) :
    words (cs ++ bs) = words cs := by
  cases bs with
  | nil => rw [List.append_nil]
  | cons b bs =>
    have hrest : words bs = [] := by
      have hblank := words_blank_append (fun d hd => hbs d (List.mem_cons_of_mem _ hd)) []
      rwa [List.append_nil] at hblank
    rw [words_append_cons (hbs b List.mem_cons_self), hrest, List.append_nil]

/-! ### Trimming -/

/-- Trimming the end takes away blanks and nothing else. -/
theorem exists_trimEnd (cs : List Char) :
    ∃ back, cs = trimEnd cs ++ back ∧ ∀ c ∈ back, isBlank c = true := by
  induction cs with
  | nil => exact ⟨[], rfl, by simp⟩
  | cons c cs ih =>
    obtain ⟨back, hback, hblank⟩ := ih
    rw [trimEnd]
    split
    · next hnil =>
      rw [hnil, List.nil_append] at hback
      split
      · next hc => exact ⟨c :: cs, rfl, by simpa [hc, hback] using hblank⟩
      · exact ⟨cs, rfl, by simpa [hback] using hblank⟩
    · exact ⟨back, by rw [List.cons_append, ← hback], hblank⟩

/-- Trimming takes away blanks at both ends and nothing else. -/
theorem exists_trim (cs : List Char) : ∃ front back, cs = front ++ trim cs ++ back ∧
    (∀ c ∈ front, isBlank c = true) ∧ ∀ c ∈ back, isBlank c = true := by
  obtain ⟨back, hback, hblank⟩ := exists_trimEnd (cs.dropWhile isBlank)
  refine ⟨cs.takeWhile isBlank, back, ?_, fun c hc => List.mem_takeWhile_imp hc, hblank⟩
  rw [trim, List.append_assoc, ← hback, List.takeWhile_append_dropWhile]

/-- A text trimmed at its end does not end with a blank. -/
theorem isBlank_getLast?_trimEnd (cs : List Char) :
    ∀ c ∈ (trimEnd cs).getLast?, isBlank c = false := by
  induction cs with
  | nil => simp [trimEnd]
  | cons c cs ih =>
    rw [trimEnd]
    split
    · split
      · simp
      · next hc => simpa using hc
    · next hne =>
      obtain ⟨d, rest, hrest⟩ := List.exists_cons_of_ne_nil hne
      rw [hrest, List.getLast?_cons_cons, ← hrest]
      exact ih

/-- Blanks in front can be taken away before or after those at the end. -/
theorem dropWhile_trimEnd (cs : List Char) :
    (trimEnd cs).dropWhile isBlank = trimEnd (cs.dropWhile isBlank) := by
  induction cs with
  | nil => rfl
  | cons c cs ih =>
    by_cases hc : isBlank c = true
    · rw [List.dropWhile_cons_of_pos hc, ← ih, trimEnd]
      split
      · next hnil => rw [if_pos hc, hnil]
      · rw [List.dropWhile_cons_of_pos hc]
    · rw [List.dropWhile_cons_of_neg hc, trimEnd]
      split
      · rw [if_neg hc, List.dropWhile_cons_of_neg hc]
      · rw [List.dropWhile_cons_of_neg hc]

/-- Nothing is left of a text if it is blank, and only then. -/
theorem trim_eq_nil_iff {cs : List Char} : trim cs = [] ↔ ∀ c ∈ cs, isBlank c = true := by
  constructor
  · intro h c hc
    obtain ⟨front, back, hcs, hfront, hback⟩ := exists_trim cs
    rw [h, List.append_nil] at hcs
    rw [hcs] at hc
    rcases List.mem_append.mp hc with hc | hc
    · exact hfront c hc
    · exact hback c hc
  · intro h
    have hdrop : cs.dropWhile isBlank = [] := List.dropWhile_eq_nil_iff.mpr h
    rw [trim, hdrop]
    rfl

theorem isEmpty_trimmed (s : String) : (trimmed s).isEmpty = isBlankText s := by
  rw [Bool.eq_iff_iff, String.isEmpty_iff, trimmed, String.ofList_eq_empty_iff, trim_eq_nil_iff,
    isBlankText, List.all_eq_true]

theorem trimEnd_trimEnd (cs : List Char) : trimEnd (trimEnd cs) = trimEnd cs := by
  induction cs with
  | nil => rfl
  | cons c rest ih =>
    rw [trimEnd]
    split
    · split
      · rfl
      · next hc => simp [trimEnd, hc]
    · next hne =>
      rw [trimEnd, ih]
      split
      · next hnil => exact absurd hnil hne
      · rfl

/-- Blanks at the end are taken away once. -/
theorem trim_trimEnd (cs : List Char) : trim (trimEnd cs) = trim cs := by
  rw [trim, dropWhile_trimEnd, trimEnd_trimEnd, trim]

/-- Blanks in front are taken away once. -/
theorem trim_dropWhile (cs : List Char) : trim (cs.dropWhile isBlank) = trim cs := by
  rw [trim, List.dropWhile_idempotent, trim]

theorem trimmed_trimmed (name : String) : trimmed (trimmed name) = trimmed name := by
  rw [trimmed, trimmed, String.toList_ofList]
  apply congrArg String.ofList
  calc trim (trimEnd (name.toList.dropWhile isBlank))
      = trim (name.toList.dropWhile isBlank) := trim_trimEnd _
    _ = trim name.toList := trim_dropWhile _

/-! ### Solid texts -/

/-- A text with a character and without blanks. -/
structure Solid (w : List Char) : Prop where
  ne_nil : w ≠ []
  isBlank_eq_false : ∀ c ∈ w, isBlank c = false

theorem Solid.of_all {w : List Char} (hne : w ≠ []) (h : w.all (fun c => !isBlank c) = true) :
    Solid w :=
  ⟨hne, by simpa using h⟩

theorem pieces_cases (cs : List Char) : pieces cs = [cs] ∨
    ∃ piece b rest, cs = piece ++ b :: rest ∧ isBlank b = true ∧
      pieces cs = piece :: pieces rest := by
  induction cs with
  | nil => exact .inl rfl
  | cons c cs ih =>
    rw [pieces]
    split
    · next hc => exact .inr ⟨[], c, cs, rfl, hc, rfl⟩
    · rcases ih with h | ⟨piece, b, rest, rfl, hb, h⟩
      · rw [h]
        exact .inl rfl
      · rw [h]
        exact .inr ⟨c :: piece, b, rest, rfl, hb, rfl⟩

namespace Solid

variable {w : List Char} (hw : Solid w)
include hw

theorem notMem_of_isBlank {b : Char} (hb : isBlank b = true) : b ∉ w := by
  intro hmem
  rw [hw.isBlank_eq_false b hmem] at hb
  cases hb

theorem not_infix_nil : ¬ w <:+: [] := by
  intro h
  exact hw.ne_nil (List.infix_nil.mp h)

theorem not_prefix_blank {b : Char} (hb : isBlank b = true) {cs : List Char} :
    ¬ w <+: b :: cs := by
  intro h
  rcases List.prefix_cons_iff.mp h with rfl | ⟨w', rfl, -⟩
  · exact hw.ne_nil rfl
  · exact hw.notMem_of_isBlank hb List.mem_cons_self

/-- A solid text does not reach across a blank. -/
theorem infix_blank_iff {b : Char} (hb : isBlank b = true) {xs ys : List Char} :
    w <:+: xs ++ b :: ys ↔ w <:+: xs ∨ w <:+: ys := by
  constructor
  · intro h
    rcases List.infix_append_iff.mp h with h | h | ⟨front, back, rfl, hfront, hback⟩
    · exact .inl h
    · rcases List.infix_cons_iff.mp h with h | h
      · exact absurd h (hw.not_prefix_blank hb)
      · exact .inr h
    · -- What reaches into the blank would have to start with it.
      rcases List.prefix_cons_iff.mp hback with rfl | ⟨back', rfl, -⟩
      · rw [List.append_nil]
        exact .inl hfront.isInfix
      · exact absurd (by simp) (hw.notMem_of_isBlank hb)
  · rintro (h | h)
    · exact List.infix_append_of_infix_left h
    · exact List.infix_append_of_infix_right (List.infix_cons h)

theorem infix_blanks_iff {bs : List Char} (hbs : ∀ b ∈ bs, isBlank b = true) (hne : bs ≠ [])
    (xs ys : List Char) : w <:+: xs ++ (bs ++ ys) ↔ w <:+: xs ∨ w <:+: ys := by
  induction bs generalizing xs with
  | nil => exact absurd rfl hne
  | cons b bs ih =>
    have hb : isBlank b = true := hbs b List.mem_cons_self
    rw [List.cons_append, hw.infix_blank_iff hb]
    by_cases hrest : bs = []
    · rw [hrest, List.nil_append]
    · have htail := ih (fun d hd => hbs d (List.mem_cons_of_mem _ hd)) hrest []
      rw [List.nil_append] at htail
      rw [htail]
      simp [hw.ne_nil]

theorem infix_pieces_iff (cs : List Char) : (∃ piece ∈ pieces cs, w <:+: piece) ↔ w <:+: cs := by
  -- On the length: what is divided next is the text after the first blank.
  induction hn : cs.length using Nat.strongRecOn generalizing cs with
  | ind n ih =>
    rcases pieces_cases cs with h | ⟨piece, b, rest, rfl, hb, h⟩
    · rw [h]
      simp
    · have hrest := ih rest.length (by simp at hn; omega) rest rfl
      rw [h, hw.infix_blank_iff hb, ← hrest]
      simp

/-- **A solid text lies in one word.** -/
theorem infix_words_iff (cs : List Char) : (∃ word ∈ words cs, w <:+: word) ↔ w <:+: cs := by
  rw [← hw.infix_pieces_iff cs]
  constructor
  · rintro ⟨word, hword, h⟩
    exact ⟨word, (List.mem_filter.mp hword).1, h⟩
  · rintro ⟨piece, hpiece, h⟩
    have hne : piece ≠ [] := by
      rintro rfl
      exact hw.not_infix_nil h
    exact ⟨piece, List.mem_filter.mpr ⟨hpiece, by simpa using hne⟩, h⟩

end Solid

end Chargen.Text
