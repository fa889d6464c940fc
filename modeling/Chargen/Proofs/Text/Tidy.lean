import Chargen.Proofs.Text
import Mathlib.Data.List.Chain

/-!
# Tidy texts

A tidy text has no blank at its ends and no two blanks in a row. Words are solid, and where two texts
meet without a blank between them, the last word of the first and the first word of the second become
one.

* `Tidy`: no leading, trailing or doubled blank.
* `solid_of_mem_words`, `words_of_solid`: words are solid, and a solid text is its own word.
* `pieces_append`: the pieces of two texts put together.
* `trim_of_tidy`: blanks around a tidy text can be trimmed.
-/

namespace Chargen.Text

/-! ### Words -/

/-- A text without blanks is one piece. -/
theorem pieces_of_forall {w : List Char} (hw : ∀ c ∈ w, isBlank c = false) : pieces w = [w] := by
  induction w with
  | nil => rfl
  | cons c w ih =>
    have hc : ¬ isBlank c = true := by simp [hw c List.mem_cons_self]
    rw [pieces, if_neg hc, ih fun d hd => hw d (List.mem_cons_of_mem _ hd)]

/-- A solid text is its own word. -/
theorem words_of_solid {w : List Char} (hw : Solid w) : words w = [w] := by
  rw [words, pieces_of_forall hw.isBlank_eq_false]
  exact List.filter_eq_self.mpr (by simpa using hw.ne_nil)

theorem of_mem_pieces {cs w : List Char} (hw : w ∈ pieces cs) :
    ∀ c ∈ w, c ∈ cs ∧ isBlank c = false := by
  induction cs generalizing w with
  | nil =>
    rw [pieces, List.mem_singleton] at hw
    simp [hw]
  | cons d cs ih =>
    have hrest : ∀ v ∈ pieces cs, ∀ c ∈ v, c ∈ d :: cs ∧ isBlank c = false :=
      fun v hv c hc => ⟨List.mem_cons_of_mem _ (ih hv c hc).1, (ih hv c hc).2⟩
    rw [pieces] at hw
    split at hw
    · rcases List.mem_cons.mp hw with rfl | hw
      · simp
      · exact hrest w hw
    · next hd =>
      obtain ⟨piece, others, hpieces⟩ := List.exists_cons_of_ne_nil (pieces_ne_nil cs)
      rw [hpieces] at hw hrest
      rcases List.mem_cons.mp hw with rfl | hw
      · intro c hc
        rcases List.mem_cons.mp hc with rfl | hc
        · exact ⟨List.mem_cons_self, by simpa using hd⟩
        · exact hrest piece List.mem_cons_self c hc
      · exact hrest w (List.mem_cons_of_mem _ hw)

/-- Words are solid. -/
theorem solid_of_mem_words {cs w : List Char} (hw : w ∈ words cs) : Solid w := by
  obtain ⟨hpiece, hne⟩ := List.mem_filter.mp hw
  exact ⟨by simpa using hne, fun c hc => (of_mem_pieces hpiece c hc).2⟩

theorem mem_of_mem_words {cs w : List Char} (hw : w ∈ words cs) {c : Char} (hc : c ∈ w) :
    c ∈ cs :=
  (of_mem_pieces (List.mem_filter.mp hw).1 c hc).1

/-- Where two texts meet, the last piece of the first and the first piece of the second become
one. -/
theorem pieces_append {xs ys : List Char} {front back : List (List Char)} {u v : List Char}
    (hxs : pieces xs = front ++ [u]) (hys : pieces ys = v :: back) :
    pieces (xs ++ ys) = front ++ (u ++ v) :: back := by
  induction xs generalizing front u with
  | nil =>
    have hnil : [] = front ∧ [] = u := by
      have hlen := congrArg List.length hxs
      simp only [pieces, List.length_append, List.length_singleton] at hlen
      have hfront : front = [] := List.length_eq_zero_iff.mp (by omega)
      subst hfront
      simpa [pieces] using hxs
    obtain ⟨rfl, rfl⟩ := hnil
    exact hys
  | cons c xs ih =>
    rw [pieces] at hxs
    split at hxs
    · next hc =>
      -- The blank makes an empty piece, which is one of `front`.
      cases front with
      | nil => exact absurd (List.cons.inj hxs).2 (pieces_ne_nil xs)
      | cons first front =>
        obtain ⟨rfl, hrest⟩ := List.cons.inj hxs
        rw [List.cons_append, pieces, if_pos hc, ih hrest, List.cons_append]
    · next hc =>
      obtain ⟨piece, others, hpieces⟩ := List.exists_cons_of_ne_nil (pieces_ne_nil xs)
      rw [hpieces] at hxs
      cases front with
      | nil =>
        obtain ⟨rfl, rfl⟩ := List.cons.inj hxs
        have happend : pieces (xs ++ ys) = [] ++ (piece ++ v) :: back := ih hpieces
        rw [List.cons_append, pieces, if_neg hc, happend]
        rfl
      | cons first front =>
        obtain ⟨rfl, rfl⟩ := List.cons.inj hxs
        have happend : pieces (xs ++ ys) = piece :: front ++ (u ++ v) :: back := ih hpieces
        rw [List.cons_append, pieces, if_neg hc, happend]
        rfl

/-! ### Tidy texts -/

/-- A text without a leading, trailing or doubled blank. -/
structure Tidy (cs : List Char) : Prop where
  /-- No blank is first. -/
  first : ∀ c ∈ cs.head?, isBlank c = false
  /-- No blank is last. -/
  last : ∀ c ∈ cs.getLast?, isBlank c = false
  /-- No blank stands next to a blank. -/
  neighbours : cs.IsChain fun a b => isBlank a = false ∨ isBlank b = false

theorem Tidy.nil : Tidy [] :=
  ⟨by simp, by simp, .nil⟩

theorem Solid.tidy {w : List Char} (hw : Solid w) : Tidy w := by
  refine ⟨fun c hc => ?_, fun c hc => ?_, ?_⟩
  · exact hw.isBlank_eq_false c (List.mem_of_mem_head? hc)
  · exact hw.isBlank_eq_false c (List.mem_of_mem_getLast? hc)
  · apply List.Pairwise.isChain
    refine List.pairwise_of_forall_mem_list ?_
    intro a ha b _
    exact .inl (hw.isBlank_eq_false a ha)

/-- One blank between two tidy texts that are not empty leaves them tidy. -/
theorem Tidy.append_cons {xs ys : List Char} (hxs : Tidy xs) (hys : Tidy ys) (hxne : xs ≠ [])
    (hyne : ys ≠ []) (b : Char) : Tidy (xs ++ b :: ys) := by
  refine ⟨?_, ?_, ?_⟩
  · rw [List.head?_append_of_ne_nil _ hxne]
    exact hxs.first
  · rw [List.getLast?_append_of_ne_nil _ (by simp), List.getLast?_cons_of_ne_nil hyne]
    exact hys.last
  · rw [List.isChain_append, List.isChain_cons]
    refine ⟨hxs.neighbours, ⟨fun c hc => .inr (hys.first c hc), hys.neighbours⟩, ?_⟩
    intro c hc _ _
    exact .inl (hxs.last c hc)

/-- Nothing is left of blanks. -/
theorem trimEnd_of_blank {bs : List Char} (hbs : ∀ b ∈ bs, isBlank b = true) : trimEnd bs = [] := by
  induction bs with
  | nil => rfl
  | cons b bs ih =>
    have hrest : trimEnd bs = [] := ih fun d hd => hbs d (List.mem_cons_of_mem _ hd)
    rw [trimEnd, hrest]
    exact if_pos (hbs b List.mem_cons_self)

/-- Trimming the end stops at the last character that is no blank. -/
theorem trimEnd_append_blank {cs bs : List Char} (hlast : ∀ c ∈ cs.getLast?, isBlank c = false)
    (hbs : ∀ b ∈ bs, isBlank b = true) : trimEnd (cs ++ bs) = cs := by
  induction cs with
  | nil => exact trimEnd_of_blank hbs
  | cons c cs ih =>
    cases cs with
    | nil =>
      have hc : isBlank c = false := hlast c rfl
      rw [List.singleton_append, trimEnd, trimEnd_of_blank hbs]
      exact if_neg (by simp [hc])
    | cons d cs =>
      have hrest : trimEnd (d :: cs ++ bs) = d :: cs := ih hlast
      rw [List.cons_append, trimEnd, hrest]

/-- Blanks around a tidy text can be trimmed. -/
theorem trim_of_tidy {cs front back : List Char} (hcs : Tidy cs)
    (hfront : ∀ b ∈ front, isBlank b = true) (hback : ∀ b ∈ back, isBlank b = true) :
    trim (front ++ cs ++ back) = cs := by
  rw [trim, List.append_assoc, List.dropWhile_append_of_pos hfront]
  cases cs with
  | nil =>
    rw [List.nil_append, List.dropWhile_eq_nil_iff.mpr hback]
    rfl
  | cons c cs =>
    have hc : ¬ isBlank c = true := by simp [hcs.first c rfl]
    rw [List.cons_append, List.dropWhile_cons_of_neg hc]
    exact trimEnd_append_blank hcs.last hback

end Chargen.Text
