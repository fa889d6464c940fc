import Chargen.Points.Formula
import Mathlib.Data.List.Basic

/-!
# The parts of a text

How a text splits is known from its pieces. `Splits sep w parts` says that `w` contributes `parts`
to any text that it stands in at depth zero: the last part goes on with the text behind `w`. So two
splits compose, and the split of a whole text is read off its derivation.

* `splits_plain`, `splits_wrapped`: a piece without separators, and one in parentheses, is one part.
* `Splits.separated`: a separator between two pieces puts their parts side by side.
* `Splits.fused`: any other character between them joins two parts to one.
* `of_splitFrom`: a property that separators carry from parts to texts holds of a text if it holds
  of its parts.
* `stripOuter_wrapped`, `stripOuter_joined`: parentheses are taken off exactly where one pair wraps
  the text.
-/

namespace Chargen.Points

/-- Two lists of parts as one, the last part of the first running on into the first of
the second. -/
def splice : List (List Char) → List (List Char) → List (List Char)
  | [], qs => qs
  | [p], [] => [p]
  | [p], q :: qs => (p ++ q) :: qs
  | p :: p' :: ps, qs => p :: splice (p' :: ps) qs

@[simp] theorem splice_nil (ps : List (List Char)) : splice ps [] = ps := by
  cases ps with
  | nil => rfl
  | cons p ps =>
    induction ps generalizing p with
    | nil => rfl
    | cons p' ps ih => rw [splice, ih]

theorem consFirst_eq_splice (c : Char) (parts : List (List Char)) :
    consFirst c parts = splice [[c]] parts := by
  cases parts <;> rfl

theorem cons_splice (p : List Char) {ps : List (List Char)} (h : ps ≠ []) (qs : List (List Char)) :
    splice (p :: ps) qs = p :: splice ps qs := by
  cases ps with
  | nil => exact absurd rfl h
  | cons p' ps => rfl

theorem splice_assoc (ps qs rs : List (List Char)) :
    splice (splice ps qs) rs = splice ps (splice qs rs) := by
  fun_induction splice ps qs with
  | case1 qs => rfl
  | case2 p => simp [splice]
  | case3 p q qs =>
    cases qs with
    | nil => cases rs <;> simp [splice]
    | cons q' qs => simp [splice]
  | case4 p p' ps qs ih =>
    have hne : splice (p' :: ps) qs ≠ [] := by
      cases ps <;> cases qs <;> simp [splice]
    rw [cons_splice p hne, ih]
    rfl

theorem append_splice (ps : List (List Char)) {qs : List (List Char)} (h : qs ≠ [])
    (rs : List (List Char)) : splice (ps ++ qs) rs = ps ++ splice qs rs := by
  induction ps with
  | nil => rfl
  | cons p ps ih => rw [List.cons_append, cons_splice p (by simp [h]), ih, List.cons_append]

/-- An empty first part is a border between the two lists. -/
theorem splice_border {ps : List (List Char)} (h : ps ≠ []) (qs : List (List Char)) :
    splice ps ([] :: qs) = ps ++ qs := by
  induction ps with
  | nil => exact absurd rfl h
  | cons p ps ih =>
    cases ps with
    | nil => rw [splice, List.append_nil]; rfl
    | cons p' ps => rw [splice, ih (by simp)]; rfl

theorem splice_start {qs : List (List Char)} (h : qs ≠ []) : splice [[]] qs = qs := by
  cases qs with
  | nil => exact absurd rfl h
  | cons q qs => rfl

theorem splice_ne_nil {ps : List (List Char)} (h : ps ≠ []) (qs : List (List Char)) :
    splice ps qs ≠ [] := by
  fun_induction splice ps qs <;> simp_all

variable {sep : Option Char → Char → Option Char → Bool}

/-- **A piece of a text and its parts.** At depth zero, `w` contributes these parts, whatever stands
before and behind it. -/
structure Splits (sep : Option Char → Char → Option Char → Bool) (w : List Char)
    (parts : List (List Char)) : Prop where
  ne_nil : w ≠ []
  parts_ne_nil : parts ≠ []
  from_eq : ∀ before rest,
    splitFrom sep 0 before (w ++ rest) = splice parts (splitFrom sep 0 w.getLast? rest)

/-- The parts of a piece that is the whole text. -/
theorem Splits.split_eq {w : List Char} {parts : List (List Char)} (h : Splits sep w parts) :
    split sep w = parts := by
  have hw := h.from_eq none []
  rwa [List.append_nil, splitFrom, splice_border h.parts_ne_nil, List.append_nil] at hw

/-- A character that separates nothing becomes the first one of the part behind it. -/
theorem splitFrom_of_not_sep {depth : Int} {before : Option Char} {c : Char} {rest : List Char}
    (h : c = '(' ∨ c = ')' ∨ depth ≠ 0 ∨ sep before c rest.head? = false) :
    splitFrom sep depth before (c :: rest) =
      splice [[c]] (splitFrom sep (depthAfter depth c) (some c) rest) := by
  rw [splitFrom, ← consFirst_eq_splice]
  by_cases hp : c = '(' ∨ c = ')'
  · rw [if_pos (by simpa using hp)]
  · have hsep : (depth == 0 && sep before c rest.head?) = false := by
      rcases h with h | h | h | h
      · exact absurd (.inl h) hp
      · exact absurd (.inr h) hp
      · simp [h]
      · simp [h]
    have hdepth : depthAfter depth c = depth := by
      unfold depthAfter
      rw [if_neg (by simpa using fun hc => hp (.inl hc)),
        if_neg (by simpa using fun hc => hp (.inr hc))]
    rw [if_neg (by simpa using hp), hsep, hdepth]
    rfl

/-- A separator at depth zero ends one part and begins another. -/
theorem splitFrom_of_sep {before : Option Char} {c : Char} {rest : List Char} (ho : c ≠ '(')
    (hc : c ≠ ')') (h : sep before c rest.head? = true) :
    splitFrom sep 0 before (c :: rest) = [] :: splitFrom sep 0 (some c) rest := by
  rw [splitFrom, if_neg (by simp [ho, hc]), if_pos (by simp [h])]

theorem isBalanced_open (k : Nat) (w : List Char) :
    isBalanced k ('(' :: w) = isBalanced (k + 1) w := rfl

theorem isBalanced_close (k : Nat) (w : List Char) :
    isBalanced (k + 1) (')' :: w) = isBalanced k w := rfl

theorem isBalanced_other {c : Char} (ho : c ≠ '(') (hc : c ≠ ')') (k : Nat) (w : List Char) :
    isBalanced k (c :: w) = isBalanced k w := by
  rw [isBalanced.eq_def]
  simp [ho, hc]

/-- A balanced text after its first character. -/
theorem isBalanced_cons {k : Nat} {c : Char} {w : List Char} (h : isBalanced k (c :: w) = true) :
    c = '(' ∧ isBalanced (k + 1) w = true ∨
      c = ')' ∧ (∃ j, k = j + 1 ∧ isBalanced j w = true) ∨
        c ≠ '(' ∧ c ≠ ')' ∧ isBalanced k w = true := by
  by_cases ho : c = '('
  · subst ho
    exact .inl ⟨rfl, h⟩
  by_cases hc : c = ')'
  · subst hc
    cases k with
    | zero => cases h
    | succ k => exact .inr (.inl ⟨rfl, k, rfl, h⟩)
  · rw [isBalanced_other ho hc] at h
    exact .inr (.inr ⟨ho, hc, h⟩)

/-- The depth behind a character counts the parentheses that are still open. -/
theorem depthAfter_of_isBalanced {k : Nat} {c : Char} {w : List Char}
    (h : isBalanced k (c :: w) = true) :
    ∃ j : Nat, isBalanced j w = true ∧ (∀ d : Int, depthAfter (d + k) c = d + j) ∧
      (j = 0 → k = 0 ∨ c = ')') := by
  rcases isBalanced_cons h with ⟨rfl, hw⟩ | ⟨rfl, j, rfl, hw⟩ | ⟨ho, hc, hw⟩
  · exact ⟨k + 1, hw, fun d => by simp [depthAfter]; omega, by omega⟩
  · exact ⟨j, hw, fun d => by simp [depthAfter]; omega, fun _ => .inr rfl⟩
  · exact ⟨k, hw, fun d => by simp [depthAfter, ho, hc], .inl⟩

/-- A balanced text changes nothing about the parentheses that are open. -/
theorem isBalanced_append {j k : Nat} {u : List Char} (hu : isBalanced j u = true)
    (rest : List Char) : isBalanced (k + j) (u ++ rest) = isBalanced k rest := by
  induction u generalizing j with
  | nil =>
    have hj : j = 0 := by simpa [isBalanced] using hu
    simp [hj]
  | cons c u ih =>
    rw [List.cons_append]
    rcases isBalanced_cons hu with ⟨rfl, hw⟩ | ⟨rfl, i, rfl, hw⟩ | ⟨ho, hc, hw⟩
    · rw [isBalanced_open, Nat.add_assoc, ih hw]
    · rw [← Nat.add_assoc, isBalanced_close, ih hw]
    · rw [isBalanced_other ho hc, ih hw]

/-- The last character behind a first one. -/
theorem getLast?_cons_or (c : Char) (w : List Char) (before : Option Char) :
    (c :: w).getLast?.or before = w.getLast?.or (some c) := by
  cases w <;> simp [List.getLast?_cons]

/-- Text between parentheses that stay open stands in one part. -/
theorem splitFrom_inside {d : Int} (hd : 1 ≤ d) {k : Nat} {w : List Char}
    (hw : isBalanced k w = true) (before : Option Char) (rest : List Char) :
    splitFrom sep (d + k) before (w ++ rest) =
      splice [w] (splitFrom sep d (w.getLast?.or before) rest) := by
  induction w generalizing k before with
  | nil =>
    have hk : k = 0 := by simpa [isBalanced] using hw
    subst hk
    rw [splice_start (splitFrom_ne_nil _ _ _ _)]
    simp
  | cons c w ih =>
    -- The depth is `d` and the parentheses that `w` has still to close, so it is not zero here.
    obtain ⟨k', hw', hdepth, -⟩ := depthAfter_of_isBalanced hw
    rw [List.cons_append, splitFrom_of_not_sep (.inr (.inr (.inl (by omega)))), hdepth, ih hw',
      getLast?_cons_or, ← splice_assoc]
    rfl

/-- **A piece in parentheses is one part.** -/
theorem splits_wrapped {v : List Char} (hv : isBalanced 0 v = true) :
    Splits sep ('(' :: (v ++ [')'])) ['(' :: (v ++ [')'])] where
  ne_nil := by simp
  parts_ne_nil := by simp
  from_eq before rest := by
    have hopen : depthAfter 0 '(' = 1 := rfl
    have hclose : depthAfter 1 ')' = 0 := rfl
    have hin : splitFrom sep (1 + (0 : Nat)) (some '(') (v ++ ')' :: rest) = _ :=
      splitFrom_inside (by omega) hv (some '(') (')' :: rest)
    have hlast : ('(' :: (v ++ [')'])).getLast? = some ')' := by simp [List.getLast?_cons]
    rw [show ('(' :: (v ++ [')'])) ++ rest = '(' :: (v ++ ')' :: rest) by simp,
      splitFrom_of_not_sep (.inl rfl), hopen, show (1 : Int) = 1 + (0 : Nat) by rfl, hin,
      splitFrom_of_not_sep (.inr (.inl rfl)), hclose, hlast, ← splice_assoc, ← splice_assoc]
    rfl

/-- Text in which nothing separates stands in one part. -/
theorem splitFrom_plain {w : List Char} {before : Option Char} {rest : List Char}
    (h : ∀ x c y, w = x ++ c :: y →
      c ≠ '(' ∧ c ≠ ')' ∧ sep (x.getLast?.or before) c (y ++ rest).head? = false) :
    splitFrom sep 0 before (w ++ rest) =
      splice [w] (splitFrom sep 0 (w.getLast?.or before) rest) := by
  induction w generalizing before with
  | nil => rw [splice_start (splitFrom_ne_nil _ _ _ _)]; simp
  | cons c w ih =>
    obtain ⟨ho, hc, hsep⟩ := h [] c w rfl
    have hdepth : depthAfter 0 c = 0 := by simp [depthAfter, ho, hc]
    rw [List.cons_append, splitFrom_of_not_sep (.inr (.inr (.inr (by simpa using hsep)))), hdepth,
      ih, getLast?_cons_or, ← splice_assoc]
    · rfl
    · -- Behind `c`, the character before a place is looked for one character further back.
      intro x d y hw
      have hd := h (c :: x) d y (by rw [hw]; rfl)
      rwa [getLast?_cons_or] at hd

/-- **A piece in which nothing separates is one part.** -/
theorem splits_plain {w : List Char} (hne : w ≠ [])
    (h : ∀ x c y, w = x ++ c :: y → c ≠ '(' ∧ c ≠ ')' ∧
      ∀ before rest, sep (x.getLast?.or before) c (y ++ rest).head? = false) :
    Splits sep w [w] where
  ne_nil := hne
  parts_ne_nil := by simp
  from_eq before rest := by
    rw [splitFrom_plain fun x c y hw => ⟨(h x c y hw).1, (h x c y hw).2.1, (h x c y hw).2.2 _ _⟩,
      List.getLast?_eq_some_getLast hne]
    rfl

theorem getLast?_append_cons {v : List Char} (hv : v ≠ []) (u : List Char) (c : Char) :
    (u ++ c :: v).getLast? = v.getLast? := by
  obtain ⟨a, v, rfl⟩ := List.exists_cons_of_ne_nil hv
  simp [List.getLast?_append, List.getLast?_cons]

namespace Splits

variable {u v : List Char} {ps qs : List (List Char)} {c : Char}

/-- **A separator between two pieces** puts their parts side by side. -/
theorem separated (hu : Splits sep u ps) (hv : Splits sep v qs) (ho : c ≠ '(') (hc : c ≠ ')')
    (hsep : sep u.getLast? c v.head? = true) : Splits sep (u ++ c :: v) (ps ++ qs) where
  ne_nil := by simp
  parts_ne_nil := by simp [hu.parts_ne_nil]
  from_eq before rest := by
    have hhead : (v ++ rest).head? = v.head? := List.head?_append_of_ne_nil v hv.ne_nil
    rw [List.append_assoc, List.cons_append, hu.from_eq,
      splitFrom_of_sep ho hc (by rw [hhead]; exact hsep), hv.from_eq,
      getLast?_append_cons hv.ne_nil, splice_border hu.parts_ne_nil, append_splice _ hv.parts_ne_nil]

/-- **Any other character between two pieces** joins the last part of the first to the first part
of the second. -/
theorem fused (hu : Splits sep u ps) (hv : Splits sep v qs) (ho : c ≠ '(') (hc : c ≠ ')')
    (hsep : sep u.getLast? c v.head? = false) :
    Splits sep (u ++ c :: v) (splice ps (splice [[c]] qs)) where
  ne_nil := by simp
  parts_ne_nil := splice_ne_nil hu.parts_ne_nil _
  from_eq before rest := by
    have hdepth : depthAfter 0 c = 0 := by simp [depthAfter, ho, hc]
    have hhead : (v ++ rest).head? = v.head? := List.head?_append_of_ne_nil v hv.ne_nil
    rw [List.append_assoc, List.cons_append, hu.from_eq,
      splitFrom_of_not_sep (.inr (.inr (.inr (by rw [hhead]; exact hsep)))), hdepth,
      hv.from_eq, getLast?_append_cons hv.ne_nil, ← splice_assoc, ← splice_assoc, ← splice_assoc]

end Splits

/-- **From parts to texts.** If separators carry a property from two texts to the text with the
separator between them, then it holds of a text all of whose parts have it. Here `pre` is what was
read of the first part. -/
theorem of_splitFrom {P : List Char → Prop} (hnil : ¬ P [])
    (hjoin : ∀ u c v, P u → P v → sep u.getLast? c v.head? = true → P (u ++ c :: v))
    (depth : Int) (before : Option Char) (pre : List Char) {w : List Char}
    (hbefore : pre ≠ [] → before = pre.getLast?)
    (hparts : ∀ p ∈ splice [pre] (splitFrom sep depth before w), P p) : P (pre ++ w) := by
  induction w generalizing depth before pre with
  | nil => simpa [splitFrom, splice] using hparts
  | cons c w ih =>
    by_cases hstep : c = '(' ∨ c = ')' ∨ depth ≠ 0 ∨ sep before c w.head? = false
    · rw [splitFrom_of_not_sep hstep, ← splice_assoc] at hparts
      have hw := ih _ _ (pre ++ [c]) (by simp) hparts
      rwa [List.append_assoc] at hw
    · simp only [not_or, ne_eq, Decidable.not_not, Bool.not_eq_false] at hstep
      obtain ⟨ho, hc, rfl, hsep⟩ := hstep
      -- The first part ends here: it has the property, and the rest starts with an empty `pre`.
      rw [splitFrom_of_sep ho hc hsep, splice_border (by simp)] at hparts
      have hpre : P pre := hparts pre (by simp)
      have hne : pre ≠ [] := fun h => hnil (h ▸ hpre)
      have hw : P ([] ++ w) := by
        refine ih 0 (some c) [] (by simp) fun p hp => hparts p ?_
        rw [splice_start (splitFrom_ne_nil _ _ _ _)] at hp
        simp [hp]
      rw [hbefore hne] at hsep
      exact hjoin pre c w hpre hw hsep

/-- A text whose parts all have such a property has it. -/
theorem of_split {P : List Char → Prop} (hnil : ¬ P [])
    (hjoin : ∀ u c v, P u → P v → sep u.getLast? c v.head? = true → P (u ++ c :: v))
    {w : List Char} (hparts : ∀ p ∈ split sep w, P p) : P w := by
  refine of_splitFrom hnil hjoin 0 none [] (by simp) ?_
  rw [splice_start (splitFrom_ne_nil _ _ _ _)]
  exact hparts

/-- Text up to the place where its open parentheses are closed has no influence on whether the rest
closes at its end. -/
theorem closesAtEnd_append {d : Int} (hd : 1 ≤ d) {k : Nat} {v : List Char}
    (hv : isBalanced k v = true) (rest : List Char) :
    closesAtEnd (d + k) (v ++ rest) = closesAtEnd d rest := by
  induction v generalizing k with
  | nil =>
    have hk : k = 0 := by simpa [isBalanced] using hv
    simp [hk]
  | cons c v ih =>
    obtain ⟨k', hv', hdepth, -⟩ := depthAfter_of_isBalanced hv
    have hne : ((d + k' : Int) == 0) = false := by simp; omega
    rw [List.cons_append, closesAtEnd, hdepth, hne, ih hv']
    simp

/-- Parentheses that are closed before the end do not close at the end. -/
theorem closesAtEnd_of_early {k : Nat} (hk : k ≠ 0) {u : List Char} (hu : isBalanced k u = true)
    {v : List Char} (hv : v ≠ []) : closesAtEnd k (u ++ v) = false := by
  induction u generalizing k with
  | nil => simp [isBalanced, hk] at hu
  | cons c u ih =>
    obtain ⟨k', hu', hdepth, hzero⟩ := depthAfter_of_isBalanced hu
    have hd : depthAfter k c = k' := by simpa using hdepth 0
    rw [List.cons_append, closesAtEnd, hd]
    rcases Nat.eq_zero_or_pos k' with h0 | hpos
    · have hc : c = ')' := (hzero h0).resolve_left hk
      have hne : (u ++ v).isEmpty = false := by simp [hv]
      simp [h0, hc, hne]
    · have hne : ((k' : Int) == 0) = false := by simp; omega
      rw [hne, ih (by omega) hu']
      simp

/-- A text that does not begin with a parenthesis keeps all its characters. -/
theorem stripOuter_of_ne {a : Char} (ha : a ≠ '(') (w : List Char) :
    stripOuter (a :: w) = a :: w := by
  rw [stripOuter]
  simpa using ha

/-- A pair of parentheses around a balanced text is taken off. -/
theorem stripOuter_wrapped {v : List Char} (hv : isBalanced 0 v = true) :
    stripOuter ('(' :: (v ++ [')'])) = stripOuter v := by
  have hclose : closesAtEnd 1 (v ++ [')']) = true := by
    have happ : closesAtEnd (1 + (0 : Nat)) (v ++ [')']) = _ := closesAtEnd_append (by omega) hv _
    simpa [closesAtEnd, depthAfter] using happ
  rw [stripOuter, if_pos (by simp [hclose]), List.dropLast_concat]

/-- A text that goes on after a balanced beginning keeps all its parentheses. -/
theorem stripOuter_joined {u : List Char} (hne : u ≠ []) (hu : isBalanced 0 u = true) (c : Char)
    (v : List Char) : stripOuter (u ++ c :: v) = u ++ c :: v := by
  obtain ⟨a, u, rfl⟩ := List.exists_cons_of_ne_nil hne
  by_cases ha : a = '('
  · subst ha
    have hu1 : isBalanced 1 u = true := hu
    have hclose : closesAtEnd 1 (u ++ c :: v) = false :=
      closesAtEnd_of_early (by omega) hu1 (by simp)
    rw [List.cons_append, stripOuter, if_neg (by simp [hclose])]
  · exact stripOuter_of_ne ha _

end Chargen.Points
