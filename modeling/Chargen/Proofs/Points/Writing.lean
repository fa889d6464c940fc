import Chargen.Proofs.Numeral
import Chargen.Proofs.Points.Grammar

/-!
# Writing point formulas

An `Expr` is a point formula as it is meant: sums, choices and tokens to any depth, without numbers
of choices and without texts of options. `Expr.text` writes it, `Expr.tree` is the tree that it
should be read as, and `Expr.choices` lists the options of its choices in pre-order.

* `Expr.Legal.grammatical`: what is written belongs to the language of point formulas.
* `Expr.Legal.read_text`: reading undoes writing.
* `Expr.groupsFrom_tree`: the choices are numbered in pre-order.
* `parse_written`: **a written formula is read as what it means**, whatever blanks are put into it
  and however many parentheses are put around it.
-/

namespace Chargen.Points

/-- A point formula as it is meant. -/
inductive Expr where
  /-- a number -/
  | constant (n : Nat)
  /-- a characteristic -/
  | single (c : Characteristic)
  /-- a characteristic times a number -/
  | scaled (c : Characteristic) (factor : Nat)
  /-- terms to be added -/
  | sum (terms : List Expr)
  /-- branches to choose from -/
  | choice (branches : List Expr)

/-- A text in parentheses. -/
def enclose (w : List Char) : List Char :=
  '(' :: (w ++ [')'])

/-- A text, in parentheses if they are needed. -/
def encloseIf (needed : Bool) (w : List Char) : List Char :=
  if needed then enclose w else w

/-- A text in several pairs of parentheses. -/
def encloseTimes : Nat → List Char → List Char
  | 0, w => w
  | n + 1, w => enclose (encloseTimes n w)

/-- Texts with a character between neighbours. -/
def joinWith (c : Char) : List (List Char) → List Char
  | [] => []
  | [w] => w
  | w :: ws => w ++ c :: joinWith c ws

/-- A text `s` that is `w` with blanks put in anywhere. -/
inductive Spaced : List Char → List Char → Prop
  | nil : Spaced [] []
  | blank {b : Char} {w s : List Char} (hb : Text.isBlank b = true) (h : Spaced w s) :
      Spaced w (b :: s)
  | keep {w s : List Char} (c : Char) (h : Spaced w s) : Spaced (c :: w) (c :: s)

namespace Expr

/-- Numbers fit a sheet number, sums have two or more terms and choices two or more branches. -/
inductive Legal : Expr → Prop
  | constant {n : Nat} (hn : n ≤ 2147483647) : Legal (.constant n)
  | single (c : Characteristic) : Legal (.single c)
  | scaled (c : Characteristic) {n : Nat} (hn : n ≤ 2147483647) : Legal (.scaled c n)
  | sum {terms : List Expr} (h2 : 2 ≤ terms.length) (h : ∀ e ∈ terms, Legal e) : Legal (.sum terms)
  | choice {branches : List Expr} (h2 : 2 ≤ branches.length) (h : ∀ e ∈ branches, Legal e) :
      Legal (.choice branches)

/-- Whether an expression stands in parentheses as a term: sums and choices do. -/
def enclosedAsTerm : Expr → Bool
  | .sum _ => true
  | .choice _ => true
  | _ => false

/-- Whether an expression stands in parentheses as an option: all but a characteristic times a
number do. -/
def enclosedAsOption : Expr → Bool
  | .scaled _ _ => false
  | _ => true

mutual

/-- An expression as it is written. -/
def text : Expr → List Char
  | .constant n => Nat.toDigits 10 n
  | .single c => c.name.toList
  | .scaled c n => c.name.toList ++ 'x' :: Nat.toDigits 10 n
  | .sum terms => joinWith '+' (termTexts terms)
  | .choice branches => joinWith 'O' (optionTexts branches)

/-- The terms of a sum as they are written. -/
def termTexts : List Expr → List (List Char)
  | [] => []
  | e :: es => encloseIf e.enclosedAsTerm (text e) :: termTexts es

/-- The options of a choice as they are written. -/
def optionTexts : List Expr → List (List Char)
  | [] => []
  | e :: es => encloseIf e.enclosedAsOption (text e) :: optionTexts es

end

mutual

/-- The tree of an expression. -/
def tree : Expr → Tree
  | .constant n => .constant n
  | .single c => .single c
  | .scaled c n => .scaled c n
  | .sum terms => .sum (trees terms)
  | .choice branches => .choice ((optionTexts branches).map String.ofList) (trees branches)

/-- The trees of expressions. -/
def trees : List Expr → List Tree
  | [] => []
  | e :: es => tree e :: trees es

end

mutual

/-- The options of each choice in an expression as they are written, an outer choice before the
choices in its branches. -/
def choices : Expr → List (List String)
  | .sum terms => choicesAll terms
  | .choice branches => (optionTexts branches).map String.ofList :: choicesAll branches
  | _ => []

/-- The options of each choice in several expressions. -/
def choicesAll : List Expr → List (List String)
  | [] => []
  | e :: es => choices e ++ choicesAll es

end

/-- An expression as a term of a sum. -/
def termText (e : Expr) : List Char :=
  encloseIf e.enclosedAsTerm e.text

/-- An expression as an option of a choice. -/
def optionText (e : Expr) : List Char :=
  encloseIf e.enclosedAsOption e.text

theorem termTexts_eq_map (es : List Expr) : termTexts es = es.map termText := by
  induction es with
  | nil => rfl
  | cons e es ih => rw [termTexts, ih, List.map_cons, termText]

theorem optionTexts_eq_map (es : List Expr) : optionTexts es = es.map optionText := by
  induction es with
  | nil => rfl
  | cons e es ih => rw [optionTexts, ih, List.map_cons, optionText]

theorem trees_eq_map (es : List Expr) : trees es = es.map tree := by
  induction es with
  | nil => rfl
  | cons e es ih => rw [trees, ih, List.map_cons]

end Expr

/-! ### Joined pieces -/

section Joined

variable {sep : Option Char → Char → Option Char → Bool} {c : Char}

theorem head?_joinWith {w : List Char} (hw : w ≠ []) (ws : List (List Char)) :
    (joinWith c (w :: ws)).head? = w.head? := by
  cases ws with
  | nil => rfl
  | cons w' ws => rw [joinWith, List.head?_append_of_ne_nil _ hw]; simp

/-- **Pieces joined by a separator** are the parts of the text. -/
theorem Splits.joined (ho : c ≠ '(') (hc : c ≠ ')') {ws : List (List Char)} (hne : ws ≠ [])
    (hws : ∀ w ∈ ws, Splits sep w [w])
    (hsep : ∀ u ∈ ws, ∀ v ∈ ws, sep u.getLast? c v.head? = true) :
    Splits sep (joinWith c ws) ws := by
  induction ws with
  | nil => exact absurd rfl hne
  | cons w ws ih =>
    cases ws with
    | nil => exact hws w (by simp)
    | cons w' ws =>
      have htail : Splits sep (joinWith c (w' :: ws)) (w' :: ws) :=
        ih (by simp) (fun v hv => hws v (List.mem_cons_of_mem _ hv)) fun u hu v hv =>
          hsep u (List.mem_cons_of_mem _ hu) v (List.mem_cons_of_mem _ hv)
      -- The joined rest begins as its first piece does.
      refine (hws w (by simp)).separated htail ho hc ?_
      rw [head?_joinWith (hws w' (by simp)).ne_nil]
      exact hsep w (by simp) w' (by simp)

/-- Pieces joined by a character that separates nothing are one part. -/
theorem Splits.joined_one (ho : c ≠ '(') (hc : c ≠ ')') {ws : List (List Char)} (hne : ws ≠ [])
    (hws : ∀ w ∈ ws, Splits sep w [w]) (hsep : ∀ before after, sep before c after = false) :
    Splits sep (joinWith c ws) [joinWith c ws] := by
  induction ws with
  | nil => exact absurd rfl hne
  | cons w ws ih =>
    cases ws with
    | nil => exact hws w (by simp)
    | cons w' ws =>
      exact (hws w (by simp)).fused (ih (by simp) fun v hv => hws v (List.mem_cons_of_mem _ hv))
        ho hc (hsep _ _)

end Joined

/-- A join of two or more texts keeps all its parentheses. -/
theorem stripOuter_joinWith {c : Char} {ws : List (List Char)} (h2 : 2 ≤ ws.length)
    (hws : ∀ w ∈ ws, Grammatical w) : stripOuter (joinWith c ws) = joinWith c ws := by
  match ws with
  | w :: w' :: ws => exact stripOuter_joined (hws w (by simp)).ne_nil (hws w (by simp)).isBalanced c _

/-! ### What is written belongs to the language -/

theorem isKey_name (c : Characteristic) : IsKey c.name.toList where
  letters := by
    have hall : c.name.toList.all isPlainLetter = true := by cases c <;> decide
    exact List.all_eq_true.mp hall
  known := by rw [String.ofList_toList, Characteristic.ofKey?_name]; rfl

theorem isNumber_toDigits {n : Nat} (hn : n ≤ 2147483647) : IsNumber (Nat.toDigits 10 n) where
  ne_nil := Nat.toDigits_ne_nil
  digits _ hc := isPlainDigit_of_mem_toDigits hc
  value_le := by rw [digitsValue_toDigits]; exact hn

theorem grammatical_encloseIf {w : List Char} (hw : Grammatical w) (needed : Bool) :
    Grammatical (encloseIf needed w) := by
  unfold encloseIf
  split
  · exact .wrapped hw
  · exact hw

/-- Terms joined by `+` belong to the language. -/
theorem grammatical_terms {ws : List (List Char)} (hne : ws ≠ []) (hws : ∀ w ∈ ws, Grammatical w) :
    Grammatical (joinWith '+' ws) := by
  induction ws with
  | nil => exact absurd rfl hne
  | cons w ws ih =>
    cases ws with
    | nil => exact hws w (by simp)
    | cons w' ws =>
      exact .sum (hws w (by simp)) (ih (by simp) fun v hv => hws v (List.mem_cons_of_mem _ hv))

/-- Options joined by `O` belong to the language if neighbours meet. -/
theorem grammatical_options {ws : List (List Char)} (hne : ws ≠ [])
    (hws : ∀ w ∈ ws, Grammatical w) (hmeet : ∀ u ∈ ws, ∀ v ∈ ws, Meet u v) :
    Grammatical (joinWith 'O' ws) := by
  induction ws with
  | nil => exact absurd rfl hne
  | cons w ws ih =>
    cases ws with
    | nil => exact hws w (by simp)
    | cons w' ws =>
      have htail : Grammatical (joinWith 'O' (w' :: ws)) :=
        ih (by simp) (fun v hv => hws v (List.mem_cons_of_mem _ hv)) fun u hu v hv =>
          hmeet u (List.mem_cons_of_mem _ hu) v (List.mem_cons_of_mem _ hv)
      refine .choice (.inr rfl) (hws w (by simp)) htail ?_
      obtain ⟨b, a, hb, ha, h⟩ := hmeet w (by simp) w' (by simp)
      exact ⟨b, a, hb, by rw [head?_joinWith (hws w' (by simp)).ne_nil]; exact ha, h⟩

namespace Expr

/-- What is written without parentheses as a term is an atom. -/
theorem Legal.isAtom {e : Expr} (he : e.Legal) (h : e.enclosedAsTerm = false) : IsAtom e.text := by
  cases he with
  | constant hn => exact .constant (isNumber_toDigits hn)
  | single c => exact .single (isKey_name c)
  | scaled c hn => exact .scaled (isKey_name c) (.inl rfl) (isNumber_toDigits hn)
  | sum h2 hes => cases h
  | choice h2 hes => cases h

theorem enclosedAsTerm_of_option {e : Expr} (h : e.enclosedAsOption = false) :
    e.enclosedAsTerm = false := by
  cases e <;> first | rfl | cases h

/-- An option ends with a digit or `)`, and begins with a letter or `(`. -/
theorem Legal.optionText_ends {e : Expr} (he : e.Legal) :
    (∃ b, e.optionText.getLast? = some b ∧ (isPlainDigit b = true ∨ b = ')')) ∧
      ∃ a, e.optionText.head? = some a ∧ (isPlainLetter a = true ∨ a = '(') := by
  unfold optionText encloseIf
  cases henc : e.enclosedAsOption with
  | true =>
    rw [if_pos rfl, enclose]
    exact ⟨⟨')', by simp [List.getLast?_cons], .inr rfl⟩, '(', rfl, .inr rfl⟩
  | false =>
    rw [if_neg (by simp)]
    cases he with
    | @scaled c n hn =>
      have hdigits := isNumber_toDigits hn
      have hkey := isKey_name c
      rw [text]
      refine ⟨⟨_, ?_, .inl (hdigits.digits _ (List.getLast_mem hdigits.ne_nil))⟩,
        _, ?_, .inl (hkey.letters _ (List.head_mem hkey.ne_nil))⟩
      · rw [getLast?_append_cons hdigits.ne_nil, List.getLast?_eq_some_getLast hdigits.ne_nil]
      · rw [List.head?_append_of_ne_nil _ hkey.ne_nil, List.head?_eq_some_head hkey.ne_nil]
    | constant hn => cases henc
    | single c => cases henc
    | sum h2 hes => cases henc
    | choice h2 hes => cases henc

theorem Legal.meet {e f : Expr} (he : e.Legal) (hf : f.Legal) :
    Meet e.optionText f.optionText := by
  obtain ⟨⟨b, hb, hbend⟩, -⟩ := he.optionText_ends
  obtain ⟨-, a, ha, hastart⟩ := hf.optionText_ends
  exact ⟨b, a, hb, ha, .inl ⟨hbend, hastart⟩⟩

/-- **What is written belongs to the language.** -/
theorem Legal.grammatical {e : Expr} (he : e.Legal) : Grammatical e.text := by
  induction he with
  | constant hn => exact .atom (.constant (isNumber_toDigits hn))
  | single c => exact .atom (.single (isKey_name c))
  | scaled c hn => exact .atom (.scaled (isKey_name c) (.inl rfl) (isNumber_toDigits hn))
  | @sum terms h2 hes ih =>
    rw [text, termTexts_eq_map]
    refine grammatical_terms ?_ ?_
    · rintro h
      rw [List.map_eq_nil_iff] at h
      simp [h] at h2
    · intro w hw
      obtain ⟨e, he, rfl⟩ := List.mem_map.mp hw
      exact grammatical_encloseIf (ih e he) _
  | @choice branches h2 hes ih =>
    rw [text, optionTexts_eq_map]
    refine grammatical_options ?_ ?_ ?_
    · rintro h
      rw [List.map_eq_nil_iff] at h
      simp [h] at h2
    · intro w hw
      obtain ⟨e, he, rfl⟩ := List.mem_map.mp hw
      exact grammatical_encloseIf (ih e he) _
    · intro u hu v hv
      obtain ⟨e, he, rfl⟩ := List.mem_map.mp hu
      obtain ⟨f, hf, rfl⟩ := List.mem_map.mp hv
      exact (hes e he).meet (hes f hf)

variable {sep : Option Char → Char → Option Char → Bool}

/-- What is enclosed unless it is an atom stands in one part. -/
theorem Legal.splits_encloseIf (hatom : ∀ w, IsAtom w → Splits sep w [w]) {e : Expr}
    (he : e.Legal) {needed : Bool} (hneeded : needed = false → e.enclosedAsTerm = false) :
    Splits sep (encloseIf needed e.text) [encloseIf needed e.text] := by
  cases needed with
  | true => exact splits_wrapped he.grammatical.isBalanced
  | false => exact hatom _ (he.isAtom (hneeded rfl))

/-- A term stands in one part. -/
theorem Legal.splits_termText (hatom : ∀ w, IsAtom w → Splits sep w [w]) {e : Expr}
    (he : e.Legal) : Splits sep e.termText [e.termText] :=
  he.splits_encloseIf hatom id

/-- An option stands in one part. -/
theorem Legal.splits_optionText (hatom : ∀ w, IsAtom w → Splits sep w [w]) {e : Expr}
    (he : e.Legal) : Splits sep e.optionText [e.optionText] :=
  he.splits_encloseIf hatom enclosedAsTerm_of_option

end Expr

/-! ### Reading what is written -/

/-- Reading a text that splits at `+`. -/
theorem read_of_terms {w : List Char} (h : 1 < (split isPlus (stripOuter w)).length) :
    read w = .sum ((split isPlus (stripOuter w)).map read) := by
  rw [read, dif_pos h, List.attach_map_val]

/-- Reading a text that splits at `o` only. -/
theorem read_of_options {w : List Char} (hone : ¬ 1 < (split isPlus (stripOuter w)).length)
    (h : 1 < (split isOr (stripOuter w)).length) :
    read w = .choice ((split isOr (stripOuter w)).map String.ofList)
      ((split isOr (stripOuter w)).map read) := by
  rw [read, dif_neg hone, dif_pos h, List.attach_map_val]

/-- Reading a text that does not split. -/
theorem read_of_atom {w : List Char} (hw : IsAtom w) : read w = readAtom w := by
  have hstrip : stripOuter w = w := by
    obtain ⟨a, w, rfl⟩ := List.exists_cons_of_ne_nil hw.ne_nil
    exact stripOuter_of_ne (hw.ne_of_mem (by simp)).1 w
  rw [read, hstrip, dif_neg (by simp [hw.splits_isPlus.split_eq]),
    dif_neg (by simp [hw.splits_isOr.split_eq])]

/-- Wrapping parentheses make no difference. -/
theorem read_enclose {w : List Char} (hw : isBalanced 0 w = true) : read (enclose w) = read w := by
  rw [read, read, enclose, stripOuter_wrapped hw]

theorem read_encloseIf {w : List Char} (hw : Grammatical w) (needed : Bool) :
    read (encloseIf needed w) = read w := by
  unfold encloseIf
  split
  · exact read_enclose hw.isBalanced
  · rfl

namespace Expr

/-- The terms of a sum are found again. -/
theorem split_termTexts {terms : List Expr} (h2 : 2 ≤ terms.length) (h : ∀ e ∈ terms, Legal e) :
    split isPlus (stripOuter (joinWith '+' (termTexts terms))) = terms.map termText := by
  have hlen : (terms.map termText).length = terms.length := List.length_map ..
  have hgram : ∀ w ∈ terms.map termText, Grammatical w := by
    intro w hw
    obtain ⟨e, he, rfl⟩ := List.mem_map.mp hw
    exact grammatical_encloseIf (h e he).grammatical _
  have hsplits : ∀ w ∈ terms.map termText, Splits isPlus w [w] := by
    intro w hw
    obtain ⟨e, he, rfl⟩ := List.mem_map.mp hw
    exact (h e he).splits_termText fun _ hatom => hatom.splits_isPlus
  rw [termTexts_eq_map, stripOuter_joinWith (by omega) hgram]
  refine (Splits.joined (by decide) (by decide) ?_ hsplits fun _ _ _ _ => rfl).split_eq
  exact List.ne_nil_of_length_pos (by omega)

/-- No option of a choice is taken apart at a `+`, and the options are found again. -/
theorem split_optionTexts {branches : List Expr} (h2 : 2 ≤ branches.length)
    (h : ∀ e ∈ branches, Legal e) :
    split isPlus (stripOuter (joinWith 'O' (optionTexts branches))) =
        [joinWith 'O' (optionTexts branches)] ∧
      split isOr (stripOuter (joinWith 'O' (optionTexts branches))) = branches.map optionText := by
  have hlen : (branches.map optionText).length = branches.length := List.length_map ..
  have hne : branches.map optionText ≠ [] := List.ne_nil_of_length_pos (by omega)
  have hgram : ∀ w ∈ branches.map optionText, Grammatical w := by
    intro w hw
    obtain ⟨e, he, rfl⟩ := List.mem_map.mp hw
    exact grammatical_encloseIf (h e he).grammatical _
  rw [optionTexts_eq_map, stripOuter_joinWith (by omega) hgram]
  constructor
  · refine (Splits.joined_one (by decide) (by decide) hne ?_ fun _ _ => rfl).split_eq
    intro w hw
    obtain ⟨e, he, rfl⟩ := List.mem_map.mp hw
    exact (h e he).splits_optionText fun _ hatom => hatom.splits_isPlus
  · refine (Splits.joined (by decide) (by decide) hne ?_ ?_).split_eq
    · intro w hw
      obtain ⟨e, he, rfl⟩ := List.mem_map.mp hw
      exact (h e he).splits_optionText fun _ hatom => hatom.splits_isOr
    · intro u hu v hv
      rw [Grammatical.isOr_iff (hgram u hu) (hgram v hv) (.inr rfl)]
      obtain ⟨e, he, rfl⟩ := List.mem_map.mp hu
      obtain ⟨f, hf, rfl⟩ := List.mem_map.mp hv
      exact (h e he).meet (h f hf)

/-- **Reading undoes writing.** -/
theorem Legal.read_text {e : Expr} (he : e.Legal) : read e.text = e.tree := by
  induction he with
  | @constant n hn =>
    rw [text, read_of_atom (.constant (isNumber_toDigits hn)), tree]
    exact readAtom_constant (numeral?_toDigits (by rw [numberLimit]; omega))
  | single c =>
    rw [text, read_of_atom (.single (isKey_name c)), tree]
    refine readAtom_single (isKey_name c).letters ?_
    rw [String.ofList_toList, Characteristic.ofKey?_name]
  | @scaled c n hn =>
    rw [text, read_of_atom (.scaled (isKey_name c) (.inl rfl) (isNumber_toDigits hn)), tree]
    refine readAtom_scaled (isKey_name c).letters ?_ rfl
      (numeral?_toDigits (by rw [numberLimit]; omega))
    rw [String.ofList_toList, Characteristic.ofKey?_name]
  | @sum terms h2 hes ih =>
    have hsplit := split_termTexts h2 hes
    have hread : (terms.map termText).map read = terms.map tree := by
      rw [List.map_map]
      exact List.map_congr_left fun e he =>
        (read_encloseIf (hes e he).grammatical _).trans (ih e he)
    rw [text, read_of_terms (by rw [hsplit, List.length_map]; omega), hsplit, hread, tree,
      trees_eq_map]
  | @choice branches h2 hes ih =>
    -- A choice is only looked for where nothing splits at `+`.
    obtain ⟨hone, hsplit⟩ := split_optionTexts h2 hes
    have hread : (branches.map optionText).map read = branches.map tree := by
      rw [List.map_map]
      exact List.map_congr_left fun e he =>
        (read_encloseIf (hes e he).grammatical _).trans (ih e he)
    rw [text, read_of_options (by rw [hone]; simp) (by rw [hsplit, List.length_map]; omega),
      hsplit, hread, tree, trees_eq_map, optionTexts_eq_map]

/-! ### The choices of a written formula -/

mutual

theorem choiceCount_tree (e : Expr) : e.tree.choiceCount = e.choices.length := by
  cases e with
  | constant n => rfl
  | single c => rfl
  | scaled c n => rfl
  | sum terms => exact choiceCountAll_trees terms
  | choice branches =>
    rw [tree, Tree.choiceCount, choices, List.length_cons, choiceCountAll_trees branches]

theorem choiceCountAll_trees (es : List Expr) :
    Tree.choiceCountAll (trees es) = (choicesAll es).length := by
  cases es with
  | nil => rfl
  | cons e es =>
    rw [trees, Tree.choiceCountAll, choicesAll, List.length_append, choiceCount_tree e,
      choiceCountAll_trees es]

end

/-- Choices numbered from `k` on. -/
def numbered (k : Nat) (options : List (List String)) : List ChoiceGroup :=
  (options.zipIdx k).map fun p => ⟨p.2, p.1⟩

theorem numbered_append (k : Nat) (xs ys : List (List String)) :
    numbered k (xs ++ ys) = numbered k xs ++ numbered (k + xs.length) ys := by
  rw [numbered, List.zipIdx_append, List.map_append]
  rfl

mutual

/-- The groups of a tree are its choices in pre-order. -/
theorem groupsFrom_tree (e : Expr) (k : Nat) : e.tree.groupsFrom k = numbered k e.choices := by
  cases e with
  | constant n => rfl
  | single c => rfl
  | scaled c n => rfl
  | sum terms => exact groupsFromAll_trees terms k
  | choice branches =>
    rw [tree, Tree.groupsFrom, choices, groupsFromAll_trees branches]
    rfl

theorem groupsFromAll_trees (es : List Expr) (k : Nat) :
    Tree.groupsFromAll k (trees es) = numbered k (choicesAll es) := by
  cases es with
  | nil => rfl
  | cons e es =>
    rw [trees, Tree.groupsFromAll, choicesAll, numbered_append, groupsFrom_tree e,
      groupsFromAll_trees es, choiceCount_tree]

end

end Expr

/-! ### Parentheses around a formula and blanks in it -/

section Surroundings

variable {w s : List Char}

theorem grammatical_encloseTimes (hw : Grammatical w) (n : Nat) :
    Grammatical (encloseTimes n w) := by
  induction n with
  | zero => exact hw
  | succ n ih => exact .wrapped ih

theorem read_encloseTimes (hw : Grammatical w) (n : Nat) : read (encloseTimes n w) = read w := by
  induction n with
  | zero => rfl
  | succ n ih =>
    rw [encloseTimes, read_enclose (grammatical_encloseTimes hw n).isBalanced, ih]

/-- Stripping takes out the blanks that were put in. -/
theorem Spaced.strip_eq (h : Spaced w s) (hw : ∀ c ∈ w, Text.isBlank c = false) :
    Text.strip s = w := by
  induction h with
  | nil => rfl
  | blank hb h ih =>
    rw [Text.strip, List.filter_cons_of_neg (by simp [hb])]
    exact ih hw
  | keep c h ih =>
    rw [Text.strip, List.filter_cons_of_pos (by simp [hw c])]
    exact congrArg (c :: ·) (ih fun d hd => hw d (List.mem_cons_of_mem _ hd))

end Surroundings

/-- A text is what is left of it, with its blanks put back in. -/
theorem Spaced.of_strip (s : List Char) : Spaced (Text.strip s) s := by
  induction s with
  | nil => exact .nil
  | cons c s ih =>
    cases hc : Text.isBlank c with
    | true =>
      rw [Text.strip, List.filter_cons_of_neg (by simp [hc])]
      exact .blank hc ih
    | false =>
      rw [Text.strip, List.filter_cons_of_pos (by simp [hc])]
      exact .keep c ih

/-- **A written formula is read as what it means**: with blanks put in anywhere and `n` more pairs
of parentheses around it, its tree and its choices are those of the expression, the choices are
numbered in pre-order from 0, and the strict test accepts it. -/
theorem parse_written {e : Expr} (he : e.Legal) (n : Nat) {text : String}
    (h : Spaced (encloseTimes n e.text) text.toList) :
    (Formula.parse text).tree = e.tree ∧
      (Formula.parse text).groups = (e.choices.zipIdx.map fun p => ⟨p.2, p.1⟩) ∧
      (Formula.parse text).choiceCount = e.choices.length ∧
      (Formula.parse text).check = .ok () := by
  have hgram : Grammatical (encloseTimes n e.text) := grammatical_encloseTimes he.grammatical n
  have hstrip : Text.strip text.toList = encloseTimes n e.text :=
    h.strip_eq fun _ hc => hgram.isBlank_of_mem hc
  have htree : (Formula.parse text).tree = e.tree := by
    rw [Formula.parse, hstrip, read_encloseTimes he.grammatical, he.read_text]
  refine ⟨htree, ?_, ?_, check_of_grammatical (by rw [hstrip]; exact hgram)⟩
  · rw [Formula.groups, htree]
    exact Expr.groupsFrom_tree e 0
  · rw [Formula.choiceCount, htree, Expr.choiceCount_tree]

/-- A sum with a choice in a choice, in one more pair of parentheses and with blanks. -/
theorem parse_written_nested :
    (Formula.parse " ( EDU x2 + (DESx2 O ((PO D) O (4 + CON))) ) ").tree =
        .sum [.scaled .edu 2, .choice ["DESx2", "((POD)O(4+CON))"] [.scaled .des 2,
          .choice ["(POD)", "(4+CON)"] [.single .pod, .sum [.constant 4, .single .con]]]] ∧
      (Formula.parse " ( EDU x2 + (DESx2 O ((PO D) O (4 + CON))) ) ").groups =
        [⟨0, ["DESx2", "((POD)O(4+CON))"]⟩, ⟨1, ["(POD)", "(4+CON)"]⟩] ∧
      (Formula.parse " ( EDU x2 + (DESx2 O ((PO D) O (4 + CON))) ) ").choiceCount = 2 ∧
      (Formula.parse " ( EDU x2 + (DESx2 O ((PO D) O (4 + CON))) ) ").check = .ok () := by
  have hterms : Expr.Legal (.sum [.constant 4, .single .con]) :=
    .sum (by decide) (by simp [Expr.Legal.single, Expr.Legal.constant])
  have hinner : Expr.Legal (.choice [.single .pod, .sum [.constant 4, .single .con]]) :=
    .choice (by decide) (by simp [hterms, Expr.Legal.single])
  have houter : Expr.Legal (.choice [.scaled .des 2,
      .choice [.single .pod, .sum [.constant 4, .single .con]]]) :=
    .choice (by decide) (by simp [hinner, Expr.Legal.scaled])
  have hlegal : Expr.Legal (.sum [.scaled .edu 2, .choice [.scaled .des 2,
      .choice [.single .pod, .sum [.constant 4, .single .con]]]]) :=
    .sum (by decide) (by simp [houter, Expr.Legal.scaled])
  have hstrip : Text.strip " ( EDU x2 + (DESx2 O ((PO D) O (4 + CON))) ) ".toList =
      encloseTimes 1 (Expr.text (.sum [.scaled .edu 2,
        .choice [.scaled .des 2, .choice [.single .pod, .sum [.constant 4, .single .con]]]])) := by
    decide +kernel
  exact parse_written hlegal 1 (hstrip ▸ Spaced.of_strip _)

end Chargen.Points
