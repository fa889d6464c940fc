/-!
# Splitting at the top level

A text is split at its separators that stand outside all parentheses. Depth counts the parentheses
open at a place; a closing one without a partner makes it negative, and nothing splits there.

* `stripOuter` takes off pairs of parentheses that wrap the whole text.
* `length_add_length_split`: a split keeps every character but the separators, so each of two or
  more parts is shorter than the text.
-/

namespace Chargen.Points

/-- The depth after a character. -/
def depthAfter (depth : Int) (c : Char) : Int :=
  if c == '(' then depth + 1 else if c == ')' then depth - 1 else depth

/-- Whether a text, begun at some depth, closes its parentheses at its very end and not before. -/
def closesAtEnd (depth : Int) : List Char → Bool
  | [] => depth == 0
  | c :: rest =>
    if c == ')' && depthAfter depth c == 0 && !rest.isEmpty then false
    else closesAtEnd (depthAfter depth c) rest

/-- A text without the pairs of parentheses that wrap it as a whole. -/
def stripOuter : List Char → List Char
  | '(' :: rest =>
    if rest.getLast? == some ')' && closesAtEnd 1 rest then stripOuter rest.dropLast
    else '(' :: rest
  | cs => cs
termination_by cs => cs.length
decreasing_by simp only [List.length_dropLast, List.length_cons]; omega

/-- A character put before the first part of a split. -/
def consFirst (c : Char) : List (List Char) → List (List Char)
  | [] => [[c]]
  | part :: others => (c :: part) :: others

/-- The parts of a text between the separators at depth zero; never the empty list. A separator is
known by the character before it, itself and the character after it. -/
def splitFrom (isSeparator : Option Char → Char → Option Char → Bool) (depth : Int)
    (before : Option Char) : List Char → List (List Char)
  | [] => [[]]
  | c :: rest =>
    if c == '(' || c == ')' then
      consFirst c (splitFrom isSeparator (depthAfter depth c) (some c) rest)
    else if depth == 0 && isSeparator before c rest.head? then
      [] :: splitFrom isSeparator depth (some c) rest
    else consFirst c (splitFrom isSeparator depth (some c) rest)

/-- The parts of a whole text. -/
def split (isSeparator : Option Char → Char → Option Char → Bool) (cs : List Char) :
    List (List Char) :=
  splitFrom isSeparator 0 none cs

theorem length_stripOuter_le (cs : List Char) : (stripOuter cs).length ≤ cs.length := by
  fun_induction stripOuter cs with
  | case1 rest _ ih => simp only [List.length_dropLast, List.length_cons] at ih ⊢; omega
  | case2 rest _ => exact Nat.le_refl _
  | case3 cs _ => exact Nat.le_refl _

theorem length_consFirst (c : Char) (parts : List (List Char)) :
    (consFirst c parts).flatten.length + (consFirst c parts).length =
      parts.flatten.length + parts.length + 1 + (if parts = [] then 1 else 0) := by
  cases parts with
  | nil => rfl
  | cons part others =>
    simp only [consFirst, List.flatten_cons, List.length_append, List.length_cons, reduceCtorEq,
      ite_false]
    omega

theorem splitFrom_ne_nil (isSeparator : Option Char → Char → Option Char → Bool) (depth : Int)
    (before : Option Char) (cs : List Char) : splitFrom isSeparator depth before cs ≠ [] := by
  cases cs with
  | nil => simp [splitFrom]
  | cons c rest =>
    have hc : ∀ parts, consFirst c parts ≠ [] := fun parts => by cases parts <;> simp [consFirst]
    rw [splitFrom]
    split
    · exact hc _
    · split
      · simp
      · exact hc _

/-- The parts of a split and its separators add up to the text. -/
theorem length_add_length_splitFrom (isSeparator : Option Char → Char → Option Char → Bool)
    (depth : Int) (before : Option Char) (cs : List Char) :
    (splitFrom isSeparator depth before cs).flatten.length +
      (splitFrom isSeparator depth before cs).length = cs.length + 1 := by
  induction cs generalizing depth before with
  | nil => rfl
  | cons c rest ih =>
    rw [splitFrom]
    split
    · rw [length_consFirst, ih, if_neg (splitFrom_ne_nil _ _ _ _)]; rfl
    · split
      · simp only [List.flatten_cons, List.nil_append, List.length_cons]
        have := ih depth (some c)
        omega
      · rw [length_consFirst, ih, if_neg (splitFrom_ne_nil _ _ _ _)]; rfl

theorem length_le_flatten_of_mem {part : List Char} {parts : List (List Char)} (h : part ∈ parts) :
    part.length ≤ parts.flatten.length := by
  induction parts with
  | nil => cases h
  | cons p others ih =>
    rw [List.flatten_cons, List.length_append]
    rcases List.mem_cons.mp h with rfl | h
    · omega
    · have := ih h
      omega

/-- Each of two or more parts is shorter than the text. -/
theorem length_lt_of_mem_split {isSeparator : Option Char → Char → Option Char → Bool}
    {cs part : List Char} (h : 1 < (split isSeparator cs).length)
    (hp : part ∈ split isSeparator cs) : part.length < cs.length := by
  have hsum := length_add_length_splitFrom isSeparator 0 none cs
  have hle : part.length ≤ (split isSeparator cs).flatten.length := length_le_flatten_of_mem hp
  unfold split at h hle
  omega

end Chargen.Points
