import Chargen.Text.Range

/-!
# Blanks

A blank is a character with the property White_Space: the ASCII ones, the no-break space and the
spaces and separators of general punctuation. Every reader of this library skips exactly these.

* `strip` removes every blank; `trim` those at both ends.
* `words` are the maximal runs without blanks.
* `mem_strip`: what is left of a text has no blank.
-/

namespace Chargen.Text

/-- The blanks, as ascending ranges of code points. -/
def blankRanges : List (Nat × Nat) :=
  [(0x0009, 0x000D), (0x0020, 0x0020), (0x0085, 0x0085), (0x00A0, 0x00A0), (0x1680, 0x1680),
   (0x2000, 0x200A), (0x2028, 0x2029), (0x202F, 0x202F), (0x205F, 0x205F), (0x3000, 0x3000)]

/-- Whether a character is a blank. -/
def isBlank (c : Char) : Bool :=
  inRanges c.toNat blankRanges

/-- A text without its blanks. -/
def strip (cs : List Char) : List Char :=
  cs.filter fun c => !isBlank c

/-- A text without the blanks at its end. -/
def trimEnd : List Char → List Char
  | [] => []
  | c :: rest =>
    match trimEnd rest with
    | [] => if isBlank c then [] else [c]
    | kept => c :: kept

/-- A text without the blanks at both ends. -/
def trim (cs : List Char) : List Char :=
  trimEnd (cs.dropWhile isBlank)

/-- The pieces between blanks, empty ones included; never the empty list. -/
def pieces : List Char → List (List Char)
  | [] => [[]]
  | c :: rest =>
    if isBlank c then [] :: pieces rest
    else match pieces rest with
      | [] => [[c]]
      | piece :: others => (c :: piece) :: others

/-- The words of a text: the pieces between blanks that are not empty. -/
def words (cs : List Char) : List (List Char) :=
  (pieces cs).filter fun piece => !piece.isEmpty

/-- A text holds nothing but blanks. -/
def isBlankText (s : String) : Bool :=
  s.toList.all isBlank

/-- `trim` on strings. -/
def trimmed (s : String) : String :=
  String.ofList (trim s.toList)

/-- `strip` on strings. -/
def stripped (s : String) : String :=
  String.ofList (strip s.toList)

theorem mem_strip {c : Char} {cs : List Char} : c ∈ strip cs ↔ c ∈ cs ∧ isBlank c = false := by
  simp [strip]

/-- Stripping twice changes nothing more. -/
theorem strip_strip (cs : List Char) : strip (strip cs) = strip cs := by
  simp [strip]

/-- A text without blanks has none to be stripped. -/
theorem strip_of_forall {cs : List Char} (h : ∀ c ∈ cs, isBlank c = false) : strip cs = cs := by
  apply List.filter_eq_self.mpr
  intro c hc
  rw [h c hc]
  rfl

theorem mem_of_mem_trimEnd {c : Char} {cs : List Char} (h : c ∈ trimEnd cs) : c ∈ cs := by
  induction cs with
  | nil => cases h
  | cons d cs ih =>
    rw [trimEnd] at h
    split at h
    · split at h
      · cases h
      · exact List.mem_cons.mpr (.inl (List.mem_singleton.mp h))
    · rcases List.mem_cons.mp h with rfl | h
      · exact List.mem_cons_self
      · exact List.mem_cons_of_mem _ (ih h)

/-- Trimming adds no character. -/
theorem mem_of_mem_trim {c : Char} {cs : List Char} (h : c ∈ trim cs) : c ∈ cs :=
  (List.dropWhile_sublist isBlank).mem (mem_of_mem_trimEnd h)

/-- A text without blanks has none to be trimmed. -/
theorem trim_of_forall {cs : List Char} (h : ∀ c ∈ cs, isBlank c = false) : trim cs = cs := by
  have hend : ∀ ds : List Char, (∀ c ∈ ds, isBlank c = false) → trimEnd ds = ds := by
    intro ds hds
    induction ds with
    | nil => rfl
    | cons c ds ih =>
      rw [trimEnd, ih fun d hd => hds d (List.mem_cons_of_mem _ hd)]
      cases ds <;> simp [hds c]
  have hstart : cs.dropWhile isBlank = cs := by
    cases cs with
    | nil => rfl
    | cons c cs => rw [List.dropWhile_cons_of_neg (by simp [h c])]
  rw [trim, hstart, hend cs h]

end Chargen.Text
