import Chargen.Proofs.SkillName

/-!
# Alternatives of an entry

An entry is divided at every word `o` between blanks, while keys are made of whole names. A solid
text of several characters survives both: it stands in a key exactly if it stands in the folded name,
and in an entry exactly if it stands in one of the parts. The mark of an entry that offers any skill
is such a text.

* `infix_keyChars_iff`: a solid text in a key.
* `splitOr_cases`: what is divided off first.
* `alternatives_of_not_hasOr`: **a name without the word `o` offers itself and nothing else**.
* `exists_isWildcard_iff`: **an entry offers any skill exactly if one of its alternatives does**.
* `family?_eq_none_of_key`: a name whose key has no opening parenthesis has no family.
-/

namespace Chargen.SkillName

/-! ### Solid texts in keys -/

/-- A blank keeps a character when accents are dropped. -/
theorem fold_ne_nil_of_isBlank {b : Char} (hb : Text.isBlank b = true) : fold b ≠ [] := by
  have hfold : (!(fold b).isEmpty) = true :=
    Text.of_isBlank (p := fun d => !(fold d).isEmpty) (by decide +kernel) hb
  simpa using hfold

/-- A solid text does not reach across folded blanks. -/
theorem infix_fold_blanks_iff {w bs : List Char} (hw : Text.Solid w) (hne : bs ≠ [])
    (hbs : ∀ b ∈ bs, Text.isBlank b = true) {xs ys : List Char} :
    w <:+: xs ++ (bs.flatMap fold ++ ys) ↔ w <:+: xs ∨ w <:+: ys := by
  refine hw.infix_blanks_iff (isBlank_of_mem_flatMap_fold hbs) ?_ xs ys
  obtain ⟨b, bs, rfl⟩ := List.exists_cons_of_ne_nil hne
  simp [fold_ne_nil_of_isBlank (hbs b List.mem_cons_self)]

theorem infix_joinWords_iff {w : List Char} (hw : Text.Solid w) (ws : List (List Char)) :
    w <:+: joinWords ws ↔ ∃ word ∈ ws, w <:+: word := by
  induction ws with
  | nil => simpa [joinWords] using hw.ne_nil
  | cons first others ih =>
    cases others with
    | nil => simp [joinWords]
    | cons second others =>
      rw [joinWords, hw.infix_blank_iff (by decide), ih]
      · simp
      · simp

/-- **A solid text stands in a key exactly if it stands in the folded name.** -/
theorem infix_keyChars_iff {w : List Char} (hw : Text.Solid w) (cs : List Char) :
    w <:+: keyChars cs ↔ w <:+: cs.flatMap fold := by
  rw [keyChars, infix_joinWords_iff hw, hw.infix_words_iff]

theorem hasInfix_iff {part cs : List Char} : hasInfix part cs = true ↔ part <:+: cs := by
  induction cs with
  | nil => simp [hasInfix]
  | cons c rest ih =>
    rw [hasInfix, Bool.or_eq_true, ih, List.isPrefixOf_iff_prefix, List.infix_cons_iff]

theorem solid_wildcardMark : Text.Solid wildcardMark.toList :=
  .of_all (by decide) (by decide)

theorem isWildcard_iff (entry : String) :
    isWildcard entry = true ↔ wildcardMark.toList <:+: entry.toList.flatMap fold := by
  rw [isWildcard, hasInfix_iff, key, String.toList_ofList, infix_keyChars_iff solid_wildcardMark]

/-! ### Dividing an entry -/

/-- The word `o` with the blanks on both sides. -/
def IsOr (sep : List Char) : Prop :=
  ∃ front o back, sep = front ++ o :: back ∧ (o = 'o' ∨ o = 'O') ∧
    (front ≠ [] ∧ ∀ b ∈ front, Text.isBlank b = true) ∧ back ≠ [] ∧ ∀ b ∈ back, Text.isBlank b = true

/-- A text with the word `o` between blanks. -/
def HasOr (cs : List Char) : Prop :=
  ∃ part sep rest, cs = part ++ sep ++ rest ∧ IsOr sep

theorem exists_of_afterOr? {c : Char} {rest after : List Char} (hc : Text.isBlank c = true)
    (h : afterOr? (c :: rest) = some after) : ∃ sep, c :: rest = sep ++ after ∧ IsOr sep := by
  have htake := List.takeWhile_append_dropWhile (p := Text.isBlank) (l := c :: rest)
  unfold afterOr? at h
  split at h
  · next o b tail hdrop =>
    split at h
    · next ho =>
      cases h
      rw [Bool.and_eq_true, Bool.or_eq_true, beq_iff_eq, beq_iff_eq] at ho
      obtain ⟨ho, hb⟩ := ho
      refine ⟨(c :: rest).takeWhile Text.isBlank ++ o :: b :: tail.takeWhile Text.isBlank, ?_,
        _, o, _, rfl, ho, ⟨?_, fun d hd => List.mem_takeWhile_imp hd⟩, by simp, ?_⟩
      · rw [List.append_assoc, List.cons_append, List.cons_append,
          List.takeWhile_append_dropWhile, ← hdrop, htake]
      · simp [hc]
      · intro d hd
        rcases List.mem_cons.mp hd with rfl | hd
        · exact hb
        · exact List.mem_takeWhile_imp hd
    · cases h
  · cases h

/-- **What is divided off first**: nothing, or a part up to a word `o`. -/
theorem splitOr_cases (cs : List Char) : splitOr cs = [cs] ∨
    ∃ part sep rest, cs = part ++ sep ++ rest ∧ IsOr sep ∧ splitOr cs = part :: splitOr rest := by
  induction cs with
  | nil => exact .inl (by rw [splitOr])
  | cons c rest ih =>
    rw [splitOr]
    split
    · next after found =>
      split at found
      · next hc =>
        obtain ⟨sep, hsep, hor⟩ := exists_of_afterOr? hc found
        exact .inr ⟨[], sep, after, hsep, hor, rfl⟩
      · cases found
    · rcases ih with h | ⟨part, sep, rest', hrest, hor, h⟩
      · rw [h]
        exact .inl rfl
      · rw [h]
        exact .inr ⟨c :: part, sep, rest', by rw [hrest]; rfl, hor, rfl⟩

theorem splitOr_of_not_hasOr {cs : List Char} (h : ¬ HasOr cs) : splitOr cs = [cs] := by
  rcases splitOr_cases cs with hsplit | ⟨part, sep, rest, hcs, hor, -⟩
  · exact hsplit
  · exact absurd ⟨part, sep, rest, hcs, hor⟩ h

theorem mem_alternatives {entry alternative : String} : alternative ∈ alternatives entry ↔
    ∃ part ∈ splitOr entry.toList, Text.trim part ≠ [] ∧
      alternative = String.ofList (Text.trim part) := by
  rw [alternatives, List.mem_map]
  constructor
  · rintro ⟨trimmed, htrimmed, rfl⟩
    obtain ⟨hmem, hne⟩ := List.mem_filter.mp htrimmed
    obtain ⟨part, hpart, rfl⟩ := List.mem_map.mp hmem
    exact ⟨part, hpart, by simpa using hne, rfl⟩
  · rintro ⟨part, hpart, hne, rfl⟩
    refine ⟨_, List.mem_filter.mpr ⟨List.mem_map_of_mem hpart, ?_⟩, rfl⟩
    simpa using hne

/-- **A name without the word `o` offers itself and nothing else.** -/
theorem alternatives_of_not_hasOr {name : String} (hor : ¬ HasOr name.toList)
    (htrim : Text.trimmed name = name) (hne : name ≠ "") : alternatives name = [name] := by
  have hchars : Text.trim name.toList = name.toList := by
    rw [← String.toList_ofList (l := Text.trim name.toList), ← Text.trimmed, htrim]
  have hne' : name.toList ≠ [] := by simpa using hne
  rw [alternatives, splitOr_of_not_hasOr hor, List.map_singleton, hchars,
    List.filter_cons_of_pos (by simpa using hne'), List.filter_nil, List.map_singleton,
    String.ofList_toList]

/-! ### Entries that offer any skill -/

/-- A solid text of several characters lies on one side of a word `o`. -/
theorem infix_fold_or_iff {w sep : List Char} (hw : Text.Solid w) (hlength : 1 < w.length)
    (hsep : IsOr sep) (xs ys : List Char) : w <:+: (xs ++ sep ++ ys).flatMap fold ↔
      w <:+: xs.flatMap fold ∨ w <:+: ys.flatMap fold := by
  obtain ⟨front, o, back, rfl, ho, ⟨hfront, hfrontBlank⟩, hback, hbackBlank⟩ := hsep
  have hfold : fold o = ['o'] := by
    rcases ho with rfl | rfl <;> decide +kernel
  have hshort : ¬ w <:+: ['o'] := by
    intro h
    have hle := h.length_le
    simp at hle
    omega
  -- Folding keeps the word `o` between blanks, and the text is too long to be that word.
  have hchars : (xs ++ (front ++ o :: back) ++ ys).flatMap fold = xs.flatMap fold ++
      (front.flatMap fold ++ (['o'] ++ (back.flatMap fold ++ ys.flatMap fold))) := by
    simp [hfold]
  rw [hchars, infix_fold_blanks_iff hw hfront hfrontBlank,
    infix_fold_blanks_iff hw hback hbackBlank]
  simp [hshort]

theorem exists_infix_splitOr_iff {w : List Char} (hw : Text.Solid w) (hlength : 1 < w.length)
    (cs : List Char) :
    (∃ part ∈ splitOr cs, w <:+: part.flatMap fold) ↔ w <:+: cs.flatMap fold := by
  -- On the length: the rest after the first word `o` is divided again.
  induction hn : cs.length using Nat.strongRecOn generalizing cs with
  | ind n ih =>
    rcases splitOr_cases cs with h | ⟨part, sep, rest, rfl, hor, h⟩
    · rw [h]
      simp
    · have hsep : sep ≠ [] := by
        obtain ⟨front, o, back, rfl, -⟩ := hor
        simp
      have hrest := ih rest.length (by
        have := List.length_pos_iff.mpr hsep
        simp at hn
        omega) rest rfl
      rw [h, infix_fold_or_iff hw hlength hor, ← hrest]
      simp

/-- **An entry offers any skill exactly if one of its alternatives does.** -/
theorem exists_isWildcard_iff (entry : String) :
    (∃ alternative ∈ alternatives entry, isWildcard alternative = true) ↔
      isWildcard entry = true := by
  have hpart : ∀ part : List Char, isWildcard (String.ofList (Text.trim part)) = true ↔
      wildcardMark.toList <:+: part.flatMap fold := by
    intro part
    rw [isWildcard, hasInfix_iff, key, String.toList_ofList, String.toList_ofList,
      keyChars_of_trim, infix_keyChars_iff solid_wildcardMark]
  rw [isWildcard_iff, ← exists_infix_splitOr_iff solid_wildcardMark (by decide)]
  constructor
  · rintro ⟨alternative, hmem, hwild⟩
    obtain ⟨part, hsplit, -, rfl⟩ := mem_alternatives.mp hmem
    exact ⟨part, hsplit, (hpart part).mp hwild⟩
  · rintro ⟨part, hsplit, hmark⟩
    have hwild := (hpart part).mpr hmark
    refine ⟨_, mem_alternatives.mpr ⟨part, hsplit, ?_, rfl⟩, hwild⟩
    intro hnil
    rw [hnil] at hwild
    exact absurd hwild (by decide +kernel)

/-! ### Parentheses in keys -/

/-- An opening parenthesis stays in the key of a name. -/
theorem open_mem_keyChars {cs : List Char} (h : '(' ∈ cs) : '(' ∈ keyChars cs := by
  have hsolid : Text.Solid ['('] := .of_all (by decide) (by decide)
  rw [← List.singleton_infix_iff, infix_keyChars_iff hsolid, List.singleton_infix_iff]
  exact List.mem_flatMap.mpr ⟨'(', h, by decide +kernel⟩

/-- A name whose key has no opening parenthesis has no family. -/
theorem family?_eq_none_of_key {name : String} (h : '(' ∉ (key name).toList) :
    family? name = none := by
  refine family?_eq_none_of_open ?_
  intro hmem
  rw [key, String.toList_ofList] at h
  exact h (open_mem_keyChars hmem)

end Chargen.SkillName
