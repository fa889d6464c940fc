import Chargen.Proofs.SkillName.Alternatives

/-!
# Entries that offer names

An entry that offers several names is written with the word `o` between them. If no name has this
word itself, the entry is divided exactly where the names were put together: a separator takes all
the blanks around its `o` and leaves the names on both sides whole.

* `Offering`: an entry written for a list of names.
* `splitOr_append`: what stands before a separator is divided off.
* `Offering.map_trim_splitOr`: **an entry is divided into its names**.
* `Offering.alternatives_eq`: an entry offers its names, without the blanks around them.
-/

namespace Chargen.SkillName

/-- No word of a text is the word `o`. -/
def OrFree (cs : List Char) : Prop :=
  ∀ o, o = 'o' ∨ o = 'O' → [o] ∉ Text.words cs

/-- A name that is not blank and has no word `o`. -/
structure Plain (cs : List Char) : Prop where
  exists_not_blank : ∃ c ∈ cs, Text.isBlank c = false
  orFree : OrFree cs

/-- An entry that offers names, with the word `o` between neighbours. -/
inductive Offering : List (List Char) → List Char → Prop
  /-- one name -/
  | single {name : List Char} (hname : Plain name) : Offering [name] name
  /-- a name before others -/
  | cons {name sep entry : List Char} {names : List (List Char)} (hname : Plain name)
      (hsep : IsOr sep) (rest : Offering names entry) : Offering (name :: names) (name ++ sep ++ entry)

/-- No word `o` stands behind a blank. -/
def Quiet (cs : List Char) : Prop :=
  ∀ b back, b :: back <:+ cs → Text.isBlank b = true → OrFree back

section Words

variable {o : Char} (ho : o = 'o' ∨ o = 'O')
include ho

theorem words_or : Text.words [o] = [[o]] := by
  rcases ho with rfl | rfl <;> decide

theorem words_or_cons {d : Char} (hd : Text.isBlank d = true) (rest : List Char) :
    Text.words (o :: d :: rest) = [o] :: Text.words rest := by
  have happ := Text.words_append_cons hd [o] rest
  rwa [words_or ho] at happ

end Words

namespace Plain

variable {cs : List Char}

/-- Whether a name is plain can be tested. -/
theorem iff_words : Plain cs ↔ (cs.any fun c => !Text.isBlank c) = true ∧
    ['o'] ∉ Text.words cs ∧ ['O'] ∉ Text.words cs := by
  constructor
  · intro h
    obtain ⟨c, hc, hblank⟩ := h.exists_not_blank
    refine ⟨List.any_eq_true.mpr ⟨c, hc, ?_⟩, h.orFree 'o' (.inl rfl), h.orFree 'O' (.inr rfl)⟩
    rw [hblank]
    rfl
  · rintro ⟨hblank, hsmall, hcapital⟩
    constructor
    · obtain ⟨c, hc, hnot⟩ := List.any_eq_true.mp hblank
      exact ⟨c, hc, (Bool.not_eq_true' _).mp hnot⟩
    · rintro o (rfl | rfl)
      · exact hsmall
      · exact hcapital

instance : DecidablePred Plain :=
  fun _ => decidable_of_iff _ iff_words.symm

theorem quiet (h : Plain cs) : Quiet cs := by
  rintro b back ⟨front, rfl⟩ hb o ho hword
  apply h.orFree o ho
  rw [Text.words_append_cons hb]
  exact List.mem_append_right _ hword

theorem not_hasOr (h : Plain cs) : ¬ HasOr cs := by
  rintro ⟨part, sep, rest, rfl, front, o, back, rfl, ho, ⟨hfront, hfrontBlank⟩, hback, hbackBlank⟩
  obtain ⟨front, b, rfl⟩ := List.eq_nil_or_concat front |>.resolve_left hfront
  obtain ⟨d, back, rfl⟩ := List.exists_cons_of_ne_nil hback
  have hb : Text.isBlank b = true := hfrontBlank b (by simp)
  have hd : Text.isBlank d = true := hbackBlank d List.mem_cons_self
  have hchars : part ++ (front.concat b ++ o :: d :: back) ++ rest =
      (part ++ front) ++ b :: (o :: d :: (back ++ rest)) := by
    simp
  apply h.orFree o ho
  rw [hchars, Text.words_append_cons hb, words_or_cons ho hd]
  exact List.mem_append_right _ List.mem_cons_self

theorem dropWhile (h : Plain cs) : Plain (cs.dropWhile Text.isBlank) := by
  have hchars := List.takeWhile_append_dropWhile (p := Text.isBlank) (l := cs)
  have hfront : ∀ c ∈ cs.takeWhile Text.isBlank, Text.isBlank c = true :=
    fun c hc => List.mem_takeWhile_imp hc
  constructor
  · obtain ⟨c, hc, hblank⟩ := h.exists_not_blank
    rw [← hchars, List.mem_append] at hc
    refine ⟨c, hc.resolve_left ?_, hblank⟩
    intro hmem
    rw [hfront c hmem] at hblank
    cases hblank
  · have hwords := Text.words_blank_append hfront (cs.dropWhile Text.isBlank)
    rw [hchars] at hwords
    unfold OrFree
    rw [← hwords]
    exact h.orFree

end Plain

/-! ### One separator -/

/-- A separator is found at its first blank, and takes its last one. -/
theorem afterOr?_append {sep rest : List Char} (hsep : IsOr sep)
    (hrest : ∀ c ∈ rest.head?, Text.isBlank c = false) : afterOr? (sep ++ rest) = some rest := by
  obtain ⟨front, o, back, rfl, ho, ⟨-, hfront⟩, hback, hbackBlank⟩ := hsep
  obtain ⟨d, back, rfl⟩ := List.exists_cons_of_ne_nil hback
  have hd : Text.isBlank d = true := hbackBlank d List.mem_cons_self
  have hletter : Text.isBlank o = false := by
    rcases ho with rfl | rfl <;> decide
  have hstart : (front ++ o :: d :: back ++ rest).dropWhile Text.isBlank =
      o :: d :: (back ++ rest) := by
    rw [List.append_assoc, List.dropWhile_append_of_pos hfront]
    exact List.dropWhile_cons_of_neg (by simp [hletter])
  have hend : (back ++ rest).dropWhile Text.isBlank = rest := by
    rw [List.dropWhile_append_of_pos fun c hc => hbackBlank c (List.mem_cons_of_mem _ hc)]
    cases rest with
    | nil => rfl
    | cons c rest => exact List.dropWhile_cons_of_neg (by simpa using hrest c rfl)
  have ho' : (o == 'o' || o == 'O') = true := by
    simpa using ho
  rw [afterOr?, hstart]
  simp only [ho', hd, Bool.and_self, if_true, hend]

/-- No separator begins with the blanks before a text without the word `o`, whatever follows. -/
theorem afterOr?_eq_none {b : Char} {back : List Char} (hb : Text.isBlank b = true)
    (hback : Plain back) (more : List Char) : afterOr? (b :: (back ++ more)) = none := by
  obtain ⟨c, hc, -⟩ := hback.dropWhile.exists_not_blank
  obtain ⟨o, tail, htail⟩ := List.exists_cons_of_ne_nil (List.ne_nil_of_mem hc)
  have hdrop : (b :: (back ++ more)).dropWhile Text.isBlank = o :: (tail ++ more) := by
    rw [List.dropWhile_cons_of_pos hb, List.dropWhile_append, htail]
    rfl
  have hfree : OrFree (o :: tail) := htail ▸ hback.dropWhile.orFree
  -- Else the first word of the text would be `o`.
  have hfirst : ∀ d rest, tail ++ more = d :: rest → Text.isBlank d = true →
      ¬ (o = 'o' ∨ o = 'O') := by
    intro d rest hrest hd ho
    apply hfree o ho
    cases tail with
    | nil =>
      rw [words_or ho]
      exact List.mem_singleton_self _
    | cons e tail =>
      obtain ⟨rfl, -⟩ := List.cons.inj hrest
      rw [words_or_cons ho hd]
      exact List.mem_cons_self
  rw [afterOr?, hdrop]
  cases hrest : tail ++ more with
  | nil => rfl
  | cons d rest =>
    have hnot : ((o == 'o' || o == 'O') && Text.isBlank d) = false := by
      rw [Bool.eq_false_iff]
      intro h
      rw [Bool.and_eq_true, Bool.or_eq_true, beq_iff_eq, beq_iff_eq] at h
      exact hfirst d rest hrest h.2 h.1
    simp only [hnot, Bool.false_eq_true, if_false]

theorem splitOr_of_afterOr? {c : Char} {rest after : List Char} (hc : Text.isBlank c = true)
    (h : afterOr? (c :: rest) = some after) : splitOr (c :: rest) = [] :: splitOr after := by
  rw [splitOr]
  split
  · next found hfound =>
    rw [if_pos hc, h] at hfound
    rw [Option.some.inj hfound]
  · next hnone =>
    rw [if_pos hc, h] at hnone
    cases hnone

theorem splitOr_of_none {c : Char} {rest part : List Char} {others : List (List Char)}
    (h : Text.isBlank c = true → afterOr? (c :: rest) = none)
    (hrest : splitOr rest = part :: others) : splitOr (c :: rest) = (c :: part) :: others := by
  rw [splitOr]
  split
  · next found hfound =>
    split at hfound
    · next hc =>
      rw [h hc] at hfound
      cases hfound
    · cases hfound
  · rw [hrest]

/-- **What stands before a separator is divided off**, if it does not end with a blank and has no
word `o`, and the separator takes all blanks behind its `o`. -/
theorem splitOr_append {part sep rest : List Char} (hquiet : Quiet part)
    (hlast : ∀ c ∈ part.getLast?, Text.isBlank c = false) (hsep : IsOr sep)
    (hrest : ∀ c ∈ rest.head?, Text.isBlank c = false) :
    splitOr (part ++ (sep ++ rest)) = part :: splitOr rest := by
  -- On the part: no separator begins at one of its blanks, since it is quiet.
  induction part with
  | nil =>
    have hafter := afterOr?_append hsep hrest
    obtain ⟨front, o, back, rfl, -, ⟨hfront, hfrontBlank⟩, -⟩ := hsep
    obtain ⟨b, front, rfl⟩ := List.exists_cons_of_ne_nil hfront
    exact splitOr_of_afterOr? (hfrontBlank b List.mem_cons_self) hafter
  | cons c part ih =>
    have htail : Quiet part := by
      intro b back hsuffix
      exact hquiet b back (hsuffix.trans (List.suffix_cons c part))
    have hend : ∀ d ∈ part.getLast?, Text.isBlank d = false := by
      intro d hd
      apply hlast
      rw [List.getLast?_cons, Option.mem_def.mp hd]
      rfl
    apply splitOr_of_none _ (ih htail hend)
    intro hc
    apply afterOr?_eq_none hc
    refine ⟨?_, hquiet c part List.suffix_rfl hc⟩
    cases hpart : part.getLast? with
    | none =>
      rw [List.getLast?_eq_none_iff] at hpart
      have hnot := hlast c (by rw [hpart]; rfl)
      rw [hc] at hnot
      cases hnot
    | some d => exact ⟨d, List.mem_of_getLast? hpart, hend d hpart⟩

/-! ### All separators -/

/-- Blanks around a separator belong to it. -/
theorem IsOr.blanks {sep front back : List Char} (hsep : IsOr sep)
    (hfront : ∀ b ∈ front, Text.isBlank b = true) (hback : ∀ b ∈ back, Text.isBlank b = true) :
    IsOr (front ++ sep ++ back) := by
  obtain ⟨before, o, after, rfl, ho, ⟨hbefore, hbeforeBlank⟩, hafter, hafterBlank⟩ := hsep
  refine ⟨front ++ before, o, after ++ back, by simp, ho, ⟨by simp [hbefore], ?_⟩,
    by simp [hafter], ?_⟩
  · intro b hb
    rcases List.mem_append.mp hb with hb | hb
    · exact hfront b hb
    · exact hbeforeBlank b hb
  · intro b hb
    rcases List.mem_append.mp hb with hb | hb
    · exact hafterBlank b hb
    · exact hback b hb

/-- A name is divided off whole, with blanks left over at its end and before what follows. -/
theorem Plain.splitOr_append {name sep : List Char} (hname : Plain name) (hsep : IsOr sep)
    (entry : List Char) : splitOr (name ++ sep ++ entry) =
      Text.trimEnd name :: splitOr (entry.dropWhile Text.isBlank) := by
  obtain ⟨back, hback, hblank⟩ := Text.exists_trimEnd name
  have hentry := List.takeWhile_append_dropWhile (p := Text.isBlank) (l := entry)
  have hchars : name ++ sep ++ entry = Text.trimEnd name ++
      ((back ++ sep ++ entry.takeWhile Text.isBlank) ++ entry.dropWhile Text.isBlank) := by
    conv_lhs => rw [hback, ← hentry]
    simp only [List.append_assoc]
  have hquiet : Quiet (Text.trimEnd name) := by
    apply Plain.quiet
    constructor
    · obtain ⟨c, hc, hnot⟩ := hname.exists_not_blank
      rw [hback, List.mem_append] at hc
      refine ⟨c, hc.resolve_right ?_, hnot⟩
      intro hmem
      rw [hblank c hmem] at hnot
      cases hnot
    · unfold OrFree
      rw [← Text.words_append_blank hblank, ← hback]
      exact hname.orFree
  rw [hchars]
  apply SkillName.splitOr_append hquiet (Text.isBlank_getLast?_trimEnd name)
  · exact hsep.blanks hblank fun b hb => List.mem_takeWhile_imp hb
  · intro c hc
    have hhead := List.head?_dropWhile_not Text.isBlank entry
    rw [Option.mem_def.mp hc] at hhead
    simpa using hhead

namespace Offering

variable {names : List (List Char)} {entry : List Char}

theorem plain (h : Offering names entry) : ∀ name ∈ names, Plain name := by
  induction h with
  | single hname => simpa using hname
  | cons hname hsep rest ih => exact List.forall_mem_cons.mpr ⟨hname, ih⟩

/-- **An entry is divided into its names**, with or without the blanks in front of it. -/
theorem map_trim_splitOr (h : Offering names entry) :
    (splitOr entry).map Text.trim = names.map Text.trim ∧
      (splitOr (entry.dropWhile Text.isBlank)).map Text.trim = names.map Text.trim := by
  induction h with
  | @single name hname =>
    rw [splitOr_of_not_hasOr hname.not_hasOr, splitOr_of_not_hasOr hname.dropWhile.not_hasOr,
      List.map_singleton, List.map_singleton, Text.trim_dropWhile]
    exact ⟨rfl, rfl⟩
  | @cons name sep entry names hname hsep rest ih =>
    have hdrop : (name ++ sep ++ entry).dropWhile Text.isBlank =
        name.dropWhile Text.isBlank ++ sep ++ entry := by
      have hne : (name.dropWhile Text.isBlank).isEmpty = false := by
        obtain ⟨c, hc, -⟩ := hname.dropWhile.exists_not_blank
        exact List.isEmpty_eq_false_iff.mpr (List.ne_nil_of_mem hc)
      rw [List.append_assoc, List.dropWhile_append, hne, List.append_assoc]
      rfl
    rw [hdrop, hname.splitOr_append hsep, hname.dropWhile.splitOr_append hsep, List.map_cons,
      List.map_cons, List.map_cons, ih.2, Text.trim_trimEnd, Text.trim_trimEnd,
      Text.trim_dropWhile]
    exact ⟨rfl, rfl⟩

/-- **An entry offers its names**, without the blanks around them. -/
theorem alternatives_eq {names : List String} {entry : String}
    (h : Offering (names.map String.toList) entry.toList) :
    alternatives entry = names.map Text.trimmed := by
  have hkept : ((names.map String.toList).map Text.trim).filter (fun part => !part.isEmpty) =
      (names.map String.toList).map Text.trim := by
    apply List.filter_eq_self.mpr
    intro part hpart
    obtain ⟨name, hname, rfl⟩ := List.mem_map.mp hpart
    obtain ⟨c, hc, hnot⟩ := (h.plain name hname).exists_not_blank
    have hne : Text.trim name ≠ [] := by
      intro hnil
      rw [Text.trim_eq_nil_iff.mp hnil c hc] at hnot
      cases hnot
    simpa using hne
  rw [alternatives, h.map_trim_splitOr.1, hkept, List.map_map, List.map_map]
  rfl

end Offering

end Chargen.SkillName
