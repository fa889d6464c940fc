import Chargen.Proofs.SkillName.Fold
import Chargen.Proofs.Text.Tidy

/-!
# Keys are stable

The key of a key is the key itself, and the family of a key is made of the keys of the family and the
specialization of the name. A parenthesis is no blank, so a key is cut at it where the name is cut,
up to blanks, and blanks are trimmed.

* `exists_collapse`: **collapsing blanks can be done on both sides of a character**.
* `key_key`: **a key is its own key**.
* `tidy_key`: a key has no leading, trailing or doubled blank.
* `family?_key`: **the family of a key**.
* `orderedKey_stable`: all of this for keys in canonical order.
-/

namespace Chargen.SkillName

/-! ### Words with one space between them -/

theorem joinWords_cons_cons (w v : List Char) (rest : List (List Char)) :
    joinWords (w :: v :: rest) = w ++ ' ' :: joinWords (v :: rest) := rfl

theorem joinWords_cons (w : List Char) (rest : List (List Char)) :
    joinWords (w :: rest) = w ++ rest.flatMap fun v => ' ' :: v := by
  induction rest generalizing w with
  | nil => rw [joinWords, List.flatMap_nil, List.append_nil]
  | cons v rest ih => rw [joinWords_cons_cons, ih v, List.flatMap_cons, List.cons_append]

/-- The words before a word end with a space each, and those behind it begin with one. -/
theorem joinWords_append (front : List (List Char)) (w : List Char) (back : List (List Char)) :
    joinWords (front ++ w :: back) =
      front.flatMap (fun v => v ++ [' ']) ++ (w ++ back.flatMap fun v => ' ' :: v) := by
  induction front with
  | nil => exact joinWords_cons w back
  | cons u front ih =>
    have hne : front ++ w :: back ≠ [] := by simp
    obtain ⟨v, rest, hrest⟩ := List.exists_cons_of_ne_nil hne
    rw [List.cons_append, hrest, joinWords_cons_cons, ← hrest, ih, List.flatMap_cons,
      List.append_assoc, List.append_assoc, List.singleton_append]

theorem mem_joinWords {c : Char} {ws : List (List Char)} (h : c ∈ joinWords ws) :
    c = ' ' ∨ ∃ w ∈ ws, c ∈ w := by
  cases ws with
  | nil => cases h
  | cons w rest =>
    rw [joinWords_cons, List.mem_append, List.mem_flatMap] at h
    rcases h with h | ⟨v, hv, h⟩
    · exact .inr ⟨w, List.mem_cons_self, h⟩
    · rcases List.mem_cons.mp h with rfl | h
      · exact .inl rfl
      · exact .inr ⟨v, List.mem_cons_of_mem _ hv, h⟩

theorem isBlank_space : Text.isBlank ' ' = true := by
  decide

section Solid

variable {ws : List (List Char)}

/-- The words of solid texts with spaces between them are these texts. -/
theorem words_joinWords (hws : ∀ w ∈ ws, Text.Solid w) : Text.words (joinWords ws) = ws := by
  induction ws with
  | nil => rfl
  | cons w rest ih =>
    have hrest := ih fun v hv => hws v (List.mem_cons_of_mem _ hv)
    have hw : Text.words w = [w] := Text.words_of_solid (hws w List.mem_cons_self)
    cases rest with
    | nil => exact hw
    | cons v rest =>
      rw [joinWords_cons_cons, Text.words_append_cons isBlank_space, hw, hrest,
        List.singleton_append]

/-- Solid texts with spaces between them are tidy. -/
theorem tidy_joinWords (hws : ∀ w ∈ ws, Text.Solid w) : Text.Tidy (joinWords ws) := by
  induction ws with
  | nil => exact .nil
  | cons w rest ih =>
    have hrest := ih fun v hv => hws v (List.mem_cons_of_mem _ hv)
    have hw : Text.Solid w := hws w List.mem_cons_self
    cases rest with
    | nil => exact hw.tidy
    | cons v rest =>
      have hv : Text.Solid v := hws v (by simp)
      have hne : joinWords (v :: rest) ≠ [] := by
        rw [joinWords_cons]
        simp [hv.ne_nil]
      exact hw.tidy.append_cons hrest hw.ne_nil hne ' '

end Solid

/-! ### Collapsing blanks -/

/-- A text whose words are separated by one space. -/
def collapse (cs : List Char) : List Char :=
  joinWords (Text.words cs)

theorem tidy_collapse (cs : List Char) : Text.Tidy (collapse cs) :=
  tidy_joinWords fun _ hw => Text.solid_of_mem_words hw

/-- Collapsing twice changes nothing more. -/
theorem collapse_collapse (cs : List Char) : collapse (collapse cs) = collapse cs := by
  rw [collapse, collapse, words_joinWords fun _ hw => Text.solid_of_mem_words hw]

theorem mem_collapse {c : Char} {cs : List Char} (h : c ∈ collapse cs) : c = ' ' ∨ c ∈ cs := by
  rcases mem_joinWords h with rfl | ⟨w, hw, hc⟩
  · exact .inl rfl
  · exact .inr (Text.mem_of_mem_words hw hc)

/-- Spaces behind the words before a text leave them collapsed, up to a blank. -/
theorem exists_front (front : List (List Char)) (u : List Char) : ∃ bs,
    (∀ b ∈ bs, Text.isBlank b = true) ∧ front.flatMap (fun w => w ++ [' ']) ++ u =
      joinWords (front ++ [u].filter fun piece => !piece.isEmpty) ++ bs := by
  cases u with
  | cons c u =>
    refine ⟨[], by simp, ?_⟩
    rw [List.filter_cons_of_pos (by simp), List.filter_nil, joinWords_append, List.flatMap_nil,
      List.append_nil, List.append_nil]
  | nil =>
    -- Nothing joins the last word, so the space behind it is left over.
    rw [List.filter_cons_of_neg (by simp), List.filter_nil, List.append_nil, List.append_nil]
    rcases List.eq_nil_or_concat' front with rfl | ⟨others, last, rfl⟩
    · exact ⟨[], by simp, rfl⟩
    · refine ⟨[' '], by simp [isBlank_space], ?_⟩
      rw [joinWords_append, List.flatMap_append, List.flatMap_singleton, List.flatMap_nil,
        List.append_nil, List.append_assoc]

/-- Spaces in front of the words behind a text leave them collapsed, up to a blank. -/
theorem exists_back (v : List Char) (back : List (List Char)) : ∃ bs,
    (∀ b ∈ bs, Text.isBlank b = true) ∧ (v ++ back.flatMap fun w => ' ' :: w) =
      bs ++ joinWords (([v].filter fun piece => !piece.isEmpty) ++ back) := by
  cases v with
  | cons c v =>
    refine ⟨[], by simp, ?_⟩
    rw [List.filter_cons_of_pos (by simp), List.filter_nil, List.singleton_append, joinWords_cons,
      List.nil_append]
  | nil =>
    rw [List.filter_cons_of_neg (by simp), List.filter_nil, List.nil_append, List.nil_append]
    cases back with
    | nil => exact ⟨[], by simp, rfl⟩
    | cons first others =>
      refine ⟨[' '], by simp [isBlank_space], ?_⟩
      rw [joinWords_cons, List.flatMap_cons]
      rfl

/-- **Collapsing blanks can be done on both sides of a character** that is no blank, up to blanks
beside it. -/
theorem exists_collapse {c : Char} (hc : Text.isBlank c = false) (xs ys : List Char) :
    ∃ front back, (∀ b ∈ front, Text.isBlank b = true) ∧ (∀ b ∈ back, Text.isBlank b = true) ∧
      collapse (xs ++ c :: ys) = collapse xs ++ front ++ c :: (back ++ collapse ys) := by
  obtain ⟨before, u, hxs⟩ : ∃ before u, Text.pieces xs = before ++ [u] := by
    rcases List.eq_nil_or_concat' (Text.pieces xs) with hnil | hconcat
    · exact absurd hnil (Text.pieces_ne_nil xs)
    · exact hconcat
  obtain ⟨v, behind, hys⟩ := List.exists_cons_of_ne_nil (Text.pieces_ne_nil ys)
  -- The character joins the last piece before it to the first piece behind it.
  have hpieces : Text.pieces (xs ++ c :: ys) = before ++ (u ++ c :: v) :: behind := by
    refine Text.pieces_append hxs ?_
    rw [Text.pieces, if_neg (by simp [hc]), hys]
  obtain ⟨front, hfront, hbefore⟩ := exists_front (before.filter fun piece => !piece.isEmpty) u
  obtain ⟨back, hback, hbehind⟩ := exists_back v (behind.filter fun piece => !piece.isEmpty)
  refine ⟨front, back, hfront, hback, ?_⟩
  have hxs' : collapse xs = joinWords ((before.filter fun piece => !piece.isEmpty) ++
      [u].filter fun piece => !piece.isEmpty) := by
    rw [collapse, Text.words, hxs, List.filter_append]
  have hys' : collapse ys = joinWords (([v].filter fun piece => !piece.isEmpty) ++
      behind.filter fun piece => !piece.isEmpty) := by
    rw [collapse, Text.words, hys, ← List.filter_append, List.singleton_append]
  rw [hxs', hys', ← hbefore, ← hbehind, collapse, Text.words, hpieces, List.filter_append,
    List.filter_cons_of_pos (by simp), joinWords_append]
  simp only [List.append_assoc, List.cons_append]

/-! ### Keys -/

theorem keyChars_eq (cs : List Char) : keyChars cs = collapse (cs.flatMap fold) := rfl

theorem fold_space : fold ' ' = [' '] := by
  decide +kernel

theorem fold_of_isParenthesis {c : Char} (hc : Text.isParenthesis c = true) : fold c = [c] := by
  rcases Text.isParenthesis_cases hc with rfl | rfl
  · decide +kernel
  · decide +kernel

/-- What a key consists of is folded. -/
theorem fold_of_mem_keyChars {c : Char} {cs : List Char} (h : c ∈ keyChars cs) : fold c = [c] := by
  rcases mem_collapse h with rfl | h
  · exact fold_space
  · obtain ⟨d, -, hc⟩ := List.mem_flatMap.mp h
    exact fold_of_mem hc

theorem keyChars_keyChars (cs : List Char) : keyChars (keyChars cs) = keyChars cs := by
  have hfolded : (keyChars cs).flatMap fold = keyChars cs :=
    flatMap_fold_of_forall fun _ hc => fold_of_mem_keyChars hc
  rw [keyChars_eq, hfolded, keyChars_eq, collapse_collapse]

/-- **A key is its own key.** -/
theorem key_key (name : String) : key (key name) = key name := by
  rw [key, key, String.toList_ofList, keyChars_keyChars]

/-- **A key has no leading, trailing or doubled blank.** -/
theorem tidy_key (name : String) : Text.Tidy (key name).toList := by
  rw [key, String.toList_ofList]
  exact tidy_collapse _

/-! ### Parentheses in keys -/

theorem isBlank_of_isParenthesis {c : Char} (hc : Text.isParenthesis c = true) :
    Text.isBlank c = false := by
  rcases Text.isParenthesis_cases hc with rfl | rfl
  · decide
  · decide

/-- A parenthesis of a key is one of the name. -/
theorem mem_of_mem_keyChars {c : Char} (hc : Text.isParenthesis c = true) {cs : List Char}
    (h : c ∈ keyChars cs) : c ∈ cs := by
  rcases mem_collapse h with rfl | h
  · exact absurd hc (by decide)
  · obtain ⟨d, hd, hmem⟩ := List.mem_flatMap.mp h
    rwa [eq_of_isParenthesis hmem hc]

theorem isParenthesis_open : Text.isParenthesis '(' = true := rfl

theorem isParenthesis_close : Text.isParenthesis ')' = true := rfl

section Blanks

variable {c : Char} (hc : Text.isParenthesis c = true) {bs cs : List Char}
include hc

theorem notMem_of_blank (hbs : ∀ b ∈ bs, Text.isBlank b = true) : c ∉ bs := by
  intro hmem
  have hblank := hbs c hmem
  rw [isBlank_of_isParenthesis hc] at hblank
  cases hblank

theorem notMem_keyChars_append (hcs : c ∉ cs) (hbs : ∀ b ∈ bs, Text.isBlank b = true) :
    c ∉ keyChars cs ++ bs := by
  rw [List.mem_append, not_or]
  exact ⟨fun hmem => hcs (mem_of_mem_keyChars hc hmem), notMem_of_blank hc hbs⟩

theorem notMem_append_keyChars (hcs : c ∉ cs) (hbs : ∀ b ∈ bs, Text.isBlank b = true) :
    c ∉ bs ++ keyChars cs := by
  rw [List.mem_append, not_or]
  exact ⟨notMem_of_blank hc hbs, fun hmem => hcs (mem_of_mem_keyChars hc hmem)⟩

end Blanks

/-- The key of a name with a parenthesis is made of the keys of what stands on both sides of it. -/
theorem exists_keyChars {c : Char} (hc : Text.isParenthesis c = true) (xs ys : List Char) :
    ∃ front back, (∀ b ∈ front, Text.isBlank b = true) ∧ (∀ b ∈ back, Text.isBlank b = true) ∧
      keyChars (xs ++ c :: ys) = keyChars xs ++ front ++ c :: (back ++ keyChars ys) := by
  rw [keyChars_eq, List.flatMap_append, List.flatMap_cons, fold_of_isParenthesis hc,
    List.singleton_append]
  exact exists_collapse (isBlank_of_isParenthesis hc) _ _

/-! ### The family of a key -/

theorem beforeLastClose_eq_none {cs : List Char} (h : ')' ∉ cs) : beforeLastClose cs = none := by
  have hreverse : ')' ∉ cs.reverse := fun hmem => h (List.mem_reverse.mp hmem)
  have hdrop : cs.reverse.dropWhile (· != ')') = [] :=
    List.dropWhile_eq_nil_iff.mpr (forall_bne_of_notMem hreverse)
  rw [beforeLastClose, hdrop]

theorem beforeLastClose_append {inside behind : List Char} (h : ')' ∉ behind) :
    beforeLastClose (inside ++ ')' :: behind) = some inside := by
  have hreverse : ')' ∉ behind.reverse := fun hmem => h (List.mem_reverse.mp hmem)
  have hdrop : (inside ++ ')' :: behind).reverse.dropWhile (· != ')') = ')' :: inside.reverse := by
    rw [List.reverse_append, List.reverse_cons, List.append_assoc,
      List.dropWhile_append_of_pos (forall_bne_of_notMem hreverse)]
    rfl
  rw [beforeLastClose, hdrop]
  simp only [List.reverse_reverse]

section Cut

variable {before inside behind : List Char} (hbefore : '(' ∉ before)
include hbefore

theorem cut_open : (before ++ '(' :: inside).takeWhile (· != '(') = before ∧
    (before ++ '(' :: inside).dropWhile (· != '(') = '(' :: inside := by
  have hpos : ∀ c ∈ before, (c != '(') = true := forall_bne_of_notMem hbefore
  constructor
  · rw [List.takeWhile_append_of_pos hpos, List.takeWhile_cons_of_neg (by simp), List.append_nil]
  · rw [List.dropWhile_append_of_pos hpos, List.dropWhile_cons_of_neg (by simp)]

/-- A parenthesis that is not closed makes no family. -/
theorem familyChars?_of_unclosed (hinside : ')' ∉ inside) :
    familyChars? (before ++ '(' :: inside) = none := by
  rw [familyChars?, (cut_open hbefore).2]
  simp only [beforeLastClose_eq_none hinside]

/-- The family and the specialization around parentheses. -/
theorem familyChars?_of_closed (hbehind : ')' ∉ behind) :
    familyChars? (before ++ '(' :: (inside ++ ')' :: behind)) =
      if Text.trim before = [] ∨ Text.trim inside = [] then none
      else some (Text.trim before, Text.trim inside) := by
  rw [familyChars?, (cut_open hbefore).1, (cut_open hbefore).2]
  simp only [beforeLastClose_append hbehind, Bool.or_eq_true, List.isEmpty_iff]

end Cut

/-- Where the parentheses of a name are. -/
theorem parentheses_cases (cs : List Char) : '(' ∉ cs ∨
    (∃ before inside, cs = before ++ '(' :: inside ∧ '(' ∉ before ∧ ')' ∉ inside) ∨
      ∃ before inside behind, cs = before ++ '(' :: (inside ++ ')' :: behind) ∧ '(' ∉ before ∧
        ')' ∉ behind := by
  by_cases hopen : '(' ∈ cs
  · obtain ⟨before, rest, rfl, hbefore⟩ := List.eq_append_cons_of_mem hopen
    right
    by_cases hclose : ')' ∈ rest
    · -- The last closing parenthesis is the first one from behind.
      obtain ⟨tail, init, hrest, htail⟩ :=
        List.eq_append_cons_of_mem (List.mem_reverse.mpr hclose)
      have hsplit : rest = init.reverse ++ ')' :: tail.reverse := by
        rw [← List.reverse_reverse rest, hrest, List.reverse_append, List.reverse_cons,
          List.append_assoc, List.singleton_append]
      refine .inr ⟨before, init.reverse, tail.reverse, by rw [hsplit], hbefore, ?_⟩
      exact fun hmem => htail (List.mem_reverse.mp hmem)
    · exact .inl ⟨before, rest, rfl, hbefore, hclose⟩
  · exact .inl hopen

/-- The keys of a family and its specialization, unless one of them is empty. -/
def keysOf? (pair : List Char × List Char) : Option (List Char × List Char) :=
  if keyChars pair.1 = [] ∨ keyChars pair.2 = [] then none
  else some (keyChars pair.1, keyChars pair.2)

/-- The family of a key whose parenthesis is not closed. -/
theorem familyChars?_keyChars_of_unclosed {before inside : List Char} (hbefore : '(' ∉ before)
    (hinside : ')' ∉ inside) : familyChars? (keyChars (before ++ '(' :: inside)) = none := by
  obtain ⟨front, back, hfront, hback, hkey⟩ :=
    exists_keyChars isParenthesis_open before inside
  rw [hkey]
  have hbefore' : '(' ∉ keyChars before ++ front :=
    notMem_keyChars_append isParenthesis_open hbefore hfront
  have hinside' : ')' ∉ back ++ keyChars inside :=
    notMem_append_keyChars isParenthesis_close hinside hback
  exact familyChars?_of_unclosed hbefore' hinside'

/-- The family of a key with parentheses. -/
theorem familyChars?_keyChars_of_closed {before inside behind : List Char}
    (hbefore : '(' ∉ before) (hbehind : ')' ∉ behind) :
    familyChars? (keyChars (before ++ '(' :: (inside ++ ')' :: behind))) =
      keysOf? (before, inside) := by
  obtain ⟨front, back, hfront, hback, hopen⟩ :=
    exists_keyChars isParenthesis_open before (inside ++ ')' :: behind)
  obtain ⟨front', back', hfront', hback', hclose⟩ :=
    exists_keyChars isParenthesis_close inside behind
  have hkey : keyChars (before ++ '(' :: (inside ++ ')' :: behind)) =
      (keyChars before ++ front) ++
        '(' :: ((back ++ keyChars inside ++ front') ++ ')' :: (back' ++ keyChars behind)) := by
    rw [hopen, hclose]
    simp only [List.append_assoc]
  have hbefore' : '(' ∉ keyChars before ++ front :=
    notMem_keyChars_append isParenthesis_open hbefore hfront
  have hbehind' : ')' ∉ back' ++ keyChars behind :=
    notMem_append_keyChars isParenthesis_close hbehind hback'
  have htrim : Text.trim ([] ++ keyChars before ++ front) = keyChars before :=
    Text.trim_of_tidy (tidy_collapse _) (by simp) hfront
  have htrim' : Text.trim (back ++ keyChars inside ++ front') = keyChars inside :=
    Text.trim_of_tidy (tidy_collapse _) hback hfront'
  rw [List.nil_append] at htrim
  rw [hkey, familyChars?_of_closed hbefore' hbehind', htrim, htrim', keysOf?]

theorem keysOf?_trim (before inside : List Char) :
    keysOf? (Text.trim before, Text.trim inside) = keysOf? (before, inside) := by
  rw [keysOf?, keysOf?, keyChars_of_trim, keyChars_of_trim]

/-- Where a name has no family, because a part is blank, its key has none either. -/
theorem keysOf?_eq_none {before inside : List Char}
    (h : Text.trim before = [] ∨ Text.trim inside = []) : keysOf? (before, inside) = none := by
  rw [← keysOf?_trim]
  refine if_pos ?_
  rcases h with h | h
  · exact .inl (by rw [h]; rfl)
  · exact .inr (by rw [h]; rfl)

theorem familyChars?_keyChars (cs : List Char) :
    familyChars? (keyChars cs) = (familyChars? cs).bind keysOf? := by
  rcases parentheses_cases cs with hopen | ⟨before, inside, rfl, hbefore, hinside⟩ |
    ⟨before, inside, behind, rfl, hbefore, hbehind⟩
  · have hkey : '(' ∉ keyChars cs := fun hmem => hopen (mem_of_mem_keyChars isParenthesis_open hmem)
    rw [familyChars?_eq_none hopen, familyChars?_eq_none hkey]
    rfl
  · rw [familyChars?_keyChars_of_unclosed hbefore hinside, familyChars?_of_unclosed hbefore hinside]
    rfl
  · rw [familyChars?_keyChars_of_closed hbefore hbehind, familyChars?_of_closed hbefore hbehind]
    split
    · next hblank => exact keysOf?_eq_none hblank
    · exact (keysOf?_trim before inside).symm

/-- **The family of a key** is made of the keys of the family and the specialization of the name;
where one of them is empty, the key has no family. -/
theorem family?_key (name : String) : family? (key name) = (family? name).bind fun pair =>
    if key pair.1 = "" ∨ key pair.2 = "" then none else some (key pair.1, key pair.2) := by
  rw [family?, family?, key, String.toList_ofList, familyChars?_keyChars]
  cases familyChars? name.toList with
  | none => rfl
  | some pair =>
    simp only [Option.bind_some, Option.map_some, keysOf?, key, String.toList_ofList,
      String.ofList_eq_empty_iff]
    split
    · rfl
    · rfl

theorem family?_key_of_none {name : String} (h : family? name = none) :
    family? (key name) = none := by
  rw [family?_key, h]
  rfl

theorem family?_key_of_some {name family specialization : String}
    (h : family? name = some (family, specialization)) (hfamily : key family ≠ "")
    (hspecialization : key specialization ≠ "") :
    family? (key name) = some (key family, key specialization) := by
  rw [family?_key, h, Option.bind_some, if_neg (not_or.mpr ⟨hfamily, hspecialization⟩)]

/-! ### Keys by way of canonical order -/

/-- **Keys are stable.** Where only marks have a combining class, putting decompositions in canonical
order yields the same keys as leaving them in theirs. A key is its own key, it has no leading,
trailing or doubled blank, a name without a family has a key without one, and the family of a key is
made of the keys of the parts, unless one of these is empty. -/
theorem orderedKey_stable {combiningClass : Char → Nat}
    (hclass : ∀ c, combiningClass c ≠ 0 → Text.isMark c = true) (name : String) :
    orderedKey combiningClass name = key name ∧
      orderedKey combiningClass (orderedKey combiningClass name) = orderedKey combiningClass name ∧
      Text.Tidy (orderedKey combiningClass name).toList ∧
      (family? name = none → family? (orderedKey combiningClass name) = none) ∧
      ∀ family specialization, family? name = some (family, specialization) →
        orderedKey combiningClass family ≠ "" → orderedKey combiningClass specialization ≠ "" →
        family? (orderedKey combiningClass name) =
          some (orderedKey combiningClass family, orderedKey combiningClass specialization) := by
  simp only [orderedKey_eq hclass]
  refine ⟨trivial, key_key name, tidy_key name, family?_key_of_none, ?_⟩
  intro family specialization hfamily hne hne'
  exact family?_key_of_some hfamily hne hne'

/-- The classes of an accent above a letter and of a dot below it. -/
def accentClass (c : Char) : Nat :=
  if c = '\u0301' then 230 else if c = '\u0323' then 220 else 0

/-- Two marks in the wrong order, and a family. -/
theorem orderedKey_stable_accents :
    (∀ c, accentClass c ≠ 0 → Text.isMark c = true) ∧
      Text.decomposeText accentClass "Arte\u0301\u0323".toList = "Arte\u0323\u0301".toList ∧
      orderedKey accentClass " Arte\u0301\u0323  (\u00D3leo) " = "arte (oleo)" ∧
      family? (orderedKey accentClass " Arte\u0301\u0323  (\u00D3leo) ") = some ("arte", "oleo") := by
  have hclass : ∀ c, accentClass c ≠ 0 → Text.isMark c = true := by
    intro c hc
    by_cases hacute : c = '\u0301'
    · rw [hacute]
      decide +kernel
    · by_cases hdot : c = '\u0323'
      · rw [hdot]
        decide +kernel
      · exact absurd (by rw [accentClass, if_neg hacute, if_neg hdot]) hc
  have hstable := orderedKey_stable hclass " Arte\u0301\u0323  (\u00D3leo) "
  have hfamily : orderedKey accentClass "Arte\u0301\u0323" = "arte" := by decide +kernel
  have hspecialization : orderedKey accentClass "\u00D3leo" = "oleo" := by decide +kernel
  have hsplit := hstable.2.2.2.2 "Arte\u0301\u0323" "\u00D3leo" (by decide +kernel)
    (by rw [hfamily]; decide) (by rw [hspecialization]; decide)
  rw [hfamily, hspecialization] at hsplit
  exact ⟨hclass, by decide +kernel, by rw [hstable.1]; decide +kernel, hsplit⟩

end Chargen.SkillName
