import Chargen.Proofs.Points.Atom

/-!
# The grammar of point formulas

`Grammatical` is the least language with the atoms that is closed under parentheses, under `+`, and
under an `o` between two texts that meet in such a way that it can be told from a letter.

* `Grammatical.exists_splits`: a text of the language splits into texts of the language.
* `read_known_iff`: reading leaves no unknown token exactly in the texts of the language.
* `check_ok_iff`: **the strict test accepts exactly this language**.
-/

namespace Chargen.Points

/-- Two texts that an `o` between them separates: the first one ends with a digit or `)` and the
second one begins with a letter or `(`, or the first one ends with a letter and the second one
begins with `(`. -/
def Meet (u v : List Char) : Prop :=
  ∃ b a, u.getLast? = some b ∧ v.head? = some a ∧
    ((isPlainDigit b = true ∨ b = ')') ∧ (isPlainLetter a = true ∨ a = '(') ∨
      isPlainLetter b = true ∧ a = '(')

/-- **The language of point formulas**, written without blanks. -/
inductive Grammatical : List Char → Prop
  /-- an atom -/
  | atom {w : List Char} (hw : IsAtom w) : Grammatical w
  /-- a text in parentheses -/
  | wrapped {v : List Char} (hv : Grammatical v) : Grammatical ('(' :: (v ++ [')']))
  /-- a sum -/
  | sum {u v : List Char} (hu : Grammatical u) (hv : Grammatical v) : Grammatical (u ++ '+' :: v)
  /-- a choice -/
  | choice {u v : List Char} {c : Char} (hc : c = 'o' ∨ c = 'O') (hu : Grammatical u)
      (hv : Grammatical v) (huv : Meet u v) : Grammatical (u ++ c :: v)

namespace Grammatical

variable {u v w : List Char}

theorem ne_nil (hw : Grammatical w) : w ≠ [] := by
  cases hw with
  | atom hw => exact hw.ne_nil
  | wrapped hv => simp
  | sum hu hv => simp
  | choice hc hu hv huv => simp

theorem not_nil : ¬ Grammatical [] := fun h => h.ne_nil rfl

/-- The parentheses of a text of the language match. -/
theorem isBalanced (hw : Grammatical w) : isBalanced 0 w = true := by
  induction hw with
  | atom hw => exact hw.isBalanced
  | @wrapped v hv ih =>
    have happ : Points.isBalanced (1 + 0) (v ++ [')']) = _ := isBalanced_append ih _
    rw [isBalanced_open]
    exact happ
  | @sum u v hu hv ihu ihv =>
    have happ : Points.isBalanced (0 + 0) (u ++ '+' :: v) = _ := isBalanced_append ihu _
    rw [isBalanced_other (by decide) (by decide)] at happ
    exact happ.trans ihv
  | @choice u v c hc hu hv huv ihu ihv =>
    have happ : Points.isBalanced (0 + 0) (u ++ c :: v) = _ := isBalanced_append ihu _
    rw [isBalanced_other (by rcases hc with rfl | rfl <;> decide)
      (by rcases hc with rfl | rfl <;> decide)] at happ
    exact happ.trans ihv

/-- The characters of the language: letters, digits and signs. -/
theorem mem (hw : Grammatical w) {c : Char} (hc : c ∈ w) :
    isPlainLetter c = true ∨ isPlainDigit c = true ∨ c ∈ ['(', ')', '+', '×', '*'] := by
  induction hw with
  | atom hw =>
    rcases hw.mem hc with h | h | h
    · exact .inl h
    · rcases isTimes_iff.mp h with rfl | rfl | rfl | rfl <;> decide
    · exact .inr (.inl h)
  | wrapped hv ih =>
    simp only [List.mem_cons, List.mem_append, List.not_mem_nil, or_false] at hc
    rcases hc with rfl | hc | rfl
    · decide
    · exact ih hc
    · decide
  | sum hu hv ihu ihv =>
    simp only [List.mem_cons, List.mem_append] at hc
    rcases hc with hc | rfl | hc
    · exact ihu hc
    · decide
    · exact ihv hc
  | choice ho hu hv huv ihu ihv =>
    simp only [List.mem_cons, List.mem_append] at hc
    rcases hc with hc | rfl | hc
    · exact ihu hc
    · rcases ho with rfl | rfl <;> decide
    · exact ihv hc

/-- In texts of the language, the alphabetic characters are the plain letters. -/
theorem isAlphabetic_of_mem (hw : Grammatical w) {c : Char} (hc : c ∈ w) :
    Text.isAlphabetic c = isPlainLetter c := by
  rcases hw.mem hc with h | h | h
  · exact isAlphabetic_of_ascii (toNat_lt_of_isPlainLetter h)
  · exact isAlphabetic_of_ascii (toNat_lt_of_isPlainDigit h)
  · have hsigns : ['(', ')', '+', '×', '*'].all
        (fun c => Text.isAlphabetic c == isPlainLetter c) = true := by
      decide +kernel
    exact beq_iff_eq.mp (List.all_eq_true.mp hsigns c h)

/-- Texts of the language have no blanks. -/
theorem isBlank_of_mem (hw : Grammatical w) {c : Char} (hc : c ∈ w) : Text.isBlank c = false := by
  rcases hw.mem hc with h | h | h
  · exact isBlank_of_isPlainLetter h
  · exact isBlank_of_isPlainDigit h
  · have hsigns : ['(', ')', '+', '×', '*'].all (fun c => !Text.isBlank c) = true := by decide
    simpa using List.all_eq_true.mp hsigns c h

/-- An `o` between two texts of the language separates them if and only if they meet so. -/
theorem isOr_iff (hu : Grammatical u) (hv : Grammatical v) {c : Char} (hc : c = 'o' ∨ c = 'O') :
    isOr u.getLast? c v.head? = true ↔ Meet u v := by
  have hb := List.getLast?_eq_some_getLast hu.ne_nil
  have ha := List.head?_eq_some_head hv.ne_nil
  have hab := hu.isAlphabetic_of_mem (List.getLast_mem hu.ne_nil)
  have haa := hv.isAlphabetic_of_mem (List.head_mem hv.ne_nil)
  have hor : (c == 'o' || c == 'O') = true := by simpa using hc
  rw [hb, ha]
  simp only [isOr, hor, hab, haa, Bool.true_and, Bool.or_eq_true, Bool.and_eq_true, beq_iff_eq]
  constructor
  · intro h
    exact ⟨_, _, hb, ha, h⟩
  · rintro ⟨b, a, hb', ha', h⟩
    rw [hb] at hb'
    rw [ha] at ha'
    cases hb'
    cases ha'
    exact h

/-- A character that separates options is an `o`. -/
theorem eq_of_isOr {before after : Option Char} {c : Char} (h : isOr before c after = true) :
    c = 'o' ∨ c = 'O' := by
  by_contra hc
  rw [not_or] at hc
  rw [isOr_of_ne hc.1 hc.2] at h
  cases h

end Grammatical

/-- Parts of a text of the language: they belong to it, and they begin and end as the text does. -/
structure GrammaticalParts (w : List Char) (ps : List (List Char)) : Prop where
  mem : ∀ p ∈ ps, Grammatical p
  head : ∃ p tail, ps = p :: tail ∧ p.head? = w.head?
  last : ∃ init p, ps = init ++ [p] ∧ p.getLast? = w.getLast?

namespace GrammaticalParts

variable {u v w : List Char} {ps qs : List (List Char)}

theorem single (hw : Grammatical w) : GrammaticalParts w [w] where
  mem := by simpa using hw
  head := ⟨w, [], rfl, rfl⟩
  last := ⟨[], w, rfl, rfl⟩

theorem append (hu : GrammaticalParts u ps) (hv : GrammaticalParts v qs) (hu0 : u ≠ [])
    (hv0 : v ≠ []) (c : Char) : GrammaticalParts (u ++ c :: v) (ps ++ qs) where
  mem p hp := (List.mem_append.mp hp).elim (hu.mem p) (hv.mem p)
  head := by
    obtain ⟨p, tail, rfl, hp⟩ := hu.head
    exact ⟨p, tail ++ qs, rfl, by rw [hp, List.head?_append_of_ne_nil _ hu0]⟩
  last := by
    obtain ⟨init, q, rfl, hq⟩ := hv.last
    exact ⟨ps ++ init, q, by simp, by rw [hq, getLast?_append_cons hv0]⟩

/-- Parts that are joined across a character. -/
theorem fuse (hu : GrammaticalParts u ps) (hv : GrammaticalParts v qs) (hu0 : u ≠ [])
    (hv0 : v ≠ []) {c : Char}
    (hjoin : ∀ p q, Grammatical p → Grammatical q → p.getLast? = u.getLast? → q.head? = v.head? →
      Grammatical (p ++ c :: q)) :
    GrammaticalParts (u ++ c :: v) (splice ps (splice [[c]] qs)) := by
  obtain ⟨init, p, rfl, hp⟩ := hu.last
  obtain ⟨q, tail, rfl, hq⟩ := hv.head
  have hpg := hu.mem p (by simp)
  have hqg := hv.mem q (by simp)
  have hsplice : splice (init ++ [p]) (splice [[c]] (q :: tail)) =
      init ++ (p ++ c :: q) :: tail := by
    rw [append_splice init (by simp)]
    rfl
  rw [hsplice]
  -- Only the last part of `u` and the first part of `v` are changed, so what is left to see is
  -- that the text still begins and ends as its outermost parts do.
  refine ⟨?_, ?_, ?_⟩
  · intro r hr
    simp only [List.mem_append, List.mem_cons] at hr
    rcases hr with hr | rfl | hr
    · exact hu.mem r (by simp [hr])
    · exact hjoin p q hpg hqg hp hq
    · exact hv.mem r (by simp [hr])
  · obtain ⟨p', tail', hps, hp'⟩ := hu.head
    cases init with
    | nil =>
      obtain ⟨rfl, -⟩ := List.cons.inj hps
      refine ⟨_, tail, rfl, ?_⟩
      rw [List.head?_append_of_ne_nil _ hpg.ne_nil, List.head?_append_of_ne_nil _ hu0, hp']
    | cons i init =>
      obtain ⟨rfl, -⟩ := List.cons.inj hps
      exact ⟨i, _, rfl, by rw [List.head?_append_of_ne_nil _ hu0, hp']⟩
  · obtain ⟨init', q', hqs, hq'⟩ := hv.last
    rcases List.eq_nil_or_concat' tail with rfl | ⟨mid, t, rfl⟩
    · obtain ⟨-, rfl⟩ : init' = [] ∧ q' = q := by
        cases init' with
        | nil => simpa using hqs.symm
        | cons i init' => simp at hqs
      exact ⟨init, _, rfl, by rw [getLast?_append_cons hqg.ne_nil, getLast?_append_cons hv0, hq']⟩
    · have ht : q' = t := by
        have hlast := congrArg List.getLast? hqs
        rw [← List.cons_append, List.getLast?_concat, List.getLast?_concat] at hlast
        exact (Option.some.inj hlast).symm
      exact ⟨init ++ (p ++ c :: q) :: mid, t, by simp, by rw [getLast?_append_cons hv0, ← ht, hq']⟩

end GrammaticalParts

namespace Grammatical

variable {u v w : List Char} {sep : Option Char → Char → Option Char → Bool}

/-- **A text of the language splits into texts of the language**, whatever separates them, as long
as no atom is split. -/
theorem exists_splits (hatom : ∀ w, IsAtom w → Splits sep w [w]) (hw : Grammatical w) :
    ∃ ps, Splits sep w ps ∧ GrammaticalParts w ps := by
  induction hw with
  | @atom w hw => exact ⟨[w], hatom w hw, .single (.atom hw)⟩
  | @wrapped v hv ih => exact ⟨_, splits_wrapped hv.isBalanced, .single (.wrapped hv)⟩
  | @sum u v hu hv ihu ihv =>
    obtain ⟨ps, hps, hpg⟩ := ihu
    obtain ⟨qs, hqs, hqg⟩ := ihv
    -- Either the sign separates, or it stands inside a part, which is then a sum itself.
    cases hsep : sep u.getLast? '+' v.head? with
    | true =>
      exact ⟨_, hps.separated hqs (by decide) (by decide) hsep, hpg.append hqg hu.ne_nil hv.ne_nil _⟩
    | false =>
      exact ⟨_, hps.fused hqs (by decide) (by decide) hsep,
        hpg.fuse hqg hu.ne_nil hv.ne_nil fun p q hp hq _ _ => .sum hp hq⟩
  | @choice u v c hc hu hv huv ihu ihv =>
    obtain ⟨ps, hps, hpg⟩ := ihu
    obtain ⟨qs, hqs, hqg⟩ := ihv
    have hno : c ≠ '(' ∧ c ≠ ')' := by rcases hc with rfl | rfl <;> decide
    cases hsep : sep u.getLast? c v.head? with
    | true => exact ⟨_, hps.separated hqs hno.1 hno.2 hsep, hpg.append hqg hu.ne_nil hv.ne_nil _⟩
    | false =>
      refine ⟨_, hps.fused hqs hno.1 hno.2 hsep, hpg.fuse hqg hu.ne_nil hv.ne_nil ?_⟩
      intro p q hp hq hpl hqh
      obtain ⟨b, a, hb, ha, h⟩ := huv
      exact .choice hc hp hq ⟨b, a, hpl.trans hb, hqh.trans ha, h⟩

/-- The terms of a text of the language belong to it. -/
theorem of_mem_terms (hw : Grammatical w) {p : List Char} (hp : p ∈ split isPlus w) :
    Grammatical p := by
  obtain ⟨ps, hps, hpg⟩ := hw.exists_splits fun _ h => h.splits_isPlus
  rw [hps.split_eq] at hp
  exact hpg.mem p hp

/-- The options of a text of the language belong to it. -/
theorem of_mem_options (hw : Grammatical w) {p : List Char} (hp : p ∈ split isOr w) :
    Grammatical p := by
  obtain ⟨ps, hps, hpg⟩ := hw.exists_splits fun _ h => h.splits_isOr
  rw [hps.split_eq] at hp
  exact hpg.mem p hp

/-- Without its wrapping parentheses, a text of the language is an atom or splits into several
parts. -/
theorem stripOuter_cases (hw : Grammatical w) :
    Grammatical (stripOuter w) ∧ (IsAtom (stripOuter w) ∨
      1 < (split isPlus (stripOuter w)).length ∨ 1 < (split isOr (stripOuter w)).length) := by
  induction hw with
  | @atom w hw =>
    have hstrip : stripOuter w = w := by
      obtain ⟨a, w, rfl⟩ := List.exists_cons_of_ne_nil hw.ne_nil
      exact stripOuter_of_ne (hw.ne_of_mem (by simp)).1 w
    rw [hstrip]
    exact ⟨.atom hw, .inl hw⟩
  | wrapped hv ih =>
    rw [stripOuter_wrapped hv.isBalanced]
    exact ih
  | sum hu hv =>
    rw [stripOuter_joined hu.ne_nil hu.isBalanced]
    obtain ⟨ps, hps, -⟩ := hu.exists_splits fun _ h => h.splits_isPlus
    obtain ⟨qs, hqs, -⟩ := hv.exists_splits fun _ h => h.splits_isPlus
    have hsplit := (hps.separated hqs (c := '+') (by decide) (by decide) rfl).split_eq
    have hp := List.length_pos_of_ne_nil hps.parts_ne_nil
    have hq := List.length_pos_of_ne_nil hqs.parts_ne_nil
    refine ⟨.sum hu hv, .inr (.inl ?_)⟩
    rw [hsplit, List.length_append]
    omega
  | @choice u v c hc hu hv huv =>
    rw [stripOuter_joined hu.ne_nil hu.isBalanced]
    obtain ⟨ps, hps, -⟩ := hu.exists_splits fun _ h => h.splits_isOr
    obtain ⟨qs, hqs, -⟩ := hv.exists_splits fun _ h => h.splits_isOr
    have hsplit := (hps.separated hqs (c := c) (by rcases hc with rfl | rfl <;> decide)
      (by rcases hc with rfl | rfl <;> decide) ((isOr_iff hu hv hc).mpr huv)).split_eq
    have hp := List.length_pos_of_ne_nil hps.parts_ne_nil
    have hq := List.length_pos_of_ne_nil hqs.parts_ne_nil
    refine ⟨.choice hc hu hv huv, .inr (.inr ?_)⟩
    rw [hsplit, List.length_append]
    omega

/-- Putting back the wrapping parentheses leads to a text of the language. -/
theorem of_stripOuter (hw : Grammatical (stripOuter w)) : Grammatical w := by
  fun_induction stripOuter w with
  | case1 rest hwraps ih =>
    have hlast : rest.getLast? = some ')' := by
      rw [Bool.and_eq_true] at hwraps
      simpa using hwraps.1
    rw [← List.dropLast_append_getLast? ')' hlast]
    exact .wrapped (ih hw)
  | case2 rest hwraps => exact hw
  | case3 w hne => exact hw

end Grammatical

theorem firstUnknownOf?_eq_none_iff {ts : List Tree} :
    Tree.firstUnknownOf? ts = none ↔ ∀ t ∈ ts, t.firstUnknown? = none := by
  induction ts with
  | nil => simp [Tree.firstUnknownOf?]
  | cons t ts ih =>
    cases ht : t.firstUnknown? <;> simp [Tree.firstUnknownOf?, ht, ih]

/-- Trees read from the parts of a text are known if and only if all parts are in the language. -/
theorem firstUnknownOf?_attach_iff {parts : List (List Char)}
    (ih : ∀ part : { p // p ∈ parts }, (read part.1).firstUnknown? = none ↔ Grammatical part.1) :
    Tree.firstUnknownOf? (parts.attach.map fun part => read part.1) = none ↔
      ∀ p ∈ parts, Grammatical p := by
  rw [firstUnknownOf?_eq_none_iff]
  constructor
  · intro h p hp
    exact (ih ⟨p, hp⟩).mp (h _ (List.mem_map.mpr ⟨⟨p, hp⟩, List.mem_attach _ _, rfl⟩))
  · intro h t ht
    obtain ⟨part, -, rfl⟩ := List.mem_map.mp ht
    exact (ih part).mpr (h part.1 part.2)

/-- **Reading leaves no unknown token exactly in the texts of the language.** -/
theorem read_known_iff {w : List Char} : (read w).firstUnknown? = none ↔ Grammatical w := by
  fun_induction read w with
  | case1 w hseveral ih =>
    rw [Tree.firstUnknown?, firstUnknownOf?_attach_iff ih]
    constructor
    · intro hparts
      refine .of_stripOuter (of_split Grammatical.not_nil ?_ hparts)
      intro u c v hu hv hc
      have hplus : c = '+' := by simpa [isPlus] using hc
      rw [hplus]
      exact .sum hu hv
    · intro hw p hp
      exact hw.stripOuter_cases.1.of_mem_terms hp
  | case2 w hone hseveral ih =>
    rw [Tree.firstUnknown?, firstUnknownOf?_attach_iff ih]
    constructor
    · intro hparts
      refine .of_stripOuter (of_split Grammatical.not_nil ?_ hparts)
      intro u c v hu hv hc
      have ho := Grammatical.eq_of_isOr hc
      exact .choice ho hu hv ((Grammatical.isOr_iff hu hv ho).mp hc)
    · intro hw p hp
      exact hw.stripOuter_cases.1.of_mem_options hp
  | case3 w hone hone' =>
    rw [readAtom_known_iff]
    constructor
    · intro hatom
      exact .of_stripOuter (.atom hatom)
    · intro hw
      exact hw.stripOuter_cases.2.resolve_right fun h => h.elim hone hone'

/-- A text of the language passes the strict test. -/
theorem check_of_grammatical {text : String} (h : Grammatical (Text.strip text.toList)) :
    (Formula.parse text).check = .ok () := by
  have hsource : (Formula.parse text).source.toList = Text.strip text.toList :=
    String.toList_ofList
  have hempty : (Formula.parse text).source.isEmpty = false := by
    rw [Bool.eq_false_iff, ne_eq, String.isEmpty_iff]
    intro hs
    rw [hs] at hsource
    exact h.ne_nil hsource.symm
  have htree : (Formula.parse text).tree.firstUnknown? = none := read_known_iff.mpr h
  unfold Formula.check
  rw [hempty, hsource, h.isBalanced, htree]
  rfl

/-- **The strict test accepts exactly the language of point formulas.** -/
theorem check_ok_iff (text : String) :
    (Formula.parse text).check = .ok () ↔ Grammatical (Text.strip text.toList) := by
  constructor
  · intro h
    unfold Formula.check at h
    split at h
    · cases h
    · split at h
      · cases h
      · split at h
        · cases h
        · next htree => exact read_known_iff.mp htree
  · exact check_of_grammatical

end Chargen.Points
