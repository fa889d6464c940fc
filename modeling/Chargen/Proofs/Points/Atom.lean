import Chargen.Proofs.Numeral
import Chargen.Proofs.Points.Parts
import Mathlib.Data.List.Basic

/-!
# Atoms

An atom is a key of a characteristic in plain letters, such a key times a number, or a number.
`readAtom` knows exactly these (`readAtom_known_iff`). Keys neither begin nor end with an `o`, so an
`o` inside an atom stands between two letters and an atom is one part of any split
(`IsAtom.splits_isPlus`, `IsAtom.splits_isOr`).
-/

namespace Chargen.Points

theorem isPlainLetter_iff {c : Char} : isPlainLetter c = true ↔
    97 ≤ c.toNat ∧ c.toNat ≤ 122 ∨ 65 ≤ c.toNat ∧ c.toNat ≤ 90 := by
  simp [isPlainLetter, Char.le_def, UInt32.le_iff_toNat_le]

theorem toNat_lt_of_isPlainLetter {c : Char} (hc : isPlainLetter c = true) : c.toNat < 128 := by
  have := isPlainLetter_iff.mp hc
  omega

/-- A key of a characteristic in plain letters. -/
structure IsKey (k : List Char) : Prop where
  letters : ∀ c ∈ k, isPlainLetter c = true
  known : (Characteristic.ofKey? (String.ofList k)).isSome = true

/-- A numeral below the limit of numbers. -/
structure IsNumber (ds : List Char) : Prop where
  ne_nil : ds ≠ []
  digits : ∀ c ∈ ds, isPlainDigit c = true
  value_le : digitsValue 0 ds ≤ 2147483647

/-- **The atoms of point formulas.** -/
inductive IsAtom : List Char → Prop
  /-- a characteristic -/
  | single {k : List Char} (hk : IsKey k) : IsAtom k
  /-- a characteristic times a number -/
  | scaled {k ds : List Char} {sign : Char} (hk : IsKey k)
      (hsign : sign = 'x' ∨ sign = 'X' ∨ sign = '×' ∨ sign = '*') (hds : IsNumber ds) :
      IsAtom (k ++ sign :: ds)
  /-- a number -/
  | constant {ds : List Char} (hds : IsNumber ds) : IsAtom ds

/-- A numeral is read exactly if it is a number. -/
theorem isSome_numeral? {ds : List Char} :
    (numeral? numberLimit ds).isSome = true ↔ IsNumber ds := by
  rw [Option.isSome_iff_exists]
  constructor
  · rintro ⟨n, hn⟩
    obtain ⟨hds, hlt⟩ := numeral?_eq_some_iff.mp hn
    refine ⟨hds.ne_nil, hds.digits, ?_⟩
    have hvalue := hds.value_eq
    unfold numberLimit at hlt
    omega
  · intro hds
    have hlt : digitsValue 0 ds < numberLimit := by
      have hvalue := hds.value_le
      unfold numberLimit
      omega
    exact ⟨_, numeral?_eq_some_iff.mpr ⟨⟨hds.ne_nil, hds.digits, rfl⟩, hlt⟩⟩

/-! ### Keys -/

/-- The capital of a plain letter. -/
theorem capitals_of_isPlainLetter {c : Char} (hc : isPlainLetter c = true) :
    Characteristic.capitals c = [c.toUpper] := by
  have hall : ∀ n : Fin 128, isPlainLetter (Char.ofNat n) = true →
      Characteristic.capitals (Char.ofNat n) = [(Char.ofNat n).toUpper] := by decide
  simpa [hc] using of_ascii (P := fun c => isPlainLetter c = true →
    Characteristic.capitals c = [c.toUpper]) hall
    (toNat_lt_of_isPlainLetter hc)

theorem isBlank_of_isPlainLetter {c : Char} (hc : isPlainLetter c = true) :
    Text.isBlank c = false := by
  have hall : ∀ n : Fin 128, isPlainLetter (Char.ofNat n) = true →
      Text.isBlank (Char.ofNat n) = false := by decide
  simpa [hc] using of_ascii (P := fun c => isPlainLetter c = true → Text.isBlank c = false) hall
    (toNat_lt_of_isPlainLetter hc)

/-- A key in plain letters is read in capitals. -/
theorem ofKey?_of_letters {k : List Char} (hk : ∀ c ∈ k, isPlainLetter c = true) :
    Characteristic.ofKey? (String.ofList k) =
      Characteristic.ofCapitals? (String.ofList (k.map Char.toUpper)) := by
  have htrim : Text.trim k = k := Text.trim_of_forall fun c hc => isBlank_of_isPlainLetter (hk c hc)
  have hcap : k.flatMap Characteristic.capitals = k.map Char.toUpper := by
    rw [List.map_eq_flatMap]
    exact List.flatMap_congr fun c hc => capitals_of_isPlainLetter (hk c hc)
  rw [Characteristic.ofKey?, String.toList_ofList, htrim, hcap]

/-- No characteristic has a key that begins or ends with an `O`. -/
theorem ofCapitals?_ends {s : String} {k : Characteristic}
    (h : Characteristic.ofCapitals? s = some k) :
    s.toList ≠ [] ∧ s.toList.head? ≠ some 'O' ∧ s.toList.getLast? ≠ some 'O' := by
  unfold Characteristic.ofCapitals? at h
  split at h
  all_goals first | exact ⟨by decide, by decide, by decide⟩ | cases h

namespace IsKey

variable {k : List Char}

theorem ends (hk : IsKey k) : k ≠ [] ∧ (k.map Char.toUpper).head? ≠ some 'O' ∧
    (k.map Char.toUpper).getLast? ≠ some 'O' := by
  obtain ⟨c, hc⟩ := Option.isSome_iff_exists.mp hk.known
  rw [ofKey?_of_letters hk.letters] at hc
  simpa using ofCapitals?_ends hc

theorem ne_nil (hk : IsKey k) : k ≠ [] := hk.ends.1

/-- An `o` in a key has a letter before it and a letter behind it. -/
theorem between (hk : IsKey k) {x y : List Char} {c : Char} (hc : c = 'o' ∨ c = 'O')
    (hxy : k = x ++ c :: y) : x ≠ [] ∧ y ≠ [] := by
  have hupper : c.toUpper = 'O' := by rcases hc with rfl | rfl <;> rfl
  obtain ⟨-, hhead, hlast⟩ := hk.ends
  constructor
  · rintro rfl
    exact hhead (by simp [hxy, hupper])
  · rintro rfl
    exact hlast (by simp [hxy, hupper])

end IsKey

/-! ### Reading atoms -/

theorem IsNumber.exists_cons {ds : List Char} (hds : IsNumber ds) :
    ∃ d rest, ds = d :: rest ∧ isPlainDigit d = true := by
  obtain ⟨d, rest, rfl⟩ := List.exists_cons_of_ne_nil hds.ne_nil
  exact ⟨d, rest, rfl, hds.digits d (by simp)⟩

theorem isPlainLetter_of_isPlainDigit {c : Char} (hc : isPlainDigit c = true) :
    isPlainLetter c = false := by
  have hd := isPlainDigit_iff.mp hc
  rw [Bool.eq_false_iff, ne_eq, isPlainLetter_iff]
  omega

theorem isTimes_of_isPlainDigit {c : Char} (hc : isPlainDigit c = true) : isTimes c = false := by
  rw [Bool.eq_false_iff, ne_eq, isTimes_iff]
  rintro (rfl | rfl | rfl | rfl) <;> exact absurd hc (by decide)

theorem takeWhile_letters {k : List Char} (hk : ∀ c ∈ k, isPlainLetter c = true) (rest : List Char) :
    (k ++ rest).takeWhile isPlainLetter = k ++ rest.takeWhile isPlainLetter ∧
      (k ++ rest).dropWhile isPlainLetter = rest.dropWhile isPlainLetter :=
  ⟨List.takeWhile_append_of_pos hk, List.dropWhile_append_of_pos hk⟩

/-- A name and a numeral are found around a multiplication sign, be it a letter or not. -/
theorem splitScaled_eq {k ds : List Char} {sign : Char} (hk : ∀ c ∈ k, isPlainLetter c = true)
    (hsign : isTimes sign = true) (hds : IsNumber ds) :
    splitScaled (k ++ sign :: ds) = some (k, ds) := by
  obtain ⟨d, rest, rfl, hd⟩ := hds.exists_cons
  have hletter := isPlainLetter_of_isPlainDigit hd
  have htimes := isTimes_of_isPlainDigit hd
  unfold splitScaled
  simp only [takeWhile_letters hk]
  cases hs : isPlainLetter sign with
  | true => simp [hs, hletter, htimes, hsign, List.getLast?_append]
  | false => simp [hs, hsign]

/-- Text that begins with a digit has no name before a multiplication sign. -/
theorem splitScaled_of_digit {d : Char} (hd : isPlainDigit d = true) (rest : List Char) :
    splitScaled (d :: rest) = none := by
  simp [splitScaled, isPlainLetter_of_isPlainDigit hd, isTimes_of_isPlainDigit hd]

theorem splitScaled_of_letters {k : List Char} (hk : ∀ c ∈ k, isPlainLetter c = true) :
    splitScaled k = none := by
  have hdrop : k.dropWhile isPlainLetter = [] := by simpa using (takeWhile_letters hk []).2
  simp [splitScaled, hdrop]

/-- What is found around a multiplication sign makes up the text. -/
theorem eq_of_splitScaled {cs k ds : List Char} (h : splitScaled cs = some (k, ds)) :
    ∃ sign, isTimes sign = true ∧ cs = k ++ sign :: ds ∧ ∀ c ∈ k, isPlainLetter c = true := by
  have htake : ∀ c ∈ cs.takeWhile isPlainLetter, isPlainLetter c = true := fun c hc =>
    List.all_eq_true.mp List.all_takeWhile c hc
  have hcs := List.takeWhile_append_dropWhile (p := isPlainLetter) (l := cs)
  unfold splitScaled at h
  simp only at h
  split at h
  · cases h
  · next c rest hdrop =>
    rw [hdrop] at hcs
    split at h
    · next hc =>
      cases h
      exact ⟨c, hc, hcs.symm, htake⟩
    · split at h
      · next hlast =>
        cases h
        obtain ⟨sign, hsign, hs⟩ := (Option.any_eq_true _ _).mp hlast
        have hsplit : (cs.takeWhile isPlainLetter).dropLast ++ [sign] =
            cs.takeWhile isPlainLetter := List.dropLast_append_getLast? sign hsign
        refine ⟨sign, hs, ?_, fun c hc => htake c (List.dropLast_subset _ hc)⟩
        calc cs = cs.takeWhile isPlainLetter ++ c :: rest := hcs.symm
          _ = (cs.takeWhile isPlainLetter).dropLast ++ [sign] ++ c :: rest := by rw [hsplit]
          _ = _ := List.append_assoc _ _ _
      · cases h

/-- A characteristic times a number is read as such. -/
theorem readAtom_scaled {k ds : List Char} {sign : Char} {c : Characteristic} {n : Nat}
    (hk : ∀ a ∈ k, isPlainLetter a = true) (hc : Characteristic.ofKey? (String.ofList k) = some c)
    (hsign : isTimes sign = true) (hn : numeral? numberLimit ds = some n) :
    readAtom (k ++ sign :: ds) = .scaled c n := by
  have hds : IsNumber ds := isSome_numeral?.mp (by rw [hn]; rfl)
  simp [readAtom, readScaled?, splitScaled_eq hk hsign hds, hc, hn]

/-- A characteristic alone is read as such. -/
theorem readAtom_single {k : List Char} {c : Characteristic}
    (hk : ∀ a ∈ k, isPlainLetter a = true) (hc : Characteristic.ofKey? (String.ofList k) = some c) :
    readAtom k = .single c := by
  have hall : k.all isPlainLetter = true := List.all_eq_true.mpr hk
  simp [readAtom, readScaled?, splitScaled_of_letters hk, readSingle?, hall, hc]

/-- A number alone is read as such. -/
theorem readAtom_constant {ds : List Char} {n : Nat} (hn : numeral? numberLimit ds = some n) :
    readAtom ds = .constant n := by
  have hds : IsNumber ds := isSome_numeral?.mp (by rw [hn]; rfl)
  obtain ⟨d, rest, rfl, hd⟩ := hds.exists_cons
  simp [readAtom, readScaled?, splitScaled_of_digit hd, readSingle?, readConstant?,
    isPlainLetter_of_isPlainDigit hd, hn]

/-- **Exactly the atoms are known.** -/
theorem readAtom_known_iff {cs : List Char} :
    (readAtom cs).firstUnknown? = none ↔ IsAtom cs := by
  constructor
  · intro h
    unfold readAtom at h
    cases hscaled : readScaled? cs with
    | some t =>
      simp only [readScaled?, Option.bind_eq_bind, Option.bind_eq_some_iff] at hscaled
      obtain ⟨⟨k, ds⟩, hsplit, c, hc, n, hn, -⟩ := hscaled
      obtain ⟨sign, hsign, rfl, hk⟩ := eq_of_splitScaled hsplit
      exact .scaled ⟨hk, by rw [hc]; rfl⟩ (isTimes_iff.mp hsign) (isSome_numeral?.mp (by rw [hn]; rfl))
    | none =>
      cases hsingle : readSingle? cs with
      | some t =>
        unfold readSingle? at hsingle
        split at hsingle
        · next hall =>
          obtain ⟨c, hc, -⟩ := Option.map_eq_some_iff.mp hsingle
          exact .single ⟨List.all_eq_true.mp hall, by rw [hc]; rfl⟩
        · cases hsingle
      | none =>
        cases hconstant : readConstant? cs with
        | some t =>
          obtain ⟨n, hn, -⟩ := Option.map_eq_some_iff.mp hconstant
          exact .constant (isSome_numeral?.mp (by rw [hn]; rfl))
        | none => simp [hscaled, hsingle, hconstant, Tree.firstUnknown?] at h
  · intro h
    cases h with
    | single hk =>
      obtain ⟨c, hc⟩ := Option.isSome_iff_exists.mp hk.known
      rw [readAtom_single hk.letters hc]
      rfl
    | scaled hk hsign hds =>
      obtain ⟨c, hc⟩ := Option.isSome_iff_exists.mp hk.known
      obtain ⟨n, hn⟩ := Option.isSome_iff_exists.mp (isSome_numeral?.mpr hds)
      rw [readAtom_scaled hk.letters hc (isTimes_iff.mpr hsign) hn]
      rfl
    | constant hds =>
      obtain ⟨n, hn⟩ := Option.isSome_iff_exists.mp (isSome_numeral?.mpr hds)
      rw [readAtom_constant hn]
      rfl

/-! ### Splitting atoms -/

/-- Among the ASCII characters, the letters are the alphabetic ones. -/
theorem isAlphabetic_of_ascii {c : Char} (hc : c.toNat < 128) :
    Text.isAlphabetic c = isPlainLetter c := by
  have hall : ∀ n : Fin 128, Text.isAlphabetic (Char.ofNat n) = isPlainLetter (Char.ofNat n) := by
    decide
  exact of_ascii (P := fun c => Text.isAlphabetic c = isPlainLetter c) hall hc

/-- Only the letter `o` separates options. -/
theorem isOr_of_ne {c : Char} (ho : c ≠ 'o') (hO : c ≠ 'O') (before after : Option Char) :
    isOr before c after = false := by
  unfold isOr
  split
  · simp [ho, hO]
  · rfl

/-- Between two letters an `o` separates nothing. -/
theorem isOr_of_letters {b a : Char} (hb : isPlainLetter b = true) (ha : isPlainLetter a = true)
    (c : Char) : isOr (some b) c (some a) = false := by
  have hdigit : isPlainDigit b = false := by
    cases hd : isPlainDigit b with
    | false => rfl
    | true => rw [isPlainLetter_of_isPlainDigit hd] at hb; cases hb
  have hclose : b ≠ ')' := by rintro rfl; exact absurd hb (by decide)
  have hopen : a ≠ '(' := by rintro rfl; exact absurd ha (by decide)
  simp [isOr, hdigit, hclose, hopen]

namespace IsAtom

variable {w : List Char}

theorem ne_nil (hw : IsAtom w) : w ≠ [] := by
  cases hw with
  | single hk => exact hk.ne_nil
  | scaled hk hsign hds => simp
  | constant hds => exact hds.ne_nil

theorem mem (hw : IsAtom w) {c : Char} (hc : c ∈ w) :
    isPlainLetter c = true ∨ isTimes c = true ∨ isPlainDigit c = true := by
  cases hw with
  | single hk => exact .inl (hk.letters c hc)
  | scaled hk hsign hds =>
    rcases List.mem_append.mp hc with hc | hc
    · exact .inl (hk.letters c hc)
    · rcases List.mem_cons.mp hc with rfl | hc
      · exact .inr (.inl (isTimes_iff.mpr hsign))
      · exact .inr (.inr (hds.digits c hc))
  | constant hds => exact .inr (.inr (hds.digits c hc))

/-- Atoms hold neither parentheses nor plus signs. -/
theorem ne_of_mem (hw : IsAtom w) {c : Char} (hc : c ∈ w) : c ≠ '(' ∧ c ≠ ')' ∧ c ≠ '+' := by
  refine ⟨?_, ?_, ?_⟩ <;> rintro rfl <;> exact absurd (hw.mem hc) (by decide)

/-- An `o` in an atom stands between two letters. -/
theorem between (hw : IsAtom w) {x y : List Char} {c : Char} (hc : c = 'o' ∨ c = 'O')
    (hxy : w = x ++ c :: y) :
    (∃ b, x.getLast? = some b ∧ isPlainLetter b = true) ∧
      ∃ a, y.head? = some a ∧ isPlainLetter a = true := by
  -- the `o` lies in the key, and no key begins or ends with one
  suffices hkey : ∃ k z, IsKey k ∧ k = x ++ c :: z ∧ (z ≠ [] → y.head? = z.head?) by
    obtain ⟨k, z, hk, rfl, hhead⟩ := hkey
    obtain ⟨hx, hz⟩ := hk.between hc rfl
    refine ⟨⟨x.getLast hx, List.getLast?_eq_some_getLast hx, ?_⟩,
      z.head hz, ?_, ?_⟩
    · exact hk.letters _ (List.mem_append_left _ (List.getLast_mem hx))
    · rw [hhead hz, List.head?_eq_some_head hz]
    · exact hk.letters _ (List.mem_append_right _ (List.mem_cons_of_mem _ (List.head_mem hz)))
  have hno : isPlainDigit c = false ∧ isTimes c = false := by rcases hc with rfl | rfl <;> decide
  cases hw with
  | single hk => exact ⟨w, y, hk, hxy, fun _ => rfl⟩
  | constant hds =>
    have hd := hds.digits c (by simp [hxy])
    rw [hno.1] at hd
    cases hd
  | @scaled k ds sign hk hsign hds =>
    rcases List.append_eq_append_iff.mp hxy with ⟨z, hx, hz⟩ | ⟨z, hk', hz⟩
    · have hmem : c ∈ sign :: ds := by rw [hz]; simp
      rcases List.mem_cons.mp hmem with rfl | hmem
      · rw [isTimes_iff.mpr hsign] at hno
        cases hno.2
      · rw [hds.digits c hmem] at hno
        cases hno.1
    · cases z with
      | nil =>
        obtain ⟨rfl, -⟩ := List.cons.inj hz
        rw [isTimes_iff.mpr hsign] at hno
        cases hno.2
      | cons c' z =>
        obtain ⟨rfl, rfl⟩ := List.cons.inj hz
        refine ⟨k, z, hk, hk', fun hne => ?_⟩
        obtain ⟨a, z, rfl⟩ := List.exists_cons_of_ne_nil hne
        rfl

/-- An atom is one term. -/
theorem splits_isPlus (hw : IsAtom w) : Splits isPlus w [w] := by
  refine splits_plain hw.ne_nil fun x c y hxy => ?_
  obtain ⟨ho, hc, hplus⟩ := hw.ne_of_mem (c := c) (by simp [hxy])
  exact ⟨ho, hc, fun _ _ => by simp [isPlus, hplus]⟩

/-- An atom is one option. -/
theorem splits_isOr (hw : IsAtom w) : Splits isOr w [w] := by
  refine splits_plain hw.ne_nil fun x c y hxy => ?_
  obtain ⟨ho, hc, -⟩ := hw.ne_of_mem (c := c) (by simp [hxy])
  refine ⟨ho, hc, fun before rest => ?_⟩
  by_cases hor : c = 'o' ∨ c = 'O'
  · obtain ⟨⟨b, hb, hbl⟩, a, ha, hal⟩ := hw.between hor hxy
    obtain ⟨y, rfl⟩ := List.head?_eq_some_iff.mp ha
    rw [hb]
    exact isOr_of_letters hbl hal c
  · exact isOr_of_ne (fun h => hor (.inl h)) (fun h => hor (.inr h)) _ _

/-- Atoms have no parentheses to be balanced. -/
theorem isBalanced (hw : IsAtom w) : isBalanced 0 w = true := by
  have hall : ∀ v : List Char, (∀ c ∈ v, c ≠ '(' ∧ c ≠ ')') → Points.isBalanced 0 v = true := by
    intro v hv
    induction v with
    | nil => rfl
    | cons c v ih =>
      rw [isBalanced_other (hv c (by simp)).1 (hv c (by simp)).2]
      exact ih fun d hd => hv d (List.mem_cons_of_mem _ hd)
  exact hall w fun c hc => ⟨(hw.ne_of_mem hc).1, (hw.ne_of_mem hc).2.1⟩

end IsAtom

end Chargen.Points
