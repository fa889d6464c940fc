import Chargen.Proofs.SkillName
import Chargen.Proofs.Text.Tables
import Chargen.SkillName.Ordered

/-!
# What folding does to a character

Folding takes a character apart, drops its marks and lowers the rest. Once is enough, and it makes no
parentheses. The order in which marks stand cannot matter, since none of them is kept.

* `fold_of_mem`: **folding twice changes nothing more**.
* `eq_of_isParenthesis`: only a parenthesis folds into a parenthesis.
* `orderedKey_eq`: **canonical order does not matter for keys**.
-/

namespace Chargen

namespace SkillName

/-- What folding yields is the small letter of a bare character that is no mark. -/
theorem exists_of_mem_fold {c d : Char} (h : d ∈ fold c) :
    ∃ e ∈ Text.decompose c, Text.isMark e = false ∧ d = Text.toLowerCase e := by
  obtain ⟨e, he, hd⟩ := List.mem_map.mp h
  obtain ⟨hmem, hmark⟩ := List.mem_filter.mp he
  exact ⟨e, hmem, by simpa using hmark, hd.symm⟩

theorem settled_of_mem_fold {c d : Char} (h : d ∈ fold c) : Text.Settled d := by
  obtain ⟨e, he, hmark, rfl⟩ := exists_of_mem_fold h
  exact Text.settled_toLowerCase (Text.isBare_of_mem_decompose he) hmark

theorem fold_of_settled {c : Char} (hc : Text.Settled c) : fold c = [c] := by
  have hbare : Text.decompose c = [c] := Text.decompose_of_isBare hc.isBare
  rw [fold, hbare, List.filter_cons_of_pos (by rw [hc.isMark]; rfl), List.filter_nil,
    List.map_singleton, hc.toLowerCase]

/-- **Folding twice changes nothing more.** -/
theorem fold_of_mem {c d : Char} (h : d ∈ fold c) : fold d = [d] :=
  fold_of_settled (settled_of_mem_fold h)

/-- Only a parenthesis folds into a parenthesis. -/
theorem eq_of_isParenthesis {c d : Char} (h : d ∈ fold c) (hd : Text.isParenthesis d = true) :
    d = c := by
  obtain ⟨e, he, -, rfl⟩ := exists_of_mem_fold h
  have hsame : Text.toLowerCase e = e :=
    Text.eq_of_toLowerCase (Text.isBare_of_mem_decompose he) hd
  rw [hsame] at hd ⊢
  exact Text.eq_of_mem_decompose he hd

/-- A text that was folded is folded. -/
theorem flatMap_fold_of_forall {cs : List Char} (h : ∀ c ∈ cs, fold c = [c]) :
    cs.flatMap fold = cs := by
  induction cs with
  | nil => rfl
  | cons c cs ih =>
    rw [List.flatMap_cons, h c List.mem_cons_self,
      ih fun d hd => h d (List.mem_cons_of_mem _ hd), List.singleton_append]

end SkillName

/-! ### Canonical order -/

namespace Text

variable {combiningClass : Char → Nat} {keep : Char → Bool}

/-- A character that is not kept can be put anywhere. -/
theorem filter_insertByClass_of_neg {c : Char} (hc : keep c = false) (cs : List Char) :
    (insertByClass combiningClass c cs).filter keep = cs.filter keep := by
  induction cs with
  | nil => rw [insertByClass, List.filter_cons_of_neg (by simp [hc])]
  | cons d rest ih =>
    rw [insertByClass]
    split
    · rw [List.filter_cons, ih, ← List.filter_cons]
    · rw [List.filter_cons_of_neg (by simp [hc])]

/-- What is kept keeps its order, if everything with a class is dropped. -/
theorem filter_canonicalOrder (hclass : ∀ c, combiningClass c ≠ 0 → keep c = false)
    (cs : List Char) : (canonicalOrder combiningClass cs).filter keep = cs.filter keep := by
  induction cs with
  | nil => rfl
  | cons c cs ih =>
    have hcons : canonicalOrder combiningClass (c :: cs) =
        insertByClass combiningClass c (canonicalOrder combiningClass cs) := rfl
    rw [hcons]
    by_cases hc : combiningClass c = 0
    · -- Nothing has a class below zero, so `c` stays in front.
      have hfront : insertByClass combiningClass c (canonicalOrder combiningClass cs) =
          c :: canonicalOrder combiningClass cs := by
        cases canonicalOrder combiningClass cs with
        | nil => rfl
        | cons d rest => rw [insertByClass, if_neg (by omega)]
      rw [hfront, List.filter_cons, List.filter_cons, ih]
    · have hdropped : keep c = false := hclass c hc
      rw [filter_insertByClass_of_neg hdropped, ih, List.filter_cons_of_neg (by simp [hdropped])]

end Text

namespace SkillName

/-- **Canonical order does not matter for keys**, as only marks have a class. -/
theorem orderedKey_eq {combiningClass : Char → Nat}
    (hclass : ∀ c, combiningClass c ≠ 0 → Text.isMark c = true) (name : String) :
    orderedKey combiningClass name = key name := by
  have hkept : (Text.decomposeText combiningClass name.toList).filter (fun c => !Text.isMark c) =
      (name.toList.flatMap Text.decompose).filter fun c => !Text.isMark c :=
    Text.filter_canonicalOrder (fun c hc => by rw [hclass c hc]; rfl) _
  have hfold : ((name.toList.flatMap Text.decompose).filter fun c => !Text.isMark c).map
      Text.toLowerCase = name.toList.flatMap fold := by
    rw [List.filter_flatMap, List.map_flatMap]
    rfl
  rw [orderedKey, key, orderedKeyChars, keyChars]
  simp only [hkept, hfold]

end SkillName

end Chargen
