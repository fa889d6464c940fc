import Chargen.Draft.Document
import Chargen.Proofs.SortedMap

/-!
# Written values are read back

Reading undoes writing one kind of value at a time: a number that fits its word, a list, a map, and
a record whose fields have different names.

* `Json.fields_object`: a record written as an object gives each field its value.
* `Json.asList?_map`, `Json.asOption?_ofOption`: lists and values that may be missing.
* `SortedMap.ofList_mapM_map`: a map is filled again with its own entries.
-/

namespace Chargen

/-- A map is filled again with its own entries. -/
theorem SortedMap.ofList_entries {κ ν : Type} [Ord κ] [Std.TransOrd κ] [Std.LawfulEqOrd κ]
    [DecidableEq κ] (m : SortedMap κ ν) : ofList m.entries = m := by
  refine ext_get? fun k => ?_
  rw [ofList_eq, get?_insertAll_entries, get?_empty, Option.or_none]

/-- Steps that all succeed give the list of their results. -/
theorem mapM_eq_some_map {α β : Type} {f : α → Option β} {g : α → β} {as : List α}
    (h : ∀ a ∈ as, f a = some (g a)) : as.mapM f = some (as.map g) := by
  induction as with
  | nil => rfl
  | cons a rest ih =>
    rw [List.mapM_cons, h a List.mem_cons_self, ih fun b hb => h b (List.mem_cons_of_mem _ hb)]
    rfl

/-- Items written one by one are read back one by one. -/
theorem mapM_map_eq_some {α β : Type} {read : β → Option α} {write : α → β} {as : List α}
    (h : ∀ a ∈ as, read (write a) = some a) : (as.map write).mapM read = some as := by
  have hall : as.mapM (read ∘ write) = some (as.map id) := mapM_eq_some_map h
  rw [List.mapM_map, hall, List.map_id]

/-- A map is filled again with its own entries, written one by one and read back. -/
theorem SortedMap.ofList_mapM_map {κ ν β : Type} [Ord κ] [Std.TransOrd κ] [Std.LawfulEqOrd κ]
    [DecidableEq κ] {m : SortedMap κ ν} {read : β → Option (κ × ν)} {write : κ × ν → β}
    (h : ∀ e ∈ m.entries, read (write e) = some e) :
    (do return ofList (← (m.entries.map write).mapM read)) = some m := by
  rw [mapM_map_eq_some h, Option.bind_eq_bind, Option.bind_some, ofList_entries]
  rfl

namespace Json

/-! ### Records -/

variable {members : List (MemberName × Json)} {m : MemberName × Json}

theorem filter_name_eq (hnames : (members.map fun m => m.1.text).Nodup) (hm : m ∈ members) :
    members.filter (fun other => other.1.text == m.1.text) = [m] := by
  induction members with
  | nil => cases hm
  | cons first rest ih =>
    obtain ⟨hfirst, hrest⟩ := List.nodup_cons.mp hnames
    rcases List.mem_cons.mp hm with rfl | hm
    · have hothers : rest.filter (fun other => other.1.text == m.1.text) = [] := by
        rw [List.filter_eq_nil_iff]
        intro other hother heq
        exact hfirst (List.mem_map.mpr ⟨other, hother, beq_iff_eq.mp heq⟩)
      rw [List.filter_cons_of_pos (by simp), hothers]
    · have hne : first.1.text ≠ m.1.text := fun heq => hfirst (List.mem_map.mpr ⟨m, hm, heq.symm⟩)
      rw [List.filter_cons_of_neg (by simpa using hne), ih hrest hm]

/-- **A record written as an object gives each field its value.** -/
theorem fields_object (hnames : (members.map fun m => m.1.text).Nodup) :
    (Json.object members).fields (members.map fun m => m.1.text) =
      some (members.map fun m => some m.2) := by
  rw [fields, List.mapM_map]
  refine mapM_eq_some_map fun m hm => ?_
  rw [Function.comp_apply, member?, filter_name_eq hnames hm]

/-- A record is read from an object with members for all its fields, in order, if it is read from
their values. -/
theorem read_object {α : Type} {names : List String} {read : List (Option Json) → Option α} {a : α}
    (hmembers : members.map (fun m => m.1.text) = names) (hnames : names.Nodup)
    (hread : read (members.map fun m => some m.2) = some a) :
    ((Json.object members).fields names).bind read = some a := by
  subst hmembers
  rw [fields_object hnames, Option.bind_some, hread]

/-! ### Numbers -/

/-- The greatest number of a 32-bit word without a sign. -/
def maxCount : Nat := 4294967295

/-- The greatest number of a 64-bit word without a sign. -/
def maxIndex : Nat := 18446744073709551615

theorem asNumber?_integer {n : Int} (hlo : minNumber ≤ n) (hhi : n ≤ maxNumber) :
    (Json.integer n).asNumber? = some n := by
  rw [asNumber?, asIntIn?, if_pos ⟨hlo, hhi⟩]

theorem asCount?_ofNat {n : Nat} (h : n ≤ maxCount) : (ofNat n).asCount? = some n := by
  have hin : (0 : Int) ≤ n ∧ (n : Int) ≤ 4294967295 := by
    rw [maxCount] at h
    omega
  rw [asCount?, ofNat, asIntIn?, if_pos hin]
  rfl

theorem asIndex?_ofNat {n : Nat} (h : n ≤ maxIndex) : (ofNat n).asIndex? = some n := by
  have hin : (0 : Int) ≤ n ∧ (n : Int) ≤ 18446744073709551615 := by
    rw [maxIndex] at h
    omega
  rw [asIndex?, ofNat, asIntIn?, if_pos hin]
  rfl

/-! ### Lists and values that may be missing -/

variable {α : Type} {read : Json → Option α} {write : α → Json}

theorem asList?_map {as : List α} (h : ∀ a ∈ as, read (write a) = some a) :
    (Json.array (as.map write)).asList? read = some as :=
  mapM_map_eq_some h

theorem asTexts?_ofTexts (texts : List String) : (ofTexts texts).asTexts? = some texts :=
  asList?_map fun _ _ => rfl

/-- A value that is never written as null is told from a missing one. -/
theorem asOption?_ofOption {value : Option α} (hnull : ∀ a, write a ≠ .null)
    (h : ∀ a, value = some a → read (write a) = some a) :
    (ofOption write value).asOption? read = some value := by
  cases value with
  | none => rfl
  | some a =>
    rw [ofOption, asOption?, h a rfl]
    · rfl
    · exact hnull a

end Json

end Chargen
