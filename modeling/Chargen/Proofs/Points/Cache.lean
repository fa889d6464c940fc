import Chargen.Points.Cache
import Chargen.Proofs.SortedMap
import Mathlib.Data.List.Dedup
import Mathlib.Data.List.Induction

/-!
# What goes through a cache

An action on a cache `Reads` certain texts and gives a certain result if it does so with every
faithful cache: the result does not depend on what the cache already holds, and what the action
leaves is the cache with these texts read.

* `reads_ask`: what is asked of the formula of a text is what that formula gives.
* `Reads.bind`, `Reads.bind_ok`, `Reads.bind_error`, `Reads.bind_pure`: actions one after the other.
* `get?_readAll`, `size_readAll`: **a cache that starts empty holds exactly the texts that were
  read**, each with its formula.
-/

namespace Chargen.Points.Cache

/-! ### Reading many texts -/

theorem readAll_append (cache : Cache) (front back : List String) :
    cache.readAll (front ++ back) = (cache.readAll front).readAll back := by
  unfold readAll
  rw [List.foldl_append]

theorem readAll_concat (cache : Cache) (texts : List String) (text : String) :
    cache.readAll (texts ++ [text]) = (read text (cache.readAll texts)).2 :=
  readAll_append cache texts [text]

/-- Reading keeps a cache faithful. -/
theorem faithful_readAll {cache : Cache} (h : cache.Faithful) (texts : List String) :
    (cache.readAll texts).Faithful := by
  induction texts using List.reverseRecOn with
  | nil => exact h
  | append_singleton texts text ih =>
    rw [readAll_concat]
    exact faithful_read ih text

/-- What a faithful cache answers after a text is read. -/
theorem get?_read {cache : Cache} (h : cache.Faithful) (text asked : String) :
    (read text cache).2.get? asked =
      if asked = text then some (Formula.parse text) else cache.get? asked := by
  unfold read
  split
  · next f hf =>
    by_cases heq : asked = text
    · subst heq
      rw [if_pos rfl, hf, h asked f hf]
    · rw [if_neg heq]
  · rw [SortedMap.get?_insert]

/-- **A cache holds what was read into it**, each text with its formula. -/
theorem get?_readAll (texts : List String) (asked : String) :
    (readAll SortedMap.empty texts).get? asked =
      if asked ∈ texts then some (Formula.parse asked) else none := by
  induction texts using List.reverseRecOn with
  | nil => simp [readAll]
  | append_singleton texts text ih =>
    rw [readAll_concat, get?_read (faithful_readAll faithful_empty texts), ih]
    by_cases heq : asked = text
    · simp [heq]
    · simp [heq]

/-- A cache has one entry for each text that was read into it. -/
theorem size_readAll (texts : List String) :
    (readAll SortedMap.empty texts).size = texts.dedup.length := by
  have hkeys : ∀ text, text ∈ (readAll SortedMap.empty texts).keys ↔ text ∈ texts.dedup := by
    intro text
    rw [SortedMap.mem_keys, get?_readAll, List.mem_dedup]
    by_cases hmem : text ∈ texts <;> simp [hmem]
  have hperm := (List.perm_ext_iff_of_nodup (SortedMap.nodup_keys _) texts.nodup_dedup).mpr hkeys
  have hlength := hperm.length_eq
  rwa [SortedMap.keys, List.length_map] at hlength

/-! ### Actions -/

variable {α β ε : Type}

/-- With every faithful cache, an action gives a result and leaves the cache with certain texts
read. -/
def Reads (x : StateM Cache α) (texts : List String) (result : α) : Prop :=
  ∀ cache : Cache, cache.Faithful → x cache = (result, cache.readAll texts)

namespace Reads

theorem pure (a : α) : Reads (Pure.pure a) [] a := fun _ _ => rfl

theorem read (text : String) : Reads (Cache.read text) [text] (Formula.parse text) := by
  intro cache h
  exact Prod.ext (formula_read h text) rfl

/-- Actions one after the other read their texts one after the other. -/
theorem bind {x : StateM Cache α} {f : α → StateM Cache β} {front back : List String} {a : α}
    {b : β} (hx : Reads x front a) (hf : Reads (f a) back b) :
    Reads (x >>= f) (front ++ back) b := by
  intro cache h
  have hstep : (x >>= f) cache = f (x cache).1 (x cache).2 := rfl
  rw [hstep, hx cache h, hf _ (faithful_readAll h front), readAll_append]

/-! An action that can fail stops at its first fault and keeps what it has read. -/

theorem throw (cause : ε) :
    Reads (throw cause : ExceptT ε (StateM Cache) α).run [] (.error cause) := fun _ _ => rfl

theorem lift (result : Except ε α) :
    Reads (liftM result : ExceptT ε (StateM Cache) α).run [] result := by
  intro cache _
  cases result <;> rfl

theorem liftState {x : StateM Cache α} {texts : List String} {a : α} (hx : Reads x texts a) :
    Reads (liftM x : ExceptT ε (StateM Cache) α).run texts (.ok a) := by
  intro cache h
  have hstep : (liftM x : ExceptT ε (StateM Cache) α).run cache = (.ok (x cache).1, (x cache).2) :=
    rfl
  rw [hstep, hx cache h]

theorem bind_ok {x : ExceptT ε (StateM Cache) α} {f : α → ExceptT ε (StateM Cache) β}
    {front back : List String} {a : α} {result : Except ε β} (hx : Reads x.run front (.ok a))
    (hf : Reads (f a).run back result) : Reads (x >>= f).run (front ++ back) result :=
  Reads.bind (f := ExceptT.bindCont f) hx hf

theorem bind_error {x : ExceptT ε (StateM Cache) α} {f : α → ExceptT ε (StateM Cache) β}
    {texts : List String} {cause : ε} (hx : Reads x.run texts (.error cause)) :
    Reads (x >>= f).run texts (.error cause) := by
  have hstop : Reads (ExceptT.bindCont f (.error cause)) [] (.error cause) := Reads.pure _
  have hboth := Reads.bind (f := ExceptT.bindCont f) hx hstop
  rwa [List.append_nil] at hboth

/-- What gives a result without the cache reads nothing before the rest. -/
theorem bind_lift {f : α → ExceptT ε (StateM Cache) β} {texts : List String} {a : α}
    {result : Except ε β} (hf : Reads (f a).run texts result) :
    Reads (liftM (Except.ok a : Except ε α) >>= f).run texts result :=
  Reads.bind_ok (Reads.lift _) hf

/-- A formula is read before the rest. -/
theorem bind_read {f : Formula → ExceptT ε (StateM Cache) β} {text : String} {texts : List String}
    {result : Except ε β} (hf : Reads (f (Formula.parse text)).run texts result) :
    Reads (liftM (Cache.read text) >>= f).run (text :: texts) result :=
  Reads.bind_ok (Reads.liftState (Reads.read text)) hf

/-- What is made of the result at the end reads nothing. -/
theorem bind_pure {x : ExceptT ε (StateM Cache) α} {texts : List String} {result : Except ε α}
    (hx : Reads x.run texts result) (g : α → β) :
    Reads (x >>= fun a => Pure.pure (g a)).run texts (result >>= fun a => Pure.pure (g a)) := by
  cases result with
  | error cause => exact Reads.bind_error hx
  | ok a =>
    have hlast : Reads (Pure.pure (g a) : ExceptT ε (StateM Cache) β).run [] (.ok (g a)) :=
      Reads.pure _
    have hboth := Reads.bind_ok (f := fun a => Pure.pure (g a)) hx hlast
    rwa [List.append_nil] at hboth

end Reads

/-- **What is asked of the formula of a text is what that formula gives.** -/
theorem reads_ask (text : String) (question : Formula → α) :
    Reads (ask text question) [text] (question (Formula.parse text)) :=
  (Reads.read text).bind (Reads.pure _)

end Chargen.Points.Cache
