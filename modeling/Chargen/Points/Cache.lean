import Chargen.Points.Best

/-!
# Formulas read once

A `Cache` keeps the formulas that were read, by their exact text, so that a text is read only when
it is first asked for. What is asked of a formula that is given by its text goes through the cache:
its value, its choices, its best options and the options that fill the open ones.

`Cache.Faithful` says that every stored formula is the one its text holds; reading keeps it.

* `formula_read`: through a faithful cache, a text gives the formula that it holds.
-/

namespace Chargen.Points

/-- The formulas read so far, by text. -/
abbrev Cache := SortedMap String Formula

namespace Cache

/-- The formula of a text, read and stored if it is asked for the first time. -/
def read (text : String) : StateM Cache Formula := fun cache =>
  match cache.get? text with
  | some f => (f, cache)
  | none => (Formula.parse text, cache.insert text (Formula.parse text))

section Asking

variable {α : Type} (text : String) (b : Block) (picks : Picks)

/-- What is asked of the formula of a text. -/
def ask (question : Formula → α) : StateM Cache α := do
  return question (← read text)

/-- The value of the formula of a text. -/
def value : StateM Cache Int :=
  ask text fun f => f.value b picks

/-- The choices of the formula of a text. -/
def groups : StateM Cache (List ChoiceGroup) :=
  ask text Formula.groups

/-- The best options of the formula of a text. -/
def best : StateM Cache Best :=
  ask text fun f => f.best b

/-- Picks completed with the best options of the formula of a text, and the number of these. -/
def fill : StateM Cache (Nat × Picks) :=
  ask text fun f => f.fill b picks

end Asking

/-- The cache after a list of texts is read. -/
def readAll (cache : Cache) (texts : List String) : Cache :=
  texts.foldl (fun c text => (read text c).2) cache

/-- Every stored formula is the one that its text holds. -/
def Faithful (cache : Cache) : Prop :=
  ∀ text f, cache.get? text = some f → f = Formula.parse text

theorem faithful_empty : Faithful SortedMap.empty := by
  intro text f h
  simp at h

/-- Through a faithful cache, a text gives the formula that it holds. -/
theorem formula_read {cache : Cache} (h : cache.Faithful) (text : String) :
    (read text cache).1 = Formula.parse text := by
  unfold read
  split
  · next f hf => exact h text f hf
  · rfl

/-- Reading keeps a cache faithful. -/
theorem faithful_read {cache : Cache} (h : cache.Faithful) (text : String) :
    Faithful (read text cache).2 := by
  unfold read
  split
  · exact h
  · intro t f hf
    rw [SortedMap.get?_insert] at hf
    split at hf
    · next ht => cases hf; rw [ht]
    · exact h t f hf

end Cache

end Chargen.Points
