import Chargen.Characteristic

/-!
# Profiles and blocks

A `Profile α` gives one `α` to each characteristic; a `Block` is a profile of numbers, and a profile
of optional numbers is a block under construction.

* `get_ofFn`, `get_set`, `get_map`: what each operation does to the value of one characteristic.
* `ext_get`: profiles that agree at all nine are equal.
* `complete?_eq_some_iff`: a block under construction is complete when it holds all nine numbers.
-/

namespace Chargen

/-- One `α` for each characteristic. -/
structure Profile (α : Type) where
  /-- strength -/
  fue : α
  /-- constitution -/
  con : α
  /-- size -/
  tam : α
  /-- dexterity -/
  des : α
  /-- appearance -/
  apa : α
  /-- intelligence -/
  int : α
  /-- power -/
  pod : α
  /-- education -/
  edu : α
  /-- luck -/
  suerte : α
deriving DecidableEq, Repr, Inhabited

namespace Profile

variable {α β : Type}

/-- The value of one characteristic. -/
def get (p : Profile α) : Characteristic → α
  | .fue => p.fue
  | .con => p.con
  | .tam => p.tam
  | .des => p.des
  | .apa => p.apa
  | .int => p.int
  | .pod => p.pod
  | .edu => p.edu
  | .suerte => p.suerte

/-- The profile with the given value for each characteristic. -/
def ofFn (f : Characteristic → α) : Profile α where
  fue := f .fue
  con := f .con
  tam := f .tam
  des := f .des
  apa := f .apa
  int := f .int
  pod := f .pod
  edu := f .edu
  suerte := f .suerte

/-- The profile with one value for all nine. -/
def uniform (a : α) : Profile α :=
  ofFn fun _ => a

/-- The profile with one characteristic changed. -/
def set (p : Profile α) (c : Characteristic) (a : α) : Profile α :=
  ofFn fun d => if d = c then a else p.get d

/-- A function applied to every value. -/
def map (f : α → β) (p : Profile α) : Profile β :=
  ofFn fun c => f (p.get c)

/-- The nine characteristics with their values, in sheet order. -/
def toList (p : Profile α) : List (Characteristic × α) :=
  Characteristic.all.map fun c => (c, p.get c)

/-- The profile of the results of nine actions, done in sheet order. -/
def generate {m : Type → Type} [Monad m] (act : Characteristic → m α) : m (Profile α) := do
  let fue ← act .fue
  let con ← act .con
  let tam ← act .tam
  let des ← act .des
  let apa ← act .apa
  let int ← act .int
  let pod ← act .pod
  let edu ← act .edu
  let suerte ← act .suerte
  return { fue, con, tam, des, apa, int, pod, edu, suerte }

@[simp] theorem get_ofFn (f : Characteristic → α) (c : Characteristic) : (ofFn f).get c = f c := by
  cases c <;> rfl

@[simp] theorem get_uniform (a : α) (c : Characteristic) : (uniform a).get c = a := by
  simp [uniform]

@[simp] theorem get_set (p : Profile α) (c d : Characteristic) (a : α) :
    (p.set c a).get d = if d = c then a else p.get d := by
  simp [set]

@[simp] theorem get_map (f : α → β) (p : Profile α) (c : Characteristic) :
    (p.map f).get c = f (p.get c) := by
  simp [map]

/-- Profiles that agree at all nine characteristics are equal. -/
theorem ext_get {p q : Profile α} (h : ∀ c, p.get c = q.get c) : p = q := by
  have h1 := h .fue; have h2 := h .con; have h3 := h .tam; have h4 := h .des; have h5 := h .apa
  have h6 := h .int; have h7 := h .pod; have h8 := h .edu; have h9 := h .suerte
  cases p; cases q
  simp only [get] at h1 h2 h3 h4 h5 h6 h7 h8 h9
  simp [h1, h2, h3, h4, h5, h6, h7, h8, h9]

end Profile

/-- A number for each characteristic. -/
abbrev Block := Profile Int

/-- The numbers known so far. -/
abbrev PartialBlock := Profile (Option Int)

/-- The least legal value of a characteristic. -/
def minCharacteristic : Int := 1

/-- The greatest legal value of a characteristic. -/
def maxCharacteristic : Int := 99

/-- Whether a value is legal for a characteristic. -/
def isLegalCharacteristic (n : Int) : Bool :=
  minCharacteristic ≤ n && n ≤ maxCharacteristic

namespace Profile

/-- The characteristics of a block whose value is not legal, with that value. -/
def illegal (b : Block) : List (Characteristic × Int) :=
  b.toList.filter fun e => !isLegalCharacteristic e.2

/-- The values of a profile all of whose values are present. -/
def complete? {α : Type} (p : Profile (Option α)) : Option (Profile α) :=
  generate p.get

/-- The numbers known so far, with zero for each one missing. -/
def orZero (p : PartialBlock) : Block :=
  p.map fun v => v.getD 0

/-- The block under construction that holds all numbers of a block. -/
def known (b : Block) : PartialBlock :=
  b.map some

/-- Whether no number is known. -/
def isVoid (p : PartialBlock) : Bool :=
  p.toList.all fun e => e.2.isNone

/-- A profile is complete when it holds a value for every characteristic. -/
theorem complete?_eq_some_iff {α : Type} {p : Profile (Option α)} {q : Profile α} :
    p.complete? = some q ↔ p = q.map some := by
  obtain ⟨a, b, c, d, e, f, g, h, i⟩ := p
  constructor
  · intro hq
    simp only [complete?, generate, get, Option.bind_eq_bind, Option.bind_eq_some_iff,
      Option.pure_def, Option.some.injEq] at hq
    obtain ⟨_, rfl, _, rfl, _, rfl, _, rfl, _, rfl, _, rfl, _, rfl, _, rfl, _, rfl, rfl⟩ := hq
    rfl
  · intro hp
    rw [hp]
    rfl

end Profile

end Chargen
