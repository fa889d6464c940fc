import Chargen.Points.Value

/-!
# The best options

`Formula.best` tries every combination of options and keeps the first one of the highest value. The
combinations are lists of places, one for each choice, and `advance` leads from one to the next as
an odometer does, the last place turning fastest. `turnInPlace` turns the places one by one where
they stand: a place that has come past the options of its choice turns to zero, and then the place
before it is turned. A formula with more than `maxCombinations` combinations keeps its first options
untried.

`Formula.fill` picks the best options for the choices that are still open.
-/

namespace Chargen.Points

/-- The options picked and the value that they give. -/
structure Best where
  /-- one option for each choice -/
  picks : Picks
  /-- the value of the formula -/
  total : Int
deriving DecidableEq

/-- The greatest number of combinations that are tried. -/
def maxCombinations : Nat := 4096

/-- The number of combinations of options. -/
def combinationCount (groups : List ChoiceGroup) : Nat :=
  (groups.map fun g => g.options.length).foldl (· * ·) 1

/-- The next list of places, each below its radix, with the last place turning fastest; `false` if
it was the last one, and then all places are zero again. -/
def advance : List Nat → List Nat → Bool × List Nat
  | radix :: radixes, place :: places =>
    match advance radixes places with
    | (true, next) => (true, place :: next)
    | (false, next) => if place + 1 < radix then (true, (place + 1) :: next) else (false, 0 :: next)
  | _, _ => (false, [])

/-- Turns the first `pos` places from the last of them on, until one of them stays below the number
of options of its choice; `false` if none of them does. Nothing if a place or its choice is
missing. -/
def turnFrom (groups : List ChoiceGroup) : Nat → List Nat → Option (Bool × List Nat)
  | 0, places => some (false, places)
  | pos + 1, places => do
    let place ← places[pos]?
    let g ← groups[pos]?
    if place + 1 < g.options.length then return (true, places.set pos (place + 1))
    else turnFrom groups pos (places.set pos 0)

/-- Turns the odometer by one combination. -/
def turnInPlace (groups : List ChoiceGroup) (places : List Nat) : Option (Bool × List Nat) :=
  turnFrom groups places.length places

/-- The options at the given places. -/
def picksAt (groups : List ChoiceGroup) (places : List Nat) : Picks :=
  SortedMap.ofList (groups.zipWith (fun g place => (g.key, g.options.getD place "")) places)

namespace Formula

/-- The combination at the given places with its value. -/
def tryAt (f : Formula) (b : Block) (places : List Nat) : Best :=
  let picks := picksAt f.groups places
  ⟨picks, f.value b picks⟩

/-- Tries up to `fuel` combinations after the one at `places`, keeping the best so far. -/
def search (f : Formula) (b : Block) : Nat → List Nat → Best → Best
  | 0, _, best => best
  | fuel + 1, places, best =>
    match advance (f.groups.map fun g => g.options.length) places with
    | (false, _) => best
    | (true, next) =>
      let candidate := f.tryAt b next
      search f b fuel next (if best.total < candidate.total then candidate else best)

/-- The first combination of the highest value. -/
def best (f : Formula) (b : Block) : Best :=
  let zeros := f.groups.map fun _ => 0
  let first := f.tryAt b zeros
  if combinationCount f.groups ≤ maxCombinations then
    f.search b (combinationCount f.groups) zeros first
  else first

/-- The picks completed with the best options of the open choices, and the number of these. -/
def fill (f : Formula) (b : Block) (picks : Picks) : Nat × Picks :=
  let best := (f.best b).picks
  let filled := (f.openGroups picks).filterMap fun g => (best.get? g.key).map (g.key, ·)
  (filled.length, filled.foldl (fun m e => m.insert e.1 e.2) picks)

end Formula

end Chargen.Points
