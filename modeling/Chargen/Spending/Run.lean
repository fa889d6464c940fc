import Chargen.Spending

/-!
# Runs of allocations

Points are allocated one skill at a time, each time in one of the two pools.

* `Spending.allocate`: the points spent after an allocation.
* `Spending.allocateAll`: the points spent after a run of allocations.
-/

namespace Chargen

/-- One of the two pools. -/
inductive PoolName where
  /-- the points of the occupation -/
  | occupation
  /-- the points of personal interests -/
  | personal
deriving DecidableEq, Repr

/-- New points for a skill in one of the pools. -/
structure Allocation where
  /-- the pool -/
  pool : PoolName
  /-- the skill -/
  skill : String
  /-- its points -/
  points : Nat
deriving DecidableEq, Repr

namespace Spending

/-- One of the pools. -/
def pool (s : Spending) : PoolName → Pool
  | .occupation => s.occupation
  | .personal => s.personal

/-- The points spent after an allocation. -/
def allocate (s : Spending) (a : Allocation) : Spending :=
  match a.pool with
  | .occupation => { s with occupation := s.occupation.assign a.skill a.points }
  | .personal => { s with personal := s.personal.assign a.skill a.points }

/-- The points spent after a run of allocations. -/
def allocateAll (s : Spending) (allocations : List Allocation) : Spending :=
  allocations.foldl allocate s

end Spending

end Chargen
