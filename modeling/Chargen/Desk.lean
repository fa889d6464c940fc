import Chargen.Rulebook.Loading

/-!
# The desk

A desk keeps what is shared between drafts: the formulas read so far and the rulebook in use.
Loading a rulebook reads its formulas through the cache, and only one that is loaded without a fault
takes the place of the rulebook in use.
-/

namespace Chargen

/-- The formulas read so far and the rulebook in use. -/
structure Desk where
  /-- the formulas read so far -/
  cache : Points.Cache
  /-- the rulebook in use, if one was ever installed -/
  installed : Option Rulebook

namespace Desk

/-- A desk without formulas and without a rulebook. -/
def bare : Desk := ⟨SortedMap.empty, none⟩

/-- Does with the cache of a desk what is done with a cache. -/
def throughCache {α : Type} (x : StateM Points.Cache α) : StateM Desk α := fun desk =>
  let (a, cache) := x desk.cache
  (a, { desk with cache })

/-- Reads a formula through the cache. -/
def readFormula (text : String) : StateM Desk Points.Formula :=
  throughCache (Points.Cache.read text)

/-- Forgets all formulas. -/
def clearFormulas : StateM Desk Unit := fun desk =>
  ((), { desk with cache := SortedMap.empty })

/-- Loads a rulebook from a document. -/
def load (d : RulebookDocument) : StateM Desk (Except Fault Rulebook) :=
  throughCache (Rulebook.load d).run

/-- Loads a rulebook from a JSON document. -/
def loadJson (j : Json) : StateM Desk (Except Fault Rulebook) :=
  match j.asRulebook? with
  | some d => load d
  | none => pure (.error .malformedDocument)

/-- Loads a rulebook from a source. -/
def loadFrom (source : RulebookSource) : StateM Desk (Except Fault Rulebook) :=
  match source.document? with
  | some d => load d
  | none => pure (.error .malformedDocument)

/-- Puts a rulebook into use. -/
def install (r : Rulebook) : StateM Desk Unit := fun desk =>
  ((), { desk with installed := some r })

/-- Puts a rulebook into use if it was loaded without a fault. -/
def installLoaded (loaded : Except Fault Rulebook) : StateM Desk (Except Fault Unit) :=
  match loaded with
  | .error fault => pure (.error fault)
  | .ok r => do
    install r
    return .ok ()

end Desk

end Chargen
