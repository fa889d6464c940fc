import Chargen.Desk

/-!
# Requests to a desk

Clients ask a desk for formulas and for what follows from them, load rulebooks and put them into
use, in any order. A load that fails is answered with its fault, and the desk goes on.

* `Desk.answer`: what a desk does for one request.
* `Desk.run`: what it does for one request after the other.
-/

namespace Chargen

/-- What is asked of a desk. -/
inductive Request where
  /-- the formula of a text -/
  | formula (text : String)
  /-- the value of the formula of a text -/
  | value (text : String) (b : Block) (picks : Points.Picks)
  /-- the choices of the formula of a text -/
  | groups (text : String)
  /-- the best options of the formula of a text -/
  | best (text : String) (b : Block)
  /-- picks completed with the best options of the formula of a text -/
  | fill (text : String) (b : Block) (picks : Points.Picks)
  /-- forgets all formulas -/
  | forget
  /-- loads a rulebook for the client only -/
  | load (source : RulebookSource)
  /-- puts a rulebook into use that was loaded before -/
  | install (r : LoadedRulebook)
  /-- loads a rulebook and puts it into use -/
  | installFrom (source : RulebookSource)

/-- What a desk answers. -/
inductive Answer where
  /-- a formula -/
  | formula (f : Points.Formula)
  /-- the value of a formula -/
  | value (n : Int)
  /-- the choices of a formula -/
  | groups (gs : List Points.ChoiceGroup)
  /-- the best options of a formula -/
  | best (found : Points.Best)
  /-- the number of completed picks, with all picks -/
  | filled (result : Nat × Points.Picks)
  /-- a rulebook, or why it could not be loaded -/
  | loaded (result : Except Fault Rulebook)
  /-- a rulebook is in use, or why it could not be loaded -/
  | installed (result : Except Fault Unit)
  /-- nothing is answered -/
  | done

namespace Desk

/-- What a desk does for one request. -/
def answer : Request → StateM Desk Answer
  | .formula text => return .formula (← readFormula text)
  | .value text b picks => return .value (← throughCache (Points.Cache.value text b picks))
  | .groups text => return .groups (← throughCache (Points.Cache.groups text))
  | .best text b => return .best (← throughCache (Points.Cache.best text b))
  | .fill text b picks => return .filled (← throughCache (Points.Cache.fill text b picks))
  | .forget => do
    clearFormulas
    return .done
  | .load source => return .loaded (← loadFrom source)
  | .install r => do
    install r.rulebook
    return .done
  | .installFrom source => return .installed (← installLoaded (← loadFrom source))

/-- What a desk does for one request after the other. -/
def run : List Request → StateM Desk (List Answer)
  | [] => return []
  | request :: requests => do
    let first ← answer request
    return first :: (← run requests)

end Desk

end Chargen
