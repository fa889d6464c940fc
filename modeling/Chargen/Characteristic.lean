import Chargen.Text.Blank

/-!
# Characteristics

The nine characteristics of an investigator, in the order of the sheet. Each has one printed name
and some accepted keys; a key is read without the blanks around it and in any case.

* `ofKey?_name`: every printed name is a key of its characteristic.
-/

namespace Chargen

/-- One of the nine core attributes. -/
inductive Characteristic where
  /-- Fuerza, strength -/
  | fue
  /-- Constitución -/
  | con
  /-- Tamaño, size -/
  | tam
  /-- Destreza, dexterity -/
  | des
  /-- Apariencia, appearance -/
  | apa
  /-- Inteligencia -/
  | int
  /-- Poder, power -/
  | pod
  /-- Educación -/
  | edu
  /-- Suerte, luck -/
  | suerte
deriving DecidableEq, Repr, Inhabited

namespace Characteristic

/-- All nine, in sheet order. -/
def all : List Characteristic :=
  [.fue, .con, .tam, .des, .apa, .int, .pod, .edu, .suerte]

/-- The name printed on the sheet. -/
def name : Characteristic → String
  | .fue => "FUE"
  | .con => "CON"
  | .tam => "TAM"
  | .des => "DES"
  | .apa => "APA"
  | .int => "INT"
  | .pod => "POD"
  | .edu => "EDU"
  | .suerte => "SUERTE"

/-- The characteristic with a printed name. -/
def ofName? (s : String) : Option Characteristic :=
  all.find? fun c => c.name == s

/-- The capitals of a character, as far as they are letters from `A` to `Z`: those of the small
letters, of the dotless and the long letter, of the sharp s and of the Latin ligatures. Any other
character stands for itself. -/
def capitals (c : Char) : List Char :=
  if 'a' ≤ c && c ≤ 'z' then [Char.ofNat (c.toNat - 32)]
  else match c with
    | 'ı' => ['I']
    | 'ſ' => ['S']
    | 'ß' => ['S', 'S']
    | 'ﬀ' => ['F', 'F']
    | 'ﬁ' => ['F', 'I']
    | 'ﬂ' => ['F', 'L']
    | 'ﬃ' => ['F', 'F', 'I']
    | 'ﬄ' => ['F', 'F', 'L']
    | 'ﬅ' => ['S', 'T']
    | 'ﬆ' => ['S', 'T']
    | c => [c]

/-- The characteristic of a key in capitals; English abbreviations are accepted beside the printed
names. -/
def ofCapitals? (s : String) : Option Characteristic :=
  match s with
  | "FUE" | "STR" => some .fue
  | "CON" => some .con
  | "TAM" | "SIZ" => some .tam
  | "DES" | "DEX" => some .des
  | "APA" | "APP" => some .apa
  | "INT" => some .int
  | "POD" | "POW" => some .pod
  | "EDU" => some .edu
  | "SUERTE" | "LUCK" | "SUE" => some .suerte
  | _ => none

/-- The characteristic that a key names, read without blanks around it and in any case. -/
def ofKey? (key : String) : Option Characteristic :=
  ofCapitals? (String.ofList ((Text.trim key.toList).flatMap capitals))

theorem mem_all (c : Characteristic) : c ∈ all := by cases c <;> decide

theorem ofName?_name (c : Characteristic) : ofName? c.name = some c := by cases c <;> decide

/-- Every printed name is a key of its characteristic. -/
theorem ofKey?_name (c : Characteristic) : ofKey? c.name = some c := by cases c <;> decide

end Characteristic

end Chargen
