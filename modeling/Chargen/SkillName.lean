import Chargen.Text.Blank
import Chargen.Text.Decomposition
import Chargen.Text.LowerCase
import Chargen.Text.Mark

/-!
# Skill names

Skill and occupation names are compared by their keys: accents and other combining marks are
dropped, capitals are lowered, and words are separated by one space. A name such as `Ciencia
(Física)` has a family and a specialization. An entry of an occupation may offer several names with
the word `o` between them, or any skill at all.

* `key`: what is compared.
* `family?`: the family and the specialization of a name.
* `alternatives`: the names that an entry offers.
-/

namespace Chargen.SkillName

/-- A character without its accents, lowered. -/
def fold (c : Char) : List Char :=
  ((Text.decompose c).filter fun d => !Text.isMark d).map Text.toLowerCase

/-- Words with one space between neighbours. -/
def joinWords : List (List Char) → List Char
  | [] => []
  | [w] => w
  | w :: rest => w ++ ' ' :: joinWords rest

/-- The key of a name, as characters. -/
def keyChars (cs : List Char) : List Char :=
  joinWords (Text.words (cs.flatMap fold))

/-- The key by which names are compared. -/
def key (name : String) : String :=
  String.ofList (keyChars name.toList)

/-- Whether two names name one skill. -/
def same (a b : String) : Bool :=
  key a == key b

/-- What stands before the last closing parenthesis; none if there is none. -/
def beforeLastClose (cs : List Char) : Option (List Char) :=
  match cs.reverse.dropWhile (· != ')') with
  | [] => none
  | _ :: rest => some rest.reverse

/-- The family and the specialization of a name, as characters: what stands before the first opening
parenthesis, and what stands between it and the last closing one. Neither may be blank. -/
def familyChars? (cs : List Char) : Option (List Char × List Char) :=
  match cs.dropWhile (· != '(') with
  | [] => none
  | _ :: inner =>
    match beforeLastClose inner with
    | none => none
    | some inside =>
      let family := Text.trim (cs.takeWhile (· != '('))
      let specialization := Text.trim inside
      if family.isEmpty || specialization.isEmpty then none else some (family, specialization)

/-- The family and the specialization of a name. -/
def family? (name : String) : Option (String × String) :=
  (familyChars? name.toList).map fun (family, specialization) =>
    (String.ofList family, String.ofList specialization)

/-- The skill that the credit rating feeds. -/
def credit : String := "Crédito"

/-- The skill whose base is education. -/
def ownLanguage : String := "Lengua propia"

/-- The skill whose base is half of dexterity. -/
def dodge : String := "Esquivar"

/-- The key of the skill that the credit rating feeds. -/
def creditKey : String := "credito"

/-- Whether a name names the skill that the credit rating feeds. -/
def isCredit (name : String) : Bool :=
  key name == creditKey

/-- Whether a text stands somewhere in another. -/
def hasInfix (part : List Char) : List Char → Bool
  | [] => part.isEmpty
  | c :: rest => part.isPrefixOf (c :: rest) || hasInfix part rest

/-- The part of a key that makes an entry offer any skill. -/
def wildcardMark : String := "cualquier"

/-- Whether an entry offers any skill. -/
def isWildcard (entry : String) : Bool :=
  hasInfix wildcardMark.toList (key entry).toList

/-- What follows the word `o` between blanks at the start of a text, blanks included. -/
def afterOr? (cs : List Char) : Option (List Char) :=
  match cs.dropWhile Text.isBlank with
  | o :: b :: rest =>
    if (o == 'o' || o == 'O') && Text.isBlank b then some (rest.dropWhile Text.isBlank) else none
  | _ => none

theorem length_afterOr?_lt {cs rest : List Char} (h : afterOr? cs = some rest) :
    rest.length < cs.length := by
  unfold afterOr? at h
  have hdrop := (List.dropWhile_sublist (l := cs) Text.isBlank).length_le
  split at h
  · next o b r hcs =>
    split at h
    · cases h
      have hrest := (List.dropWhile_sublist (l := r) Text.isBlank).length_le
      rw [hcs] at hdrop
      simp only [List.length_cons] at hdrop
      omega
    · cases h
  · cases h

/-- The parts of a text between the words `o`; never the empty list. -/
def splitOr : List Char → List (List Char)
  | [] => [[]]
  | c :: rest =>
    match _found : if Text.isBlank c then afterOr? (c :: rest) else none with
    | some after => [] :: splitOr after
    | none =>
      match splitOr rest with
      | [] => [[c]]
      | part :: others => (c :: part) :: others
termination_by cs => cs.length
decreasing_by
  · split at _found
    · exact length_afterOr?_lt _found
    · cases _found
  · exact Nat.lt_succ_self _

/-- The names that an entry offers, without the blanks around them; blank ones are left out. -/
def alternatives (entry : String) : List String :=
  ((splitOr entry.toList).map Text.trim).filter (fun part => !part.isEmpty) |>.map String.ofList

/-- The names whose key no earlier name has. -/
def distinctFrom (seen : List String) : List String → List String
  | [] => []
  | name :: rest =>
    if seen.contains (key name) then distinctFrom seen rest
    else name :: distinctFrom (key name :: seen) rest

/-- Names without later repetitions of a skill. -/
def distinct (names : List String) : List String :=
  distinctFrom [] names

end Chargen.SkillName
