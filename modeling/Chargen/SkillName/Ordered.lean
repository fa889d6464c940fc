import Chargen.SkillName

/-!
# Keys from texts in canonical order

A character has a combining class, which is zero for letters and other characters that stand by
themselves. Canonical order sorts what stands between two such characters by its classes and keeps
the order of characters that have one class. A decomposed text is put in this order before its marks
are dropped. The classes are a parameter here.

* `Text.canonicalOrder`: a text in canonical order.
* `SkillName.orderedKey`: the key of a name whose decomposition is put in canonical order.
-/

namespace Chargen

namespace Text

/-- A character put in front of a text in canonical order: behind the characters at its start whose
classes are smaller than its own and not zero. -/
def insertByClass (combiningClass : Char → Nat) (c : Char) : List Char → List Char
  | [] => [c]
  | d :: rest =>
    if combiningClass d ≠ 0 ∧ combiningClass d < combiningClass c then
      d :: insertByClass combiningClass c rest
    else c :: d :: rest

/-- A text in canonical order. -/
def canonicalOrder (combiningClass : Char → Nat) (cs : List Char) : List Char :=
  cs.foldr (insertByClass combiningClass) []

/-- The canonical decomposition of a text, in canonical order. -/
def decomposeText (combiningClass : Char → Nat) (cs : List Char) : List Char :=
  canonicalOrder combiningClass (cs.flatMap decompose)

end Text

namespace SkillName

/-- The key of a name, as characters, by way of its decomposition in canonical order. -/
def orderedKeyChars (combiningClass : Char → Nat) (cs : List Char) : List Char :=
  let letters := (Text.decomposeText combiningClass cs).filter fun c => !Text.isMark c
  joinWords (Text.words (letters.map Text.toLowerCase))

/-- The key of a name, by way of its decomposition in canonical order. -/
def orderedKey (combiningClass : Char → Nat) (name : String) : String :=
  String.ofList (orderedKeyChars combiningClass name.toList)

end SkillName

end Chargen
