import Chargen.Text.DecompositionTable
import Chargen.Text.Range

/-!
# Canonical decomposition

`decompose` takes a character apart into its full canonical decomposition: an accented letter into
the letter and its accents, a Hangul syllable into its two or three letters. A character without a
decomposition is its own.
-/

namespace Chargen.Text

/-- The first of the 11172 Hangul syllables. -/
def firstSyllable : Nat := 0xAC00

/-- The number of Hangul syllables: 19 leading consonants, 21 vowels, 27 final consonants
or none. -/
def syllableCount : Nat := 19 * 21 * 28

/-- The letters of the Hangul syllable with a given index. -/
def syllableLetters (index : Nat) : List Nat :=
  let leading := 0x1100 + index / (21 * 28)
  let vowel := 0x1161 + index % (21 * 28) / 28
  let final := index % 28
  if final = 0 then [leading, vowel] else [leading, vowel, 0x11A7 + final]

/-- The code points of the full canonical decomposition of a code point. -/
def decomposeCode (c : Nat) : List Nat :=
  if firstSyllable ≤ c && c < firstSyllable + syllableCount then
    syllableLetters (c - firstSyllable)
  else (lookupAscending c decompositions).getD [c]

/-- The full canonical decomposition of a character. No ASCII character has one of its own. -/
def decompose (c : Char) : List Char :=
  if c.toNat < 0x80 then [c] else (decomposeCode c.toNat).map Char.ofNat

end Chargen.Text
