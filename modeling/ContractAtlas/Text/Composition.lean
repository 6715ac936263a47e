import ContractAtlas.Text.Composite

/-!
# Composed form

Texts that look alike may differ in whether a letter and its marks are one character or several, and
in the order of marks that do not touch. The composed form takes every composite apart, brings the
marks of a letter into the order of their classes, and puts together what makes a composite again.
-/

namespace ContractAtlas.Text

namespace Hangul

/-- The first syllable. -/
def syllableBase : Nat := 0xAC00

/-- The code point before the first of the leading consonants, vowels and trailing consonants. A
syllable without a trailing consonant has the place of that before the first one. -/
def leadingBase : Nat := 0x1100

/-- The first vowel. -/
def vowelBase : Nat := 0x1161

/-- The code point before the first trailing consonant. -/
def trailingBase : Nat := 0x11A7

/-- The number of leading consonants. -/
def leadingCount : Nat := 19

/-- The number of vowels. -/
def vowelCount : Nat := 21

/-- The number of trailing consonants, with none as one of them. -/
def trailingCount : Nat := 28

/-- The number of syllables. -/
def syllableCount : Nat := leadingCount * vowelCount * trailingCount

/-- The parts of a syllable. -/
def parts? (code : Nat) : Option (List Nat) :=
  if syllableBase <= code && code < syllableBase + syllableCount then
    let place := code - syllableBase
    let leading := leadingBase + place / (vowelCount * trailingCount)
    let vowel := vowelBase + place % (vowelCount * trailingCount) / trailingCount
    let trailing := trailingBase + place % trailingCount
    some (if trailing = trailingBase then [leading, vowel] else [leading, vowel, trailing])
  else none

/-- The syllable of a leading consonant and a vowel, or of a syllable without a trailing consonant
and such a consonant. -/
def compose? (first second : Nat) : Option Nat :=
  if leadingBase <= first && first < leadingBase + leadingCount &&
      vowelBase <= second && second < vowelBase + vowelCount then
    some (syllableBase +
      ((first - leadingBase) * vowelCount + (second - vowelBase)) * trailingCount)
  else if syllableBase <= first && first < syllableBase + syllableCount &&
      (first - syllableBase) % trailingCount = 0 &&
      trailingBase < second && second < trailingBase + trailingCount then
    some (first + (second - trailingBase))
  else none

end Hangul

/-- The parts of a character that is not a syllable, composites among them taken apart as often as
`depth` tells. -/
def partsOf : (depth : Nat) -> Nat -> List Nat
  | 0, code => [code]
  | depth + 1, code =>
      match composites.find? fun composite => composite.composed = code with
      | some composite => partsOf depth composite.first ++ partsOf depth composite.second
      | none => [code]

/-- How often a composite can be taken apart: no letter of a composite has more than three marks. -/
def compositeDepth : Nat := 4

/-- A character taken apart. -/
def takeApart (character : Char) : List Char :=
  if character.toNat < 0x80 then [character]
  else
    let codes := (Hangul.parts? character.toNat).getD (partsOf compositeDepth character.toNat)
    codes.map Char.ofNat

/-- A text, given latest character first, with one more character: a mark goes before those of a
higher class. -/
def placeMark (character : Char) : List Char -> List Char
  | [] => [character]
  | last :: earlier =>
      if combiningClass character != 0 && combiningClass character < combiningClass last then
        last :: placeMark character earlier
      else character :: last :: earlier

/-- A text with the marks after each letter in the order of their classes. -/
def orderMarks (characters : List Char) : List Char :=
  (characters.foldl (fun placed character => placeMark character placed) []).reverse

/-- The composite of a pair of characters. -/
def compose? (first second : Char) : Option Char :=
  let found := (Hangul.compose? first.toNat second.toNat).or
    ((composites.find? fun composite =>
      composite.first = first.toNat && composite.second = second.toNat).map Composite.composed)
  found.map Char.ofNat

/-- Puts pairs together: `letter` is the latest one that starts anew, and `marks` are the characters
after it, latest first. A character reaches the letter unless the one before it is of its class or a
higher one. -/
def composeAfter (letter : Char) (marks : List Char) : List Char -> List Char
  | [] => letter :: marks.reverse
  | character :: later =>
      let isBlocked := marks.head?.any fun last =>
        combiningClass character <= combiningClass last
      match if isBlocked then none else compose? letter character with
      | some composite => composeAfter composite marks later
      | none =>
          if combiningClass character = 0 then
            letter :: (marks.reverse ++ composeAfter character [] later)
          else composeAfter letter (character :: marks) later

/-- A text with every pair put together. Marks before the first letter stay. -/
def composePairs : List Char -> List Char
  | [] => []
  | character :: later =>
      if combiningClass character = 0 then composeAfter character [] later
      else character :: composePairs later

/-- The composed form of a text. Characters that never occur in a composed form, but stand for one
that does, are to be replaced before. -/
def composed (characters : List Char) : List Char :=
  composePairs (orderMarks (characters.flatMap takeApart))

end ContractAtlas.Text
