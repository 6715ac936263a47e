import ContractAtlas.Text.CodeRange

/-!
# Blank characters

A character is blank when the Unicode property `White_Space` holds of it. `trim` removes blank
characters from both ends of a text and from nowhere else.
-/

namespace ContractAtlas.Text

/-- The ranges of the Unicode property `White_Space`. -/
def blankRanges : List CodeRange :=
  CodeRange.table
    [0x0009, 0x000D, 0x0020, 0x0020, 0x0085, 0x0085, 0x00A0, 0x00A0, 0x1680, 0x1680,
     0x2000, 0x200A, 0x2028, 0x2029, 0x202F, 0x202F, 0x205F, 0x205F, 0x3000, 0x3000]

/-- Whether a character is blank. -/
def isBlank (character : Char) : Bool :=
  CodeRange.covers blankRanges character.toNat

/-- The characters after the leading blank ones. -/
def trimStartChars (characters : List Char) : List Char :=
  characters.dropWhile isBlank

/-- The characters before the trailing blank ones. -/
def trimEndChars (characters : List Char) : List Char :=
  (characters.reverse.dropWhile isBlank).reverse

/-- The characters between the leading and the trailing blank ones. -/
def trimChars (characters : List Char) : List Char :=
  trimEndChars (trimStartChars characters)

/-- A text without its leading and trailing blank characters. -/
def trim (text : String) : String :=
  String.ofList (trimChars text.toList)

end ContractAtlas.Text
