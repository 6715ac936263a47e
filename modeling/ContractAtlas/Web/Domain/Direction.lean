import ContractAtlas.Text.Mark

/-!
# The direction of labels

Hebrew, Arabic and some other scripts run from right to left. A domain that holds such a character
has to keep to the Bidi rule: each of its labels runs in one direction, which its first character
tells, so that labels shown side by side cannot be mistaken for others. The tables are those of
Unicode 17; they tell apart the characters that a domain may hold, and a range may run over others.
-/

namespace ContractAtlas.Web.Domain

open Text

/-- What a character has to say about the direction of a text. -/
inductive Direction where
  | leftToRight
  | rightToLeft
  /-- A letter of Arabic or a kindred script, from right to left. -/
  | arabicLetter
  | arabicNumber
  | europeanNumber
  /-- A mark, which goes with the character before it. -/
  | mark
  /-- A sign without a direction of its own. -/
  | neutral
deriving DecidableEq, Repr

namespace Direction

/-- The letters and signs from right to left. -/
def rightToLeftRanges : List CodeRange :=
  CodeRange.table
    [1470, 1524, 1984, 2037, 2042, 2142, 67584, 67867, 67872, 68405, 68416, 68863, 68928, 68943,
     68975, 69007, 69248, 69297, 69376, 69415, 69488, 69622, 124928, 125279]

/-- The letters and signs of Arabic and kindred scripts. -/
def arabicLetterRanges : List CodeRange :=
  CodeRange.table
    [1544, 1544, 1547, 1547, 1549, 1549, 1563, 1610, 1645, 1749, 1765, 1766, 1774, 1775, 1786,
     1969, 2144, 2249, 64434, 64450, 65139, 65139, 68864, 68899, 69314, 69319, 69424, 69465,
     126065, 126269]

/-- The digits of Arabic and the signs within its numbers. -/
def arabicNumberRanges : List CodeRange :=
  CodeRange.table
    [1632, 1641, 1643, 1644, 68912, 68921, 69216, 69246]

/-- The digits of ASCII and those that go with them. -/
def europeanNumberRanges : List CodeRange :=
  CodeRange.table
    [48, 57, 1776, 1785, 66273, 66299]

/-- The signs without a direction of their own. -/
def neutralRanges : List CodeRange :=
  CodeRange.table
    [0, 8, 14, 27, 33, 47, 58, 96, 123, 215, 247, 247, 697, 698, 706, 719, 722, 749, 751, 767, 885,
     885, 1014, 1014, 1418, 1423, 1542, 1543, 1545, 1546, 1548, 1548, 1550, 1551, 1642, 1642, 1758,
     1758, 1769, 1769, 2038, 2041, 2546, 2547, 2555, 2555, 2801, 2801, 3059, 3066, 3192, 3198,
     3647, 3647, 3898, 3901, 5008, 5017, 5120, 5120, 5787, 5788, 6107, 6107, 6128, 6154, 6464,
     6469, 6622, 6655, 8204, 8525, 8586, 9013, 9083, 9108, 9110, 9899, 9901, 10239, 10496, 11263,
     11493, 11498, 11513, 11519, 11776, 12292, 12296, 12320, 12336, 12336, 12343, 12343, 12349,
     12351, 12448, 12448, 12539, 12539, 12736, 12773, 19904, 19967, 42128, 42182, 42509, 42511,
     42611, 42623, 42752, 42785, 42888, 42888, 43048, 43051, 43064, 43065, 43124, 43127, 43882,
     43883, 64451, 65094, 65793, 65793, 65856, 65932, 65936, 65952, 67871, 67871, 68409, 68415,
     68974, 68974, 69328, 69336, 69714, 69733, 71264, 71276, 73685, 73713, 94178, 94178, 117760,
     118512, 119273, 119365, 119552, 119638, 123647, 123647, 126704, 127279, 127341, 127343,
     127405, 127405, 127584, 130042]

/-- The marks without a space of their own that still run from left to right. -/
def directedMarks : List Nat :=
  [0x0CBF, 0x0CC6, 0x11A07, 0x11A08, 0x11C3F]

/-- The direction of a character. -/
def ofChar (character : Char) : Direction :=
  let code := character.toNat
  if directedMarks.contains code then .leftToRight
  else if isNonspacing character then .mark
  else if CodeRange.covers rightToLeftRanges code then .rightToLeft
  else if CodeRange.covers arabicLetterRanges code then .arabicLetter
  else if CodeRange.covers arabicNumberRanges code then .arabicNumber
  else if CodeRange.covers europeanNumberRanges code then .europeanNumber
  else if CodeRange.covers neutralRanges code then .neutral
  else .leftToRight

/-- Whether a character makes the domain that holds it one with two directions. -/
def isRightToLeft (direction : Direction) : Bool :=
  [rightToLeft, arabicLetter, arabicNumber].contains direction

/-- The characters that may stand in a label from left to right. -/
def inLeftToRight : List Direction :=
  [leftToRight, europeanNumber, mark, neutral]

/-- The characters that may stand in a label from right to left. -/
def inRightToLeft : List Direction :=
  [rightToLeft, arabicLetter, arabicNumber, europeanNumber, mark, neutral]

/-- Whether the directions of a label's characters keep to the Bidi rule. Marks at the end do not
count, but for that every character is one that the label's direction allows, and numbers from right
to left are of one kind. -/
def areInOrder (directions : List Direction) : Bool :=
  let last? := (directions.reverse.dropWhile (· = mark)).head?
  match directions.head? with
  | none => true
  | some leftToRight =>
      directions.all inLeftToRight.contains &&
        [some leftToRight, some europeanNumber].contains last?
  | some first =>
      [rightToLeft, arabicLetter].contains first && directions.all inRightToLeft.contains &&
        [some rightToLeft, some arabicLetter, some europeanNumber, some arabicNumber].contains
          last? &&
        !(directions.contains europeanNumber && directions.contains arabicNumber)

end Direction

/-- Whether a domain holds a character from right to left. -/
def isBidirectional (labels : List (List Char)) : Bool :=
  labels.any fun label => label.any fun character => (Direction.ofChar character).isRightToLeft

/-- Whether the labels of a domain keep to the Bidi rule, which asks nothing of a domain that runs
from left to right throughout. -/
def keepsDirections (labels : List (List Char)) : Bool :=
  !isBidirectional labels || labels.all fun label =>
    Direction.areInOrder (label.map Direction.ofChar)

end ContractAtlas.Web.Domain
