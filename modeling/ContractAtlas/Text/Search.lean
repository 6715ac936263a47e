/-!
# Searching and splitting text

Every operation works on the list of characters, and the operation on `String` is its image. The
split operations keep every character except the separators that they cut at.
-/

namespace ContractAtlas.Text

/-- Whether `pattern` occurs in a list of characters as consecutive characters. -/
def containsChars (pattern : List Char) : List Char -> Bool
  | [] => pattern.isEmpty
  | character :: later =>
      pattern.isPrefixOf (character :: later) || containsChars pattern later

/-- Whether `pattern` occurs in `text`. -/
def contains (text pattern : String) : Bool :=
  containsChars pattern.toList text.toList

/-- The characters before the first separator and, if there is one, those after it. -/
def splitOnceChars (separator : Char) : List Char -> List Char × Option (List Char)
  | [] => ([], none)
  | character :: later =>
      if character = separator then ([], some later)
      else
        let split := splitOnceChars separator later
        (character :: split.1, split.2)

/-- The text before the first separator and, if there is one, the text after it. -/
def splitOnce (separator : Char) (text : String) : String × Option String :=
  let split := splitOnceChars separator text.toList
  (String.ofList split.1, split.2.map String.ofList)

/-- All pieces between the separators. -/
def splitAllChars (separator : Char) : List Char -> List (List Char)
  | [] => [[]]
  | character :: later =>
      if character = separator then [] :: splitAllChars separator later
      else
        match splitAllChars separator later with
        | [] => [[character]]
        | piece :: pieces => (character :: piece) :: pieces

/-- All pieces of a text between the separators. -/
def splitAll (separator : Char) (text : String) : List String :=
  (splitAllChars separator text.toList).map String.ofList

/-- The pieces of a text in lines: a line ends at a line feed, a carriage return right before it
belongs to the line end, and text after the last line feed is a line unless it is empty. -/
def lines (text : String) : List String :=
  let pieces := splitAllChars '\n' text.toList
  let ended := pieces.dropLast.map fun piece =>
    if piece.getLast? = some '\r' then piece.dropLast else piece
  let unended := pieces.getLast?.getD []
  (if unended.isEmpty then ended else ended ++ [unended]).map String.ofList

/-- The text without `leading` in front, if it starts with it. -/
def stripLeading? (leading text : String) : Option String :=
  if leading.toList.isPrefixOf text.toList then
    some (String.ofList (text.toList.drop leading.length))
  else none

/-- An upper-case ASCII letter as its lower-case partner, any other character as it is. -/
def lowerAsciiChar (character : Char) : Char :=
  if 'A' <= character && character <= 'Z' then Char.ofNat (character.toNat + 32) else character

/-- A text with its ASCII letters in lower case. -/
def lowerAscii (text : String) : String :=
  String.ofList (text.toList.map lowerAsciiChar)

/-- The last hexadecimal digit of a number. -/
def lastHexDigit (number : Nat) : Fin 16 :=
  ⟨number % 16, Nat.mod_lt number (by decide)⟩

/-- The two hexadecimal digits of a byte. -/
def byteDigits (byte : UInt8) : List (Fin 16) :=
  [lastHexDigit (byte.toNat / 16), lastHexDigit byte.toNat]

/-- The value of a hexadecimal digit in either letter case. -/
def hexValue? (character : Char) : Option (Fin 16) :=
  if '0' <= character && character <= '9' then some (lastHexDigit (character.toNat - 48))
  else if 'a' <= character && character <= 'f' then some (lastHexDigit (character.toNat - 87))
  else if 'A' <= character && character <= 'F' then some (lastHexDigit (character.toNat - 55))
  else none

/-- Whether a character is a hexadecimal digit in either letter case. -/
def isHexDigit (character : Char) : Bool :=
  (hexValue? character).isSome

/-- The lower-case character of a hexadecimal digit. -/
def hexDigit (digit : Fin 16) : Char :=
  if digit.val < 10 then Char.ofNat (48 + digit.val) else Char.ofNat (87 + digit.val)

/-- The lower-case hexadecimal text of a number, without leading zeros. -/
def hexText (number : Nat) : String :=
  String.ofList (Nat.toDigits 16 number)

/-- The decimal value of a digit character. -/
def digitValue? (character : Char) : Option Nat :=
  if '0' <= character && character <= '9' then some (character.toNat - 48) else none

/-- Whether a character is a decimal ASCII digit. -/
def isDigit (character : Char) : Bool :=
  '0' <= character && character <= '9'

/-- The number that a non-empty run of decimal digits denotes. -/
def decimalValue? (characters : List Char) : Option Nat :=
  if characters.isEmpty then none
  else characters.foldl
    (fun value character => do return (<- value) * 10 + (<- digitValue? character)) (some 0)

end ContractAtlas.Text
