import ContractAtlas.Text.Search
import ContractAtlas.Text.Utf8

/-!
# Percent encoding

In a URL a byte may be written as a percent sign and two hexadecimal digits. Encoding keeps the
ASCII characters that a predicate allows and writes every other byte that way. Decoding takes a
percent sign without two digits as it is.
-/

namespace ContractAtlas.Web

open Text

/-- The upper-case character of a hexadecimal digit. -/
def upperHexDigit (digit : Nat) : Char :=
  if digit < 10 then Char.ofNat (48 + digit) else Char.ofNat (55 + digit)

/-- A byte as a percent sign and two digits. -/
def percentByte (byte : UInt8) : List Char :=
  ['%', upperHexDigit (byte.toNat / 16), upperHexDigit (byte.toNat % 16)]

/-- A character, percent encoded unless it is an ASCII character that is kept. -/
def percentEncodeChar (keeps : Char -> Bool) (character : Char) : List Char :=
  if character.toNat < 0x80 && keeps character then [character]
  else (String.singleton character).toUTF8.toList.flatMap percentByte

/-- A text with the characters that are not kept percent encoded. -/
def percentEncode (keeps : Char -> Bool) (characters : List Char) : List Char :=
  characters.flatMap (percentEncodeChar keeps)

/-- The bytes that a list of characters denotes. -/
def percentDecode : List Char -> List UInt8
  | [] => []
  | '%' :: high :: low :: later =>
      match hexValue? high, hexValue? low with
      | some high, some low => UInt8.ofNat (high.val * 16 + low.val) :: percentDecode later
      | _, _ => 0x25 :: percentDecode (high :: low :: later)
  | character :: later =>
      (String.singleton character).toUTF8.toList ++ percentDecode later
termination_by characters => characters.length

/-- Whether a character is a letter or digit of ASCII. -/
def isAlphanumeric (character : Char) : Bool :=
  isDigit character || ('a' <= character && character <= 'z') ||
    ('A' <= character && character <= 'Z')

end ContractAtlas.Web
