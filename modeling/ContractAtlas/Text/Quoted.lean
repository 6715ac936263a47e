import ContractAtlas.Text.Graphic
import ContractAtlas.Text.Search

/-!
# Quoted text

Messages show a path between double quotes. The double quote and the backslash are written after a
backslash, four controls have a letter or digit, and a character that is not graphic is written by
its hexadecimal code point, so that a message is one line whatever the path holds.
-/

namespace ContractAtlas.Text

/-- The text of one character inside a quoted text. -/
def quotedChar (character : Char) : String :=
  if character = '\x00' then "\\0"
  else if character = '\t' then "\\t"
  else if character = '\n' then "\\n"
  else if character = '\r' then "\\r"
  else if character = '"' then "\\\""
  else if character = '\\' then "\\\\"
  else if isGraphic character then String.singleton character
  else "\\u\x7b" ++ hexText character.toNat ++ "\x7d"

/-- A text between double quotes. -/
def quoted (text : String) : String :=
  "\"" ++ String.join (text.toList.map quotedChar) ++ "\""

end ContractAtlas.Text
