import ContractAtlas.Json.Value
import ContractAtlas.Text.Search

/-!
# Writing JSON

A value is written compactly on one line, or prettily with one item or field a line and two blanks
for each level. An empty container has no inner lines. In texts only the quote, the backslash and
the control characters below the blank are escaped.
-/

namespace ContractAtlas.Json

open Decimal Text

/-- The two hexadecimal digits of a number below 256. -/
def twoHexDigits (code : Nat) : List Char :=
  (byteDigits (UInt8.ofNat code)).map hexDigit

/-- The written form of one character of a text. -/
def escape (character : Char) : List Char :=
  if character = '"' then ['\\', '"']
  else if character = '\\' then ['\\', '\\']
  else if character = '\x08' then ['\\', 'b']
  else if character = '\x0c' then ['\\', 'f']
  else if character = '\n' then ['\\', 'n']
  else if character = '\r' then ['\\', 'r']
  else if character = '\t' then ['\\', 't']
  else if character.toNat < 0x20 then ['\\', 'u', '0', '0'] ++ twoHexDigits character.toNat
  else [character]

/-- The written form of a text. -/
def quote (text : String) : List Char :=
  ['"'] ++ text.toList.flatMap escape ++ ['"']

/-- The written form of a value without inner parts. -/
def renderBool (value : Bool) : List Char :=
  if value then ['t', 'r', 'u', 'e'] else ['f', 'a', 'l', 's', 'e']

mutual

/-- The written form of a value on one line. -/
def compact : Json -> List Char
  | .null => ['n', 'u', 'l', 'l']
  | .bool value => renderBool value
  | .number value => value.render
  | .string text => quote text
  | .array items => ['['] ++ compactItems items ++ [']']
  | .object fields => ['\x7b'] ++ compactFields fields ++ ['\x7d']

/-- The items of an array, separated by commas. -/
def compactItems : List Json -> List Char
  | [] => []
  | [item] => compact item
  | item :: later => compact item ++ [','] ++ compactItems later

/-- The fields of an object, separated by commas. -/
def compactFields : List (String × Json) -> List Char
  | [] => []
  | [(name, value)] => quote name ++ [':'] ++ compact value
  | (name, value) :: later =>
      quote name ++ [':'] ++ compact value ++ [','] ++ compactFields later

end

/-- The end of a line and the blanks of a level. -/
def newLine (level : Nat) : List Char :=
  '\n' :: List.replicate (2 * level) ' '

mutual

/-- The written form of a value over several lines, in a place of a level. -/
def pretty (level : Nat) : Json -> List Char
  | .null => ['n', 'u', 'l', 'l']
  | .bool value => renderBool value
  | .number value => value.render
  | .string text => quote text
  | .array [] => ['[', ']']
  | .array items => ['['] ++ prettyItems (level + 1) items ++ newLine level ++ [']']
  | .object [] => ['\x7b', '\x7d']
  | .object fields => ['\x7b'] ++ prettyFields (level + 1) fields ++ newLine level ++ ['\x7d']

/-- The items of an array, one a line. -/
def prettyItems (level : Nat) : List Json -> List Char
  | [] => []
  | [item] => newLine level ++ pretty level item
  | item :: later => newLine level ++ pretty level item ++ [','] ++ prettyItems level later

/-- The fields of an object, one a line. -/
def prettyFields (level : Nat) : List (String × Json) -> List Char
  | [] => []
  | [(name, value)] => newLine level ++ quote name ++ [':', ' '] ++ pretty level value
  | (name, value) :: later =>
      newLine level ++ quote name ++ [':', ' '] ++ pretty level value ++ [','] ++
        prettyFields level later

end

/-- The text of a value on one line. -/
def toCompactText (value : Json) : String :=
  String.ofList (compact value)

/-- The text of a value over several lines. -/
def toPrettyText (value : Json) : String :=
  String.ofList (pretty 0 value)

end ContractAtlas.Json
