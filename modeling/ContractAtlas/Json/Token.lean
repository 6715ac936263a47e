import ContractAtlas.Json.Value
import ContractAtlas.Text.Search

/-!
# JSON tokens

The scanner reads a text one character at a time. Its mode says what the characters since the last
token belong to, and a character that cannot extend a number or a word both ends it and is read on
its own. Numbers and words are gathered whole and judged at their end.
-/

namespace ContractAtlas.Json

open Decimal Text

/-- A token of a JSON text. -/
inductive Token where
  | openObject
  | closeObject
  | openArray
  | closeArray
  | comma
  | colon
  | null
  | bool (value : Bool)
  | number (value : Option Number)
  | string (text : Option String)
deriving Repr

namespace Token

/-- What has been read of a string. The characters stand latest first. A high surrogate waits for
its partner in `surrogate`, and `sound` is false once an escape denotes no character. -/
structure Quotation where
  characters : List Char
  surrogate : Option Nat
  sound : Bool

namespace Quotation

/-- A quotation of which nothing has been read. -/
def start : Quotation := ⟨[], none, true⟩

/-- The quotation after one more character. A surrogate that still waits has lost its partner. -/
def add (quotation : Quotation) (character : Char) : Quotation :=
  { characters := character :: quotation.characters
    surrogate := none
    sound := quotation.sound && quotation.surrogate.isNone }

/-- The quotation after an escape by a code unit of sixteen bits. -/
def addUnit (quotation : Quotation) (unit : Nat) : Quotation :=
  let isHigh := 0xD800 <= unit && unit < 0xDC00
  let isLow := 0xDC00 <= unit && unit < 0xE000
  match quotation.surrogate with
  | some high =>
      if isLow then
        { quotation with
          characters :=
            Char.ofNat (0x10000 + (high - 0xD800) * 0x400 + (unit - 0xDC00)) ::
              quotation.characters
          surrogate := none }
      else { quotation with surrogate := none, sound := false }
  | none =>
      if isHigh then { quotation with surrogate := some unit }
      else if isLow then { quotation with sound := false }
      else { quotation with characters := Char.ofNat unit :: quotation.characters }

/-- The text of a closed quotation, if every escape denotes a character. -/
def text? (quotation : Quotation) : Option String :=
  if quotation.sound && quotation.surrogate.isNone then
    some (String.ofList quotation.characters.reverse)
  else none

end Quotation

/-- What the characters since the last token belong to. -/
inductive Mode where
  | ground
  | word (letters : List Char)
  | number (characters : List Char)
  | quotation (read : Quotation)
  | escape (read : Quotation)
  | unit (read : Quotation) (digits : List (Fin 16))

/-- Whether a character may stand between tokens. -/
def isSpace (character : Char) : Bool :=
  character = ' ' || character = '\n' || character = '\t' || character = '\r'

/-- Whether a character may belong to a number literal. -/
def extendsNumber (character : Char) : Bool :=
  isDigit character || character = '-' || character = '+' || character = '.' ||
    character = 'e' || character = 'E'

/-- Whether a character may belong to a word. -/
def isLetter (character : Char) : Bool :=
  'a' <= character && character <= 'z'

/-- The token of a punctuation character. -/
def punctuation? (character : Char) : Option Token :=
  if character = '\x7b' then some .openObject
  else if character = '\x7d' then some .closeObject
  else if character = '[' then some .openArray
  else if character = ']' then some .closeArray
  else if character = ',' then some .comma
  else if character = ':' then some .colon
  else none

/-- The token of a word. -/
def ofWord? (letters : List Char) : Option Token :=
  if letters = ['n', 'u', 'l', 'l'] then some .null
  else if letters = ['t', 'r', 'u', 'e'] then some (.bool true)
  else if letters = ['f', 'a', 'l', 's', 'e'] then some (.bool false)
  else none

/-- The character that a letter after a backslash denotes. -/
def escaped? (character : Char) : Option Char :=
  if character = '"' then some '"'
  else if character = '\\' then some '\\'
  else if character = '/' then some '/'
  else if character = 'b' then some '\x08'
  else if character = 'f' then some '\x0c'
  else if character = 'n' then some '\n'
  else if character = 'r' then some '\r'
  else if character = 't' then some '\t'
  else none

namespace Mode

/-- The reading of a character between tokens: the tokens it completes and the mode after it. -/
def startWith? (character : Char) : Option (List Token × Mode) :=
  if isSpace character then some ([], .ground)
  else if character = '"' then some ([], .quotation .start)
  else if isDigit character || character = '-' then some ([], .number [character])
  else if isLetter character then some ([], .word [character])
  else (punctuation? character).map fun token => ([token], .ground)

/-- The token of a number or a word that ends here, or of nothing. -/
def ended? : Mode -> Option (List Token)
  | .ground => some []
  | .word letters => (ofWord? letters.reverse).map ([·])
  | .number characters => (Number.ofLiteral? characters.reverse).map fun value => [.number value]
  | _ => none

/-- The reading of one character. -/
def step? (mode : Mode) (character : Char) : Option (List Token × Mode) :=
  match mode with
  | .ground => startWith? character
  | .word letters =>
      if isLetter character then some ([], .word (character :: letters))
      else do
        let ended <- mode.ended?
        let (tokens, next) <- startWith? character
        return (ended ++ tokens, next)
  | .number characters =>
      if extendsNumber character then some ([], .number (character :: characters))
      else do
        let ended <- mode.ended?
        let (tokens, next) <- startWith? character
        return (ended ++ tokens, next)
  | .quotation read =>
      if character = '"' then some ([.string read.text?], .ground)
      else if character = '\\' then some ([], .escape read)
      else if character.toNat < 0x20 then none
      else some ([], .quotation (read.add character))
  | .escape read =>
      if character = 'u' then some ([], .unit read [])
      else (escaped? character).map fun denoted => ([], .quotation (read.add denoted))
  | .unit read digits =>
      (hexValue? character).map fun digit =>
        match digits with
        | [first, second, third] =>
            let value := ((first.val * 16 + second.val) * 16 + third.val) * 16 + digit.val
            ([], .quotation (read.addUnit value))
        | _ => ([], .unit read (digits ++ [digit]))

end Mode

/-- The tokens of a list of characters, read in a mode. The tokens read before stand latest first
in `tokens`. -/
def scanFrom? (mode : Mode) (tokens : List Token) : List Char -> Option (List Token)
  | [] => mode.ended?.map fun ended => (ended.reverse ++ tokens).reverse
  | character :: later =>
      match mode.step? character with
      | none => none
      | some (completed, next) => scanFrom? next (completed.reverse ++ tokens) later

/-- The tokens of a text. -/
def scan? (characters : List Char) : Option (List Token) :=
  scanFrom? .ground [] characters

end Token

end ContractAtlas.Json
