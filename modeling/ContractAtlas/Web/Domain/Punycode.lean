import ContractAtlas.Text.Search

/-!
# Labels in ASCII

A label with other characters is written in ASCII: first its ASCII characters, then, after a hyphen,
the differences between the places of the others, in the order of their code points. A difference is
a number whose digits have a base that varies by place; the bias adapts that base to the differences
so far.
-/

namespace ContractAtlas.Web.Domain.Punycode

/-- The threshold of a place: a digit below it is the last one. -/
def tailThreshold (place bias : Nat) : Nat :=
  if place <= bias then 1 else if bias + 26 <= place then 26 else place - bias

/-- The digits of a difference, least significant first. -/
def digits (bias place rest : Nat) : Nat -> List Nat
  | 0 => []
  | fuel + 1 =>
      let threshold := tailThreshold place bias
      if rest < threshold then [rest]
      else (threshold + (rest - threshold) % (36 - threshold)) ::
        digits bias (place + 36) ((rest - threshold) / (36 - threshold)) fuel

/-- Brings a difference below the bound of the bias, with the number of divisions times 36. -/
def scaleDown (difference scale : Nat) : Nat -> Nat × Nat
  | 0 => (difference, scale)
  | fuel + 1 =>
      if difference <= 455 then (difference, scale)
      else scaleDown (difference / 35) (scale + 36) fuel

/-- The bias after a difference, with the number of characters so far. -/
def adaptBias (difference count : Nat) (isFirst : Bool) : Nat :=
  let halved := if isFirst then difference / 700 else difference / 2
  let (scaled, scale) := scaleDown (halved + halved / count) 0 64
  scale + 36 * scaled / (scaled + 38)

/-- The bias before the first difference. -/
def initialBias : Nat := 72

/-- The state of the encoding of a label: digits so far, bias, difference, and the number of
characters that have been written. -/
structure Encoding where
  digits : List Nat := []
  bias : Nat := initialBias
  difference : Nat := 0
  written : Nat

/-- The state after the places of one code point in a label. -/
def Encoding.place (basic codePoint : Nat) (state : Encoding) (character : Char) : Encoding :=
  if character.toNat < codePoint then { state with difference := state.difference + 1 }
  else if character.toNat = codePoint then
    { digits := state.digits ++ Punycode.digits state.bias 36 state.difference 64
      bias := adaptBias state.difference (state.written + 1) (state.written = basic)
      difference := 0
      written := state.written + 1 }
  else state

/-- The state after a list of code points in ascending order, where those below `next` are done. -/
def Encoding.run (label : List Char) (basic : Nat) : List Nat -> Nat -> Encoding -> Encoding
  | [], _, state => state
  | codePoint :: later, next, state =>
      let reached := { state with
        difference := state.difference + (codePoint - next) * (state.written + 1) }
      let placed := label.foldl (Encoding.place basic codePoint) reached
      run label basic later (codePoint + 1) { placed with difference := placed.difference + 1 }

/-- The character of a digit. -/
def digitChar (digit : Nat) : Char :=
  if digit < 26 then Char.ofNat (97 + digit) else Char.ofNat (22 + digit)

/-- Whether a character is one of ASCII. -/
def isAscii (character : Char) : Bool :=
  character.toNat < 0x80

/-- A label with other characters than those of ASCII, in ASCII. -/
def encode (label : List Char) : List Char :=
  let basic := label.filter isAscii
  let others := ((label.map Char.toNat).filter (0x80 <= ·)).eraseDups.mergeSort
  let state := Encoding.run label basic.length others 0x80 { written := basic.length }
  (if basic.isEmpty then [] else basic ++ ['-']) ++ state.digits.map digitChar

/-- The digit that a character stands for, if it is a small letter or a digit. -/
def digitValue? (character : Char) : Option Nat :=
  if 'a' <= character && character <= 'z' then some (character.toNat - 97)
  else if '0' <= character && character <= '9' then some (character.toNat - 22)
  else none

/-- The bound of the numbers that a written label may give. -/
def numberBound : Nat := 0x100000000

/-- A number within the bound. -/
def bounded? (number : Nat) : Option Nat :=
  if number < numberBound then some number else none

/-- The sum of a number and the difference at the start of a text, and the rest of the text. -/
def readDifference? (bias : Nat) (sum weight place : Nat) :
    List Char -> Option (Nat × List Char)
  | [] => none
  | character :: later => do
      let digit <- digitValue? character
      let sum <- bounded? (sum + (<- bounded? (digit * weight)))
      let threshold := tailThreshold place bias
      if digit < threshold then return (sum, later)
      else
        readDifference? bias sum (<- bounded? (weight * (36 - threshold))) (place + 36) later

/-- The state of the decoding of a label: the characters so far, the place and code point of the
next one, and the bias. -/
structure Decoding where
  characters : List Char
  place : Nat := 0
  codePoint : Nat := 0x80
  bias : Nat := initialBias

/-- The state after one more difference, none if it leads to no character. -/
def Decoding.insert? (state : Decoding) (sum : Nat) : Option Decoding :=
  let count := state.characters.length + 1
  let codePoint := state.codePoint + sum / count
  let place := sum % count
  if codePoint.isValidChar then
    some
      { characters := state.characters.insertIdx place (Char.ofNat codePoint)
        place := place + 1
        codePoint
        bias := adaptBias (sum - state.place) count (state.place = 0) }
  else none

/-- The characters after all differences of a text, at most as many as `fuel`. -/
def Decoding.run? (state : Decoding) (text : List Char) : (fuel : Nat) -> Option (List Char)
  | 0 => if text.isEmpty then some state.characters else none
  | fuel + 1 =>
      if text.isEmpty then some state.characters
      else do
        let (sum, later) <- readDifference? state.bias state.place 1 36 text
        run? (<- state.insert? sum) later fuel

/-- The label that a text in ASCII and small letters writes. A hyphen at its start is no
separator. -/
def decode? (text : List Char) : Option (List Char) :=
  let differences := (text.reverse.takeWhile (· != '-')).reverse
  let basic := text.take (text.length - differences.length - 1)
  if basic.isEmpty then Decoding.run? { characters := [] } text text.length
  else Decoding.run? { characters := basic } differences text.length

end ContractAtlas.Web.Domain.Punycode
