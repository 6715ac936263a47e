import ContractAtlas.Web.Domain
import ContractAtlas.Web.Percent

/-!
# Hosts

The host of a URL is a domain, an IPv4 address or an IPv6 address. A domain is percent decoded and
written in ASCII; one whose last label is a number then has to be an IPv4 address. An IPv6 address
stands in square brackets and is written with its longest run of zero pieces left out.
-/

namespace ContractAtlas.Web

open Text

/-- Why a text is not a URL. -/
inductive UrlFault where
  | relativeWithoutBase
  | emptyHost
  | invalidDomain
  | invalidDomainCharacter
  | invalidPort
  | invalidIpv4
  | invalidIpv6
deriving DecidableEq, Repr

/-- The wording of a fault. -/
def UrlFault.message : UrlFault -> String
  | .relativeWithoutBase => "relative URL without a base"
  | .emptyHost => "empty host"
  | .invalidDomain => "invalid international domain name"
  | .invalidDomainCharacter => "invalid domain character"
  | .invalidPort => "invalid port number"
  | .invalidIpv4 => "invalid IPv4 address"
  | .invalidIpv6 => "invalid IPv6 address"

namespace Host

/-- Whether a character may not stand in a domain. -/
def isForbidden (character : Char) : Bool :=
  character.toNat <= 0x20 || character.toNat = 0x7F ||
    "%#/:<>?@[\\]^|".toList.contains character

/-- The value of a run of digits of a radix. -/
def digitsValue? (radix : Nat) (digits : List Char) : Option Nat :=
  digits.foldl (fun value digit => do
    let digit <- hexValue? digit
    if digit.val < radix then return (<- value) * radix + digit.val else none) (some 0)

/-- The number that a part of an IPv4 address writes: hexadecimal after `0x`, octal after `0`, and
decimal otherwise. -/
def numberPart? : List Char -> Option Nat
  | [] => none
  | '0' :: 'x' :: digits => digitsValue? 16 digits
  | '0' :: 'X' :: digits => digitsValue? 16 digits
  | '0' :: digits => digitsValue? 8 digits
  | digits => digitsValue? 10 digits

/-- The parts of a domain, without the empty one after a full stop at the end. -/
def parts (domain : List Char) : List (List Char) :=
  let pieces := splitAllChars '.' domain
  if 1 < pieces.length && pieces.getLast? = some [] then pieces.dropLast else pieces

/-- Whether the last part of a domain is a number. -/
def endsInNumber (domain : List Char) : Bool :=
  match (parts domain).getLast? with
  | none => false
  | some [] => false
  | some part => part.all isDigit || (part.take 2 = ['0', 'x'] && (numberPart? part).isSome)

/-- The number of an IPv4 address from the numbers of its parts: the last part takes the place of
all that are missing. -/
def ipv4Value? (numbers : List Nat) : Option Nat :=
  match numbers.reverse with
  | [] => none
  | last :: leading =>
      let limit := Nat.pow 256 (5 - numbers.length)
      if 4 < numbers.length || leading.any (255 < ·) || limit <= last then none
      else
        let values := leading.reverse.zipIdx.map fun part => part.1 * Nat.pow 256 (3 - part.2)
        some (last + values.foldl (· + ·) 0)

/-- The text of an IPv4 address. -/
def ipv4Text (value : Nat) : List Char :=
  let parts := [3, 2, 1, 0].map fun place => toString (value / Nat.pow 256 place % 256)
  (".".intercalate parts).toList

/-- The text of the IPv4 address that a domain writes. -/
def ipv4? (domain : List Char) : Except UrlFault (List Char) :=
  match ((parts domain).mapM numberPart?).bind ipv4Value? with
  | some value => .ok (ipv4Text value)
  | none => .error .invalidIpv4

/-- The value of a piece of an IPv6 address, up to four hexadecimal digits. -/
def piece? (piece : List Char) : Option Nat :=
  if piece.isEmpty || 4 < piece.length then none else digitsValue? 16 piece

/-- A part of a dotted address, a decimal number up to 255 without leading zeros. -/
def dottedPart? (part : List Char) : Option Nat := do
  let value <- decimalValue? part
  if 255 < value || (part.head? = some '0' && 1 < part.length) then none else some value

/-- The two pieces of a dotted address at the end of an IPv6 address. -/
def dottedPieces? (characters : List Char) : Option (List Nat) := do
  match <- (splitAllChars '.' characters).mapM dottedPart? with
  | [first, second, third, fourth] => some [first * 256 + second, third * 256 + fourth]
  | _ => none

/-- The pieces that a list of texts between colons writes. The last one may be a dotted address if
the list ends the address. -/
def pieces? (endsAddress : Bool) : List (List Char) -> Option (List Nat)
  | [] => some []
  | [last] =>
      if endsAddress && last.contains '.' then dottedPieces? last
      else (piece? last).map fun value => [value]
  | piece :: later => do
      let value <- piece? piece
      return value :: (<- pieces? endsAddress later)

/-- The texts before and after the first two colons in a row, if there are any. -/
def splitAtGap : List Char -> List Char × Option (List Char)
  | [] => ([], none)
  | [character] => ([character], none)
  | ':' :: ':' :: later => ([], some later)
  | character :: later =>
      let (before, after) := splitAtGap later
      (character :: before, after)

/-- The pieces between colons, none for the empty text. -/
def colonPieces? (endsAddress : Bool) (characters : List Char) : Option (List Nat) :=
  if characters.isEmpty then some [] else pieces? endsAddress (splitAllChars ':' characters)

/-- The eight pieces of an IPv6 address. -/
def ipv6Pieces? (characters : List Char) : Option (List Nat) := do
  match splitAtGap characters with
  | (whole, none) =>
      let pieces <- colonPieces? true whole
      if pieces.length = 8 then some pieces else none
  | (before, some after) =>
      let leading <- colonPieces? false before
      let trailing <- colonPieces? true after
      let missing := 8 - (leading.length + trailing.length)
      if missing = 0 then none else some (leading ++ List.replicate missing 0 ++ trailing)

/-- The number of zeros at the start of a list. -/
def leadingZeros (pieces : List Nat) : Nat :=
  (pieces.takeWhile (· = 0)).length

/-- The place and length of the first of the longest runs of zeros. -/
def longestZeros (pieces : List Nat) : Nat × Nat :=
  (List.range pieces.length).foldl (fun best place =>
    let length := leadingZeros (pieces.drop place)
    if best.2 < length then (place, length) else best) (0, 0)

/-- Pieces joined by colons. -/
def joinPieces (pieces : List Nat) : String :=
  ":".intercalate (pieces.map hexText)

/-- The text of an IPv6 address. A run of two or more zeros is left out. -/
def ipv6Text (pieces : List Nat) : List Char :=
  let (place, length) := longestZeros pieces
  if length < 2 then (joinPieces pieces).toList
  else
    (joinPieces (pieces.take place) ++ "::" ++ joinPieces (pieces.drop (place + length))).toList

/-- The host of a URL with a known scheme. -/
def parse (characters : List Char) : Except UrlFault (List Char) :=
  match characters with
  | '[' :: inner =>
      if inner.getLast? = some ']' then
        match ipv6Pieces? inner.dropLast with
        | some pieces => .ok (['['] ++ ipv6Text pieces ++ [']'])
        | none => .error .invalidIpv6
      else .error .invalidIpv6
  | _ =>
      match Domain.toAscii? isForbidden (decodeLossy (percentDecode characters)) with
      | none => .error .invalidDomain
      | some [] => .error .emptyHost
      | some domain => if endsInNumber domain then ipv4? domain else .ok domain

/-- The host of a URL with any other scheme: percent encoded as far as needed, or an IPv6
address. -/
def parseOpaque (characters : List Char) : Except UrlFault (List Char) :=
  match characters with
  | '[' :: _ => parse characters
  | _ =>
      if characters.any fun character => isForbidden character && character != '%' &&
          !(character.toNat < 0x20 && character.toNat != 0) && character.toNat != 0x7F then
        .error .invalidDomainCharacter
      else .ok (percentEncode (fun character => 0x20 <= character.toNat && character.toNat < 0x7F)
        characters)

end Host

end ContractAtlas.Web
