import ContractAtlas.Keccak
import ContractAtlas.Text.Blank
import ContractAtlas.Text.Search

/-!
# Contract addresses

An address is forty hexadecimal digits, that is twenty bytes. It is read from `0x` and forty digits
in any letter case, with blank characters around them, and written with the mixed-case checksum: a
letter digit is in upper case exactly when the digit of the Keccak hash at its place, taken over the
lower-case digits, is at least eight. So two texts of one address have the same normal form.
-/

namespace ContractAtlas

open Text

/-- A contract address. -/
structure Address where
  digits : List (Fin 16)
  length_digits : digits.length = 40
deriving DecidableEq

namespace Address

/-- The address of forty zeros, which stands for "no contract". -/
def zero : Address := ⟨List.replicate 40 ⟨0, by decide⟩, by simp⟩

/-- The number that the digits write. -/
def number (address : Address) : Nat :=
  address.digits.foldl (fun value digit => value * 16 + digit.val) 0

/-- The order of addresses is the order of their bytes. -/
instance : Ord Address where
  compare := compareOn number

/-- The address written by a list of characters: `0x` and forty hexadecimal digits. -/
def ofChars? : List Char -> Option Address
  | '0' :: 'x' :: characters =>
      match characters.mapM hexValue? with
      | some digits => if length : digits.length = 40 then some ⟨digits, length⟩ else none
      | none => none
  | _ => none

/-- The address of a text, blank characters around it aside. -/
def parse? (text : String) : Option Address :=
  ofChars? (trimChars text.toList)

/-- The lower-case digits. -/
def lowerDigits (address : Address) : List Char :=
  address.digits.map hexDigit

/-- The lower-case text with `0x` in front. -/
def lowerText (address : Address) : String :=
  String.ofList (['0', 'x'] ++ address.lowerDigits)

/-- A digit as the checksum writes it, given the digit of the hash at its place. -/
def checksumDigit (digit : Fin 16) (hash : Nat) : Char :=
  if 10 <= digit.val && 8 <= hash then Char.ofNat (55 + digit.val) else hexDigit digit

/-- The digits of the hash of the lower-case digits. -/
def checksumHash (address : Address) : List Nat :=
  (Keccak.digest (address.lowerDigits.map fun digit => UInt8.ofNat digit.toNat)).flatMap
    fun byte => [byte.toNat / 16, byte.toNat % 16]

/-- The characters of the checksummed text. -/
def checksumChars (address : Address) : List Char :=
  ['0', 'x'] ++ List.zipWith checksumDigit address.digits address.checksumHash

/-- The checksummed text. -/
def checksummed (address : Address) : String :=
  String.ofList address.checksumChars

/-- The checksummed text of the address that a text denotes. -/
def normalize? (text : String) : Option String :=
  (parse? text).map checksummed

/-- Whether a text denotes the zero address. -/
def isZeroText (text : String) : Bool :=
  parse? text = some zero

/-- The address in the last twenty of thirty-two bytes, if the twelve before them are zero. -/
def ofWord? (word : List UInt8) : Option Address :=
  let digits := (word.drop 12).flatMap byteDigits
  if (word.take 12).all (· = 0) then
    if length : digits.length = 40 then some ⟨digits, length⟩ else none
  else none

end Address

end ContractAtlas
