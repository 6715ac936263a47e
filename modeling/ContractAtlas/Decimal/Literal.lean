import ContractAtlas.Decimal.Layout

/-!
# Number literals

A literal is a sign, an integer part without superfluous leading zeros, and optionally a fraction
and an exponent. An integer literal from -2^63 to 2^64 - 1 denotes that integer, except that minus
zero is a float. Any other literal denotes a float: the digits are gathered into a significand of 64
bits, digits that no longer fit only count as places, and the significand is multiplied or divided
once by a power of ten. A literal whose float is not finite denotes nothing.
-/

namespace ContractAtlas.Decimal

/-- What a number literal denotes. -/
inductive Number where
  | integer (value : Int)
  | binary64 (value : Binary64)
deriving DecidableEq, Repr

namespace Literal

/-- The parts of a literal as written. -/
structure Parts where
  negative : Bool
  whole : List Nat
  fraction : Option (List Nat)
  /-- The exponent's sign, true for minus, and its digits. -/
  exponent : Option (Bool × List Nat)

/-- The leading decimal digits and the characters after them. -/
def takeDigits : List Char -> List Nat × List Char
  | [] => ([], [])
  | character :: later =>
      if '0' <= character && character <= '9' then
        let taken := takeDigits later
        ((character.toNat - 48) :: taken.1, taken.2)
      else ([], character :: later)

/-- The sign and the characters after it. -/
def takeSign : List Char -> Bool × List Char
  | '-' :: later => (true, later)
  | characters => (false, characters)

/-- The exponent, if the characters are empty or a whole exponent. -/
def exponent? : List Char -> Option (Option (Bool × List Nat))
  | [] => some none
  | mark :: later =>
      if mark = 'e' || mark = 'E' then
        let (negative, digits) := match later with
          | '+' :: digits => (false, digits)
          | '-' :: digits => (true, digits)
          | digits => (false, digits)
        match takeDigits digits with
        | ([], _) => none
        | (taken, []) => some (some (negative, taken))
        | _ => none
      else none

/-- The parts of a literal, or none when the characters are not one. -/
def parts? (characters : List Char) : Option Parts := do
  let (negative, unsigned) := takeSign characters
  let (whole, afterWhole) := takeDigits unsigned
  if whole.isEmpty || (whole.head? = some 0 && whole.length > 1) then none
  else match afterWhole with
    | '.' :: fractionText =>
        let (fraction, afterFraction) := takeDigits fractionText
        if fraction.isEmpty then none
        else return ⟨negative, whole, some fraction, <- exponent? afterFraction⟩
    | _ => return ⟨negative, whole, none, <- exponent? afterWhole⟩

/-- The largest significand. -/
def significandLimit : Nat := Nat.pow 2 64 - 1

/-- Adds digits to a significand while they fit, and returns the digits that no longer do. -/
def gather : Nat -> List Nat -> Nat × List Nat
  | significand, [] => (significand, [])
  | significand, digit :: later =>
      if significand * 10 + digit <= significandLimit then gather (significand * 10 + digit) later
      else (significand, digit :: later)

/-- The significand of the whole and fraction digits and the place of its last digit. Once a whole
digit does not fit, the whole digits after it count as places and the fraction is tried anew; once a
fraction digit does not fit, the rest of the fraction is dropped. -/
def significand (parts : Parts) : Nat × Int :=
  let (whole, droppedWhole) := gather 0 parts.whole
  let fraction := parts.fraction.getD []
  let (all, droppedFraction) := gather whole fraction
  (all, (droppedWhole.length : Int) - (fraction.length - droppedFraction.length : Nat))

/-- The power of ten as a float. -/
def powerOfTen (exponent : Nat) : Float :=
  Float.ofScientific 1 false exponent

/-- Divides by the 308th power of ten as long as the exponent needs it and the value is not
zero. -/
def scaleDown : Nat -> Float -> Nat -> Float
  | 0, value, _ => value
  | steps + 1, value, exponent =>
      if exponent <= 308 then value / powerOfTen exponent
      else if value == 0.0 then value
      else scaleDown steps (value / powerOfTen 308) (exponent - 308)

/-- The float `significand * 10 ^ exponent`, or none when it is not finite. After three divisions by
the 308th power of ten every significand has become zero. -/
def scaled? (significand : Nat) (exponent : Int) : Option Float :=
  let value := (UInt64.ofNat significand).toFloat
  if exponent < 0 then some (scaleDown 4 value exponent.natAbs)
  else if exponent <= 308 then
    let product := value * powerOfTen exponent.toNat
    if product.isInf then none else some product
  else if value == 0.0 then some value else none

/-- The largest exponent whose digits are added up. -/
def exponentLimit : Nat := Nat.pow 2 31 - 1

/-- The float that a literal denotes. -/
def float? (parts : Parts) : Option Float :=
  let (digits, place) := significand parts
  match parts.exponent with
  | none => scaled? digits place
  | some (negative, exponentDigits) =>
      let exponent := exponentDigits.foldl (fun value digit => value * 10 + digit) 0
      if exponent > exponentLimit then
        if digits != 0 && !negative then none else some 0.0
      else
        let total := if negative then place - exponent else place + exponent
        scaled? digits (max (-exponentLimit - 1) (min exponentLimit total))

/-- What the parts of a literal denote, or none when the float is out of range. -/
def denotation? (parts : Parts) : Option Number :=
  let whole := parts.whole.foldl (fun value digit => value * 10 + digit) 0
  let isInteger := parts.fraction.isNone && parts.exponent.isNone
  if isInteger && !parts.negative && whole <= significandLimit then some (.integer whole)
  else if isInteger && parts.negative && 0 < whole && whole <= Nat.pow 2 63 then
    some (.integer (-whole))
  else if (significand parts).1 = 0 then some (.binary64 (Binary64.zero parts.negative))
  else (float? parts).map fun value =>
    .binary64 (Binary64.ofFloat (if parts.negative then -value else value))

end Literal

/-- What a number literal denotes: none when the characters are no literal, and `some none` when
they are one whose float is out of range. -/
def Number.ofLiteral? (characters : List Char) : Option (Option Number) :=
  (Literal.parts? characters).map Literal.denotation?

/-- The written form of a number. A float that is not finite has no written form in a document and
is written as `null`. -/
def Number.render : Number -> List Char
  | .integer (.ofNat value) => Nat.toDigits 10 value
  | .integer (.negSucc value) => '-' :: Nat.toDigits 10 (value + 1)
  | .binary64 value => if value.isFinite then Layout.document.render value else ['n', 'u', 'l', 'l']

end ContractAtlas.Decimal
