import ContractAtlas.Decimal.Shortest

/-!
# Decimal layout

Two ways of writing a binary64 number. A document writes the shortest digits, positionally while the
leading digit stands between the fifth place after and the sixteenth before the point, and with an
exponent beyond. A report writes a fixed number of places, rounding the exact value to nearest and a
tie to the even digit. Both keep the sign of a negative zero.
-/

namespace ContractAtlas.Decimal

/-- The decimal digits of a number, most significant first. -/
def digitText (number : Nat) : List Char :=
  Nat.toDigits 10 number

/-- A run of zeros. -/
def zeros (count : Nat) : List Char :=
  List.replicate count '0'

/-- The exponents of the leading digit that are written positionally. -/
structure Layout where
  lowestPositional : Int
  highestPositional : Int

/-- The layout of numbers in documents: positional from `0.00001` up to sixteen digits before the
point. -/
def Layout.document : Layout := ⟨-5, 15⟩

/-- The text of a decimal whose digits are `digits` and whose last digit has the place
`exponent`. -/
def Layout.unsigned (layout : Layout) (digits : List Char) (exponent : Int) : List Char :=
  let leading := exponent + digits.length - 1
  if layout.lowestPositional <= leading && leading <= layout.highestPositional then
    if 0 <= exponent then digits ++ zeros exponent.toNat ++ ['.', '0']
    else if 0 <= leading then
      digits.take (leading + 1).toNat ++ ['.'] ++ digits.drop (leading + 1).toNat
    else ['0', '.'] ++ zeros (-leading - 1).toNat ++ digits
  else
    let fraction := digits.drop 1
    let mantissa := digits.take 1 ++ (if fraction.isEmpty then [] else '.' :: fraction)
    mantissa ++ ['e', if leading < 0 then '-' else '+'] ++ digitText leading.natAbs

/-- The text of a finite number in a layout. -/
def Layout.render (layout : Layout) (number : Binary64) : List Char :=
  let decimal := number.shortest
  let magnitude :=
    if number.isZero then ['0', '.', '0']
    else layout.unsigned (digitText decimal.digits) decimal.exponent
  if number.isNegative then '-' :: magnitude else magnitude

/-- The quotient rounded to nearest, a tie to the even neighbour. -/
def roundHalfEven (numerator denominator : Nat) : Nat :=
  let below := numerator / denominator
  let rest := numerator % denominator
  if 2 * rest < denominator then below
  else if denominator < 2 * rest then below + 1
  else if below % 2 = 0 then below else below + 1

/-- The text of a number with a fixed count of places after the point. -/
def fixed (places : Nat) (number : Binary64) : String :=
  let sign := if number.isNegative && !number.isNaN then "-" else ""
  if number.isNaN then "NaN"
  else if !number.isFinite then sign ++ "inf"
  else
    let scaled := roundHalfEven
      (number.mantissa * Nat.pow 2 number.exponent.toNat * Nat.pow 10 places)
      (Nat.pow 2 (-number.exponent).toNat)
    let digits := digitText scaled
    let padded := zeros (places + 1 - digits.length) ++ digits
    let whole := padded.take (padded.length - places)
    let fraction := padded.drop (padded.length - places)
    sign ++ String.ofList whole ++ (if places = 0 then "" else "." ++ String.ofList fraction)

end ContractAtlas.Decimal
