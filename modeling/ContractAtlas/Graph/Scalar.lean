import ContractAtlas.Decimal.Binary64

/-!
# Scalars

The numbers in which statistics are computed. Machine floats are used when the program runs; the
same definitions make sense in any other arithmetic with these operations.
-/

namespace ContractAtlas

/-- An arithmetic for statistics. -/
class Scalar (α : Type) extends Add α, Sub α, Mul α, Div α where
  ofNat : Nat -> α
  /-- Whether one number is less than another. -/
  less : α -> α -> Bool
  /-- Whether one number may stand before another in a sorted list. -/
  precedes : α -> α -> Bool
  /-- The natural number at or below, zero if there is none. -/
  floor : α -> Nat
  /-- The natural number at or above, zero if there is none. -/
  ceil : α -> Nat
  /-- The sum of no numbers. -/
  emptySum : α

namespace Scalar

variable {α : Type} [Scalar α]

/-- The sum of a list of numbers, from the left. -/
def sum (numbers : List α) : α :=
  numbers.foldl (· + ·) emptySum

/-- A number brought between two bounds. -/
def clamp (low high number : α) : α :=
  let raised := if less number low then low else number
  if less high raised then high else raised

/-- Where a float stands in the order of all floats: by sign and magnitude, so negative zero stands
before zero and a NaN outside the infinities. -/
def floatPlace (number : Float) : Int :=
  let bits := number.toBits.toNat
  if Nat.pow 2 63 <= bits then -((bits - Nat.pow 2 63 : Nat) : Int) - 1 else bits

/-- Machine floats. The sum of no floats is negative zero, which adds nothing to any float. -/
instance : Scalar Float where
  ofNat number := (UInt64.ofNat number).toFloat
  less left right := left < right
  precedes left right := floatPlace left <= floatPlace right
  floor number := number.floor.toUInt64.toNat
  ceil number := number.ceil.toUInt64.toNat
  emptySum := -0.0

end Scalar

end ContractAtlas
