/-!
# Binary64 numbers

A number in the binary interchange format of 64 bits is kept as its bits, so that equality is
equality of what is stored. The exact value of a finite number is `mantissa * 2 ^ exponent`, and all
decimal text is computed from these two integers.
-/

namespace ContractAtlas.Decimal

/-- A binary64 number, kept as its 64 bits. -/
structure Binary64 where
  bits : UInt64
deriving DecidableEq, Repr

namespace Binary64

/-- The number as a machine float. -/
def toFloat (number : Binary64) : Float :=
  Float.ofBits number.bits

/-- The bits of a machine float. -/
def ofFloat (value : Float) : Binary64 :=
  ⟨value.toBits⟩

/-- The zero of a sign. -/
def zero (negative : Bool) : Binary64 :=
  ⟨if negative then 0x8000000000000000 else 0⟩

/-- Whether the sign bit is set, which it also is for negative zero. -/
def isNegative (number : Binary64) : Bool :=
  number.bits.toNat >= Nat.pow 2 63

/-- The eleven exponent bits. -/
def exponentField (number : Binary64) : Nat :=
  number.bits.toNat / Nat.pow 2 52 % Nat.pow 2 11

/-- The fifty-two fraction bits. -/
def fractionField (number : Binary64) : Nat :=
  number.bits.toNat % Nat.pow 2 52

/-- Whether the number is neither infinite nor a NaN. -/
def isFinite (number : Binary64) : Bool :=
  number.exponentField < 2047

/-- Whether the number is a NaN. -/
def isNaN (number : Binary64) : Bool :=
  number.exponentField = 2047 && number.fractionField != 0

/-- The integer `m` of the exact magnitude `m * 2 ^ q`. -/
def mantissa (number : Binary64) : Nat :=
  if number.exponentField = 0 then number.fractionField else number.fractionField + Nat.pow 2 52

/-- The integer `q` of the exact magnitude `m * 2 ^ q`. -/
def exponent (number : Binary64) : Int :=
  (max number.exponentField 1 : Nat) - 1075

/-- Whether the next smaller magnitude is only half as far away as the next larger one. -/
def hasNarrowLowerGap (number : Binary64) : Bool :=
  number.fractionField = 0 && number.exponentField > 1

/-- Whether the number is a zero of either sign. -/
def isZero (number : Binary64) : Bool :=
  number.mantissa = 0 && number.exponentField = 0

end Binary64

end ContractAtlas.Decimal
