import ContractAtlas.Decimal.Binary64

/-!
# Shortest decimal digits

The shortest decimal of a finite binary64 number is the point of the coarsest decimal grid that
reads back as the number. The numbers that read back form an interval around the exact value, whose
ends belong to it when the mantissa is even. On a grid only the two neighbours of the value can lie
in the interval; of two hits the nearer one is taken, and of equally near ones the even one.
-/

namespace ContractAtlas.Decimal

/-- A decimal `digits * 10 ^ exponent`. -/
structure Scientific where
  digits : Nat
  exponent : Int
deriving DecidableEq, Repr

namespace Shortest

/-- The interval of reals that read back as one number, in quarters of its mantissa unit:
`low`, `value` and `high` are multiples of `2 ^ exponent`. -/
structure Interval where
  low : Nat
  value : Nat
  high : Nat
  exponent : Int
  closed : Bool

/-- The interval around the magnitude of a number. -/
def interval (number : Binary64) : Interval where
  low := 4 * number.mantissa - (if number.hasNarrowLowerGap then 1 else 2)
  value := 4 * number.mantissa
  high := 4 * number.mantissa + 2
  exponent := number.exponent - 2
  closed := number.mantissa % 2 = 0

/-- The integers `a` and `b` for which `2 ^ exponent / 10 ^ place = a / b`. -/
def scale (exponent place : Int) : Nat × Nat :=
  (Nat.pow 2 exponent.toNat * Nat.pow 10 (-place).toNat,
   Nat.pow 2 (-exponent).toNat * Nat.pow 10 place.toNat)

/-- Whether the grid point `point * 10 ^ place` lies in the interval, for the scale of that
place. -/
def covers (range : Interval) (scale : Nat × Nat) (point : Nat) : Bool :=
  if range.closed then
    range.low * scale.1 <= point * scale.2 && point * scale.2 <= range.high * scale.1
  else
    range.low * scale.1 < point * scale.2 && point * scale.2 < range.high * scale.1

/-- The best point of the grid of one place, if the interval holds one. -/
def onGrid? (range : Interval) (place : Int) : Option Nat :=
  let scale := scale range.exponent place
  let below := range.value * scale.1 / scale.2
  let above := below + 1
  let distanceBelow := range.value * scale.1 - below * scale.2
  let distanceAbove := above * scale.2 - range.value * scale.1
  match covers range scale below, covers range scale above with
  | true, true =>
      if distanceBelow < distanceAbove then some below
      else if distanceAbove < distanceBelow then some above
      else if below % 2 = 0 then some below else some above
  | true, false => some below
  | false, true => some above
  | false, false => none

/-- The best point of the coarsest grid from `place` downwards, looking at `count` grids. -/
def search (range : Interval) : Nat -> Int -> Scientific
  | 0, place => ⟨0, place⟩
  | count + 1, place =>
      match onGrid? range place with
      | some digits => ⟨digits, place⟩
      | none => search range count (place - 1)

end Shortest

/-- The shortest decimal that reads back as the magnitude of a finite number. Binary64 magnitudes
lie below `10 ^ 309`, and the finest grid that any of them needs has place -324. -/
def Binary64.shortest (number : Binary64) : Scientific :=
  if number.isZero then ⟨0, 0⟩
  else Shortest.search (Shortest.interval number) 640 309

end ContractAtlas.Decimal
