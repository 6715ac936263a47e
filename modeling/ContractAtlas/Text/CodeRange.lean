/-!
# Ranges of code points

A character class of a standard is a list of ranges in ascending order. Membership stops at the
first range that reaches the code point, so a question about a small code point reads only the
head of the table.
-/

namespace ContractAtlas.Text

/-- The code points from `first` to `last`, both included. -/
structure CodeRange where
  first : Nat
  last : Nat
deriving Repr, DecidableEq

namespace CodeRange

/-- Whether a table of ascending ranges covers a code point. -/
def covers : List CodeRange -> Nat -> Bool
  | [], _ => false
  | range :: later, code =>
      if code <= range.last then range.first <= code else covers later code

/-- A table given as alternating first and last code points. -/
def table : List Nat -> List CodeRange
  | first :: last :: later => ⟨first, last⟩ :: table later
  | _ => []

/-- A table of ranges with a number each, given as first and last code points and numbers in
turn. -/
def valued : List Nat -> List (CodeRange × Nat)
  | first :: last :: value :: later => (⟨first, last⟩, value) :: valued later
  | _ => []

/-- The range that holds a code point, with its number, in a table of ascending ranges. -/
def find? : List (CodeRange × Nat) -> Nat -> Option (CodeRange × Nat)
  | [], _ => none
  | (range, value) :: later, code =>
      if code <= range.last then if range.first <= code then some (range, value) else none
      else find? later code

end CodeRange

end ContractAtlas.Text
