import Mathlib
import ContractAtlas.Graph.Statistics

/-!
# Statistics in exact arithmetic

The rational numbers are an arithmetic for statistics in which nothing is rounded. Their order is a
linear one, so what a list is sorted into does not depend on how it was ordered before.
-/

namespace ContractAtlas

/-- Exact arithmetic. -/
instance Scalar.rational : Scalar ℚ where
  ofNat number := number
  less left right := left < right
  precedes left right := left ≤ right
  floor number := ⌊number⌋.toNat
  ceil number := ⌈number⌉.toNat
  emptySum := 0

/-- Over the rationals the sum is the usual one. -/
theorem Scalar.sum_rational (numbers : List ℚ) : Scalar.sum numbers = numbers.sum :=
  (List.sum_eq_foldl ..).symm

/-- Sorted numbers ascend. -/
theorem sortedLE_mergeSort (numbers : List ℚ) :
    (numbers.mergeSort Scalar.precedes).SortedLE :=
  (List.pairwise_mergeSort' (· ≤ ·) numbers).sortedLE

/-- The order in which numbers are given does not matter once they are sorted. -/
theorem mergeSort_precedes_eq_of_perm {left right : List ℚ} (perm : left.Perm right) :
    left.mergeSort Scalar.precedes = right.mergeSort Scalar.precedes := by
  have samePlaces : (left.mergeSort Scalar.precedes).Perm (right.mergeSort Scalar.precedes) :=
    (List.mergeSort_perm left _).trans (perm.trans (List.mergeSort_perm right _).symm)
  exact samePlaces.eq_of_pairwise' (sortedLE_mergeSort left).pairwise
    (sortedLE_mergeSort right).pairwise

/-- A percentile does not depend on the order of the numbers. -/
theorem percentile_eq_of_perm {left right : List ℚ} (perm : left.Perm right) (percent : ℚ) :
    percentile left percent = percentile right percent := by
  rw [percentile, mergeSort_precedes_eq_of_perm perm, percentile]

end ContractAtlas
