import ContractAtlas.Proofs.Graph.Rational

/-!
# Percentiles

In exact arithmetic a percentile is a place on the polygon through the sorted numbers. The place
moves from the least number to the greatest as the percentage does from zero to a hundred
(`percentileRank`), and the polygon does not descend, so a percentile grows with the percentage and
stays between the corners next to it. Therefore the numbers above a percentile are among those that
are ranked above it (`length_filter_percentile_lt_le`).
-/

namespace ContractAtlas

/-! ## The polygon through a sequence -/

/-- The polygon through the terms of a sequence. -/
def interpolated (sequence : ℕ → ℚ) (place : ℚ) : ℚ :=
  sequence ⌊place⌋₊ + (sequence (⌊place⌋₊ + 1) - sequence ⌊place⌋₊) * (place - ⌊place⌋₊)

/-- At a whole place there is nothing to interpolate. -/
@[simp]
theorem interpolated_natCast (sequence : ℕ → ℚ) (rank : ℕ) :
    interpolated sequence rank = sequence rank := by
  simp [interpolated]

section

variable {sequence : ℕ → ℚ} {place : ℚ}

/-- The term behind a place serves for the one after the term before it: at a corner neither is
needed. -/
theorem interpolated_eq_ceil (sequence : ℕ → ℚ) (nonnegative : 0 ≤ place) :
    interpolated sequence place =
      sequence ⌊place⌋₊ + (sequence ⌈place⌉₊ - sequence ⌊place⌋₊) * (place - ⌊place⌋₊) := by
  have below := Nat.floor_le nonnegative
  obtain corner | inside := below.eq_or_lt
  · have along : place - ⌊place⌋₊ = 0 := sub_eq_zero.mpr corner.symm
    rw [interpolated, along, mul_zero, mul_zero]
  · have behind : ⌈place⌉₊ = ⌊place⌋₊ + 1 :=
      (Nat.ceil_le_floor_add_one place).antisymm (Nat.lt_ceil.mpr inside)
    rw [behind, interpolated]

/-- An ascending sequence has no negative slope. -/
theorem slope_nonneg (ascends : Monotone sequence) (rank : ℕ) :
    0 ≤ sequence (rank + 1) - sequence rank :=
  sub_nonneg.mpr (ascends (Nat.le_succ _))

/-- What is interpolated is not below the number before the place. -/
theorem le_interpolated (ascends : Monotone sequence) (nonnegative : 0 ≤ place) :
    sequence ⌊place⌋₊ ≤ interpolated sequence place := by
  have along : 0 ≤ place - ⌊place⌋₊ := sub_nonneg.mpr (Nat.floor_le nonnegative)
  exact le_add_of_nonneg_right (mul_nonneg (slope_nonneg ascends _) along)

/-- It is not above the number behind the place. -/
theorem interpolated_le (ascends : Monotone sequence) :
    interpolated sequence place ≤ sequence (⌊place⌋₊ + 1) := by
  have along : place - ⌊place⌋₊ ≤ 1 := by
    linarith only [Nat.lt_floor_add_one place]
  calc interpolated sequence place
    _ ≤ sequence ⌊place⌋₊ + (sequence (⌊place⌋₊ + 1) - sequence ⌊place⌋₊) :=
      add_le_add_right (mul_le_of_le_one_right (slope_nonneg ascends _) along) _
    _ = sequence (⌊place⌋₊ + 1) := add_sub_cancel _ _

/-- It ascends with the place, by one segment at a time and across them. -/
theorem interpolated_le_interpolated (ascends : Monotone sequence) {first second : ℚ}
    (nonnegative : 0 ≤ first) (le : first ≤ second) :
    interpolated sequence first ≤ interpolated sequence second := by
  obtain same | apart := (Nat.floor_le_floor le).eq_or_lt
  · -- Both places are on one edge of the polygon.
    have slope := slope_nonneg ascends ⌊second⌋₊
    rw [interpolated, interpolated, same]
    gcongr
  · -- There is a corner between them.
    calc interpolated sequence first
      _ ≤ sequence (⌊first⌋₊ + 1) := interpolated_le ascends
      _ ≤ sequence ⌊second⌋₊ := ascends apart
      _ ≤ interpolated sequence second := le_interpolated ascends (nonnegative.trans le)

end

/-! ## Ranks -/

/-- Where the numbers of a list are sorted, the number at some rank, from zero for the least. -/
def HasRank (numbers : List ℚ) (rank : ℕ) (number : ℚ) : Prop :=
  ∃ sorted : List ℚ, sorted.Perm numbers ∧ sorted.Pairwise (· ≤ ·) ∧ sorted[rank]? = some number

/-- The place among some count of sorted numbers at which a percentile is read. -/
def percentileRank (count : ℕ) (percent : ℚ) : ℚ :=
  max 0 (min percent 100) * (count - 1) / 100

section

variable {count : ℕ}

/-- The last rank is not negative. -/
theorem sub_one_nonneg (positive : 0 < count) : (0 : ℚ) ≤ count - 1 :=
  sub_nonneg.mpr (by exact_mod_cast positive)

/-- No rank is below the first one. -/
theorem percentileRank_nonneg (positive : 0 < count) (percent : ℚ) :
    0 ≤ percentileRank count percent :=
  div_nonneg (mul_nonneg (le_max_left ..) (sub_one_nonneg positive)) (by norm_num)

/-- No rank is above the last one. -/
theorem percentileRank_le (positive : 0 < count) (percent : ℚ) :
    percentileRank count percent ≤ count - 1 := by
  have atMost : max 0 (min percent 100) ≤ 100 := max_le (by norm_num) (min_le_right ..)
  rw [percentileRank, div_le_iff₀ (by norm_num), mul_comm]
  exact mul_le_mul_of_nonneg_left atMost (sub_one_nonneg positive)

/-- The rank above has a number. -/
theorem ceil_percentileRank_lt (positive : 0 < count) (percent : ℚ) :
    ⌈percentileRank count percent⌉₊ < count := by
  have le : ⌈percentileRank count percent⌉₊ ≤ count - 1 :=
    Nat.ceil_le.mpr (by simpa [positive] using percentileRank_le positive percent)
  omega

/-- So has the rank below. -/
theorem floor_percentileRank_lt (positive : 0 < count) (percent : ℚ) :
    ⌊percentileRank count percent⌋₊ < count :=
  (Nat.floor_le_ceil _).trans_lt (ceil_percentileRank_lt positive percent)

/-- The rank ascends with the percentage. -/
theorem percentileRank_mono (positive : 0 < count) : Monotone (percentileRank count) := by
  intro first second le
  have clamped : max 0 (min first 100) ≤ max 0 (min second 100) :=
    max_le_max le_rfl (min_le_min le le_rfl)
  exact div_le_div_of_nonneg_right
    (mul_le_mul_of_nonneg_right clamped (sub_one_nonneg positive)) (by norm_num)

end

/-! ## Percentiles -/

/-- The sorted numbers of a list as a sequence, which stays at the last of them. -/
def ranked (numbers : List ℚ) (rank : ℕ) : ℚ :=
  (numbers.mergeSort Scalar.precedes).getD (min rank (numbers.length - 1)) 0

section

variable {numbers : List ℚ}

/-- The number at a rank is that of the sorted list. -/
theorem getElem?_mergeSort {rank : ℕ} (inside : rank < numbers.length) :
    (numbers.mergeSort Scalar.precedes)[rank]? = some (ranked numbers rank) := by
  have le : rank ≤ numbers.length - 1 := Nat.le_sub_one_of_lt inside
  have place : rank < (numbers.mergeSort Scalar.precedes).length := by
    rwa [List.length_mergeSort]
  rw [ranked, min_eq_left le, List.getD_eq_getElem _ _ place, List.getElem?_eq_getElem place]

/-- The number at a rank has it: as many numbers are below and above as there must be. -/
theorem hasRank_ranked {rank : ℕ} (inside : rank < numbers.length) :
    HasRank numbers rank (ranked numbers rank) :=
  ⟨_, List.mergeSort_perm .., (sortedLE_mergeSort numbers).pairwise, getElem?_mergeSort inside⟩

/-- A rank that is cut off at the last one has a number. -/
theorem min_lt_length_mergeSort (nonempty : numbers ≠ []) (rank : ℕ) :
    min rank (numbers.length - 1) < (numbers.mergeSort Scalar.precedes).length := by
  have positive := List.length_pos_iff.mpr nonempty
  rw [List.length_mergeSort]
  omega

/-- The number at a rank is one of the numbers. -/
theorem ranked_mem (nonempty : numbers ≠ []) (rank : ℕ) : ranked numbers rank ∈ numbers := by
  have place := min_lt_length_mergeSort nonempty rank
  rw [ranked, List.getD_eq_getElem _ _ place]
  exact (List.mergeSort_perm numbers _).mem_iff.mp (List.getElem_mem place)

/-- The numbers ascend with the ranks. -/
theorem ranked_mono (nonempty : numbers ≠ []) : Monotone (ranked numbers) := by
  intro first second le
  rw [ranked, ranked, List.getD_eq_getElem _ _ (min_lt_length_mergeSort nonempty first),
    List.getD_eq_getElem _ _ (min_lt_length_mergeSort nonempty second)]
  exact (sortedLE_mergeSort numbers).getElem_le_getElem_of_le (min_le_min le le_rfl)

/-- A percentage is cut off at zero and at a hundred. -/
theorem Scalar.clamp_rational (percent : ℚ) :
    Scalar.clamp (Scalar.ofNat 0) (Scalar.ofNat 100) percent = max 0 (min percent 100) := by
  have less (left right : ℚ) : Scalar.less left right = true ↔ left < right :=
    decide_eq_true_iff
  have zero : (Scalar.ofNat 0 : ℚ) = 0 := rfl
  have hundred : (Scalar.ofNat 100 : ℚ) = 100 := rfl
  simp only [Scalar.clamp, less, zero, hundred]
  grind

/-- A percentile is read off the polygon through the sorted numbers. -/
theorem percentile_eq_interpolated (nonempty : numbers ≠ []) (percent : ℚ) :
    percentile numbers percent =
      interpolated (ranked numbers) (percentileRank numbers.length percent) := by
  have positive := List.length_pos_iff.mpr nonempty
  have rank_eq : Scalar.clamp (Scalar.ofNat 0) (Scalar.ofNat 100) percent / (Scalar.ofNat 100 : ℚ) *
      Scalar.ofNat ((numbers.mergeSort Scalar.precedes).length - 1) =
        percentileRank numbers.length percent := by
    have others : (Scalar.ofNat (numbers.length - 1) : ℚ) = numbers.length - 1 :=
      Nat.cast_pred positive
    rw [Scalar.clamp_rational, List.length_mergeSort, others, percentileRank]
    exact div_mul_eq_mul_div _ _ _
  have floor_eq (number : ℚ) : Scalar.floor number = ⌊number⌋₊ := Int.floor_toNat number
  have ceil_eq (number : ℚ) : Scalar.ceil number = ⌈number⌉₊ := Int.ceil_toNat number
  simp only [percentile, rank_eq, floor_eq, ceil_eq,
    getElem?_mergeSort (floor_percentileRank_lt positive percent),
    getElem?_mergeSort (ceil_percentileRank_lt positive percent)]
  exact (interpolated_eq_ceil (ranked numbers) (percentileRank_nonneg positive percent)).symm

/-- A percentile lies between the least number and the greatest. -/
theorem percentile_mem_Icc (nonempty : numbers ≠ []) {least greatest : ℚ}
    (isLeast : IsLeast {number | number ∈ numbers} least)
    (isGreatest : IsGreatest {number | number ∈ numbers} greatest) (percent : ℚ) :
    percentile numbers percent ∈ Set.Icc least greatest := by
  have ascends := ranked_mono nonempty
  rw [percentile_eq_interpolated nonempty]
  constructor
  · calc least
      _ ≤ ranked numbers ⌊percentileRank numbers.length percent⌋₊ :=
        isLeast.2 (ranked_mem nonempty _)
      _ ≤ _ := le_interpolated ascends
        (percentileRank_nonneg (List.length_pos_iff.mpr nonempty) percent)
  · calc interpolated (ranked numbers) (percentileRank numbers.length percent)
      _ ≤ ranked numbers (⌊percentileRank numbers.length percent⌋₊ + 1) :=
        interpolated_le ascends
      _ ≤ greatest := isGreatest.2 (ranked_mem nonempty _)

/-- A percentile ascends with the percentage. -/
theorem percentile_mono (nonempty : numbers ≠ []) : Monotone (percentile numbers) := by
  have positive := List.length_pos_iff.mpr nonempty
  intro first second le
  rw [percentile_eq_interpolated nonempty, percentile_eq_interpolated nonempty]
  exact interpolated_le_interpolated (ranked_mono nonempty)
    (percentileRank_nonneg positive first) (percentileRank_mono positive le)

/-- A percentile that is read at a rank is the number there. -/
theorem hasRank_percentile (nonempty : numbers ≠ []) {percent : ℚ} {rank : ℕ}
    (atRank : percentileRank numbers.length percent = rank) :
    HasRank numbers rank (percentile numbers percent) := by
  have inside := floor_percentileRank_lt (List.length_pos_iff.mpr nonempty) percent
  rw [percentile_eq_interpolated nonempty, atRank, interpolated_natCast]
  rw [atRank, Nat.floor_natCast] at inside
  exact hasRank_ranked inside

/-- The numbers of a sorted list above the one at some rank stand behind it. -/
theorem length_filter_lt_le {sorted : List ℚ} (ascends : sorted.SortedLE) {rank : ℕ}
    (inside : rank < sorted.length) {threshold : ℚ} (reached : sorted[rank] ≤ threshold) :
    (sorted.filter (threshold < ·)).length ≤ sorted.length - (rank + 1) := by
  have none_before : (sorted.take (rank + 1)).filter (threshold < ·) = [] := by
    refine List.filter_eq_nil_iff.mpr fun number member => ?_
    obtain ⟨place, before, rfl⟩ := List.getElem_of_mem member
    rw [List.length_take] at before
    rw [List.getElem_take, decide_eq_true_eq, not_lt]
    exact (ascends.getElem_le_getElem_of_le (by omega)).trans reached
  calc (sorted.filter (threshold < ·)).length
    _ = ((sorted.drop (rank + 1)).filter (threshold < ·)).length := by
      conv_lhs => rw [← List.take_append_drop (rank + 1) sorted]
      rw [List.filter_append, none_before, List.nil_append]
    _ ≤ (sorted.drop (rank + 1)).length := List.length_filter_le ..
    _ = sorted.length - (rank + 1) := List.length_drop

/-- At most the numbers ranked above a percentile are greater. -/
theorem length_filter_percentile_lt_le (nonempty : numbers ≠ []) (percent : ℚ) :
    (numbers.filter (percentile numbers percent < ·)).length ≤
      numbers.length - (⌊percentileRank numbers.length percent⌋₊ + 1) := by
  have positive := List.length_pos_iff.mpr nonempty
  have inside := floor_percentileRank_lt positive percent
  have place : ⌊percentileRank numbers.length percent⌋₊ <
      (numbers.mergeSort Scalar.precedes).length := by
    rwa [List.length_mergeSort]
  have reached : (numbers.mergeSort Scalar.precedes)[⌊percentileRank numbers.length percent⌋₊] ≤
      percentile numbers percent := by
    have at_place := getElem?_mergeSort inside
    rw [List.getElem?_eq_getElem place, Option.some_inj] at at_place
    rw [at_place, percentile_eq_interpolated nonempty]
    exact le_interpolated (ranked_mono nonempty) (percentileRank_nonneg positive percent)
  have bound := length_filter_lt_le (sortedLE_mergeSort numbers) place reached
  rwa [((List.mergeSort_perm numbers _).filter _).length_eq, List.length_mergeSort] at bound

end

end ContractAtlas
