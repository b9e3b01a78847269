import MediaTransport.Library.Word

namespace MediaTransport.Library

/-!
# Truncated means

A mean of integers that is truncated towards zero is still between the smallest and
the largest of them, for the bound on that side is an integer as well.
-/

variable {values : List Int}

/-- The mean of integers as the division of C gives it. -/
def truncatedMean (values : List Int) : Int := values.sum.tdiv values.length

theorem tdiv_le_of_le_mul {dividend divisor bound : Int} (positive : 0 < divisor)
    (le : dividend ≤ bound * divisor) : dividend.tdiv divisor ≤ bound := by
  have parts := Int.mul_tdiv_add_tmod dividend divisor
  have rest := Int.lt_tmod_of_pos dividend positive
  by_contra above
  have next : bound + 1 ≤ dividend.tdiv divisor := by omega
  have scaled := Int.mul_le_mul_of_nonneg_left next (le_of_lt positive)
  have product : divisor * (bound + 1) = bound * divisor + divisor := by ring
  omega

theorem le_tdiv_of_mul_le {dividend divisor bound : Int} (positive : 0 < divisor)
    (le : bound * divisor ≤ dividend) : bound ≤ dividend.tdiv divisor := by
  have negated : (-dividend).tdiv divisor ≤ -bound :=
    tdiv_le_of_le_mul positive (by linarith)
  rw [Int.neg_tdiv] at negated
  omega

theorem le_truncatedMean {bound : Int} (nonempty : values ≠ [])
    (each : ∀ value ∈ values, bound ≤ value) : bound ≤ truncatedMean values := by
  have positive : (0 : Int) < values.length := by
    exact_mod_cast List.length_pos_of_ne_nil nonempty
  apply le_tdiv_of_mul_le positive
  have total := List.card_nsmul_le_sum values bound each
  simpa [mul_comm] using total

theorem truncatedMean_le {bound : Int} (nonempty : values ≠ [])
    (each : ∀ value ∈ values, value ≤ bound) : truncatedMean values ≤ bound := by
  have positive : (0 : Int) < values.length := by
    exact_mod_cast List.length_pos_of_ne_nil nonempty
  apply tdiv_le_of_le_mul positive
  have total := List.sum_le_card_nsmul values bound each
  simpa [mul_comm] using total

/-- The mean is between two of the values. -/
theorem truncatedMean_between (nonempty : values ≠ []) :
    (exists value, value ∈ values ∧ value ≤ truncatedMean values) ∧
      exists value, value ∈ values ∧ truncatedMean values ≤ value := by
  constructor
  · by_contra none
    push Not at none
    have above : truncatedMean values + 1 ≤ truncatedMean values :=
      le_truncatedMean nonempty (fun value member => none value member)
    omega
  · by_contra none
    push Not at none
    have below : truncatedMean values ≤ truncatedMean values - 1 :=
      truncatedMean_le nonempty (fun value member => Int.le_sub_one_of_lt (none value member))
    omega

theorem int32_eq (value : Int) : int32 value = (value + 2147483648) % 4294967296 - 2147483648 := by
  unfold int32
  rw [u32_eq]
  split <;> omega

theorem int32_add (left right : Int) : int32 (int32 left + right) = int32 (left + right) := by
  simp only [int32_eq]
  omega

/-- The quotient of a wrapped sum is that of the sum exactly where nothing was wrapped. -/
theorem tdiv_int32_eq_iff (total : Int) {divisor : Int} (positive : 0 < divisor)
    (small : divisor ≤ 2147483648) :
    (int32 total).tdiv divisor = total.tdiv divisor ↔
      -2147483648 ≤ total ∧ total < 2147483648 := by
  constructor
  · intro same
    have wrapped := Int.mul_tdiv_add_tmod (int32 total) divisor
    have whole := Int.mul_tdiv_add_tmod total divisor
    have wrappedRest := Int.tmod_lt_of_pos (int32 total) positive
    have wholeRest := Int.tmod_lt_of_pos total positive
    have wrappedLow := Int.lt_tmod_of_pos (int32 total) positive
    have wholeLow := Int.lt_tmod_of_pos total positive
    have apart : total - int32 total = total.tmod divisor - (int32 total).tmod divisor := by
      rw [same] at wrapped
      linarith
    rw [int32_eq] at apart wrappedRest wrappedLow
    omega
  · intro fits
    rw [int32_eq]
    congr 1
    omega

end MediaTransport.Library
