import Mathlib.Tactic

namespace MediaTransport.Library

/-!
# Quotients rounded down and to the nearest

Rounding is used through one equivalence only: the rounded quotient is at most
a number exactly when the dividend is at most a bound.  Monotony, and that two
roundings between a fine and a coarse grid cancel, follow from it.
-/

/-- The quotient rounded to the nearest integer, ties down. -/
def roundHalfDown (value divisor : Nat) : Nat :=
  if divisor / 2 < value % divisor then value / divisor + 1 else value / divisor

theorem roundHalfDown_between (value divisor : Nat) :
    value / divisor ≤ roundHalfDown value divisor ∧
      roundHalfDown value divisor ≤ value / divisor + 1 := by
  unfold roundHalfDown
  split <;> omega

theorem roundHalfDown_le_iff {value divisor bound : Nat} (positive : 0 < divisor) :
    roundHalfDown value divisor ≤ bound <-> 2 * value ≤ (2 * bound + 1) * divisor := by
  have split := Nat.div_add_mod value divisor
  have rest := Nat.mod_lt value positive
  have scaled : (2 * bound + 1) * divisor = 2 * (divisor * bound) + divisor := by ring
  rw [scaled, roundHalfDown]
  generalize value % divisor = remainder at split rest ⊢
  rcases Nat.lt_trichotomy (value / divisor) bound with below | same | above
  · have room : divisor * (value / divisor + 1) ≤ divisor * bound := Nat.mul_le_mul_left _ below
    rw [Nat.mul_add, Nat.mul_one] at room
    constructor
    · intro _
      omega
    · intro _
      split <;> omega
  · rw [← same]
    constructor
    · intro least
      split at least <;> omega
    · intro small
      rw [if_neg (by omega)]
  · have room : divisor * (bound + 1) ≤ divisor * (value / divisor) := Nat.mul_le_mul_left _ above
    rw [Nat.mul_add, Nat.mul_one] at room
    constructor
    · intro least
      split at least <;> omega
    · intro small
      omega

section

variable {value divisor : Nat} (positive : 0 < divisor)

include positive

theorem le_roundHalfDown :
    2 * value ≤ (2 * roundHalfDown value divisor + 1) * divisor :=
  (roundHalfDown_le_iff positive).mp (Nat.le_refl _)

/-- A smaller number is too small to be the rounded quotient. -/
theorem lt_of_lt_roundHalfDown {bound : Nat} (above : bound < roundHalfDown value divisor) :
    (2 * bound + 1) * divisor < 2 * value := by
  by_contra small
  have least := (roundHalfDown_le_iff positive).mpr (Nat.le_of_not_lt small)
  omega

theorem roundHalfDown_mono {larger : Nat} (grows : value ≤ larger) :
    roundHalfDown value divisor ≤ roundHalfDown larger divisor := by
  apply (roundHalfDown_le_iff positive).mpr
  exact Nat.le_trans (Nat.mul_le_mul_left 2 grows) (le_roundHalfDown positive)

end

/-! ## A fine and a coarse grid -/

section

variable {fine coarse : Nat} (positive : 0 < coarse) (finer : coarse ≤ fine)

include positive finer

theorem roundHalfDown_le_self (place : Nat) : roundHalfDown (place * coarse) fine ≤ place := by
  apply (roundHalfDown_le_iff (by omega)).mpr
  have scaled := Nat.mul_le_mul_left place finer
  have expand : (2 * place + 1) * fine = 2 * (place * fine) + fine := by ring
  omega

/-- The place of a tick on the fine grid has that tick. -/
theorem roundHalfDown_cancel (tick : Nat) :
    roundHalfDown (roundHalfDown (tick * fine) coarse * coarse) fine = tick := by
  have least : 2 * (tick * fine) ≤ (2 * roundHalfDown (tick * fine) coarse + 1) * coarse :=
    le_roundHalfDown positive
  have most : ∀ bound < roundHalfDown (tick * fine) coarse,
      (2 * bound + 1) * coarse < 2 * (tick * fine) := fun bound => lt_of_lt_roundHalfDown positive
  generalize roundHalfDown (tick * fine) coarse = place at least most
  have expand : (2 * place + 1) * coarse = 2 * (place * coarse) + coarse := by ring
  apply Nat.le_antisymm
  · apply (roundHalfDown_le_iff (by omega)).mpr
    have room : (2 * tick + 1) * fine = 2 * (tick * fine) + fine := by ring
    rcases Nat.eq_zero_or_pos place with zero | some
    · simp [zero]
    · have upper := most (place - 1) (by omega)
      have before : (2 * (place - 1) + 1) * coarse + coarse = 2 * (place * coarse) := by
        rcases Nat.exists_eq_add_of_lt some with ⟨less, rfl⟩
        simp only [Nat.zero_add, Nat.add_sub_cancel]
        ring
      omega
  · by_contra less
    have bound := (@roundHalfDown_le_iff (place * coarse) fine (tick - 1) (by omega)).mp (by omega)
    rcases Nat.exists_eq_add_of_lt (by omega : 0 < tick) with ⟨before, rfl⟩
    simp only [Nat.zero_add, Nat.add_sub_cancel] at bound least less
    have low : (2 * before + 1) * fine = 2 * (before * fine) + fine := by ring
    have high : 2 * ((before + 1) * fine) = 2 * (before * fine) + 2 * fine := by ring
    have equal : coarse = fine := by omega
    subst equal
    have steps : (before + 1) * coarse ≤ place * coarse := by
      apply Nat.mul_le_mul_right
      by_contra behind
      have squeezed : place * coarse ≤ before * coarse := Nat.mul_le_mul_right _ (by omega)
      omega
    rw [Nat.succ_mul] at steps
    omega

/-- The place of the tick of a place is at most half a tick from it, and half a
tick is rounded like everything else. -/
theorem roundHalfDown_near (place : Nat) :
    let moved := roundHalfDown (roundHalfDown (place * coarse) fine * fine) coarse
    moved ≤ place + roundHalfDown fine (2 * coarse) ∧
      place ≤ moved + roundHalfDown fine (2 * coarse) := by
  have half : 2 * fine ≤ (2 * roundHalfDown fine (2 * coarse) + 1) * (2 * coarse) :=
    le_roundHalfDown (by omega)
  have least : 2 * (place * coarse) ≤ (2 * roundHalfDown (place * coarse) fine + 1) * fine :=
    le_roundHalfDown (by omega)
  have most : ∀ bound < roundHalfDown (place * coarse) fine,
      (2 * bound + 1) * fine < 2 * (place * coarse) := fun bound => lt_of_lt_roundHalfDown (by omega)
  generalize roundHalfDown (place * coarse) fine = tick at least most ⊢
  generalize roundHalfDown fine (2 * coarse) = radius at half ⊢
  have back : 2 * (tick * fine) ≤ (2 * roundHalfDown (tick * fine) coarse + 1) * coarse :=
    le_roundHalfDown positive
  have reach : fine ≤ (2 * radius + 1) * coarse := by
    have double : (2 * radius + 1) * (2 * coarse) = 2 * ((2 * radius + 1) * coarse) := by ring
    omega
  have ahead : 2 * (tick * fine) < 2 * (place * coarse) + fine := by
    rcases Nat.eq_zero_or_pos tick with zero | some
    · rw [zero, Nat.zero_mul]
      omega
    · rcases Nat.exists_eq_add_of_lt some with ⟨before, rfl⟩
      have upper := most before (by omega)
      have expand : 2 * ((0 + before + 1) * fine) = (2 * before + 1) * fine + fine := by ring
      omega
  dsimp only
  constructor
  · apply (roundHalfDown_le_iff positive).mpr
    have expand : (2 * (place + radius) + 1) * coarse =
        2 * (place * coarse) + (2 * radius + 1) * coarse := by ring
    omega
  · generalize roundHalfDown (tick * fine) coarse = moved at back ⊢
    by_contra far
    have steps : (2 * (moved + radius + 1)) * coarse ≤ 2 * place * coarse :=
      Nat.mul_le_mul_right _ (by omega)
    have expand : (2 * (moved + radius + 1)) * coarse =
        (2 * moved + 1) * coarse + (2 * radius + 1) * coarse := by ring
    have room : (2 * tick + 1) * fine = 2 * (tick * fine) + fine := by ring
    have double : 2 * place * coarse = 2 * (place * coarse) := by ring
    -- Nothing is lost on the way, so that an odd number of half ticks would be even.
    have odd : 2 * (tick * fine) = (2 * moved + 1) * coarse := by omega
    have whole : fine = (2 * radius + 1) * coarse := by omega
    have parity : (2 * (tick * (2 * radius + 1))) * coarse = (2 * moved + 1) * coarse := by
      rw [← odd, whole]
      ring
    have same := Nat.eq_of_mul_eq_mul_right positive parity
    omega

end

end MediaTransport.Library
