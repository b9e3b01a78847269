import MediaTransport.Library.Rounding
import MediaTransport.Util.MediaClock

namespace MediaTransport

open Library

/-!
# The ticks that an instant is moved to

`st_tai_round_to_media_clk_ns` rounds an instant to a tick of the media clock
and the tick back to nanoseconds.  No clock is finer than a nanosecond, so the
second rounding never leaves the tick, also where it saturates.
-/

/-- The division in two parts is one of the whole product, where the result fits. -/
theorem stMuldivU64RoundClosest_eq {value multiplier divisor : Nat}
    (small : roundHalfDown (value * multiplier) divisor < 18446744073709551616) :
    stMuldivU64RoundClosest value multiplier divisor =
      roundHalfDown (value * multiplier) divisor := by
  have rest : value * multiplier - value * multiplier / divisor * divisor =
      value * multiplier % divisor := by
    rw [Nat.mul_comm (_ / _), Nat.mod_eq_sub]
  unfold stMuldivU64RoundClosest u64
  rw [roundHalfDown] at small ⊢
  dsimp only
  rw [rest]
  exact Nat.mod_eq_of_lt small

section

variable {rate : Nat} (positive : 0 < rate) (slow : rate ≤ nsPerS)

include positive slow

variable {taiNs : Nat}

theorem tick_eq (fits : taiNs < 18446744073709551616) :
    stMuldivU64RoundClosest taiNs rate nsPerS = roundHalfDown (taiNs * rate) nsPerS :=
  stMuldivU64RoundClosest_eq
    (Nat.lt_of_le_of_lt (roundHalfDown_le_self positive slow taiNs) fits)

/-- An instant is moved to the nearest nanosecond of its tick, or to the largest number where that is past it.
-/
theorem stTaiRoundToMediaClkNs_eq (fits : taiNs < 18446744073709551616) :
    stTaiRoundToMediaClkNs taiNs rate =
      if uint64Max ≤ roundHalfDown (taiNs * rate) nsPerS * nsPerS / rate then uint64Max
      else roundHalfDown (roundHalfDown (taiNs * rate) nsPerS * nsPerS) rate := by
  unfold stTaiRoundToMediaClkNs
  rw [if_neg (Nat.ne_of_gt positive), tick_eq positive slow fits]
  dsimp only
  split
  · rfl
  · next below =>
      apply stMuldivU64RoundClosest_eq
      have between := roundHalfDown_between (roundHalfDown (taiNs * rate) nsPerS * nsPerS) rate
      unfold uint64Max at below
      omega

theorem stTaiRoundToMediaClkNs_lt (fits : taiNs < 18446744073709551616) :
    stTaiRoundToMediaClkNs taiNs rate < 18446744073709551616 := by
  rw [stTaiRoundToMediaClkNs_eq positive slow fits]
  split
  · decide
  · next below =>
      have between := roundHalfDown_between (roundHalfDown (taiNs * rate) nsPerS * nsPerS) rate
      unfold uint64Max at below
      omega

/-- The moved instant has the tick of the instant. -/
theorem tick_of_round (fits : taiNs < 18446744073709551616) :
    stMuldivU64RoundClosest (stTaiRoundToMediaClkNs taiNs rate) rate nsPerS =
      stMuldivU64RoundClosest taiNs rate nsPerS := by
  rw [tick_eq positive slow (stTaiRoundToMediaClkNs_lt positive slow fits),
    tick_eq positive slow fits, stTaiRoundToMediaClkNs_eq positive slow fits]
  split
  · next last =>
      apply Nat.le_antisymm
      · apply (roundHalfDown_le_iff (by decide)).mpr
        have reached := (Nat.le_div_iff_mul_le positive).mp last
        have expand : (2 * roundHalfDown (taiNs * rate) nsPerS + 1) * nsPerS =
            2 * (roundHalfDown (taiNs * rate) nsPerS * nsPerS) + nsPerS := by ring
        omega
      · apply roundHalfDown_mono (by decide)
        apply Nat.mul_le_mul_right
        unfold uint64Max
        omega
  · exact roundHalfDown_cancel positive slow _

/-- An instant is moved by half a tick at most. -/
theorem round_near (fits : taiNs < 18446744073709551616) :
    stTaiRoundToMediaClkNs taiNs rate ≤ taiNs + roundHalfDown nsPerS (2 * rate) ∧
      taiNs ≤ stTaiRoundToMediaClkNs taiNs rate + roundHalfDown nsPerS (2 * rate) := by
  have near := roundHalfDown_near positive slow taiNs
  dsimp only at near
  rw [stTaiRoundToMediaClkNs_eq positive slow fits]
  split
  · next last =>
      constructor
      · have reached : uint64Max ≤
            roundHalfDown (roundHalfDown (taiNs * rate) nsPerS * nsPerS) rate :=
          Nat.le_trans last (roundHalfDown_between _ _).1
        omega
      · unfold uint64Max
        omega
  · exact near

theorem round_mono {first second : Nat} (order : first ≤ second)
    (fits : second < 18446744073709551616) :
    stTaiRoundToMediaClkNs first rate ≤ stTaiRoundToMediaClkNs second rate := by
  have ticks := roundHalfDown_mono (show 0 < nsPerS by decide) (Nat.mul_le_mul_right rate order)
  have places := Nat.mul_le_mul_right nsPerS ticks
  have below := stTaiRoundToMediaClkNs_lt positive slow (Nat.lt_of_le_of_lt order fits)
  have earlier := stTaiRoundToMediaClkNs_eq positive slow (Nat.lt_of_le_of_lt order fits)
  rw [stTaiRoundToMediaClkNs_eq positive slow fits]
  split
  · unfold uint64Max
    omega
  · next later =>
      have unsaturated := fun last =>
        later (Nat.le_trans last (Nat.div_le_div_right (c := rate) places))
      rw [earlier, if_neg unsaturated]
      exact roundHalfDown_mono positive places

end

/-! ## Ticks of the video clock -/

/-- The tick is within half a tick of the instant, in ninths of a nanosecond. -/
theorem nearest_tick {taiNs : Nat} (early : taiNs < 18446744073709551616) :
    stMuldivU64RoundClosest taiNs 90000 nsPerS * 100000 ≤ taiNs * 9 + 50000 ∧
      taiNs * 9 ≤ stMuldivU64RoundClosest taiNs 90000 nsPerS * 100000 + 50000 := by
  rw [tick_eq (by decide) (by decide) early]
  have least : 2 * (taiNs * 90000) ≤ (2 * roundHalfDown (taiNs * 90000) nsPerS + 1) * nsPerS :=
    le_roundHalfDown (by decide)
  have behind := @lt_of_lt_roundHalfDown (taiNs * 90000) nsPerS (by decide)
    (roundHalfDown (taiNs * 90000) nsPerS - 1)
  generalize roundHalfDown (taiNs * 90000) nsPerS = tick at least behind ⊢
  unfold nsPerS at least behind
  omega

/-- Instants that are two ticks apart, and less than the clock's period, have different timestamps. -/
theorem ticks_differ {first second : Nat} (early : second < 9223372036854775808)
    (after : first + 22223 ≤ second) (near : second < first + 47721858000000) :
    stMuldivU64RoundClosest first 90000 nsPerS % 4294967296 ≠
      stMuldivU64RoundClosest second 90000 nsPerS % 4294967296 := by
  have lower := @nearest_tick first (by omega)
  have upper := @nearest_tick second (by omega)
  generalize stMuldivU64RoundClosest first 90000 nsPerS = from_tick at lower ⊢
  generalize stMuldivU64RoundClosest second 90000 nsPerS = to_tick at upper ⊢
  have close : to_tick < from_tick + 4294967296 := by omega
  omega

/-! ## The rounding as a whole -/

def halfTick (samplingRate : Nat) : Nat := stMuldivU64RoundClosest 1 nsPerS (2 * samplingRate)

theorem halfTick_eq (samplingRate : Nat) :
    halfTick samplingRate = roundHalfDown nsPerS (2 * samplingRate) := by
  have small : roundHalfDown (1 * nsPerS) (2 * samplingRate) < 18446744073709551616 := by
    have between := (roundHalfDown_between (1 * nsPerS) (2 * samplingRate)).2
    have upper := Nat.div_le_self (1 * nsPerS) (2 * samplingRate)
    unfold nsPerS at between upper ⊢
    omega
  rw [halfTick, stMuldivU64RoundClosest_eq small, Nat.one_mul]

/-- Rounding to the media clock keeps the tick, moves an instant by at most half
a tick, and is idempotent and monotone. -/
theorem media_clock_rounding_sound (samplingRate : Nat) (slow : samplingRate ≤ nsPerS)
    (taiNs : Nat) (fits : taiNs < 18446744073709551616) :
    let rounded := stTaiRoundToMediaClkNs taiNs samplingRate
    stTaiRoundToMediaClkNs rounded samplingRate = rounded ∧
      rounded ≤ taiNs + halfTick samplingRate ∧ taiNs ≤ rounded + halfTick samplingRate ∧
      (forall later, taiNs ≤ later -> later < 18446744073709551616 ->
        rounded ≤ stTaiRoundToMediaClkNs later samplingRate) ∧
      st10TaiToMediaClk rounded samplingRate = st10TaiToMediaClk taiNs samplingRate := by
  dsimp only
  rcases Nat.eq_zero_or_pos samplingRate with zero | positive
  · have unmoved : forall instant, stTaiRoundToMediaClkNs instant samplingRate = instant := by
      intro instant
      rw [stTaiRoundToMediaClkNs, if_pos zero]
    simp only [unmoved]
    exact ⟨trivial, Nat.le_add_right _ _, Nat.le_add_right _ _, fun _ order _ => order, trivial⟩
  · have tick := tick_of_round positive slow fits
    have near := round_near positive slow fits
    rw [← halfTick_eq] at near
    refine ⟨?_, near.1, near.2, fun later order last => round_mono positive slow order last, ?_⟩
    · have below := stTaiRoundToMediaClkNs_lt positive slow fits
      have same := tick
      rw [tick_eq positive slow below, tick_eq positive slow fits] at same
      rw [stTaiRoundToMediaClkNs_eq positive slow below, same,
        ← stTaiRoundToMediaClkNs_eq positive slow fits]
    · unfold st10TaiToMediaClk
      rw [tick]

theorem media_clock_rounding_sound_last :
    let rounded := stTaiRoundToMediaClkNs 18446744073709551000 90000
    stTaiRoundToMediaClkNs rounded 90000 = rounded ∧
      rounded ≤ 18446744073709551000 + halfTick 90000 ∧
      18446744073709551000 ≤ rounded + halfTick 90000 ∧
      (forall later, 18446744073709551000 ≤ later -> later < 18446744073709551616 ->
        rounded ≤ stTaiRoundToMediaClkNs later 90000) ∧
      st10TaiToMediaClk rounded 90000 = st10TaiToMediaClk 18446744073709551000 90000 :=
  media_clock_rounding_sound 90000 (by decide) 18446744073709551000 (by decide)

end MediaTransport
