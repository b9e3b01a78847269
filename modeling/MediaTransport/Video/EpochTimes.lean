import MediaTransport.Video.Pacing

namespace MediaTransport.Video

/-!
# Epochs and their start times

Every frame time of `st_get_fps_timing` is a whole number of thirds of a
nanosecond.  An epoch starts at its exact time rounded down, the epoch of a
time is found with one division, and the nearest epoch is the one whose exact
start is nearest; for thirds of a nanosecond the rounding of the start times
never makes another epoch nearer.
-/

/-- Frame times that are thirds of a nanosecond, and not shorter than one. -/
structure FrameThirds (tm : FpsTiming) (thirds : Nat) : Prop where
  mul_pos : 0 < tm.mul
  period : 3 * (nsPerS * tm.den) = thirds * tm.mul
  long : tm.mul ≤ nsPerS * tm.den

theorem stGetFpsTiming_thirds (fps : StFps) : exists thirds, FrameThirds (stGetFpsTiming fps) thirds := by
  refine ⟨3 * (nsPerS * (stGetFpsTiming fps).den) / (stGetFpsTiming fps).mul, ?_, ?_, ?_⟩ <;>
    cases fps <;> decide

def EpochFits (tm : FpsTiming) (epoch : Nat) : Prop :=
  epoch * nsPerS * tm.den / tm.mul ≤ uint64Max

theorem stEpochToTai_eq (epoch : Nat) (tm : FpsTiming) :
    stEpochToTai epoch tm = min (epoch * nsPerS * tm.den / tm.mul) uint64Max := by
  unfold stEpochToTai
  dsimp only
  split <;> omega

theorem stEpochToTai_mono (tm : FpsTiming) {first second : Nat} (order : first ≤ second) :
    stEpochToTai first tm ≤ stEpochToTai second tm := by
  rw [stEpochToTai_eq, stEpochToTai_eq]
  apply min_le_min_right
  apply Nat.div_le_div_right
  exact Nat.mul_le_mul_right _ (Nat.mul_le_mul_right _ order)

section

variable {tm : FpsTiming} {thirds : Nat} (frame : FrameThirds tm thirds)

include frame

variable {taiNs : Nat}

theorem FrameThirds.start_eq (epoch : Nat) :
    epoch * nsPerS * tm.den / tm.mul = epoch * thirds / 3 := by
  have scaled : 3 * (epoch * nsPerS * tm.den) = epoch * thirds * tm.mul := by
    rw [Nat.mul_assoc epoch thirds, ← frame.period]
    ring
  rw [← Nat.mul_div_mul_left _ _ (show 0 < 3 by decide), scaled,
    Nat.mul_div_mul_right _ _ frame.mul_pos]

theorem FrameThirds.thirds_ge : 3 ≤ thirds := by
  by_contra short
  have period := frame.period
  have long := frame.long
  have some := frame.mul_pos
  have less : thirds * tm.mul ≤ 2 * tm.mul := Nat.mul_le_mul_right _ (by omega)
  omega

theorem FrameThirds.stTaiToEpoch_eq (fits : taiNs < 18446744073709551616) :
    stTaiToEpoch taiNs tm = ((taiNs + 1) * tm.mul - 1) / (nsPerS * tm.den) := by
  have some := frame.mul_pos
  have long := frame.long
  apply Nat.mod_eq_of_lt
  refine Nat.lt_of_lt_of_le (m := taiNs + 1) ?_ fits
  rw [Nat.div_lt_iff_lt_mul (by omega)]
  have wider := Nat.mul_le_mul_left (taiNs + 1) long
  have filled : 0 < (taiNs + 1) * tm.mul := Nat.mul_pos (Nat.succ_pos _) some
  omega

theorem FrameThirds.started_iff (fits : taiNs < 18446744073709551616) (epoch : Nat) :
    epoch * nsPerS * tm.den / tm.mul ≤ taiNs <-> epoch ≤ stTaiToEpoch taiNs tm := by
  have some := frame.mul_pos
  have long := frame.long
  have filled : 0 < (taiNs + 1) * tm.mul := Nat.mul_pos (Nat.succ_pos _) some
  rw [frame.stTaiToEpoch_eq fits, Nat.le_div_iff_mul_le (by omega), ← Nat.lt_succ_iff,
    Nat.div_lt_iff_lt_mul some, ← Nat.mul_assoc, Nat.succ_eq_add_one]
  omega

theorem FrameThirds.stTaiToEpoch_start {epoch : Nat} (fits : EpochFits tm epoch) :
    stTaiToEpoch (stEpochToTai epoch tm) tm = epoch := by
  have start : stEpochToTai epoch tm = epoch * nsPerS * tm.den / tm.mul := by
    rw [stEpochToTai_eq, min_eq_left fits]
  have small : epoch * nsPerS * tm.den / tm.mul < 18446744073709551616 := by
    unfold EpochFits uint64Max at fits
    omega
  have apart := frame.thirds_ge
  rw [start]
  apply Nat.le_antisymm
  · have begun := (frame.started_iff small _).mpr (Nat.le_refl _)
    rw [frame.start_eq, frame.start_eq] at begun
    rw [frame.start_eq]
    by_contra later
    have next := Nat.mul_le_mul_right thirds (Nat.lt_of_not_le later)
    rw [Nat.succ_mul] at next
    omega
  · exact (frame.started_iff small _).mp (Nat.le_refl _)

theorem FrameThirds.stTaiToEpoch_greatest (fits : taiNs < 18446744073709551616) :
    IsGreatest { epoch | EpochFits tm epoch ∧ stEpochToTai epoch tm ≤ taiNs }
      (stTaiToEpoch taiNs tm) := by
  have begun := (frame.started_iff fits _).mpr (Nat.le_refl _)
  constructor
  · constructor
    · unfold EpochFits uint64Max
      omega
    · rw [stEpochToTai_eq]
      exact Nat.le_trans (min_le_left _ _) begun
  · rintro epoch ⟨start, before⟩
    rw [stEpochToTai_eq, min_eq_left start] at before
    exact (frame.started_iff fits epoch).mp before

theorem FrameThirds.stTaiToEpoch_mono {first second : Nat} (order : first ≤ second)
    (fits : second < 18446744073709551616) : stTaiToEpoch first tm ≤ stTaiToEpoch second tm := by
  apply (frame.started_iff fits _).mp
  have begun := (frame.started_iff (Nat.lt_of_le_of_lt order fits) _).mpr (Nat.le_refl _)
  exact Nat.le_trans begun order

theorem FrameThirds.nearest (fits : taiNs < 18446744073709551616) :
    let epoch := stTaiToNearestEpoch taiNs tm
    2 * (epoch * thirds) ≤ 6 * taiNs + thirds ∧ 6 * taiNs < 2 * (epoch * thirds) + thirds := by
  have some := frame.mul_pos
  have long := frame.long
  have period := frame.period
  have exact_ : stTaiToNearestEpoch taiNs tm =
      (2 * taiNs * tm.mul + nsPerS * tm.den) / (2 * (nsPerS * tm.den)) := by
    apply Nat.mod_eq_of_lt
    refine Nat.lt_of_le_of_lt ?_ fits
    apply Nat.le_of_lt_succ
    rw [Nat.succ_eq_add_one, Nat.div_lt_iff_lt_mul (by omega)]
    have wider := Nat.mul_le_mul_left taiNs long
    have expand : (taiNs + 1) * (2 * (nsPerS * tm.den)) =
        2 * (taiNs * (nsPerS * tm.den)) + 2 * (nsPerS * tm.den) := by ring
    have double : 2 * taiNs * tm.mul = 2 * (taiNs * tm.mul) := by ring
    omega
  have low := Nat.div_mul_le_self (2 * taiNs * tm.mul + nsPerS * tm.den) (2 * (nsPerS * tm.den))
  have high := Nat.lt_div_mul_add (a := 2 * taiNs * tm.mul + nsPerS * tm.den)
    (show 0 < 2 * (nsPerS * tm.den) by omega)
  dsimp only
  rw [exact_]
  generalize (2 * taiNs * tm.mul + nsPerS * tm.den) / (2 * (nsPerS * tm.den)) = epoch at low high ⊢
  have cut : 3 * (epoch * (2 * (nsPerS * tm.den))) = 2 * (epoch * thirds) * tm.mul := by
    calc
      3 * (epoch * (2 * (nsPerS * tm.den))) = 2 * epoch * (3 * (nsPerS * tm.den)) := by ring
      _ = 2 * (epoch * thirds) * tm.mul := by
        rw [period]
        ring
  have time : 3 * (2 * taiNs * tm.mul) = 6 * taiNs * tm.mul := by ring
  constructor
  · apply Nat.le_of_mul_le_mul_right _ some
    rw [Nat.add_mul]
    omega
  · apply Nat.lt_of_mul_lt_mul_right (a := tm.mul)
    rw [Nat.add_mul]
    omega

theorem FrameThirds.nearest_le (fits : taiNs < 18446744073709551616) {epoch : Nat}
    (start : EpochFits tm epoch) :
    |(stEpochToTai (stTaiToNearestEpoch taiNs tm) tm : Int) - taiNs| ≤
      |(stEpochToTai epoch tm : Int) - taiNs| := by
  rcases frame.nearest fits with ⟨late, early⟩
  generalize stTaiToNearestEpoch taiNs tm = nearest at late early ⊢
  rw [stEpochToTai_eq, stEpochToTai_eq, min_eq_left start, frame.start_eq, frame.start_eq]
  have last : taiNs ≤ uint64Max := by
    unfold uint64Max
    omega
  generalize uint64Max = limit at last
  rw [Int.abs_eq_natAbs, Int.abs_eq_natAbs]
  rcases Nat.lt_trichotomy epoch nearest with before | same | after
  · have room := Nat.mul_le_mul_right thirds before
    rw [Nat.succ_mul] at room
    omega
  · rw [same]
    omega
  · have room := Nat.mul_le_mul_right thirds after
    rw [Nat.succ_mul] at room
    have multiple : thirds % 3 = 0 -> nearest * thirds % 3 = 0 := by
      intro whole
      rw [Nat.mul_mod, whole, Nat.mul_zero, Nat.zero_mod]
    generalize nearest * thirds = here at late early room multiple ⊢
    generalize epoch * thirds = there at room ⊢
    -- The two starts lose less than a nanosecond together when they are rounded down.
    have next : (here + thirds) / 3 ≤ there / 3 := by omega
    omega

end

/-- The epoch functions are exact for every frame rate. -/
theorem epoch_times_exact (fps : StFps) :
    let tm := stGetFpsTiming fps
    (∀ taiNs < 18446744073709551616,
      IsGreatest { epoch | EpochFits tm epoch ∧ stEpochToTai epoch tm ≤ taiNs }
        (stTaiToEpoch taiNs tm)) ∧
    (forall epoch, EpochFits tm epoch -> stTaiToEpoch (stEpochToTai epoch tm) tm = epoch) ∧
    (forall first second, first ≤ second -> stEpochToTai first tm ≤ stEpochToTai second tm) ∧
    (forall first second, first ≤ second -> second < 18446744073709551616 ->
      stTaiToEpoch first tm ≤ stTaiToEpoch second tm) ∧
    ∀ taiNs < 18446744073709551616, forall epoch, EpochFits tm epoch ->
      |(stEpochToTai (stTaiToNearestEpoch taiNs tm) tm : Int) - taiNs| ≤
        |(stEpochToTai epoch tm : Int) - taiNs| := by
  rcases stGetFpsTiming_thirds fps with ⟨thirds, frame⟩
  exact ⟨fun taiNs fits => frame.stTaiToEpoch_greatest fits,
    fun epoch fits => frame.stTaiToEpoch_start fits,
    fun first second order => stEpochToTai_mono _ order,
    fun first second order fits => frame.stTaiToEpoch_mono order fits,
    fun taiNs fits epoch start => frame.nearest_le fits start⟩

end MediaTransport.Video
