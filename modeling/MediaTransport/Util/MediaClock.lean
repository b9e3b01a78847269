import Mathlib.Tactic

namespace MediaTransport

/-!
# Frame epochs and the media clock

A frame period is a fraction of a second, and the time of an epoch and the
ticks of the media clock are computed from it with 128 bit integers, so no
rounding accumulates.  The functions return 64 bits, and the timestamp of a
packet the low half of the ticks.
-/

/-- `NS_PER_S` -/
def nsPerS : Nat := 1000000000

/-- `UINT64_MAX` -/
def uint64Max : Nat := 18446744073709551615

/-- The conversion of a wider integer to `uint64_t`. -/
def u64 (value : Nat) : Nat := value % 18446744073709551616

/-- The part of `struct st_fps_timing` that the sessions read. -/
structure FpsTiming where
  mul : Nat
  den : Nat
  samplingClockRate : Nat
  deriving DecidableEq, Repr

/-- `st_muldiv_u64_round_closest`; ties round down. -/
def stMuldivU64RoundClosest (value multiplier divisor : Nat) : Nat :=
  let quotient := value * multiplier / divisor
  let remainder := value * multiplier - quotient * divisor
  u64 (if remainder > divisor / 2 then quotient + 1 else quotient)

/-- `st_epoch_to_tai` -/
def stEpochToTai (epoch : Nat) (fps : FpsTiming) : Nat :=
  let tai := epoch * nsPerS * fps.den / fps.mul
  if tai ≥ uint64Max then uint64Max else tai

/-- `st_tai_to_epoch` -/
def stTaiToEpoch (taiNs : Nat) (fps : FpsTiming) : Nat :=
  u64 (((taiNs + 1) * fps.mul - 1) / (nsPerS * fps.den))

/-- `st_tai_to_nearest_epoch` -/
def stTaiToNearestEpoch (taiNs : Nat) (fps : FpsTiming) : Nat :=
  let period := nsPerS * fps.den
  u64 ((2 * taiNs * fps.mul + period) / (2 * period))

/-- `st_tai_round_to_media_clk_ns` -/
def stTaiRoundToMediaClkNs (taiNs samplingRate : Nat) : Nat :=
  if samplingRate = 0 then
    taiNs
  else
    let tick := stMuldivU64RoundClosest taiNs samplingRate nsPerS
    if tick * nsPerS / samplingRate ≥ uint64Max then uint64Max
    else stMuldivU64RoundClosest tick nsPerS samplingRate

/-- `st10_tai_to_media_clk` -/
def st10TaiToMediaClk (taiNs samplingRate : Nat) : Nat :=
  if samplingRate = 0 then 0
  else stMuldivU64RoundClosest taiNs samplingRate nsPerS % 4294967296

end MediaTransport
