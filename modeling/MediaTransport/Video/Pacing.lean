import MediaTransport.Anc.TxPacket
import MediaTransport.Library.Run

namespace MediaTransport.Video

open Library
open Anc (St10TimestampFmt)

/-!
# Pacing of the video transmit session

Every frame, or field of an interlaced video, has a frame count, the number of
frame times since the epoch of the clock.  It is the next one in turn while the
session keeps pace with the clock.  A field whose parity does not match its
count waits for the count after it.
-/

/-! ## Frame rates -/

/-- `enum st_fps` -/
inductive StFps where
  | p120
  | p119_88
  | p100
  | p60
  | p59_94
  | p50
  | p30
  | p29_97
  | p25
  | p24
  | p23_98
  deriving DecidableEq, Repr

/-- `st_get_fps_timing` -/
def stGetFpsTiming : StFps -> FpsTiming
  | .p120 => ⟨120, 1, 90000⟩
  | .p119_88 => ⟨120000, 1001, 90000⟩
  | .p100 => ⟨100, 1, 90000⟩
  | .p60 => ⟨60, 1, 90000⟩
  | .p59_94 => ⟨60000, 1001, 90000⟩
  | .p50 => ⟨50, 1, 90000⟩
  | .p30 => ⟨30, 1, 90000⟩
  | .p29_97 => ⟨30000, 1001, 90000⟩
  | .p25 => ⟨25, 1, 90000⟩
  | .p24 => ⟨24, 1, 90000⟩
  | .p23_98 => ⟨24000, 1001, 90000⟩

/-! ## The session -/

/-- The part of `struct st20_tx_ops` and of the session that the pacing reads; the flags are those of
`ST20_TX_FLAG`.  The functions stand for the floating point of the session: the offset of the first
packet from the time of its frame, the frame time in nanoseconds below a second, the lead of the
packets that warm up a queue, and `st10_media_clk_to_tai`. -/
structure TvPacingConfig where
  interlaced : Bool
  userPacing : Bool
  exactUserPacing : Bool
  userTimestamp : Bool
  rtpTimestampEpoch : Bool
  rtpTimestampDeltaUs : Int
  isSt22 : Bool
  hasSt22Info : Bool
  fps : StFps
  maxOnwardEpochs : BitVec 32
  maxFutureEpochs : Nat
  warmUpLeadNs : Nat
  offsetStart : Nat -> Nat
  st10MediaClkToTai : Nat -> Nat -> Nat

def TvPacingConfig.fpsTm (cfg : TvPacingConfig) : FpsTiming := stGetFpsTiming cfg.fps

/-- `struct st_tx_video_pacing`, with the cursors in whole nanoseconds. -/
structure TvPacing where
  curEpochs : Nat
  rtpTimeStamp : Nat
  tscTimeCursor : Nat
  ptpTimeCursor : Nat
  tscTimeFrameStart : Nat

/-- The counters of `struct st20_tx_user_stats` that the pacing keeps. -/
structure TvPacingStats where
  epochDrop : Nat
  epochOnward : Nat
  errorUserTimestamp : Nat

/-- The frame count of a frame, beside the time of the clock in frames and the field it was for. -/
structure PacedFrame where
  clock : Nat
  secondField : Bool
  count : Nat
  deriving DecidableEq

/-- The part of `struct st_tx_video_session_impl` that the pacing keeps; `paced` are the frames so
far, the oldest first. -/
structure TvPacer where
  cfg : TvPacingConfig
  pacing : TvPacing
  stats : TvPacingStats
  paced : List PacedFrame

variable (s : TvPacer) (cfg : TvPacingConfig)

/-- What the application asks for a frame, and the clocks when it is paced. -/
structure TvFrameInput where
  ptpTime : BitVec 64
  tsc : BitVec 64
  secondField : Bool
  tfmt : St10TimestampFmt
  timestamp : BitVec 64
  checkTime : BitVec 64

/-- `tai_from_frame_count` -/
def taiFromFrameCount (frameCount : Nat) : Nat :=
  stEpochToTai frameCount cfg.fpsTm

/-- `transmission_start_time` -/
def transmissionStartTime (frameCount : Nat) : Nat :=
  let startTime := cfg.offsetStart (taiFromFrameCount cfg frameCount)
  if startTime ≥ uint64Max then uint64Max else startTime

/-- `tv_reset_pacing_epoch` -/
def tvResetPacingEpoch (ptpTime : Nat) : TvPacer :=
  { s with pacing := { s.pacing with curEpochs := stTaiToEpoch ptpTime s.cfg.fpsTm } }

def TvPacer.countUserTimestamp : TvPacer :=
  { s with stats := { s.stats with errorUserTimestamp := s.stats.errorUserTimestamp + 1 } }

/-- `validate_user_timestamp` -/
def validateUserTimestamp (requestedTime currentTime maxFuture : Nat) : TvPacer :=
  if requestedTime < currentTime then s.countUserTimestamp
  else if requestedTime - currentTime > maxFuture then s.countUserTimestamp
  else s

/-- `tv_pacing_required_tai`, which reads the clock on its own. -/
def tvPacingRequiredTai (curTai : Nat) (tfmt : St10TimestampFmt) (timestamp : Nat) : TvPacer × Nat :=
  if !s.cfg.userPacing then
    (s, 0)
  else if timestamp = 0 then
    (if s.cfg.exactUserPacing then s.countUserTimestamp else s, 0)
  else if tfmt = .mediaClk then
    (s.countUserTimestamp, 0)
  else if s.cfg.exactUserPacing ∧ (timestamp < curTai ∨ timestamp - curTai > nsPerS ∨
      timestamp - curTai < s.cfg.warmUpLeadNs) then
    (s.countUserTimestamp, 0)
  else
    (s, timestamp)

/-- `calc_frame_count_since_epoch` -/
def calcFrameCountSinceEpoch (curTai requiredTai : Nat) : TvPacer × Nat :=
  let frameCountTai := stTaiToEpoch curTai s.cfg.fpsTm
  if requiredTai ≠ 0 then
    let frameCount := stTaiToNearestEpoch requiredTai s.cfg.fpsTm
    let s :=
      if s.cfg.exactUserPacing then validateUserTimestamp s requiredTai curTai nsPerS
      else validateUserTimestamp s frameCount frameCountTai s.cfg.maxFutureEpochs
    (s, if frameCount = 0 then frameCountTai else frameCount)
  else if s.pacing.curEpochs = uint64Max then
    (s, frameCountTai)
  else
    let nextFreeFrameSlot := u64 (s.pacing.curEpochs + 1)
    if frameCountTai ≤ nextFreeFrameSlot then
      let onward := nextFreeFrameSlot - frameCountTai
      if onward > s.cfg.maxOnwardEpochs.toNat then
        -- too far ahead of real time: start again from there
        ({ s with stats := { s.stats with epochOnward := s.stats.epochOnward + onward } },
          frameCountTai)
      else
        (s, nextFreeFrameSlot)
    else
      ({ s with stats := { s.stats with
        epochDrop := s.stats.epochDrop + (frameCountTai - nextFreeFrameSlot) } }, frameCountTai)

/-- A packet of an ST 2110-22 session in packet mode does not tell its field. -/
def TvPacingConfig.fieldParityKnown : Bool :=
  !(cfg.isSt22 && !cfg.hasSt22Info)

def fieldParity (secondField : Bool) : Nat := if secondField then 1 else 0

/-- `tv_sync_pacing` -/
def tvSyncPacing (curTai curTsc requiredTai : Nat) (secondField : Bool) : TvPacer :=
  let (s, counted) := calcFrameCountSinceEpoch s curTai requiredTai
  let exactUserPacing := s.cfg.exactUserPacing && decide (requiredTai ≠ 0)
  let curEpochs :=
    if s.cfg.interlaced && !exactUserPacing && s.cfg.fieldParityKnown &&
        decide (counted % 2 ≠ fieldParity secondField) then
      u64 (counted + 1)
    else
      counted
  let startTimeTai :=
    if exactUserPacing then requiredTai else transmissionStartTime s.cfg curEpochs
  let startTimeTai :=
    if !exactUserPacing && !(s.cfg.userTimestamp || s.cfg.rtpTimestampEpoch) &&
        decide (s.cfg.rtpTimestampDeltaUs = 0) then
      stTaiRoundToMediaClkNs startTimeTai s.cfg.fpsTm.samplingClockRate
    else
      startTimeTai
  let timeToTxNs := startTimeTai - curTai
  let cursor := if timeToTxNs > uint64Max - curTsc then uint64Max else curTsc + timeToTxNs
  { s with pacing :=
    { s.pacing with
      curEpochs := curEpochs
      tscTimeCursor := cursor
      tscTimeFrameStart := cursor
      ptpTimeCursor := startTimeTai } }

/-- `tv_update_rtp_time_stamp` -/
def tvUpdateRtpTimeStamp (tfmt : St10TimestampFmt) (timestamp : Nat) : TvPacer × Nat :=
  let deltaNs := word 64 (s.cfg.rtpTimestampDeltaUs * 1000)
  let taiBase :=
    if s.cfg.userTimestamp then
      if tfmt = .mediaClk then s.cfg.st10MediaClkToTai s.pacing.ptpTimeCursor (u32 timestamp)
      else timestamp
    else if s.cfg.rtpTimestampEpoch then taiFromFrameCount s.cfg s.pacing.curEpochs
    else s.pacing.ptpTimeCursor
  let taiForRtpTs := u64 (taiBase + deltaNs)
  ({ s with pacing := { s.pacing with
      rtpTimeStamp := st10TaiToMediaClk taiForRtpTs s.cfg.fpsTm.samplingClockRate } }, taiForRtpTs)

/-- The pacing of a frame in `tv_tasklet_frame`.  Packet mode counts frames the same way, without a
demand. -/
def tvPaceFrame (input : TvFrameInput) : TvPacer :=
  let (s, requiredTai) :=
    tvPacingRequiredTai s input.checkTime.toNat input.tfmt input.timestamp.toNat
  let s := tvSyncPacing s input.ptpTime.toNat input.tsc.toNat requiredTai input.secondField
  let (s, _) := tvUpdateRtpTimeStamp s input.tfmt input.timestamp.toNat
  { s with paced := s.paced ++
    [{ clock := stTaiToEpoch input.ptpTime.toNat s.cfg.fpsTm
       secondField := input.secondField
       count := s.pacing.curEpochs }] }

/-- A session after `tv_attach` at a time of the clock. -/
def tvPacerInit (ptpTime : BitVec 64) : TvPacer :=
  tvResetPacingEpoch
    { cfg := cfg
      pacing :=
        { curEpochs := 0, rtpTimeStamp := 0, tscTimeCursor := 0, ptpTimeCursor := 0
          tscTimeFrameStart := 0 }
      stats := ⟨0, 0, 0⟩
      paced := [] } ptpTime.toNat

end MediaTransport.Video
