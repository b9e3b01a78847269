import MediaTransport.Anc.TxPacket
import MediaTransport.Audio.Format

namespace MediaTransport.Audio

open Library
open Anc (RtpBase St10TimestampFmt TaskletRet TxPortStats patchBe16)

/-!
# Packets and pacing of the audio transmit session

A packet carries the next `pkt_len` bytes of a frame.  Every packet has an
epoch of its own, one packet time after the epoch of the packet before, and
its timestamp is taken from the time of that epoch.
-/

/-! ## Data -/

/-- The part of `struct st30_tx_ops` that the session reads; the flags are those of
`ST30_TX_FLAG`. -/
structure St30TxOps where
  numPort : Nat
  fmt : St30Fmt
  channel : Nat
  sampling : St30Sampling
  ptime : St30Ptime
  framebuffSize : Nat
  userPacing : Bool
  userTimestamp : Bool
  rtpTimestampDeltaUs : Int
  deriving DecidableEq

/-- `struct st30_tx_frame_meta` without the format of the session. -/
structure St30TxFrameMeta where
  tfmt : St10TimestampFmt
  timestamp : Nat
  epoch : Nat
  rtpTimestamp : Nat
  deriving DecidableEq

/-- `struct st_frame_trans` -/
structure TxAudioFrame where
  refcnt : Nat
  taMeta : St30TxFrameMeta
  addr : Nat -> Byte

inductive St30TxFrameStatus where
  | waitFrame
  | sendingPkts
  deriving DecidableEq, Repr

/-- `struct st_rfc3550_rtp_hdr` and the payload behind it. -/
structure AudioRtp where
  base : RtpBase
  payload : List Byte
  deriving DecidableEq

/-- A packet as it leaves: the Ethernet, IP and UDP headers, and the rest. -/
structure TxAudioPkt where
  net : List Byte
  rtp : AudioRtp

def AudioRtp.bytes (rtp : AudioRtp) : List Byte := rtp.base.bytes ++ rtp.payload

def TxAudioPkt.bytes (pkt : TxAudioPkt) : List Byte := pkt.net ++ pkt.rtp.bytes

/-- The values of `stat_build_ret_code`. -/
inductive TxAudioRet where
  | ringFull
  | inflightEnqueueFail
  | inflightREnqueueFail
  | appGetFrameBusy
  | appErrTxFrame
  | targetTscNotReach
  | pktAllocFail
  | pktEnqueueFail
  | pktREnqueueFail
  deriving DecidableEq, Repr

/-- `struct st30_tx_user_stats` -/
structure TxAudioStats where
  port : MtlSessionPort -> TxPortStats
  epochLate : Nat
  epochDrop : Nat
  epochOnward : Nat
  epochMismatch : Nat
  errorUserTimestamp : Nat

/-- The bytes of the packet headers, `sizeof(struct st_rfc3550_audio_hdr)`. -/
def audioHdrLen : Nat := 54

/-- What does not change after `tx_audio_session_attach`, which refuses other formats and sizes.
The functions stand for `rte_ipv4_cksum` and for the floating point of the session: the cursor and
the timestamp of a demand of the application, the ticks of `rtp_timestamp_delta_us`, the cursor of the
next packet and `st10_media_clk_to_tai`.  The two limits are a second and its hundredth part in
packet times. -/
structure TxAudioConfig where
  ops : St30TxOps
  hdr : MtlSessionPort -> List Byte
  payloadType : Nat
  ssrc : Nat
  cksumOffload : MtlSessionPort -> Bool
  rteIpv4Cksum : List Byte -> Nat
  txNoChain : Bool
  pacingInBuild : Bool
  sampleNum : Nat
  pktLen : Nat
  maxOnwardEpochs : BitVec 32
  maxLateEpochs : BitVec 32
  cursorAfterTai : Nat -> Nat
  timeStampOfTai : Nat -> Nat
  deltaTicks : Nat
  cursorAfterPkt : Nat -> Nat
  st10MediaClkToTai : Nat -> Nat -> Nat
  sampled : st30GetSampleNum ops.ptime ops.sampling = .ok sampleNum
  packed : st30GetPacketSize ops.fmt ops.ptime ops.sampling ops.channel = .ok pktLen
  fits : pktLen ≤ Anc.stPktMaxEtherBytes - audioHdrLen
  framed : 0 < ops.framebuffSize
  sized : ops.framebuffSize < 4294967296
  whole : ops.framebuffSize % pktLen = 0

/-- `st30_total_pkts` -/
def TxAudioConfig.totalPkts (cfg : TxAudioConfig) : Nat := cfg.ops.framebuffSize / cfg.pktLen

def TxAudioConfig.fps (cfg : TxAudioConfig) : FpsTiming where
  mul := st30GetSampleRate cfg.ops.sampling
  den := cfg.sampleNum
  samplingClockRate := st30GetSampleRate cfg.ops.sampling

/-- `struct st_tx_audio_session_pacing`, with the cursors in whole nanoseconds. -/
structure TxAudioPacing where
  curEpochs : Nat
  rtpTimeStamp : Nat
  ptpTimeCursor : Nat
  tscTimeCursor : Nat

/-- What an observer sees of the work on frames.  `synced` is a synchronisation of the pacing, with
the reading of the clock and the epoch it led to; `done` is the call of `notify_frame_done`. -/
inductive TxAudioEvent where
  | handed (idx : Nat) (frame : Nat -> Byte)
  | synced (ptpTime : BitVec 64) (epoch : Nat)
  | built (rtp : AudioRtp)
  | done (idx : Nat) (taMeta : St30TxFrameMeta)

/-- `struct st_tx_audio_session_impl`.  `wire` are the packets the rings have taken, oldest first;
`events` is what happened so far, newest first. -/
structure TxAudioSession where
  cfg : TxAudioConfig
  inflight : MtlSessionPort -> Option TxAudioPkt
  inflightCnt : MtlSessionPort -> Nat
  frames : Nat -> TxAudioFrame
  frameIdx : Nat
  frameStat : St30TxFrameStatus
  pacing : TxAudioPacing
  calculateTimeCursor : Bool
  pktIdx : Nat
  seqId : Nat
  buildRetCode : Option TxAudioRet
  stats : TxAudioStats
  wire : MtlSessionPort -> List TxAudioPkt
  events : List TxAudioEvent

variable (cfg : TxAudioConfig) (s : TxAudioSession)

/-- The surroundings of one call of the tasklet: what the rings, the pools, the application and the
clocks answer. -/
structure TxAudioEnv where
  ringFull : Bool
  takesInflight : MtlSessionPort -> Bool
  takes : MtlSessionPort -> Bool
  getNextFrame : St30TxFrameMeta -> Option (Nat × St30TxFrameMeta × (Nat -> Byte))
  ptpTime : BitVec 64
  syncTsc : Nat
  curTsc : Nat
  schScheduleNs : Nat
  allocPkt : Bool
  allocChain : Bool
  allocRedundant : Bool

theorem TxAudioConfig.totalPkts_mul : cfg.totalPkts * cfg.pktLen = cfg.ops.framebuffSize :=
  Nat.div_mul_cancel (Nat.dvd_of_mod_eq_zero cfg.whole)

theorem TxAudioConfig.totalPkts_pos : 0 < cfg.totalPkts := by
  apply Nat.pos_of_ne_zero
  intro none
  have covered := cfg.totalPkts_mul
  rw [none, Nat.zero_mul] at covered
  exact absurd covered (Nat.ne_of_lt cfg.framed)

/-! ## Packets of a frame -/

/-- The piece of a frame in the packet with this index; the offset is a word of 32 bits. -/
def TxAudioConfig.piece (frame : Nat -> Byte) (idx : Nat) : List Byte :=
  (List.range cfg.pktLen).map (fun position => frame (u32 (idx * cfg.pktLen : Nat) + position))

/-- `tx_audio_session_build_rtp_packet`; the sequence number is used up here. -/
def txAudioSessionBuildRtpPacket : TxAudioSession × AudioRtp :=
  let base : RtpBase :=
    { payloadType := s.cfg.payloadType
      marker := false
      seqNumber := s.seqId
      tmstamp := s.pacing.rtpTimeStamp
      ssrc := s.cfg.ssrc }
  ({ s with seqId := u16 (s.seqId + 1 : Nat) },
    { base := base, payload := s.cfg.piece (s.frames s.frameIdx).addr s.pktIdx })

def TxAudioConfig.withCksum (port : MtlSessionPort) (net : List Byte) : List Byte :=
  if cfg.cksumOffload port then net
  else patchBe16 net 24 (cfg.rteIpv4Cksum ((net.drop 14).take 20))

/-- The headers of a port for a packet whose RTP part has this length. -/
def TxAudioConfig.netHdr (port : MtlSessionPort) (rtpLen : Nat) : List Byte :=
  let net := patchBe16 (cfg.hdr port) 38 (8 + rtpLen)
  let net := patchBe16 net 16 (28 + rtpLen)
  cfg.withCksum port net

/-- `tx_audio_session_build_packet_chain` on a frame level session. -/
def txAudioSessionBuildPacketChain (rtp : AudioRtp) (port : MtlSessionPort) : TxAudioPkt where
  net := cfg.netHdr port rtp.bytes.length
  rtp := rtp

/-- `tx_audio_session_build_packet` -/
def txAudioSessionBuildPacket : TxAudioSession × TxAudioPkt :=
  let (s, rtp) := txAudioSessionBuildRtpPacket s
  (s, { net := s.cfg.netHdr .p rtp.bytes.length, rtp := rtp })

/-- `tx_audio_session_update_redundant` -/
def txAudioSessionUpdateRedundant (pkt : TxAudioPkt) : TxAudioPkt :=
  let net := patchBe16 (cfg.hdr .r) 16 (28 + pkt.rtp.bytes.length)
  let net := patchBe16 net 38 (8 + pkt.rtp.bytes.length)
  { pkt with net := cfg.withCksum .r net }

/-! ## Pacing -/

/-- `tx_audio_pacing_time` -/
def txAudioPacingTime (epochs : Nat) : Nat := stEpochToTai epochs cfg.fps

/-- `tx_audio_pacing_time_stamp` -/
def txAudioPacingTimeStamp (epochs : Nat) : Nat :=
  u64 (epochs * cfg.sampleNum) % 4294967296

/-- `tx_audio_session_init_next_meta` -/
def txAudioSessionInitNextMeta : St30TxFrameMeta :=
  let epoch := u64 (s.pacing.curEpochs + 1)
  { tfmt := .tai
    timestamp := txAudioPacingTime s.cfg epoch
    epoch := epoch
    rtpTimestamp := 0 }

/-- `tx_audio_pacing_required_tai` -/
def txAudioPacingRequiredTai (tfmt : St10TimestampFmt) (timestamp : Nat) : TxAudioSession × Nat :=
  if !s.cfg.ops.userPacing then
    (s, 0)
  else if timestamp = 0 then
    (s, 0)
  else if tfmt = .mediaClk then
    ({ s with stats := { s.stats with errorUserTimestamp := s.stats.errorUserTimestamp + 1 } }, 0)
  else
    (s, timestamp)

/-- The epoch of a packet: the next one in turn while the wanted one is close to it.  The flag says
that the next one was taken although the wanted one is later. -/
def txAudioNextEpoch (curEpochs epochs : Nat) : Nat × Bool :=
  let nextEpochs := u64 (curEpochs + 1)
  if epochs ≤ curEpochs then
    if curEpochs - epochs < cfg.maxOnwardEpochs.toNat then (nextEpochs, false) else (epochs, false)
  else if epochs > nextEpochs then
    if epochs - nextEpochs < cfg.maxLateEpochs.toNat then (nextEpochs, true) else (epochs, false)
  else
    (epochs, false)

/-- `tx_audio_session_sync_pacing`, called without the wait. -/
def txAudioSessionSyncPacing (ptpTime tsc requiredTai : Nat) : TxAudioSession :=
  let nextEpochs := u64 (s.pacing.curEpochs + 1)
  let ptpEpochs := stTaiToEpoch ptpTime s.cfg.fps
  let wanted := if requiredTai ≠ 0 then stTaiToNearestEpoch requiredTai s.cfg.fps else ptpEpochs
  let (epochs, late) := txAudioNextEpoch s.cfg s.pacing.curEpochs wanted
  let toEpoch :=
    if requiredTai ≠ 0 then int64 requiredTai - int64 ptpTime
    else int64 (txAudioPacingTime s.cfg epochs) - int64 ptpTime
  let passed := requiredTai ≠ 0 ∧ wanted < ptpEpochs
  let far := requiredTai ≠ 0 ∧ toEpoch > nsPerS
  let toEpoch : Int := if far then nsPerS else toEpoch
  let stats :=
    { s.stats with
      errorUserTimestamp :=
        s.stats.errorUserTimestamp + (if passed then 1 else 0) + (if far then 1 else 0)
      epochLate := s.stats.epochLate + (if late then 1 else 0)
      epochMismatch := s.stats.epochMismatch + (if toEpoch < 0 then 1 else 0)
      epochDrop := s.stats.epochDrop +
        (if epochs > nextEpochs ∧ requiredTai = 0 then epochs - nextEpochs else 0)
      epochOnward := s.stats.epochOnward +
        (if epochs < nextEpochs then nextEpochs - epochs else 0) }
  let stamp :=
    if requiredTai ≠ 0 then s.cfg.timeStampOfTai requiredTai % 4294967296
    else txAudioPacingTimeStamp s.cfg epochs
  let pacing : TxAudioPacing :=
    { curEpochs := epochs
      ptpTimeCursor :=
        if requiredTai ≠ 0 then s.cfg.cursorAfterTai requiredTai
        else txAudioPacingTime s.cfg epochs
      rtpTimeStamp :=
        if s.cfg.ops.rtpTimestampDeltaUs ≠ 0 then (stamp + s.cfg.deltaTicks) % 4294967296 else stamp
      tscTimeCursor := tsc + toEpoch.toNat }
  { s with stats := stats, pacing := pacing }

/-- `tx_audio_pacing_update_rtp_time_stamp` -/
def txAudioPacingUpdateRtpTimeStamp (tfmt : St10TimestampFmt) (timestamp requiredTai : Nat)
    : TxAudioSession × Nat :=
  let samplingRate := st30GetSampleRate s.cfg.ops.sampling
  let deltaNs := word 64 (s.cfg.ops.rtpTimestampDeltaUs * 1000)
  let taiBase :=
    if s.cfg.ops.userTimestamp then
      if tfmt = .mediaClk then s.cfg.st10MediaClkToTai s.pacing.ptpTimeCursor (u32 timestamp)
      else timestamp
    else if requiredTai ≠ 0 then requiredTai
    else s.pacing.ptpTimeCursor
  let taiForRtpTs := u64 (taiBase + deltaNs)
  ({ s with pacing := { s.pacing with
      rtpTimeStamp := st10TaiToMediaClk taiForRtpTs samplingRate } }, taiForRtpTs)

end MediaTransport.Audio
