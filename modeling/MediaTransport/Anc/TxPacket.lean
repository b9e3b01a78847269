import MediaTransport.Anc.Codec
import MediaTransport.Util.MediaClock
import MediaTransport.Util.Session

namespace MediaTransport.Anc

open Library

/-!
# Packets of the ancillary transmit session

A frame level session packs the entries of a frame into packets; in packet
mode the application builds the packets and the session rewrites their
headers.  A packet is one buffer, or a header buffer chained to one for the
rest.
-/

/-! ## Data -/

inductive St40TxType where
  | frameLevel
  | rtpLevel
  deriving DecidableEq, Repr

/-- The part of `struct st40_tx_ops` that the session reads; the flags are those of
`ST40_TX_FLAG`. -/
structure St40TxOps where
  type : St40TxType
  numPort : Nat
  interlaced : Bool
  fastMetadata : Bool
  splitAncByPkt : Bool
  userPacing : Bool
  exactUserPacing : Bool
  userTimestamp : Bool
  fmdDit : Nat
  fmdKBit : Nat

inductive St10TimestampFmt where
  | tai
  | mediaClk
  deriving DecidableEq, Repr

/-- `struct st40_tx_frame_meta` without the frame rate. -/
structure St40TxFrameMeta where
  tfmt : St10TimestampFmt
  timestamp : Nat
  epoch : Nat
  secondField : Bool
  rtpTimestamp : Nat
  deriving DecidableEq

/-- `struct st40_frame`: the first `meta_num` entries, and the memory behind `data`. -/
structure St40Frame where
  metas : List St40Meta
  data : Nat -> Byte
  dataSize : Nat

/-- `struct st_frame_trans` -/
structure FrameTrans where
  refcnt : Nat
  tcMeta : St40TxFrameMeta
  addr : St40Frame

inductive St40TxFrameStatus where
  | waitFrame
  | sendingPkts
  deriving DecidableEq, Repr

/-- `struct st_rfc3550_rtp_hdr`; the other fields are constant. -/
structure RtpBase where
  payloadType : Nat
  marker : Bool
  seqNumber : Nat
  tmstamp : Nat
  ssrc : Nat
  deriving DecidableEq

/-- `struct st40_rfc8331_rtp_hdr` and the payload behind it. -/
structure AncRtp where
  base : RtpBase
  seqNumberExt : Nat
  length : Nat
  ancCount : Nat
  f : Nat
  payload : List Byte
  deriving DecidableEq

/-- `struct st40_fmd_rtp_hdr` and the padded data item; an empty frame has neither. -/
structure FmdRtp where
  base : RtpBase
  fmdHdrChunk : Option Nat
  payload : List Byte
  deriving DecidableEq

/-- The part of a packet from the RTP header on; `raw` is a packet of the application, the memory
from its header on and its length. -/
inductive TxRtp where
  | anc (rtp : AncRtp)
  | fmd (rtp : FmdRtp)
  | raw (memory : Nat -> Byte) (len : Nat)

/-- A packet as it leaves: the Ethernet, IP and UDP headers, and the rest. -/
structure TxPkt where
  net : List Byte
  rtp : TxRtp

def RtpBase.bytes (base : RtpBase) : List Byte :=
  [0x80, BitVec.ofNat 8 ((if base.marker then 128 else 0) + base.payloadType)] ++
    be16 base.seqNumber ++ be32 base.tmstamp ++ be32 base.ssrc

/-- The header chunk is swapped to network order when the packet is done. -/
def AncRtp.bytes (rtp : AncRtp) : List Byte :=
  rtp.base.bytes ++ be16 rtp.seqNumberExt ++ be16 rtp.length ++
    be32 (rtp.ancCount * 16777216 + rtp.f * 4194304) ++ rtp.payload

def FmdRtp.bytes (rtp : FmdRtp) : List Byte :=
  rtp.base.bytes ++ (rtp.fmdHdrChunk.map be32).getD [] ++ rtp.payload

def TxRtp.bytes : TxRtp -> List Byte
  | .anc rtp => rtp.bytes
  | .fmd rtp => rtp.bytes
  | .raw memory len => (List.range len).map memory

def TxPkt.bytes (pkt : TxPkt) : List Byte := pkt.net ++ pkt.rtp.bytes

/-- The values of `stat_build_ret_code`. -/
inductive TxAncRet where
  | ringFull
  | inflightEnqueueFail
  | inflightREnqueueFail
  | appGetFrameBusy
  | appErrTxFrame
  | targetTscNotReach
  | pktAllocFail
  | ancTooLarge
  | pktEnqueueFail
  | pktREnqueueFail
  | rtpPktAllocFail
  | errno (code : Errno)
  deriving DecidableEq, Repr

structure TxPortStats where
  packets : Nat
  bytes : Nat
  frames : Nat
  build : Nat
  deriving DecidableEq

/-- `struct st40_tx_user_stats` -/
structure TxAncStats where
  port : MtlSessionPort -> TxPortStats
  epochDrop : Nat
  epochOnward : Nat
  epochMismatch : Nat
  errorUserTimestamp : Nat
  interlaceFirstField : Nat
  interlaceSecondField : Nat

variable (stats : TxAncStats) (memory : Nat -> Byte) (port : MtlSessionPort)

/-- What does not change after the session is attached.  The functions stand for `rte_ipv4_cksum`
and for the floating point in `st10_media_clk_to_tai`; the two limits are one second in frame
periods. -/
structure TxAncConfig where
  ops : St40TxOps
  hdr : MtlSessionPort -> List Byte
  payloadType : Nat
  ssrc : Nat
  cksumOffload : MtlSessionPort -> Bool
  rteIpv4Cksum : List Byte -> Nat
  txNoChain : Bool
  fps : FpsTiming
  maxOnwardEpochs : Nat
  maxFutureEpochs : Nat
  st10MediaClkToTai : Nat -> Nat -> Nat

/-- `struct st_tx_ancillary_session_pacing`, with the cursors in whole nanoseconds. -/
structure TxAncPacing where
  curEpochs : Nat
  rtpTimeStamp : Nat
  ptpTimeCursor : Nat
  tscTimeCursor : Nat

/-- What an observer sees of the work on frames.  `done` is the call of `notify_frame_done`, with
the code the session holds at that time. -/
inductive TxAncEvent where
  | handed (idx : Nat) (frame : St40Frame)
  | synced
  | built (rtp : TxRtp)
  | done (idx : Nat) (tcMeta : St40TxFrameMeta) (code : Option TxAncRet)

/-- `struct st_tx_ancillary_session_impl`.  `wire` are the packets the queues have taken, oldest
first; `events` is what happened so far, newest first. -/
structure TxAncSession where
  cfg : TxAncConfig
  secondField : Bool
  inflight : MtlSessionPort -> Option TxPkt
  inflightCnt : MtlSessionPort -> Nat
  frames : Nat -> FrameTrans
  frameIdx : Nat
  frameStat : St40TxFrameStatus
  pacing : TxAncPacing
  calculateTimeCursor : Bool
  seqId : Nat
  extSeqId : Nat
  totalPkts : Nat
  pktIdx : Nat
  ancIdx : Nat
  rtpTime : Nat
  buildRetCode : Option TxAncRet
  stats : TxAncStats
  wire : MtlSessionPort -> List TxPkt
  events : List TxAncEvent

/-- `ST_PKT_MAX_ETHER_BYTES` -/
def stPktMaxEtherBytes : Nat := 1494

/-- `max_pkt_len`, which depends on the header behind which the data stand. -/
def TxAncConfig.maxPktLen (cfg : TxAncConfig) : Nat :=
  stPktMaxEtherBytes - (if cfg.ops.fastMetadata then 58 else 62)

/-- The room of a buffer that holds a whole packet, and of one chained to a header. -/
def hdrRoomSize : Nat := stPktMaxEtherBytes

def chainRoomSize : Nat := stPktMaxEtherBytes - 42

/-- The surroundings of one call of the tasklet: what the queues, the pools, the application and
the clocks answer.  `mbuf` is what a new buffer holds, and `cursorAfter` stands for the floating
point addition of a packet's share of the frame time. -/
structure TxAncEnv where
  ringFull : Bool
  takesInflight : MtlSessionPort -> Bool
  takes : MtlSessionPort -> Bool
  getNextFrame : St40TxFrameMeta -> Option (Nat × St40TxFrameMeta × St40Frame)
  requiredTaiNow : Nat
  ptpTime : Nat
  syncTsc : Nat
  curTsc : Nat
  schScheduleNs : Nat
  allocPkt : Bool
  allocChain : Bool
  allocRedundant : Bool
  mbuf : Nat -> Byte
  cursorAfter : Nat -> Nat -> Nat

variable (cfg : TxAncConfig) (env : TxAncEnv) (s : TxAncSession)

inductive TaskletRet where
  | allDone
  | hasPending
  deriving DecidableEq, Repr

/-! ## Sequence numbers -/

variable (mbuf : Nat -> Byte)

/-- `tx_ancillary_seq_advance` by one. -/
def txAncillarySeqAdvance : TxAncSession :=
  if s.seqId + 1 > 65535 then
    { s with seqId := s.seqId + 1 - 65536, extSeqId := (s.extSeqId + 1) % 65536 }
  else
    { s with seqId := s.seqId + 1 }

/-- The base header of the next packet, after `tx_ancillary_set_base_seq`. -/
def TxAncSession.rtpBase : RtpBase where
  payloadType := s.cfg.payloadType
  marker := false
  seqNumber := s.seqId
  tmstamp := s.pacing.rtpTimeStamp
  ssrc := s.cfg.ssrc

/-! ## Packets of a frame -/

/-- The loop over the entries from `anc_idx` on.  The result counts the entries in the packet. -/
def ancPackEntries (splitPayload : Bool) (maxPktLen : Nat) (data mbuf : Nat -> Byte) :
    List St40Meta -> (count : Nat) -> (payload : List Byte) -> Except TxAncRet (Nat × List Byte)
  | [], count, payload => .ok (count, payload)
  | entry :: rest, count, payload =>
    let used := payload.length
    if !splitPayload && decide (used + st40Rfc8331PayloadBytes entry.udwSize.toNat > maxPktLen) then
      .ok (count, payload)
    else if used ≥ maxPktLen then
      .error .ancTooLarge
    else
      match st40Rfc8331EncodePacket (fun position => mbuf (used + position)) (maxPktLen - used) entry
          (fun position => data (entry.udwOffset.toNat + position)) with
      | .error .nospc => .error .ancTooLarge
      | .error code => .error (.errno code)
      | .ok (buf, written) =>
        let payload := payload ++ (List.range written).map buf
        if splitPayload then
          .ok (count + 1, payload)
        else
          ancPackEntries splitPayload maxPktLen data mbuf rest (count + 1) payload

def TxAncSession.fieldBits : Nat :=
  if s.cfg.ops.interlaced then
    if (s.frames s.frameIdx).tcMeta.secondField then 3 else 2
  else
    0

/-- The RTP packet with the next entries of the frame, and the index behind them.  The sequence
number is used up before the entries are packed. -/
def ancBuildRtp (ancIdx : Nat) : TxAncSession × Except TxAncRet (Nat × AncRtp) :=
  let base := s.rtpBase
  let seqNumberExt := s.extSeqId
  let s := txAncillarySeqAdvance s
  let src := (s.frames s.frameIdx).addr
  match ancPackEntries s.cfg.ops.splitAncByPkt s.cfg.maxPktLen src.data mbuf (src.metas.drop ancIdx)
      0 [] with
  | .error code => ({ s with buildRetCode := some code }, .error code)
  | .ok (count, payload) =>
    let idx := ancIdx + count
    let lastPkt :=
      if s.totalPkts > 0 then decide (s.pktIdx = s.totalPkts - 1)
      else decide (idx = src.metas.length)
    let rtp : AncRtp :=
      { base := { base with marker := lastPkt }
        seqNumberExt := seqNumberExt
        length := u16 payload.length
        ancCount := u8 count
        f := s.fieldBits
        payload := payload }
    (s, .ok (idx, rtp))

/-- `RTE_ALIGN_CEIL` to words. -/
def alignWord (size : Nat) : Nat := (size + 3) / 4 * 4

/-- `tx_ancillary_session_build_fmd` in a buffer with this room, at an offset of it. -/
def txAncillarySessionBuildFmd (room offset : Nat) : TxAncSession × Except TxAncRet FmdRtp :=
  let src := (s.frames s.frameIdx).addr
  let paddedSize := alignWord src.dataSize
  let rtpLen := if src.dataSize > 0 then 16 + paddedSize else 12
  if src.dataSize > s.cfg.maxPktLen then
    ({ s with buildRetCode := some .ancTooLarge }, .error .ancTooLarge)
  else if room < offset + rtpLen then
    (s, .error (.errno .nospc))
  else
    let base := s.rtpBase
    let s := txAncillarySeqAdvance s
    if src.dataSize = 0 then
      (s, .ok { base := base, fmdHdrChunk := none, payload := [] })
    else
      let chunk := s.cfg.ops.fmdDit % 4194304 * 1024 + s.cfg.ops.fmdKBit % 2 * 512 +
        paddedSize / 4 % 512
      let payload := (List.range src.dataSize).map src.data ++
        List.replicate (paddedSize - src.dataSize) 0
      (s, .ok { base := base, fmdHdrChunk := some chunk, payload := payload })

/-- `tx_ancillary_session_build_rtp_packet` -/
def txAncillarySessionBuildRtpPacket (ancIdx : Nat) : TxAncSession × Except TxAncRet (Nat × TxRtp) :=
  if s.cfg.ops.fastMetadata then
    match txAncillarySessionBuildFmd s chainRoomSize 0 with
    | (s, .error code) => (s, .error code)
    | (s, .ok rtp) => (s, .ok (0, .fmd rtp))
  else
    match ancBuildRtp s mbuf ancIdx with
    | (s, .error code) => (s, .error code)
    | (s, .ok (idx, rtp)) => (s, .ok (idx, .anc rtp))

/-! ## Network headers -/

/-- `htons` into a header. -/
def patchBe16 (bytes : List Byte) (position value : Nat) : List Byte :=
  (bytes.set position (BitVec.ofNat 8 (value / 256))).set (position + 1) (BitVec.ofNat 8 value)

def TxAncConfig.withCksum (port : MtlSessionPort) (net : List Byte) : List Byte :=
  if cfg.cksumOffload port then net
  else patchBe16 net 24 (cfg.rteIpv4Cksum ((net.drop 14).take 20))

/-- The headers of a port for a packet whose RTP part has this length. -/
def TxAncConfig.netHdr (port : MtlSessionPort) (rtpLen : Nat) : List Byte :=
  let net := patchBe16 (cfg.hdr port) 38 (8 + rtpLen)
  let net := patchBe16 net 16 (28 + rtpLen)
  cfg.withCksum port net

/-- `tx_ancillary_session_update_redundant` -/
def txAncillarySessionUpdateRedundant (pkt : TxPkt) : TxPkt :=
  let net := patchBe16 (cfg.hdr .r) 16 (28 + pkt.rtp.bytes.length)
  let net := patchBe16 net 38 (8 + pkt.rtp.bytes.length)
  { pkt with net := cfg.withCksum .r net }

/-- `tx_ancillary_session_build_packet` in a buffer for whole packets. -/
def txAncillarySessionBuildPacket : TxAncSession × Except TxAncRet (Nat × TxPkt) :=
  if s.cfg.ops.fastMetadata then
    match txAncillarySessionBuildFmd s hdrRoomSize 42 with
    | (s, .error code) => (s, .error code)
    | (s, .ok rtp) => (s, .ok (0, { net := s.cfg.netHdr .p rtp.bytes.length, rtp := .fmd rtp }))
  else
    match ancBuildRtp s mbuf s.ancIdx with
    | (s, .error code) => (s, .error code)
    | (s, .ok (idx, rtp)) =>
      (s, .ok (idx, { net := s.cfg.netHdr .p rtp.bytes.length, rtp := .anc rtp }))

/-! ## Pacing -/

def TxAncStats.countUserTimestamp : TxAncStats :=
  { stats with errorUserTimestamp := stats.errorUserTimestamp + 1 }

/-- `tx_ancillary_pacing_required_tai` -/
def txAncillaryPacingRequiredTai (now : Nat) (tcMeta : St40TxFrameMeta) : TxAncSession × Nat :=
  let wrong := { s with stats := s.stats.countUserTimestamp }
  if !s.cfg.ops.userPacing then
    (s, 0)
  else if tcMeta.timestamp = 0 then
    (if s.cfg.ops.exactUserPacing then wrong else s, 0)
  else if tcMeta.tfmt = .mediaClk then
    (wrong, 0)
  else if s.cfg.ops.exactUserPacing ∧
      (tcMeta.timestamp < now ∨ tcMeta.timestamp - now > nsPerS) then
    (wrong, 0)
  else
    (s, tcMeta.timestamp)

/-- `tx_ancillary_validate_user_timestamp` -/
def txAncillaryValidateUserTimestamp (requested current maxFuture : Nat) : TxAncSession :=
  if requested < current ∨ requested - current > maxFuture then
    { s with stats := s.stats.countUserTimestamp }
  else
    s

/-- `tx_ancillary_calc_epoch` -/
def txAncillaryCalcEpoch (curTai requiredTai : Nat) : TxAncSession × Nat :=
  let currentEpoch := stTaiToEpoch curTai s.cfg.fps
  if requiredTai ≠ 0 then
    let epoch := stTaiToNearestEpoch requiredTai s.cfg.fps
    let s :=
      if s.cfg.ops.exactUserPacing then
        txAncillaryValidateUserTimestamp s requiredTai curTai nsPerS
      else
        txAncillaryValidateUserTimestamp s epoch currentEpoch s.cfg.maxFutureEpochs
    (s, if epoch = 0 then currentEpoch else epoch)
  else if s.pacing.curEpochs = uint64Max then
    (s, currentEpoch)
  else
    let nextFreeEpoch := s.pacing.curEpochs + 1
    if currentEpoch ≤ nextFreeEpoch then
      let onward := nextFreeEpoch - currentEpoch
      if onward > s.cfg.maxOnwardEpochs then
        -- too far ahead of real time: start again from there
        ({ s with stats := { s.stats with epochOnward := s.stats.epochOnward + onward } }, currentEpoch)
      else
        (s, nextFreeEpoch)
    else
      ({ s with stats := { s.stats with
        epochDrop := s.stats.epochDrop + (currentEpoch - nextFreeEpoch) } }, currentEpoch)

/-- The start of a frame: what the application asked for, or the time of the epoch on a tick of the
media clock. -/
def TxAncConfig.startTimeTai (cfg : TxAncConfig) (epoch requiredTai : Nat) : Nat :=
  let exactUserPacing := cfg.ops.exactUserPacing && decide (requiredTai ≠ 0)
  let startTimeTai := if exactUserPacing then requiredTai else stEpochToTai epoch cfg.fps
  if !exactUserPacing && !cfg.ops.userTimestamp then
    stTaiRoundToMediaClkNs startTimeTai cfg.fps.samplingClockRate
  else
    startTimeTai

/-- `tx_ancillary_session_sync_pacing` -/
def txAncillarySessionSyncPacing (curTai curTsc requiredTai : Nat) : TxAncSession :=
  let (s, epoch) := txAncillaryCalcEpoch s curTai requiredTai
  let startTimeTai := s.cfg.startTimeTai epoch requiredTai
  let stats :=
    if startTimeTai < curTai then { s.stats with epochMismatch := s.stats.epochMismatch + 1 }
    else s.stats
  let timeToTxNs := startTimeTai - curTai
  { s with
    stats := stats
    pacing := { s.pacing with
      curEpochs := epoch
      ptpTimeCursor := startTimeTai
      tscTimeCursor := if timeToTxNs > uint64Max - curTsc then uint64Max else curTsc + timeToTxNs } }

/-- `tx_ancillary_update_rtp_time_stamp`, with the instant from which the timestamp derives. -/
def txAncillaryUpdateRtpTimeStamp (tfmt : St10TimestampFmt) (timestamp : Nat) : TxAncSession × Nat :=
  let taiForRtpTs :=
    if s.cfg.ops.userTimestamp then
      match tfmt with
      | .mediaClk => s.cfg.st10MediaClkToTai s.pacing.ptpTimeCursor (timestamp % 4294967296)
      | .tai => timestamp
    else
      s.pacing.ptpTimeCursor
  ({ s with pacing := { s.pacing with
      rtpTimeStamp := st10TaiToMediaClk taiForRtpTs s.cfg.fps.samplingClockRate } }, taiForRtpTs)

def TxAncStats.countField (secondField : Bool) : TxAncStats :=
  if secondField then { stats with interlaceSecondField := stats.interlaceSecondField + 1 }
  else { stats with interlaceFirstField := stats.interlaceFirstField + 1 }

def TxAncStats.setPort (values : TxPortStats) : TxAncStats :=
  { stats with port := Function.update stats.port port values }

def TxAncStats.countFrame : TxAncStats :=
  stats.setPort port { stats.port port with frames := (stats.port port).frames + 1 }

def TxAncStats.countBuild (pktLen : Nat) : TxAncStats :=
  let values := stats.port port
  stats.setPort port
    { values with build := values.build + 1, packets := values.packets + 1, bytes := values.bytes + pktLen }

/-! ## Packets of the application -/

def rtpTmstamp : Nat := (loadBe32 memory 4).toNat

def setRtpTmstamp (tmstamp : Nat) : Nat -> Byte :=
  storeBe32 memory 4 (BitVec.ofNat 32 tmstamp)

/-- `st40_rfc8331_rtp_hdr_bswap`: the four bytes of the header chunk are reversed. -/
def st40Rfc8331RtpHdrBswap : Nat -> Byte :=
  fun position =>
    if 16 ≤ position ∧ position < 20 then memory (35 - position) else memory position

/-- `first_hdr_chunk.f == 0b11`, in host order. -/
def isSecondField : Bool := decide ((memory 18).toNat / 64 = 3)

def TxAncConfig.rfc8331Interlaced : Bool :=
  cfg.ops.interlaced && !cfg.ops.fastMetadata

def txAncStartRtpFrame (memory : Nat -> Byte) : TxAncSession :=
  let s := txAncillarySessionSyncPacing s env.ptpTime env.syncTsc 0
  (txAncillaryUpdateRtpTimeStamp s .mediaClk (rtpTmstamp memory)).1

/-- `tx_ancillary_session_rtp_update_packet` on the RTP part of the buffer. -/
def txAncillarySessionRtpUpdatePacket (memory : Nat -> Byte) (len : Nat) : TxAncSession × TxPkt :=
  let (s, memory) :=
    if rtpTmstamp memory ≠ s.rtpTime then
      let stats := s.stats.countFrame .p
      let stats := if s.cfg.ops.numPort > 1 then stats.countFrame .r else stats
      let stats :=
        if s.cfg.rfc8331Interlaced then stats.countField (isSecondField memory) else stats
      let started := txAncStartRtpFrame env
        { s with pktIdx := 0, ancIdx := 0, rtpTime := rtpTmstamp memory, stats := stats } memory
      (started, if s.cfg.rfc8331Interlaced then st40Rfc8331RtpHdrBswap memory else memory)
    else
      (s, memory)
  (s, { net := s.cfg.netHdr .p len, rtp := .raw (setRtpTmstamp memory s.pacing.rtpTimeStamp) len })

/-- The part of `tx_ancillary_session_build_packet_chain` for packets of the application.  The
field is read behind the headers in the new buffer, not in the packet. -/
def txAncChainRtp (memory : Nat -> Byte) : TxAncSession × (Nat -> Byte) :=
  let s :=
    if rtpTmstamp memory ≠ s.rtpTime then
      let stats := s.stats.countFrame .p
      let stats :=
        if s.cfg.rfc8331Interlaced then
          stats.countField (isSecondField (fun position => env.mbuf (42 + position)))
        else
          stats
      txAncStartRtpFrame env
        { s with pktIdx := 0, ancIdx := 0, rtpTime := rtpTmstamp memory, stats := stats } memory
    else
      s
  let memory := setRtpTmstamp memory s.pacing.rtpTimeStamp
  (s, if s.cfg.ops.fastMetadata then memory else st40Rfc8331RtpHdrBswap memory)

/-- `tx_ancillary_session_build_packet_chain` -/
def txAncillarySessionBuildPacketChain (rtp : TxRtp) (port : MtlSessionPort) : TxAncSession × TxPkt :=
  match port, s.cfg.ops.type, rtp with
  | .p, .rtpLevel, .raw memory len =>
    let (s, memory) := txAncChainRtp env s memory
    (s, { net := s.cfg.netHdr .p len, rtp := .raw memory len })
  | _, _, _ => (s, { net := s.cfg.netHdr port rtp.bytes.length, rtp := rtp })

end MediaTransport.Anc
