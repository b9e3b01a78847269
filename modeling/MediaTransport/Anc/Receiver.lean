import MediaTransport.Anc.Codec
import MediaTransport.Util.Session

namespace MediaTransport.Anc

open Library

/-!
# The ancillary receive session

A session filters the packets of up to two redundant ports by sequence number
and timestamp, and hands the packets it accepts to a ring or, in frame level
mode, to an assembler with a pool of frame slots.  The application may return
frames while the assembler runs: in the callback, and between any two loads of
the search for a free slot.
-/

/-! ## Data -/

inductive St40Type where
  | frameLevel
  | rtpLevel
  deriving DecidableEq, Repr

/-- The part of `struct st40_rx_ops` that the handler reads. -/
structure St40RxOps where
  numPort : Nat
  payloadType : Nat
  ssrc : Nat
  fastMetadata : Bool
  interlaced : Bool
  type : St40Type

/-- The fields of a received packet.  `len` counts from the RTP header on; `payload` are the
bytes behind the ancillary header. -/
structure AncPkt where
  payloadType : Nat
  ssrc : Nat
  seqNumber : Nat
  tmstamp : Nat
  marker : Bool
  f : Nat
  ancCount : Nat
  len : Nat
  pktLen : Nat
  payload : Nat -> Byte
  recvTs : Nat

/-- `struct anc_window` -/
structure AncWindow where
  bitmap : BitVec 64
  tmstamp : Nat
  baseSeq : Nat
  valid : Bool
  deriving DecidableEq

inductive AncSlotState where
  | free
  | receiving
  | pending
  | ready
  | inUser
  deriving DecidableEq, Repr

/-- `struct st_rx_anc_frame_slot`.  The lists are the filled parts of `meta` and `udw_buf`. -/
structure AncSlot where
  state : AncSlotState
  rtpTimestamp : Nat
  udwBuf : List Byte
  metas : List St40Meta
  pktsTotal : Nat
  pktsRecv : MtlSessionPort -> Nat
  receiveTimestamp : Nat
  interlaced : Bool
  secondField : Bool
  rtpMarker : Bool
  seqBitmap : BitVec 64
  seqBase : Nat
  seqMaxOffset : Nat
  seqBaseValid : Bool
  portLastSeq : MtlSessionPort -> Int
  portSeqLost : MtlSessionPort -> Nat
  portSeqDiscont : MtlSessionPort -> Bool

variable (slot : AncSlot) (seqId : Nat)

inductive FrameStatus where
  | complete
  | corrupted
  deriving DecidableEq, Repr

/-- What `notify_frame_ready` is given: the user data and `struct st40_rx_frame_meta`. -/
structure AncFrame where
  udwBuf : List Byte
  metas : List St40Meta
  rtpTimestamp : Nat
  interlaced : Bool
  secondField : Bool
  rtpMarker : Bool
  timestampFirstPkt : Nat
  seqLost : Nat
  seqDiscont : Bool
  portSeqLost : MtlSessionPort -> Nat
  portSeqDiscont : MtlSessionPort -> Bool
  pktsRecv : MtlSessionPort -> Nat
  pktsTotal : Nat
  status : FrameStatus

/-- What the assembler does with slots, as an observer sees it. -/
inductive AncEvent where
  | allocated (slot : Nat) (tmstamp : Nat)
  | notified (slot : Nat) (frame : AncFrame)

structure AncPortStats where
  packets : Nat
  bytes : Nat
  frames : Nat
  lostPackets : Nat
  reorderedPackets : Nat
  duplicatesSamePort : Nat
  deriving DecidableEq

structure AncStats where
  port : MtlSessionPort -> AncPortStats
  wrongPtDropped : Nat
  wrongSsrcDropped : Nat
  wrongInterlaceDropped : Nat
  interlaceFirstField : Nat
  interlaceSecondField : Nat
  fieldBitMismatch : Nat
  lostPackets : Nat
  pktsReceived : Nat
  pktsRedundant : Nat
  pktsUnrecovered : Nat
  pktsEnqueueFail : Nat
  framesReceived : Nat
  assembleDispatched : Nat
  ancFramesReady : Nat
  ancFramesDropped : Nat
  ancPktParseErr : Nat

/-- `struct st_rx_ancillary_session_impl`.  Frame slots are named by their index. `events` is
what the assembler did so far, newest first. -/
structure RxAncSession where
  ops : St40RxOps
  interlaceAuto : Bool
  interlaceDetected : Bool
  interlaceInterlaced : Bool
  frameSlots : Nat -> AncSlot
  frameSlotsCnt : Nat
  udwBufSize : Nat
  ancInflightSlot : Option Nat
  ancPendingSlot : Option Nat
  sessionSeqId : Int
  latestSeqId : MtlSessionPort -> Int
  redundantErrorCnt : MtlSessionPort -> Nat
  ancWindowCur : AncWindow
  ancWindowPrev : AncWindow
  lastFBits : MtlSessionPort -> Nat
  lastFTmstamp : MtlSessionPort -> Nat
  tmstamp : Int
  prevTmstamp : Int
  stats : AncStats
  events : List AncEvent

/-- What the application does while it is told of a frame. -/
structure NotifyAnswer where
  refused : Bool
  puts : List Nat

/-- The surroundings of one packet: whether the ring takes it, the answers to the calls of
`notify_frame_ready` by their number, and the frames returned just before the load of a slot's
state in the first or the second search for a free slot. -/
structure AncEnv where
  ringTakes : Bool
  notify : Nat -> NotifyAnswer
  racing : Nat -> Nat -> List Nat

variable (env : AncEnv) (window : AncWindow) (s : RxAncSession)

variable (idx : Nat) (tmstamp : Nat) (pkt : AncPkt) (port : MtlSessionPort)

def RxAncSession.setSlot (slot : AncSlot) : RxAncSession :=
  { s with frameSlots := Function.update s.frameSlots idx slot }

def RxAncSession.setState (state : AncSlotState) : RxAncSession :=
  s.setSlot idx { s.frameSlots idx with state := state }

/-! ## Slots -/

/-- `st40_rx_put_framebuff` for the frame of a slot; other frames are refused. -/
def st40RxPutFramebuff : RxAncSession :=
  if idx < s.frameSlotsCnt then s.setState idx .free else s

def returnFrame : RxAncSession :=
  if idx < s.frameSlotsCnt ∧ (s.frameSlots idx).state = .inUser then st40RxPutFramebuff s idx else s

def putFramebuffs (frames : List Nat) : RxAncSession :=
  frames.foldl returnFrame s

/-- The loop of `rx_anc_get_free_slot` from slot `idx` on. -/
def rxAncScanSlots (racing : Nat -> List Nat) :
    RxAncSession -> (idx left : Nat) -> RxAncSession × Option Nat
  | s, _, 0 => (s, none)
  | s, idx, left + 1 =>
    let s := putFramebuffs s (racing idx)
    if (s.frameSlots idx).state = .free then
      (s, some idx)
    else
      rxAncScanSlots racing s (idx + 1) left

/-- `rx_anc_get_free_slot` -/
def rxAncGetFreeSlot (racing : Nat -> List Nat) (s : RxAncSession) : RxAncSession × Option Nat :=
  rxAncScanSlots racing s 0 s.frameSlotsCnt

/-- `rx_anc_slot_init_frame`, with the buffers the slot keeps. -/
def rxAncSlotInitFrame (interlaced secondField : Bool) (recvTs : Nat) : AncSlot where
  state := .receiving
  rtpTimestamp := tmstamp
  udwBuf := []
  metas := []
  pktsTotal := 0
  pktsRecv := fun _ => 0
  receiveTimestamp := recvTs
  interlaced := interlaced
  secondField := secondField
  rtpMarker := false
  seqBitmap := 0
  seqBase := 0
  seqMaxOffset := 0
  seqBaseValid := false
  portLastSeq := fun _ => -1
  portSeqLost := fun _ => 0
  portSeqDiscont := fun _ => false

/-- The cast of a difference of sequence numbers to `int16_t`. -/
def seqDelta (seqId base : Nat) : Int :=
  let diff : Int := u16 ((seqId : Int) - base)
  if diff < 32768 then diff else diff - 65536

/-- The frame's own bitmap in `rx_anc_slot_record_seq`. -/
def rxAncSlotRecordBitmap : AncSlot :=
  if !slot.seqBaseValid then
    { slot with seqBase := seqId, seqBaseValid := true, seqBitmap := 1, seqMaxOffset := 0 }
  else
    let delta := seqDelta seqId slot.seqBase
    if delta < 0 then
      let shift := (-delta).toNat
      if shift < 64 then
        { slot with
          seqBitmap := slot.seqBitmap <<< shift ||| 1
          seqBase := seqId
          seqMaxOffset := u16 (slot.seqMaxOffset + shift) }
      else
        slot
    else
      let offset := delta.toNat
      if offset < 64 then
        { slot with
          seqBitmap := slot.seqBitmap ||| ((1 : BitVec 64) <<< offset)
          seqMaxOffset := if offset > slot.seqMaxOffset then offset else slot.seqMaxOffset }
      else
        slot

/-- The port's gaps in `rx_anc_slot_record_seq`. -/
def rxAncSlotRecordPort (port : MtlSessionPort) : AncSlot :=
  let last := slot.portLastSeq port
  let expected := u16 (last + 1)
  let slot :=
    if last ≥ 0 ∧ expected ≠ seqId then
      { slot with
        portSeqDiscont := Function.update slot.portSeqDiscont port true
        portSeqLost :=
          if mtSeq16Greater seqId expected then
            Function.update slot.portSeqLost port
              (u32 (slot.portSeqLost port + u16 ((seqId : Int) - expected)))
          else
            slot.portSeqLost }
    else
      slot
  if last < 0 ∨ mtSeq16Greater seqId last then
    { slot with portLastSeq := Function.update slot.portLastSeq port seqId }
  else
    slot

/-- `rx_anc_slot_record_seq` -/
def rxAncSlotRecordSeq (port : MtlSessionPort) : AncSlot :=
  rxAncSlotRecordPort (rxAncSlotRecordBitmap slot seqId) seqId port

/-- `ST40_MAX_META` -/
def st40MaxMeta : Nat := 20

/-- The loop of `rx_anc_slot_parse_pkt`: `left` entries remain, from `offset` on.  The flag says
whether an entry was refused. -/
def rxAncSlotParseEntries (udwBufSize room : Nat) (payload : Nat -> Byte) :
    AncSlot -> (left offset : Nat) -> AncSlot × Bool
  | slot, 0, _ => (slot, false)
  | slot, left + 1, offset =>
    if slot.metas.length ≥ st40MaxMeta then
      (slot, false)
    else
      match st40Rfc8331DecodePacket (fun position => payload (offset + position)) (room - offset)
          (some (udwBufSize - slot.udwBuf.length)) with
      | .error _ => (slot, true)
      | .ok d =>
        let entry := { d.hdr with udwOffset := BitVec.ofNat 16 slot.udwBuf.length }
        rxAncSlotParseEntries udwBufSize room payload
          { slot with metas := slot.metas ++ [entry], udwBuf := slot.udwBuf ++ d.udwOut }
          left (offset + d.consumed)

/-- The size of `struct st40_rfc8331_rtp_hdr`. -/
def rfc8331RtpHdrSize : Nat := 20

/-- `rx_anc_slot_parse_pkt` -/
def rxAncSlotParsePkt (udwBufSize : Nat) (slot : AncSlot) (pkt : AncPkt) : AncSlot × Bool :=
  rxAncSlotParseEntries udwBufSize (pkt.len - rfc8331RtpHdrSize) pkt.payload slot pkt.ancCount 0

/-- The metadata that `rx_anc_slot_deliver` fills in. -/
def rxAncSlotFrame : AncFrame :=
  let seqLost :=
    if slot.seqBaseValid then
      slot.seqMaxOffset + 1 - ((List.range 64).filter (fun bit => slot.seqBitmap.getLsbD bit)).length
    else
      0
  { udwBuf := slot.udwBuf
    metas := slot.metas
    rtpTimestamp := slot.rtpTimestamp
    interlaced := slot.interlaced
    secondField := slot.secondField
    rtpMarker := slot.rtpMarker
    timestampFirstPkt := slot.receiveTimestamp
    seqLost := seqLost
    seqDiscont := decide (seqLost > 0)
    portSeqLost := slot.portSeqLost
    portSeqDiscont := slot.portSeqDiscont
    pktsRecv := slot.pktsRecv
    pktsTotal := slot.pktsTotal
    status := if seqLost > 0 then .corrupted else .complete }

/-- `rx_anc_slot_deliver` up to the call of the application. -/
def rxAncSlotHandOff : RxAncSession :=
  { s.setState idx .inUser with
    stats := { s.stats with ancFramesReady := s.stats.ancFramesReady + 1 }
    events := .notified idx (rxAncSlotFrame (s.frameSlots idx)) :: s.events }

/-- `rx_anc_slot_deliver`: a frame that the application refuses is free again. -/
def rxAncSlotDeliver : RxAncSession :=
  let answer := env.notify s.stats.ancFramesReady
  let s := putFramebuffs (rxAncSlotHandOff s idx) answer.puts
  if answer.refused then s.setState idx .free else s

def RxAncSession.clearInflight : RxAncSession := { s with ancInflightSlot := none }

def RxAncSession.clearPending : RxAncSession := { s with ancPendingSlot := none }

def RxAncSession.park : RxAncSession :=
  { s.setState idx .pending with ancPendingSlot := some idx }

/-- `rx_anc_force_deliver_pending` on the parked slot. -/
def rxAncForceDeliverPending (pending : Nat) : RxAncSession :=
  rxAncSlotDeliver env (s.clearPending.setState pending .ready) pending

def rxAncEvictPending : RxAncSession :=
  match s.ancPendingSlot with
  | some pending => rxAncForceDeliverPending env s pending
  | none => s

/-- The timestamp moved on: the open frame is parked, or delivered when there is one port. -/
def rxAncRollover (old : Nat) : RxAncSession :=
  let s := s.clearInflight
  if s.ops.numPort > 1 then
    (rxAncEvictPending env s).park old
  else
    rxAncSlotDeliver env (s.setState old .ready) old

/-- The first half of `rx_anc_select_slot`: the open slot of this timestamp, if there is one. -/
def rxAncFindOpen : RxAncSession × Option Nat :=
  match s.ancPendingSlot, s.ancInflightSlot with
  | some pending, inflight =>
    if (s.frameSlots pending).rtpTimestamp = tmstamp then
      (s, some pending)
    else
      match inflight with
      | some old =>
        if (s.frameSlots old).rtpTimestamp = tmstamp then (s, some old)
        else (rxAncRollover env s old, none)
      | none => (s, none)
  | none, some old =>
    if (s.frameSlots old).rtpTimestamp = tmstamp then (s, some old)
    else (rxAncRollover env s old, none)
  | none, none => (s, none)

/-- The search for a free slot, with the parked frame given up when there is none.  Only a frame
that was parked before this packet is given up. -/
def rxAncAllocate (pendingAtEntry : Option Nat) : RxAncSession × Option Nat :=
  match rxAncGetFreeSlot (env.racing 0) s with
  | (s, some idx) => (s, some idx)
  | (s, none) =>
    match s.ancPendingSlot with
    | some pending =>
      if s.ancPendingSlot = pendingAtEntry then
        rxAncGetFreeSlot (env.racing 1) (rxAncForceDeliverPending env s pending)
      else
        (s, none)
    | none => (s, none)

/-- What `rx_anc_select_slot` refreshes in a slot that is already open. -/
def AncSlot.refresh (interlaced secondField : Bool) (recvTs : Nat) : AncSlot :=
  { slot with
    receiveTimestamp :=
      if recvTs ≠ 0 ∧ (slot.receiveTimestamp = 0 ∨ slot.receiveTimestamp > recvTs) then recvTs
      else slot.receiveTimestamp
    interlaced := interlaced
    secondField := secondField }

def rxAncCountDropped : RxAncSession :=
  { s with stats := { s.stats with ancFramesDropped := s.stats.ancFramesDropped + 1 } }

def RxAncSession.takeSlot (slot : AncSlot) : RxAncSession :=
  { s.setSlot idx slot with
    ancInflightSlot := some idx
    events := .allocated idx slot.rtpTimestamp :: s.events }

/-- `rx_anc_select_slot` -/
def rxAncSelectSlot (interlaced secondField : Bool) (recvTs : Nat) : RxAncSession × Option Nat :=
  let pendingAtEntry := s.ancPendingSlot
  match rxAncFindOpen env s tmstamp with
  | (s, some idx) =>
    (s.setSlot idx ((s.frameSlots idx).refresh interlaced secondField recvTs), some idx)
  | (s, none) =>
    match rxAncAllocate env s pendingAtEntry with
    | (s, none) => (rxAncCountDropped s, none)
    | (s, some idx) =>
      (s.takeSlot idx (rxAncSlotInitFrame tmstamp interlaced secondField recvTs), some idx)

/-- What an accepted packet adds to its slot, and whether an entry of it was refused. -/
def AncSlot.addPkt (udwBufSize : Nat) (slot : AncSlot) (pkt : AncPkt) (port : MtlSessionPort) :
    AncSlot × Bool :=
  let slot := { slot with
    pktsTotal := u16 (slot.pktsTotal + 1)
    pktsRecv := Function.update slot.pktsRecv port (u16 (slot.pktsRecv port + 1)) }
  rxAncSlotParsePkt udwBufSize (rxAncSlotRecordSeq slot pkt.seqNumber port) pkt

def RxAncSession.release : RxAncSession :=
  if s.ancPendingSlot = some idx then s.clearPending else s.clearInflight

/-- The end of `rx_ancillary_session_assemble_pkt`: a marker closes the slot. -/
def rxAncClose : RxAncSession :=
  let s := s.setSlot idx { s.frameSlots idx with rtpMarker := true }
  rxAncSlotDeliver env ((s.release idx).setState idx .ready) idx

def rxAncFeed : RxAncSession :=
  let (slot, refused) := (s.frameSlots idx).addPkt s.udwBufSize pkt port
  let stats :=
    if refused then { s.stats with ancPktParseErr := s.stats.ancPktParseErr + 1 } else s.stats
  { s.setSlot idx slot with stats := stats }

/-- The field bits say that a packet belongs to an interlaced stream. -/
def AncPkt.interlaced : Bool := decide (pkt.f / 2 % 2 = 1)

def AncPkt.secondField : Bool := pkt.interlaced && decide (pkt.f % 2 = 1)

def rxAncCountDispatch : RxAncSession :=
  { s with stats := { s.stats with assembleDispatched := s.stats.assembleDispatched + 1 } }

/-- `rx_ancillary_session_assemble_pkt` -/
def rxAncillarySessionAssemblePkt : RxAncSession :=
  match rxAncSelectSlot env (rxAncCountDispatch s) pkt.tmstamp pkt.interlaced pkt.secondField
      pkt.recvTs with
  | (s, none) => s
  | (s, some idx) =>
    let s := rxAncFeed s idx pkt port
    if pkt.marker then rxAncClose env s idx else s

/-! ## Header checks and port counters -/

def AncStats.setPort (stats : AncStats) (port : MtlSessionPort) (values : AncPortStats) : AncStats :=
  { stats with port := Function.update stats.port port values }

def MtlSessionPort.other : MtlSessionPort -> MtlSessionPort
  | .p => .r
  | .r => .p

/-- The return codes of `rx_ancillary_session_handle_pkt`. -/
inductive AncReturn where
  | ok
  | inval
  | again
  deriving DecidableEq, Repr

/-- The payload type and source checks: the counters of a packet they drop. -/
def rxAncWrongHeader : Option AncStats :=
  if s.ops.payloadType ≠ 0 ∧ pkt.payloadType ≠ s.ops.payloadType then
    some { s.stats with wrongPtDropped := s.stats.wrongPtDropped + 1 }
  else if s.ops.ssrc ≠ 0 ∧ pkt.ssrc ≠ s.ops.ssrc then
    some { s.stats with wrongSsrcDropped := s.stats.wrongSsrcDropped + 1 }
  else if !s.ops.fastMetadata ∧ pkt.f = 1 then
    some { s.stats with wrongInterlaceDropped := s.stats.wrongInterlaceDropped + 1 }
  else
    none

/-- The detection of interlaced streams. -/
def rxAncDetect : RxAncSession :=
  if s.interlaceAuto ∧ (!s.interlaceDetected ∨ s.interlaceInterlaced ≠ pkt.interlaced) then
    { s with
      interlaceDetected := true
      interlaceInterlaced := pkt.interlaced
      ops := { s.ops with interlaced := pkt.interlaced } }
  else
    s

/-- The counters of fields and of ports that disagree about them. -/
def rxAncFieldStats : AncStats :=
  let stats :=
    if pkt.interlaced then
      if pkt.f % 2 = 1 then
        { s.stats with interlaceSecondField := s.stats.interlaceSecondField + 1 }
      else
        { s.stats with interlaceFirstField := s.stats.interlaceFirstField + 1 }
    else
      s.stats
  let other := MtlSessionPort.other port
  if s.ops.numPort > 1 ∧ s.lastFBits other ≠ 0xff ∧ s.lastFTmstamp other = pkt.tmstamp ∧
      s.lastFBits other ≠ pkt.f then
    { stats with fieldBitMismatch := stats.fieldBitMismatch + 1 }
  else
    stats

/-- What the session notes of the field bits of a packet that passed the checks. -/
def rxAncNoteField : RxAncSession :=
  if s.ops.fastMetadata then
    s
  else
    let s := rxAncDetect s pkt
    { s with
      stats := rxAncFieldStats s pkt port
      lastFBits := Function.update s.lastFBits port pkt.f
      lastFTmstamp := Function.update s.lastFTmstamp port pkt.tmstamp }

/-- The first packet of a session or a port sets what it is compared with. -/
def rxAncStart : RxAncSession :=
  { s with
    latestSeqId :=
      if s.latestSeqId port = -1 then Function.update s.latestSeqId port ((pkt.seqNumber : Int) - 1)
      else s.latestSeqId
    sessionSeqId := if s.sessionSeqId = -1 then (pkt.seqNumber : Int) - 1 else s.sessionSeqId
    tmstamp := if s.tmstamp = -1 then (u32 ((pkt.tmstamp : Int) - 1) : Int) else s.tmstamp }

/-- The losses, duplicates and reorderings of one port. -/
def rxAncCountPort : RxAncSession :=
  let latest := s.latestSeqId port
  let values := s.stats.port port
  let newer := mtSeq16Greater pkt.seqNumber latest
  let gap := u16 ((pkt.seqNumber : Int) - latest - 1)
  let hole := decide (pkt.seqNumber ≠ u16 (latest + 1)) && newer
  let values :=
    if hole then
      { values with lostPackets := values.lostPackets + gap }
    else if pkt.seqNumber = u16 latest then
      { values with duplicatesSamePort := values.duplicatesSamePort + 1 }
    else if !newer then
      { values with reorderedPackets := values.reorderedPackets + 1 }
    else
      values
  let stats :=
    if hole then { s.stats with lostPackets := s.stats.lostPackets + gap } else s.stats
  { s with
    stats := stats.setPort port
      { values with packets := values.packets + 1, bytes := values.bytes + pkt.pktLen }
    latestSeqId :=
      if newer then Function.update s.latestSeqId port (pkt.seqNumber : Int) else s.latestSeqId }

/-! ## The redundancy filter -/

def AncWindow.offset (seqId : Nat) : Nat := u16 ((seqId : Int) - window.baseSeq)

def AncWindow.admits (seqId : Nat) : Bool :=
  decide (window.offset seqId < 64) && !window.bitmap.getLsbD (window.offset seqId)

def AncWindow.record (seqId : Nat) : AncWindow :=
  if window.offset seqId < 64 then
    { window with bitmap := window.bitmap ||| ((1 : BitVec 64) <<< window.offset seqId) }
  else
    window

/-- How the filter takes a packet. -/
inductive AncVerdict where
  | fresh
  | lateCurrent
  | latePrevious
  | redundant
  deriving DecidableEq, Repr

/-- The decision of the filter, made on the session after `rxAncStart`. -/
def rxAncVerdict : AncVerdict :=
  if mtSeq32Greater s.tmstamp pkt.tmstamp || !mtSeq16Greater pkt.seqNumber s.sessionSeqId then
    if s.ancWindowCur.valid ∧ pkt.tmstamp = s.ancWindowCur.tmstamp ∧
        !mtSeq32Greater s.tmstamp pkt.tmstamp ∧ s.ancWindowCur.admits pkt.seqNumber then
      .lateCurrent
    else if s.prevTmstamp ≥ 0 ∧ pkt.tmstamp = u32 s.prevTmstamp ∧ s.ancWindowPrev.valid ∧
        pkt.tmstamp = s.ancWindowPrev.tmstamp ∧ s.ancWindowPrev.admits pkt.seqNumber then
      .latePrevious
    else
      .redundant
  else
    .fresh

/-- `ST_SESSION_REDUNDANT_ERROR_THRESHOLD` -/
def redundantErrorThreshold : Nat := 20

def St40RxOps.ports (ops : St40RxOps) : List MtlSessionPort :=
  if ops.numPort > 1 then [.p, .r] else [.p]

def rxAncCountRedundant : RxAncSession :=
  { s with
    redundantErrorCnt := Function.update s.redundantErrorCnt port (s.redundantErrorCnt port + 1)
    stats := { s.stats with pktsRedundant := s.stats.pktsRedundant + 1 } }

/-- Every port has seen so many redundant packets that the next one is taken. -/
def rxAncThresholdReached : Bool :=
  s.ops.ports.all (fun port => decide (redundantErrorThreshold ≤ s.redundantErrorCnt port))

/-- The windows after an accepted packet; `oldSessionSeq` is the session's number before it. -/
def rxAncRecordWindow (oldSessionSeq : Int) : RxAncSession :=
  if s.ancWindowPrev.valid ∧ pkt.tmstamp = s.ancWindowPrev.tmstamp then
    { s with ancWindowPrev := s.ancWindowPrev.record pkt.seqNumber }
  else if !s.ancWindowCur.valid ∨ pkt.tmstamp ≠ s.ancWindowCur.tmstamp then
    let fresh : AncWindow :=
      { bitmap := 0, tmstamp := pkt.tmstamp, baseSeq := u16 (oldSessionSeq + 1), valid := true }
    { s with
      ancWindowPrev := if s.ancWindowCur.valid then s.ancWindowCur else s.ancWindowPrev
      ancWindowCur := fresh.record pkt.seqNumber }
  else
    { s with ancWindowCur := s.ancWindowCur.record pkt.seqNumber }

/-- The session's number and windows after an accepted packet. -/
def rxAncAdvance : RxAncSession :=
  let oldSessionSeq := s.sessionSeqId
  let newer := mtSeq16Greater pkt.seqNumber oldSessionSeq
  let stats :=
    if pkt.seqNumber ≠ u16 (oldSessionSeq + 1) ∧ newer then
      { s.stats with
        pktsUnrecovered := s.stats.pktsUnrecovered + u16 ((pkt.seqNumber : Int) - oldSessionSeq - 1) }
    else
      s.stats
  rxAncRecordWindow
    { s with
      redundantErrorCnt := Function.update s.redundantErrorCnt port 0
      stats := stats
      sessionSeqId := if newer then (pkt.seqNumber : Int) else oldSessionSeq }
    pkt oldSessionSeq

/-- The timestamp of the session after a packet was handed on. -/
def rxAncFinish (bypass : Bool) : RxAncSession :=
  let s :=
    if (pkt.tmstamp : Int) ≠ s.tmstamp ∧ (mtSeq32Greater pkt.tmstamp s.tmstamp ∨ bypass) then
      let values := s.stats.port port
      { s with
        prevTmstamp := s.tmstamp
        tmstamp := pkt.tmstamp
        stats := ({ s.stats with framesReceived := s.stats.framesReceived + 1 }).setPort port
          { values with frames := values.frames + 1 } }
    else
      s
  { s with stats := { s.stats with pktsReceived := s.stats.pktsReceived + 1 } }

/-- The code from `accept_pkt` on. -/
def rxAncAccept (bypass : Bool) : RxAncSession :=
  let s := rxAncAdvance s pkt port
  match s.ops.type with
  | .frameLevel => rxAncFinish (rxAncillarySessionAssemblePkt env s pkt port) pkt port bypass
  | .rtpLevel =>
    if env.ringTakes then
      rxAncFinish s pkt port bypass
    else
      { s with stats := { s.stats with pktsEnqueueFail := s.stats.pktsEnqueueFail + 1 } }

def rxAncRecover : RxAncSession :=
  { s with stats := { s.stats with pktsUnrecovered := s.stats.pktsUnrecovered - 1 } }

/-- `rx_ancillary_session_handle_pkt` after the header checks. -/
def rxAncHandleChecked : RxAncSession × AncReturn :=
  match rxAncVerdict s pkt with
  | .fresh => (rxAncAccept env s pkt port false, .ok)
  | .lateCurrent | .latePrevious => (rxAncAccept env (rxAncRecover s) pkt port false, .ok)
  | .redundant =>
    let counted := rxAncCountRedundant s port
    if rxAncThresholdReached counted then
      (rxAncAccept env { counted with stats := s.stats } pkt port true, .ok)
    else
      (counted, .again)

def rxAncPrepare : RxAncSession :=
  rxAncCountPort (rxAncStart (rxAncNoteField s pkt port) pkt port) pkt port

/-- `rx_ancillary_session_handle_pkt` -/
def rxAncillarySessionHandlePkt : RxAncSession × AncReturn :=
  match rxAncWrongHeader s pkt with
  | some stats => ({ s with stats := stats }, .inval)
  | none => rxAncHandleChecked env (rxAncPrepare s pkt port) pkt port

/-! ## A session at its start -/

def AncStats.zero : AncStats where
  port := fun _ => ⟨0, 0, 0, 0, 0, 0⟩
  wrongPtDropped := 0
  wrongSsrcDropped := 0
  wrongInterlaceDropped := 0
  interlaceFirstField := 0
  interlaceSecondField := 0
  fieldBitMismatch := 0
  lostPackets := 0
  pktsReceived := 0
  pktsRedundant := 0
  pktsUnrecovered := 0
  pktsEnqueueFail := 0
  framesReceived := 0
  assembleDispatched := 0
  ancFramesReady := 0
  ancFramesDropped := 0
  ancPktParseErr := 0

def AncSlot.empty : AncSlot := { rxAncSlotInitFrame 0 false false 0 with state := .free }

def AncWindow.none : AncWindow := { bitmap := 0, tmstamp := 0, baseSeq := 0, valid := false }

/-- A session after `rx_ancillary_session_reset` on new frames. -/
def rxAncInit (ops : St40RxOps) (interlaceAuto : Bool) (cnt udwBufSize : Nat) : RxAncSession where
  ops := ops
  interlaceAuto := interlaceAuto
  interlaceDetected := !interlaceAuto
  interlaceInterlaced := ops.interlaced
  frameSlots := fun _ => AncSlot.empty
  frameSlotsCnt := cnt
  udwBufSize := udwBufSize
  ancInflightSlot := Option.none
  ancPendingSlot := Option.none
  sessionSeqId := -1
  latestSeqId := fun _ => -1
  redundantErrorCnt := fun _ => 0
  ancWindowCur := AncWindow.none
  ancWindowPrev := AncWindow.none
  lastFBits := fun _ => 0xff
  lastFTmstamp := fun _ => 0
  tmstamp := -1
  prevTmstamp := -1
  stats := AncStats.zero
  events := []

end MediaTransport.Anc
