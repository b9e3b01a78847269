import MediaTransport.Util.Bitmap
import MediaTransport.Util.Session
import MediaTransport.Video.Transmitter

namespace MediaTransport.Video

open Library

/-!
# The receive session

A receive session owns a pool of frames and two slots.  A slot collects the
packets of one timestamp into one frame; when the frame is full, or when the
slot is needed for another timestamp, the frame is handed to the application
or returned to the pool.  Sessions without DMA, header split and timing parser
are modelled.  What the application and the network port answer during one
packet is given by `RvEnv`.
-/

/-! ## Data -/

inductive St20Type where
  | frameLevel
  | sliceLevel
  deriving DecidableEq, Repr

/-- The part of `struct st20_rx_ops` that the handlers read. -/
structure St20RxOps where
  width : Nat
  height : Nat
  fmt : St20Fmt
  interlaced : Bool
  linesize : Nat
  payloadType : Nat
  ssrc : Nat
  numPort : Nat
  type : St20Type
  framebuffCnt : Nat
  sliceLines : Nat
  uframeSize : Nat
  /-- `ST20_RX_FLAG_RECEIVE_INCOMPLETE_FRAME`. -/
  receiveIncompleteFrame : Bool
  /-- `ST20_RX_FLAG_ENABLE_RTCP`. -/
  enableRtcp : Bool
  /-- `query_ext_frame` is set. -/
  queryExtFrame : Bool

/-- The part of `struct st22_rx_ops` that the handlers read. -/
structure St22RxOps where
  framebuffMaxSize : Nat
  /-- `ST22_RX_FLAG_DISABLE_BOXES`. -/
  disableBoxes : Bool

def St20RxOps.ports (ops : St20RxOps) : List MtlSessionPort :=
  if 1 < ops.numPort then [.p, .r] else [.p]

/-- What `rv_attach` derives from the user's request; it stays fixed while the
session is attached. -/
structure RvConfig where
  ops : St20RxOps
  st22 : Option St22RxOps
  st20Pg : St20Pgroup
  st20BytesInLine : Nat
  st20Linesize : Nat
  st20FbSize : Nat
  st20FrameSize : Nat
  st20FrameBitmapSize : Nat
  sliceLines : Nat
  sliceSize : Nat
  slotMax : Nat
  userMetaBufferSize : Nat

/-- The line size rule is the one of the transmitter. -/
def rvLinesize (ops : St20RxOps) (pg : St20Pgroup) : Except Errno Nat :=
  let line := bytesInLine ops.width pg
  if line < ops.linesize then
    .ok ops.linesize
  else if ops.linesize ≠ 0 then
    .error .inval
  else
    .ok line

/-- `rv_attach` and `rv_init_slot` as far as they shape the session. -/
def rvAttach (userMetaBufferSize : Nat) (ops : St20RxOps) (st22 : Option St22RxOps) :
    Except Errno RvConfig :=
  let pg := st20GetPgroup ops.fmt
  match rvLinesize ops pg with
  | .error error => .error error
  | .ok linesize =>
    let halved (size : Nat) := if ops.interlaced then size / 2 else size
    let sliceLines := if ops.sliceLines = 0 then ops.height / 32 else ops.sliceLines
    let frameSize :=
      match st22 with
      | some st22Ops => st22Ops.framebuffMaxSize
      | none => u32 (ops.width * ops.height * pg.size : Nat) / pg.coverage
    let fbSize :=
      match st22 with
      | some st22Ops => st22Ops.framebuffMaxSize
      | none => halved (linesize * ops.height)
    let frameSize := halved frameSize
    .ok
      { ops := ops
        st22 := st22
        st20Pg := pg
        st20BytesInLine := bytesInLine ops.width pg
        st20Linesize := linesize
        st20FbSize := fbSize
        st20FrameSize := frameSize
        st20FrameBitmapSize :=
          max (frameSize / 800 / 8) (u32 (ops.height * 2 : Nat) / 8)
        sliceLines := sliceLines
        sliceSize := u32 (ops.width * sliceLines * pg.size : Nat) / pg.coverage
        slotMax := if ops.enableRtcp then 2 else if 1 < ops.numPort then 2 else 1
        userMetaBufferSize := userMetaBufferSize }

/-- `struct st_frame_trans` of the receiver: its pool reference, the contents
of its buffer, and the user meta data that came with it. -/
structure RvFrame where
  refcnt : Int
  addr : Nat -> Byte
  userMeta : List Byte
  userMetaDataSize : Nat

structure RvSlice where
  offset : Nat
  size : Nat
  deriving DecidableEq, Repr

/-- The slices of a frame; the first one starts at the first byte. -/
structure RvSliceInfo where
  slices : List RvSlice
  readySlices : Nat
  extraSlices : Nat

def stVideoRxSliceNum : Nat := 32

def RvSliceInfo.empty : RvSliceInfo :=
  { slices := List.replicate stVideoRxSliceNum ⟨0, 0⟩, readySlices := 0, extraSlices := 0 }

/-- `struct st_rx_video_slot_impl`; `frame` is an index into the pool. -/
structure RvSlot where
  tmstamp : Int
  seqIdBase : Nat
  seqIdBaseU32 : Nat
  seqIdGot : Bool
  frame : Option Nat
  frameBitmap : List Byte
  frameRecvSize : Nat
  pktLcoreFrameRecvSize : Nat
  pktsReceived : Nat
  pktsRecvPerPort : MtlSessionPort -> Nat
  secondField : Bool
  sliceInfo : Option RvSliceInfo
  st22PayloadLength : Nat
  st22BoxHdrLength : Nat
  timestampFirstPkt : Nat
  lastPktIdx : MtlSessionPort -> Int
  lossPending : Bool

/-- Why a packet is dropped; one counter for each reason. -/
inductive RvDrop where
  | wrongPt
  | wrongSsrc
  | wrongInterlace
  | wrongKmod
  | multiSegments
  | noSlot
  | userMetaErr
  | offset
  | wrongLen
  | idxOoBitmap
  | idx
  deriving DecidableEq, Repr

def RvDrop.errno : RvDrop -> Errno
  | .wrongPt => .inval
  | .wrongSsrc => .inval
  | .wrongInterlace => .inval
  | .wrongKmod => .inval
  | _ => .io

structure RvPortStats where
  lostPackets : Nat
  reorderedPackets : Nat
  frames : Nat
  framesPartial : Nat
  deriving DecidableEq, Repr

/-- The counters of `port_user_stats` that the handlers touch. -/
structure RvStats where
  port : MtlSessionPort -> RvPortStats
  dropped : RvDrop -> Nat
  pktsReceived : Nat
  pktsRedundant : Nat
  pktsRetransmit : Nat
  pktsUserMeta : Nat
  pktsUnrecovered : Nat
  lostPackets : Nat
  slotGetFrameFail : Nat
  slotQueryExtFail : Nat
  framesReceived : Nat
  framesIncomplete : Nat
  interlaceFirstField : Nat
  interlaceSecondField : Nat
  slicesReceived : Nat
  pktsSliceFail : Nat
  pktsSliceMerged : Nat
  st22Boxes : Nat

variable (slot : RvSlot) (stats : RvStats) (port : MtlSessionPort)

/-- The session while it is attached. -/
structure RvSession where
  cfg : RvConfig
  frames : Nat -> RvFrame
  slots : Nat -> RvSlot
  slotIdx : Int
  redundantErrorCnt : MtlSessionPort -> Nat
  st20FramePkts : Nat
  st22ExpectFrameSize : Nat
  st22ExpectSizePerFrame : Nat
  stats : RvStats

inductive StFrameStatus where
  | complete
  | reconstructed
  | corrupted
  deriving DecidableEq, Repr

/-- The frame description that is passed to the application. -/
structure RxFrameMeta where
  timestamp : Int
  status : StFrameStatus
  secondField : Bool
  frameTotalSize : Nat
  frameRecvSize : Nat
  pktsTotal : Nat
  pktsRecv : MtlSessionPort -> Nat
  userMeta : List Byte

/-- What the session tells the application. -/
inductive RvEvent where
  /-- `notify_frame_ready` with the contents of the frame and its answer. -/
  | frameReady (frame : Nat) (info : RxFrameMeta) (content : Nat -> Byte) (ret : Int)
  | sliceReady (frame : Nat) (timestamp : Int) (frameRecvSize frameRecvLines : Nat)
  | uframePg (frame rowNumber rowOffset rowLength pgCnt : Nat) (bytes : List Byte)

/-- `struct st20_ext_frame` as filled in by the application; a missing buffer
is a null address. -/
structure ExtFrame where
  bufLen : Nat
  bufAddr : Option (Nat -> Byte)

/-- What the application and the port answer while one packet is handled. -/
structure RvEnv where
  /-- The answer to a notification about a recycled frame. -/
  notifyRecycled : Int
  /-- The answer to a notification about a full frame. -/
  notifyFull : Int
  /-- The answer of `query_ext_frame`; `none` is a negative return. -/
  queryExt : Option ExtFrame
  portDown : MtlSessionPort -> Bool
  /-- The arrival time of the packet. -/
  timeStamp : Nat
  /-- The floating point estimate of the missing packets of a frame. -/
  missEstimate : Nat

/-! ## Small operations -/

variable (env : RvEnv) (cfg : RvConfig) (s : RvSession)

namespace RvSession

def setSlot (idx : Nat) (slot : RvSlot) : RvSession :=
  { s with slots := Function.update s.slots idx slot }

def setFrame (idx : Nat) (frame : RvFrame) : RvSession :=
  { s with frames := Function.update s.frames idx frame }

def setRedundant (port : MtlSessionPort) (count : Nat) : RvSession :=
  { s with redundantErrorCnt := Function.update s.redundantErrorCnt port count }

def withStats (stats : RvStats) : RvSession := { s with stats := stats }

section

variable (s : RvSession) (idx : Nat) (slot : RvSlot)

@[simp] theorem setSlot_cfg :
    (s.setSlot idx slot).cfg = s.cfg := rfl

@[simp] theorem setSlot_frames :
    (s.setSlot idx slot).frames = s.frames := rfl

theorem setSlot_slots :
    (s.setSlot idx slot).slots = Function.update s.slots idx slot := rfl

@[simp] theorem setSlot_slots_self :
    (s.setSlot idx slot).slots idx = slot := Function.update_self ..

end

section

variable (s : RvSession) (idx : Nat) (frame : RvFrame)

@[simp] theorem setFrame_cfg :
    (s.setFrame idx frame).cfg = s.cfg := rfl

@[simp] theorem setFrame_slots :
    (s.setFrame idx frame).slots = s.slots := rfl

@[simp] theorem setFrame_frames_self :
    (s.setFrame idx frame).frames idx = frame := Function.update_self ..

end

theorem setSlot_slots_of_ne {idx other : Nat} (slot : RvSlot) (differ : other ≠ idx)
    : (s.setSlot idx slot).slots other = s.slots other :=
  Function.update_of_ne differ ..

theorem setFrame_frames_of_ne {idx other : Nat} (frame : RvFrame) (differ : other ≠ idx)
    : (s.setFrame idx frame).frames other = s.frames other :=
  Function.update_of_ne differ ..

end RvSession

def RvStats.drop (reason : RvDrop) : RvStats :=
  { stats with dropped := Function.update stats.dropped reason (stats.dropped reason + 1) }

def RvStats.setPort (values : RvPortStats) : RvStats :=
  { stats with port := Function.update stats.port port values }

def rvSlotGetFrameSize : Nat := slot.frameRecvSize + slot.pktLcoreFrameRecvSize

def RvSlot.countPort : RvSlot :=
  { slot with
    pktsRecvPerPort := Function.update slot.pktsRecvPerPort port (slot.pktsRecvPerPort port + 1) }

variable (slotIdx : Nat) (tmstamp : Nat)

/-- `rv_get_frame`: the first frame of the pool without a reference. -/
def rvGetFrame : Option Nat :=
  (List.range s.cfg.ops.framebuffCnt).find? (fun idx => decide ((s.frames idx).refcnt = 0))

/-- `rv_put_frame`. -/
def rvPutFrame (idx : Nat) : RvSession :=
  s.setFrame idx { s.frames idx with refcnt := (s.frames idx).refcnt - 1 }

/-! ## Handing a frame over -/

/-- One port's share in `rv_slot_account_per_port_loss`. -/
def rvAccountPort (slot : RvSlot) (expected : Nat) (stats : RvStats) (port : MtlSessionPort)
    : RvStats :=
  let recv := slot.pktsRecvPerPort port
  if env.portDown port = true ∨ expected ≤ recv then
    stats
  else
    let counted := stats.setPort port
      { stats.port port with lostPackets := (stats.port port).lostPackets + (expected - recv) }
    { counted with lostPackets := counted.lostPackets + (expected - recv) }

def rvSlotAccountPerPortLoss (slot : RvSlot) (expected : Nat) : RvSession :=
  s.withStats (s.cfg.ops.ports.foldl (rvAccountPort env slot expected) s.stats)

/-- The count of first and second fields. -/
def rvCountField (secondField : Bool) (stats : RvStats) : RvStats :=
  if !cfg.ops.interlaced then
    stats
  else if secondField then
    { stats with interlaceSecondField := stats.interlaceSecondField + 1 }
  else
    { stats with interlaceFirstField := stats.interlaceFirstField + 1 }

/-- One port's share in the count of frames that arrived whole or in part. -/
def rvCountFramePort : RvStats :=
  let values := stats.port port
  if slot.pktsReceived ≤ slot.pktsRecvPerPort port then
    stats.setPort port { values with frames := values.frames + 1 }
  else
    stats.setPort port { values with framesPartial := values.framesPartial + 1 }

/-- The meta data of a frame of ST 2110-20. -/
def rvFrameMeta (slot : RvSlot) (frame : RvFrame) : RxFrameMeta :=
  let recv := rvSlotGetFrameSize slot
  { timestamp := slot.tmstamp
    status :=
      if s.cfg.st20FrameSize ≤ recv then
        if 1 < s.cfg.ops.numPort ∧ slot.pktsRecvPerPort .p < slot.pktsReceived ∧
            slot.pktsRecvPerPort .r < slot.pktsReceived then
          .reconstructed
        else
          .complete
      else
        .corrupted
    secondField := slot.secondField
    frameTotalSize := s.cfg.st20FrameSize
    frameRecvSize := recv
    pktsTotal := slot.pktsReceived
    pktsRecv := slot.pktsRecvPerPort
    userMeta := if frame.userMetaDataSize ≠ 0 then frame.userMeta else [] }

/-- The packets a corrupted frame is taken to miss. -/
def rvMissPkts (slot : RvSlot) : Nat :=
  if slot.pktsReceived < s.st20FramePkts then
    s.st20FramePkts - slot.pktsReceived
  else if rvSlotGetFrameSize slot ≠ 0 then
    env.missEstimate
  else
    0

/-- A complete frame goes to the application; if it answers with an error the
frame returns to the pool. -/
def rvHandOver (slotIdx frame : Nat) (event : RvEvent) (ret : Int) : RvSession × List RvEvent :=
  let slot := { s.slots slotIdx with lossPending := true }
  if ret < 0 then
    (rvPutFrame (s.setSlot slotIdx { slot with frame := none }) frame, [event])
  else
    (s.setSlot slotIdx slot, [event])

/-- An incomplete frame is counted with `miss` lost packets.  It goes to the
application if that asked for such frames, whose answer is not looked at, and
otherwise returns to the pool. -/
def rvGiveUp (slotIdx frame miss : Nat) (event : RvEvent) : RvSession × List RvEvent :=
  let slot := s.slots slotIdx
  let counted := s.withStats
    { s.stats with
      framesIncomplete := s.stats.framesIncomplete + 1
      pktsUnrecovered := s.stats.pktsUnrecovered + miss }
  let charged := rvSlotAccountPerPortLoss env counted slot (slot.pktsReceived + miss)
  if s.cfg.ops.receiveIncompleteFrame then
    (charged, [event])
  else
    (rvPutFrame (charged.setSlot slotIdx { slot with frame := none }) frame, [])

def rvCountNotify : RvSession :=
  s.withStats (rvCountField s.cfg (s.slots slotIdx).secondField s.stats)

def rvCountFrame : RvSession :=
  let stats := [MtlSessionPort.p, .r].foldl (rvCountFramePort (s.slots slotIdx)) s.stats
  { s with
    stats := { stats with framesReceived := stats.framesReceived + 1 }
    st20FramePkts := (s.slots slotIdx).pktsReceived }

/-- `rv_frame_notify` for the frame `frame` of a slot; `ret` is what the
application answers. -/
def rvFrameNotify (ret : Int) (s : RvSession) (slotIdx frame : Nat) : RvSession × List RvEvent :=
  let slot := s.slots slotIdx
  let event := RvEvent.frameReady frame (rvFrameMeta s slot (s.frames frame)) (s.frames frame).addr ret
  let counted := rvCountNotify s slotIdx
  if s.cfg.st20FrameSize ≤ rvSlotGetFrameSize slot then
    rvHandOver (rvCountFrame counted slotIdx) slotIdx frame event ret
  else
    rvGiveUp env counted slotIdx frame (rvMissPkts env s slot) event

/-- The meta data of a frame of ST 2110-22. -/
def rvSt22FrameMeta (status : StFrameStatus) : RxFrameMeta :=
  { timestamp := slot.tmstamp
    status := status
    secondField := slot.secondField
    frameTotalSize := rvSlotGetFrameSize slot
    frameRecvSize := rvSlotGetFrameSize slot
    pktsTotal := slot.pktsReceived
    pktsRecv := slot.pktsRecvPerPort
    userMeta := [] }

def rvSt22CountFrame : RvSession :=
  if 1 < s.cfg.ops.numPort then
    s.withStats ([MtlSessionPort.p, .r].foldl (rvCountFramePort (s.slots slotIdx)) s.stats)
  else
    s.withStats (s.stats.setPort .p
      { s.stats.port .p with frames := (s.stats.port .p).frames + 1 })

/-- `rv_st22_frame_notify`; the size learnt from a marker is forgotten. -/
def rvSt22FrameNotify (ret : Int) (s : RvSession) (slotIdx frame : Nat) (status : StFrameStatus)
    : RvSession × List RvEvent :=
  let slot := s.slots slotIdx
  let event := RvEvent.frameReady frame (rvSt22FrameMeta slot status) (s.frames frame).addr ret
  let counted := { rvCountNotify s slotIdx with st22ExpectFrameSize := 0 }
  if status = .complete ∨ status = .reconstructed then
    rvHandOver (rvSt22CountFrame counted slotIdx) slotIdx frame event ret
  else
    let miss :=
      if rvSlotGetFrameSize slot < s.st22ExpectSizePerFrame then env.missEstimate else 0
    rvGiveUp env counted slotIdx frame miss event

/-! ## Finding the slot of a timestamp -/

def rvRecycle (slotIdx frame : Nat) : RvSession × List RvEvent :=
  match s.cfg.st22 with
  | some _ => rvSt22FrameNotify env env.notifyRecycled s slotIdx frame .corrupted
  | none => rvFrameNotify env env.notifyRecycled s slotIdx frame

def rvEmptySlot : RvSession × List RvEvent :=
  match (s.slots slotIdx).frame with
  | none => (s, [])
  | some frame =>
    let (s, events) := rvRecycle env s slotIdx frame
    (s.setSlot slotIdx { s.slots slotIdx with frame := none }, events)

/-- The losses of a complete frame are charged when its slot is reused. -/
def rvChargePending : RvSession :=
  let slot := s.slots slotIdx
  if slot.lossPending then
    (rvSlotAccountPerPortLoss env s slot slot.pktsReceived).setSlot slotIdx
      { slot with lossPending := false }
  else
    s

/-- The first half of a slot's reuse: hand over what it holds and charge the
losses that were put off. -/
def rvRetireSlot : RvSession × List RvEvent :=
  let (s, events) := rvEmptySlot env s slotIdx
  (rvChargePending env s slotIdx, events)

/-- A retired slot starts to collect another timestamp. -/
def RvSlot.restart (tmstamp : Nat) : RvSlot :=
  { slot with
    frameRecvSize := 0
    pktLcoreFrameRecvSize := 0
    tmstamp := tmstamp
    seqIdGot := false
    pktsReceived := 0
    pktsRecvPerPort := fun _ => 0 }

def rvReuseSlot (slotIdx tmstamp : Nat) : RvSession × List RvEvent :=
  let (s, events) := rvRetireSlot env s slotIdx
  ({ s.setSlot slotIdx ((s.slots slotIdx).restart tmstamp) with slotIdx := slotIdx }, events)

/-- The buffer that `query_ext_frame` gives, if it is usable. -/
def rvUsableExt (answer : Option ExtFrame) : Option (Nat -> Byte) :=
  let fbSize := if cfg.ops.uframeSize ≠ 0 then cfg.ops.uframeSize else cfg.st20FbSize
  match answer with
  | none => none
  | some ext => if ext.bufLen < fbSize then none else ext.bufAddr

/-- The buffer that a frame gets: its own, or one that the application gives. -/
def rvFrameBuffer (frame : Nat) : Option (Nat -> Byte) :=
  if s.cfg.ops.queryExtFrame then
    rvUsableExt s.cfg env.queryExt
  else
    some (s.frames frame).addr

def RvFrame.take (held : RvFrame) (addr : Nat -> Byte) : RvFrame :=
  { held with refcnt := held.refcnt + 1, addr := addr, userMetaDataSize := 0 }

def RvSlot.begin (cfg : RvConfig) (frame timeStamp : Nat) : RvSlot :=
  { slot with
    frame := some frame
    timestampFirstPkt := timeStamp
    frameBitmap := List.replicate cfg.st20FrameBitmapSize 0
    sliceInfo := slot.sliceInfo.map (fun _ => RvSliceInfo.empty) }

/-- A frame from the pool for the slot, with its external buffer when the
session asks the application for one. -/
def rvAssignFrame : RvSession × Bool :=
  match rvGetFrame s with
  | none =>
    ({ s with stats := { s.stats with slotGetFrameFail := s.stats.slotGetFrameFail + 1 } }, false)
  | some frame =>
    match rvFrameBuffer env s frame with
    | none =>
      -- The reference that was just taken is given back.
      ({ s with stats := { s.stats with slotQueryExtFail := s.stats.slotQueryExtFail + 1 } },
        false)
    | some addr =>
      ((s.setFrame frame ((s.frames frame).take addr)).setSlot slotIdx
        ((s.slots slotIdx).begin s.cfg frame env.timeStamp), true)

def stSessionRedundantErrorThreshold : Nat := 20

def rvFindSlot : Option Nat :=
  (List.range s.cfg.slotMax).find? (fun idx => decide ((s.slots idx).tmstamp = tmstamp))

def rvInThePast : Bool :=
  (List.range s.cfg.slotMax).all (fun idx =>
    decide ((s.slots idx).tmstamp ≠ -1) && !mtSeq32Greater tmstamp (s.slots idx).tmstamp)

/-- Every port has seen so many redundant packets that the guard gives way. -/
def rvGuardGivesWay : Bool :=
  s.cfg.ops.ports.all
    (fun port => decide (stSessionRedundantErrorThreshold ≤ s.redundantErrorCnt port))

def rvNextSlot : Nat := ((s.slotIdx + 1) % s.cfg.slotMax).toNat

/-- The answer of `rv_slot_by_tmstamp`. -/
structure SlotAnswer where
  session : RvSession
  slot : Option Nat
  existTs : Bool
  events : List RvEvent

/-- `rv_slot_by_tmstamp`. -/
def rvSlotByTmstamp : SlotAnswer :=
  match rvFindSlot s tmstamp with
  | some idx => { session := s, slot := some idx, existTs := true, events := [] }
  | none =>
    if rvInThePast s tmstamp && !rvGuardGivesWay s then
      { session := s, slot := none, existTs := false, events := [] }
    else
      let idx := rvNextSlot s
      let (s, events) := rvReuseSlot env s idx tmstamp
      let (s, assigned) := rvAssignFrame env s idx
      { session := s
        slot := if assigned then some idx else none
        existTs := false
        events := events }

/-! ## Attaching -/

def RvStats.zero : RvStats :=
  { port := fun _ => ⟨0, 0, 0, 0⟩, dropped := fun _ => 0, pktsReceived := 0, pktsRedundant := 0
    pktsRetransmit := 0, pktsUserMeta := 0, pktsUnrecovered := 0, lostPackets := 0
    slotGetFrameFail := 0, slotQueryExtFail := 0, framesReceived := 0, framesIncomplete := 0
    interlaceFirstField := 0, interlaceSecondField := 0, slicesReceived := 0, pktsSliceFail := 0
    pktsSliceMerged := 0, st22Boxes := 0 }

/-- `rv_reset_slot`; the reference of its frame is dropped with those of the
whole pool. -/
def RvSlot.reset : RvSlot :=
  { tmstamp := -1, seqIdBase := 0, seqIdBaseU32 := 0, seqIdGot := false, frame := none
    frameBitmap := List.replicate slot.frameBitmap.length 0, frameRecvSize := 0
    pktLcoreFrameRecvSize := 0, pktsReceived := 0, pktsRecvPerPort := fun _ => 0
    secondField := false, sliceInfo := slot.sliceInfo.map (fun _ => RvSliceInfo.empty)
    st22PayloadLength := 0, st22BoxHdrLength := 0, timestampFirstPkt := 0
    lastPktIdx := fun _ => -1, lossPending := false }

/-- `rv_session_reset`. -/
def rvSessionReset : RvSession :=
  { cfg := s.cfg
    frames := fun idx =>
      if idx < s.cfg.ops.framebuffCnt then
        { s.frames idx with refcnt := 0, userMetaDataSize := 0 }
      else
        s.frames idx
    slots := fun idx => (s.slots idx).reset
    slotIdx := -1
    redundantErrorCnt := fun _ => 0
    st20FramePkts := 0
    st22ExpectFrameSize := 0
    st22ExpectSizePerFrame := 0
    stats := RvStats.zero }

/-- The slot that `rv_init_slot` makes. -/
def RvSlot.init : RvSlot :=
  { tmstamp := -1, seqIdBase := 0, seqIdBaseU32 := 0, seqIdGot := false, frame := none
    frameBitmap := List.replicate cfg.st20FrameBitmapSize 0, frameRecvSize := 0
    pktLcoreFrameRecvSize := 0, pktsReceived := 0, pktsRecvPerPort := fun _ => 0
    secondField := false
    sliceInfo := if cfg.ops.type = .sliceLevel then some RvSliceInfo.empty else none
    st22PayloadLength := 0, st22BoxHdrLength := 0, timestampFirstPkt := 0
    lastPktIdx := fun _ => -1, lossPending := false }

/-- The session after `rv_attach`, with the buffers of `rv_alloc_frames`. -/
def rvInit : RvSession :=
  rvSessionReset
    { cfg := cfg
      frames := fun _ => { refcnt := 0, addr := fun _ => 0, userMeta := [], userMetaDataSize := 0 }
      slots := fun _ => RvSlot.init cfg
      slotIdx := -1
      redundantErrorCnt := fun _ => 0
      st20FramePkts := 0
      st22ExpectFrameSize := 0
      st22ExpectSizePerFrame := 0
      stats := RvStats.zero }

end MediaTransport.Video
