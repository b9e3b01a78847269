import MediaTransport.Library.Memory
import MediaTransport.Video.Layout
import MediaTransport.Video.Receiver

namespace MediaTransport.Video

open Library Util

/-!
# Handling a packet of ST 2110-20

`rv_handle_frame_pkt` in the order of the source: read the headers, check them
against the session, find the slot, check where the payload would go, find the
packet's index and whether it is new, copy the payload, and hand the frame
over when it is full.
-/

variable (cfg : RvConfig) (env : RvEnv) (s : RvSession)

/-- A received packet: the RFC 4175 packet and whether its buffer is split. -/
structure RvMbuf where
  pkt : Rfc4175Packet
  /-- `mbuf->next` holds data. -/
  multiSegment : Bool

/-- The line headers after byte swapping, with the flag bits taken apart. -/
structure RvLine where
  line1Number : Nat
  secondField : Bool
  line1Offset : Nat
  line1Length : Nat
  retransmit : Bool
  userMeta : Bool
  extra : Option Rfc4175ExtraHdr
  payload : List Byte
  /-- Bytes of the packet behind the fixed header. -/
  bodyLength : Nat

variable (slotIdx frame : Nat) (slot : RvSlot) (mbuf : RvMbuf) (line : RvLine) (port : MtlSessionPort)

/-- The header fields as the handler reads them. -/
def rvReadLine (pkt : Rfc4175Packet) : RvLine :=
  let length := clearBit retransmitBit pkt.rowLength
  { line1Number := clearBit topBit pkt.rowNumber
    secondField := hasBit topBit pkt.rowNumber
    line1Offset := clearBit topBit pkt.rowOffset
    line1Length := clearBit topBit length
    retransmit := hasBit retransmitBit pkt.rowLength
    userMeta := hasBit topBit length
    extra := pkt.extraRtp
    payload := pkt.payload
    bodyLength := pkt.body.length }

/-- The checks before the slot is looked up. -/
def rvHeaderCheck : Option RvDrop :=
  if cfg.ops.payloadType ≠ 0 ∧ mbuf.pkt.payloadType ≠ cfg.ops.payloadType then
    some .wrongPt
  else if cfg.ops.ssrc ≠ 0 ∧ mbuf.pkt.ssrc ≠ cfg.ops.ssrc then
    some .wrongSsrc
  else if !cfg.ops.interlaced && (rvReadLine mbuf.pkt).secondField then
    some .wrongInterlace
  else if mbuf.multiSegment then
    some .multiSegments
  else
    none

/-- Where a payload goes: `offset` and `payload_length`. -/
structure RvPlacement where
  offset : Nat
  payloadLength : Nat
  deriving DecidableEq, Repr

def RvLine.line2Length : Nat :=
  match line.extra with
  | none => 0
  | some extra => extra.rowLength

def RvLine.crosses : Bool :=
  line.extra.isSome && decide (cfg.st20BytesInLine < cfg.st20Linesize)

/-- `offset` of a packet in the frame buffer. -/
def rvOffset : Nat :=
  u32 (line.line1Number * cfg.st20Linesize + columnOf cfg.st20Pg line.line1Offset : Nat)

/-- The checks of offset and length. -/
def rvPlace : Except RvDrop RvPlacement :=
  let offset := rvOffset cfg line
  let payloadLength := line.line1Length + line.line2Length
  if word 64 ((cfg.st20FbSize + cfg.st20BytesInLine : Nat) - (cfg.st20Linesize : Int)) <
      offset + payloadLength then
    .error .offset
  else if line.crosses cfg &&
      (decide (cfg.ops.height ≤ line.line1Number + 1) ||
        decide (word 64 ((cfg.st20FbSize : Int) -
          ((line.line1Number + 1) * cfg.st20Linesize : Nat)) < line.line2Length)) then
    .error .offset
  else if payloadLength = 0 ∨ line.payload.length ≠ payloadLength then
    .error .wrongLen
  else
    .ok { offset := offset, payloadLength := payloadLength }

/-- The index that the first packet of a slot is taken to have. -/
def rvFirstPktIdx (place : RvPlacement) : Nat :=
  if place.offset % place.payloadLength ≠ 0 then
    let bytesInPkt := stPktMaxEtherBytes - rfc4175VideoHdrSize
    let pktsInLine := cfg.st20BytesInLine / bytesInPkt + 1
    let pixelInPkt := ceilDiv cfg.ops.width pktsInLine
    line.line1Number * pktsInLine + line.line1Offset / pixelInPkt
  else
    place.offset / place.payloadLength

/-- The index of a later packet: the distance from the base, around the
32-bit circle. -/
def rvLaterPktIdx (seqId : Nat) : Nat :=
  u32 ((seqId : Int) - slot.seqIdBaseU32)

/-- What the slot makes of a packet's sequence number. -/
inductive RvIndex where
  | drop (reason : RvDrop)
  | redundant
  | fresh (pktIdx : Nat) (slot : RvSlot) (reordered : Bool)

/-- Finding the index of a packet and marking it in the bitmap. -/
def rvIndex (place : RvPlacement) (seqId : Nat) (port : MtlSessionPort) (ctrlThread : Bool) : RvIndex :=
  if slot.seqIdGot then
    let pktIdx := rvLaterPktIdx slot seqId
    if cfg.st20FrameBitmapSize * 8 ≤ pktIdx then
      .drop .idxOoBitmap
    else
      let (isSet, bitmap) := mtBitmapTestAndSet slot.frameBitmap pktIdx
      if isSet then
        .redundant
      else
        .fresh pktIdx { slot with frameBitmap := bitmap }
          (decide ((pktIdx : Int) < slot.lastPktIdx port))
  else if ctrlThread then
    let pktIdx := rvFirstPktIdx cfg line place
    if cfg.st20FrameBitmapSize * 8 ≤ pktIdx then
      .drop .idxOoBitmap
    else
      .fresh pktIdx
        { slot with
          seqIdBaseU32 := u32 ((seqId : Int) - pktIdx)
          seqIdGot := true
          frameBitmap := (mtBitmapTestAndSet slot.frameBitmap pktIdx).2 }
        false
  else
    .drop .idx

/-- The frame buffer after the payload was copied. -/
def rvCopy (place : RvPlacement) (content : Nat -> Byte) : Nat -> Byte :=
  if cfg.ops.uframeSize ≠ 0 then
    content
  else if line.crosses cfg then
    store (store content place.offset (line.payload.take line.line1Length))
      ((line.line1Number + 1) * cfg.st20Linesize) (line.payload.drop line.line1Length)
  else
    store content place.offset line.payload

/-- What user frame mode tells the application about the payload. -/
def rvUframeEvents (frame : Nat) : List RvEvent :=
  if cfg.ops.uframeSize = 0 then
    []
  else
    RvEvent.uframePg frame line.line1Number line.line1Offset line.line1Length
        (line.line1Length / cfg.st20Pg.size) (line.payload.take line.line1Length) ::
      match line.extra with
      | none => []
      | some extra =>
        [.uframePg frame extra.rowNumber extra.rowOffset extra.rowLength
          (extra.rowLength / cfg.st20Pg.size) (line.payload.drop line.line1Length)]

/-! ## Slices -/

/-- The search of `rv_slice_add` for a slice that takes a range that does not
continue the main slice; `none` when no slice is free. -/
def rvSlicePark (offset size : Nat) : List RvSlice -> Option (List RvSlice × Bool)
  | [] => none
  | slice :: rest =>
    if slice.size = 0 then
      some (⟨offset, size⟩ :: rest, true)
    else if offset = slice.size + slice.offset then
      some ({ slice with size := slice.size + size } :: rest, false)
    else
      (rvSlicePark offset size rest).map (fun parked => (slice :: parked.1, parked.2))

/-- One pass of the merge loop: the grown main slice, the emptied slices and
the number of merges. -/
def rvSliceMergePass (main : Nat) : List RvSlice -> Nat × List RvSlice × Nat
  | [] => (main, [], 0)
  | slice :: rest =>
    if slice.size ≠ 0 ∧ slice.offset = main then
      let (main, rest, merged) := rvSliceMergePass (main + slice.size) rest
      (main, ⟨0, 0⟩ :: rest, merged + 1)
    else
      let (main, rest, merged) := rvSliceMergePass main rest
      (main, slice :: rest, merged)

/-- The merge loop: passes are repeated until one of them merges nothing.
Every pass but the last empties a slice, so `fuel` need not exceed their
number. -/
def rvSliceMerge : Nat -> Nat -> List RvSlice -> Nat × List RvSlice × Nat
  | 0, main, slices => (main, slices, 0)
  | fuel + 1, main, slices =>
    let (main, slices, merged) := rvSliceMergePass main slices
    if merged = 0 then
      (main, slices, 0)
    else
      let (main, slices, more) := rvSliceMerge fuel main slices
      (main, slices, merged + more)

/-- What `rv_slice_add` does to the slices and the counters. -/
structure SliceAnswer where
  info : RvSliceInfo
  failed : Bool
  merged : Nat
  ready : Bool

/-- `rv_slice_add`. -/
def rvSliceAdd (info : RvSliceInfo) (offset size : Nat) : SliceAnswer :=
  match info.slices with
  | [] => { info := info, failed := false, merged := 0, ready := false }
  | main :: parked =>
    if offset ≠ main.size then
      match rvSlicePark offset size parked with
      | none => { info := info, failed := true, merged := 0, ready := false }
      | some (parked, added) =>
        { info :=
            { info with
              slices := main :: parked
              extraSlices := info.extraSlices + if added then 1 else 0 }
          failed := false
          merged := 0
          ready := false }
    else
      let grown := main.size + size
      let (grown, parked, merged) :=
        if info.extraSlices = 0 then
          (grown, parked, 0)
        else
          rvSliceMerge stVideoRxSliceNum grown parked
      let readySlices := grown / cfg.sliceSize
      let ready := decide (info.readySlices < readySlices)
      { info :=
          { slices := { main with size := grown } :: parked
            readySlices := if ready then readySlices else info.readySlices
            extraSlices := info.extraSlices - merged }
        failed := false
        merged := merged
        ready := ready }

/-- The slice part of the handler: the slot's slices, the counters and the
notification. -/
def rvSlices (frame : Nat) (place : RvPlacement) : RvSlot × RvStats × List RvEvent :=
  match slot.sliceInfo with
  | none => (slot, s.stats, [])
  | some info =>
    let answer := rvSliceAdd s.cfg info place.offset place.payloadLength
    ({ slot with sliceInfo := some answer.info },
      { s.stats with
        pktsSliceFail := s.stats.pktsSliceFail + if answer.failed then 1 else 0
        pktsSliceMerged := s.stats.pktsSliceMerged + answer.merged
        slicesReceived := s.stats.slicesReceived + if answer.ready then 1 else 0 },
      if answer.ready then
        [.sliceReady frame slot.tmstamp (rvSlotGetFrameSize slot)
          (answer.info.readySlices * s.cfg.sliceLines)]
      else
        [])

/-! ## The handler -/

/-- What a handler returns. -/
structure RvResult where
  session : RvSession
  ret : Except Errno Unit
  events : List RvEvent

def rvDrop (reason : RvDrop) : RvResult :=
  { session := { s with stats := s.stats.drop reason }, ret := .error reason.errno, events := [] }

def rvCountRedundant (slotIdx : Nat) (port : MtlSessionPort) : RvSession :=
  { s.setSlot slotIdx ((s.slots slotIdx).countPort port) with
    stats := { s.stats with pktsRedundant := s.stats.pktsRedundant + 1 } }

/-- The user meta data extension. -/
def rvUserMeta (frame : Nat) (line : RvLine) : RvResult :=
  let extraBytes := if line.extra.isSome then rfc4175ExtraHdrSize else 0
  if line.line1Length ≤ s.cfg.userMetaBufferSize ∧
      extraBytes + line.line1Length ≤ line.bodyLength then
    let held := s.frames frame
    { session :=
        { s.setFrame frame
            { held with
              userMeta := line.payload.take line.line1Length
              userMetaDataSize := line.line1Length } with
          stats := { s.stats with pktsUserMeta := s.stats.pktsUserMeta + 1 } }
      ret := .ok ()
      events := [] }
  else
    rvDrop s .userMetaErr

/-- `rv_slot_full_frame`. -/
def rvSlotFullFrame : RvSession × List RvEvent :=
  let (s, events) := rvFrameNotify env env.notifyFull s slotIdx frame
  (s.setSlot slotIdx
    { s.slots slotIdx with frameRecvSize := 0, pktLcoreFrameRecvSize := 0, frame := none }, events)

/-- The slot after a new packet: its high-water mark, received bytes and packet
counts. -/
def RvSlot.received (pktIdx payloadLength : Nat) (port : MtlSessionPort) (ctrlThread : Bool) : RvSlot :=
  { slot.countPort port with
    lastPktIdx := Function.update slot.lastPktIdx port (max (pktIdx : Int) (slot.lastPktIdx port))
    pktLcoreFrameRecvSize := slot.pktLcoreFrameRecvSize + if ctrlThread then payloadLength else 0
    frameRecvSize := slot.frameRecvSize + if ctrlThread then 0 else payloadLength
    pktsReceived := slot.pktsReceived + 1 }

/-- The end of the handler for a packet that is new in its slot: copy, count,
slices, and the full frame. -/
def rvStorePacket (place : RvPlacement) (pktIdx : Nat) (port : MtlSessionPort) (ctrlThread : Bool)
    : RvSession × List RvEvent :=
  let held := s.frames frame
  let s := s.setFrame frame { held with addr := rvCopy s.cfg line place held.addr }
  let slot := slot.received pktIdx place.payloadLength port ctrlThread
  let s := { s with stats := { s.stats with pktsReceived := s.stats.pktsReceived + 1 } }
  let (slot, stats, sliceEvents) := rvSlices s slot frame place
  let s := { s.setSlot slotIdx slot with stats := stats }
  let events := rvUframeEvents s.cfg line frame ++ sliceEvents
  if s.cfg.st20FrameSize ≤ rvSlotGetFrameSize slot then
    let (s, notified) := rvSlotFullFrame env s slotIdx frame
    (s, events ++ notified)
  else
    (s, events)

/-- A backward arrival is counted for its port. -/
def rvCountReordered (reordered : Bool) : RvSession :=
  let values := s.stats.port port
  if reordered then
    s.withStats (s.stats.setPort port
      { values with reorderedPackets := values.reorderedPackets + 1 })
  else
    s

/-- The handler once the slot and its frame are known. -/
def rvHandleInSlot (ctrlThread : Bool) : RvResult :=
  let line := rvReadLine mbuf.pkt
  if line.userMeta then
    rvUserMeta s frame line
  else
    let s := s.setSlot slotIdx { s.slots slotIdx with secondField := line.secondField }
    match rvPlace s.cfg line with
    | .error reason => rvDrop s reason
    | .ok place =>
      match rvIndex s.cfg (s.slots slotIdx) line place mbuf.pkt.seqId port ctrlThread with
      | .drop reason => rvDrop s reason
      | .redundant =>
        { session := rvCountRedundant s slotIdx port, ret := .ok (), events := [] }
      | .fresh pktIdx slot reordered =>
        let (s, events) := rvStorePacket env (rvCountReordered s port reordered) slotIdx frame
          slot line place pktIdx port ctrlThread
        { session := s, ret := .ok (), events := events }

def rvCountRetransmit : RvSession :=
  if line.retransmit then
    s.withStats { s.stats with pktsRetransmit := s.stats.pktsRetransmit + 1 }
  else
    s

/-- `rv_handle_frame_pkt`. -/
def rvHandleFramePkt (ctrlThread : Bool) : RvResult :=
  let s := rvCountRetransmit s (rvReadLine mbuf.pkt)
  match rvHeaderCheck s.cfg mbuf with
  | some reason => rvDrop s reason
  | none =>
    let answer := rvSlotByTmstamp env s mbuf.pkt.tmstamp
    let s := answer.session
    match answer.slot with
    | none =>
      { rvDrop (s.setRedundant port 0) .noSlot with events := answer.events }
    | some slotIdx =>
      match (s.slots slotIdx).frame with
      | none =>
        -- The timestamp is known and its frame is gone.
        { session := (rvCountRedundant s slotIdx port).setRedundant port
            (s.redundantErrorCnt port + 1)
          ret := .ok ()
          events := answer.events }
      | some frame =>
        let result := rvHandleInSlot env (s.setRedundant port 0) slotIdx frame mbuf port
          ctrlThread
        { result with events := answer.events ++ result.events }

end MediaTransport.Video
