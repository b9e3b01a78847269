import MediaTransport.Video.St22Packet

namespace MediaTransport.Video

open Library Util

/-!
# Handling a packet with a split header

`rv_handle_hdr_split_pkt` in the order of the source.  The network card writes
the payload of every packet into the next cell of one large buffer, so a frame
is a range of that buffer and usually nothing is copied.  The frames of the
pool hold addresses; their contents are read from memory when they are handed
over.
-/

/-! ## Data -/

/-- `struct st_rx_video_hdr_split_info`; addresses are positions in memory. -/
structure HdrSplitInfo where
  frames : Nat
  framesSize : Nat
  mbufAllocIdx : Nat
  mbufsPerFrame : Nat
  mbufsTotal : Nat
  mbufPoolReady : Bool
  /-- The base of the frame that arrives now. -/
  curFrameAddr : Nat
  curFrameMbufIdx : Nat

/-- The counters that only this handler touches. -/
structure HdrSplitStats where
  notBpm : Nat
  mismatchHdrSplitFrame : Nat
  copyHdrSplit : Nat
  wrongPayloadHdrSplit : Nat
  deriving DecidableEq, Repr

/-- The session of the other handlers with what header split adds. -/
structure RvHdrSplitSession where
  rv : RvSession
  info : MtlSessionPort -> HdrSplitInfo
  /-- `addr` of the frames of the pool. -/
  frameAddr : Nat -> Nat
  memory : Nat -> Byte
  splitStats : HdrSplitStats

/-- A received packet: its headers, and where its bytes lie. -/
structure HdrSplitMbuf where
  pkt : Rfc4175Packet
  /-- The position behind the fixed header. -/
  bodyAddr : Nat
  /-- The data of `mbuf->next`, if it holds any. -/
  next : Option Nat

/-- `payload` of the handler. -/
def HdrSplitMbuf.payloadAddr (mbuf : HdrSplitMbuf) : Nat :=
  match mbuf.next with
  | some addr => addr
  | none => mbuf.bodyAddr + if mbuf.pkt.extraRtp.isSome then rfc4175ExtraHdrSize else 0

/-- The answers while one packet is handled, with the address of the buffer
that `query_ext_frame` gives. -/
structure HdrSplitEnv extends RvEnv where
  extAddr : Nat

variable (env : HdrSplitEnv) (cfg : RvConfig) (s : RvHdrSplitSession)

/-- What the handler returns. -/
structure HdrSplitResult where
  session : RvHdrSplitSession
  ret : Except Errno Unit
  events : List RvEvent

namespace RvHdrSplitSession

/-- The session as the slot functions see it: every frame shows the memory
behind its address. -/
def view : RvSession :=
  { s.rv with
    frames := fun idx =>
      { s.rv.frames idx with addr := fun position => s.memory (s.frameAddr idx + position) } }

def withRv (rv : RvSession) : RvHdrSplitSession := { s with rv := rv }

/-- The packet is dropped for one of the reasons all handlers share. -/
def drop (s : RvHdrSplitSession) (reason : RvDrop) : HdrSplitResult :=
  { session := s.withRv { s.rv with stats := s.rv.stats.drop reason }
    ret := .error reason.errno
    events := [] }

def setFrameAddr (frame addr : Nat) : RvHdrSplitSession :=
  { s with frameAddr := Function.update s.frameAddr frame addr }

def setInfo (port : MtlSessionPort) (info : HdrSplitInfo) : RvHdrSplitSession :=
  { s with info := Function.update s.info port info }

end RvHdrSplitSession

/-! ## The checks -/

variable (slotIdx frame : Nat) (mbuf : HdrSplitMbuf) (port : MtlSessionPort)

/-- The checks before the slot is looked up. -/
def rvHdrSplitHeaderCheck (pkt : Rfc4175Packet) : Option RvDrop :=
  if cfg.ops.payloadType ≠ 0 ∧ pkt.payloadType ≠ cfg.ops.payloadType then
    some .wrongPt
  else if cfg.ops.ssrc ≠ 0 ∧ pkt.ssrc ≠ cfg.ops.ssrc then
    some .wrongSsrc
  else
    none

/-- Finding the index of a packet and marking it in the bitmap.  Only the
packet that starts the first line can be the first of a slot. -/
def rvHdrSplitIndex (slot : RvSlot) (pkt : Rfc4175Packet) (port : MtlSessionPort) : RvIndex :=
  if slot.seqIdGot then
    let pktIdx := rvLaterPktIdx slot pkt.seqId
    if cfg.st20FrameBitmapSize * 8 ≤ pktIdx then
      .drop .idxOoBitmap
    else
      let (isSet, bitmap) := mtBitmapTestAndSet slot.frameBitmap pktIdx
      if isSet then
        .redundant
      else
        .fresh pktIdx { slot with frameBitmap := bitmap }
          (decide ((pktIdx : Int) < slot.lastPktIdx port))
  else if clearBit topBit pkt.rowNumber = 0 ∧ clearBit topBit pkt.rowOffset = 0 then
    .fresh 0
      { slot with
        seqIdBaseU32 := pkt.seqId
        seqIdGot := true
        frameBitmap := (mtBitmapTestAndSet slot.frameBitmap 0).2 }
      false
  else
    .drop .idx

/-- `offset` and `payload_length`; the flag bits of the length are not taken
off. -/
def rvHdrSplitPlacement (pkt : Rfc4175Packet) : RvPlacement :=
  let pixel := u32 (clearBit topBit pkt.rowNumber * cfg.ops.width +
    clearBit topBit pkt.rowOffset : Nat)
  { offset := u32 (columnOf cfg.st20Pg pixel : Nat)
    payloadLength := pkt.rowLength +
      match pkt.extraRtp with
      | none => 0
      | some extra => extra.rowLength }

/-! ## Where the payload lies -/

/-- What the handler makes of the position of a payload. -/
inductive HdrSplitWhere where
  /-- The first packet says where the frame starts. -/
  | base
  | inPlace
  /-- The last packet may be written elsewhere and is copied. -/
  | copy
  | lost
  deriving DecidableEq, Repr

/-- `RTE_PKTMBUF_HEADROOM`. -/
def rtePktmbufHeadroom : Nat := 128

def HdrSplitInfo.expectPayload (info : HdrSplitInfo) (pktIdx : Nat) : Nat :=
  info.curFrameAddr + pktIdx * stVideoBpmSize

def rvHdrSplitWhere (info : HdrSplitInfo) (pktIdx payload : Nat) (marker : Bool) :
    HdrSplitWhere :=
  if pktIdx = 0 then
    .base
  else if info.expectPayload pktIdx = payload then
    .inPlace
  else if marker && decide (info.expectPayload pktIdx < info.frames + info.framesSize) then
    .copy
  else
    .lost

/-- The first packet of a frame moves the base; a base between two frames of
the buffer is counted. -/
def rvHdrSplitRebase (payload : Nat) : RvHdrSplitSession :=
  let info := s.info port
  let mbufIdx := u32 (((payload : Int) - rtePktmbufHeadroom - info.frames).tdiv stVideoBpmSize)
  let moved := s.setInfo port { info with curFrameAddr := payload, curFrameMbufIdx := mbufIdx }
  if mbufIdx % info.mbufsPerFrame ≠ 0 then
    { moved with
      splitStats :=
        { moved.splitStats with
          mismatchHdrSplitFrame := moved.splitStats.mismatchHdrSplitFrame + 1 } }
  else
    moved

def rvHdrSplitCopy (frame payload : Nat) (place : RvPlacement) : RvHdrSplitSession :=
  let bytes := (List.range place.payloadLength).map (fun position => s.memory (payload + position))
  { s with
    memory := store s.memory (s.frameAddr frame + place.offset) bytes
    splitStats := { s.splitStats with copyHdrSplit := s.splitStats.copyHdrSplit + 1 } }

/-! ## The handler -/

/-- The end of the handler for a payload that lies in its frame: count,
slices, and the full frame. -/
def rvHdrSplitStorePacket (place : RvPlacement) (port : MtlSessionPort) : HdrSplitResult :=
  let slot := (s.rv.slots slotIdx).gained place.payloadLength port
  let rv := s.view.withStats { s.rv.stats with pktsReceived := s.rv.stats.pktsReceived + 1 }
  let (slot, stats, events) := rvSlices rv slot frame place
  let rv := (rv.setSlot slotIdx slot).withStats stats
  if rv.cfg.st20FrameSize ≤ rvSlotGetFrameSize slot then
    let (rv, notified) := rvSlotFullFrame env.toRvEnv rv slotIdx frame
    { session := s.withRv rv, ret := .ok (), events := events ++ notified }
  else
    { session := s.withRv rv, ret := .ok (), events := events }

/-- The handler once the packet has its index. -/
def rvHdrSplitPlacePacket (pktIdx : Nat) (port : MtlSessionPort) : HdrSplitResult :=
  let place := rvHdrSplitPlacement s.rv.cfg mbuf.pkt
  if s.rv.cfg.st20FrameSize < place.offset + place.payloadLength then
    s.drop .offset
  else if place.payloadLength ≠ stVideoBpmSize ∧ mbuf.pkt.marker = false then
    { session :=
        { s with splitStats := { s.splitStats with notBpm := s.splitStats.notBpm + 1 } }
      ret := .error .io
      events := [] }
  else
    let payload := mbuf.payloadAddr
    match rvHdrSplitWhere (s.info port) pktIdx payload mbuf.pkt.marker with
    | .base =>
      rvHdrSplitStorePacket env (rvHdrSplitRebase s port payload) slotIdx frame place port
    | .inPlace => rvHdrSplitStorePacket env s slotIdx frame place port
    | .copy =>
      rvHdrSplitStorePacket env (rvHdrSplitCopy s frame payload place) slotIdx frame place port
    | .lost =>
      -- The card is still writing there.
      { session :=
          { s with
            splitStats :=
              { s.splitStats with
                wrongPayloadHdrSplit := s.splitStats.wrongPayloadHdrSplit + 1 } }
        ret := .error .io
        events := [] }

/-- The handler once the slot and its frame are known. -/
def rvHdrSplitHandleInSlot : HdrSplitResult :=
  let slot := { s.rv.slots slotIdx with secondField := hasBit topBit mbuf.pkt.rowNumber }
  let s := s.withRv (s.rv.setSlot slotIdx slot)
  match rvHdrSplitIndex s.rv.cfg slot mbuf.pkt port with
  | .drop reason => s.drop reason
  | .redundant =>
    { session := s.withRv (rvCountRedundant s.rv slotIdx port), ret := .ok (), events := [] }
  | .fresh pktIdx slot reordered =>
    let rv := (rvCountReordered s.rv port reordered).setSlot slotIdx (slot.advance pktIdx port)
    rvHdrSplitPlacePacket env (s.withRv rv) slotIdx frame mbuf pktIdx port

/-- The address of a frame that a slot just got: the payload of the packet, or
the buffer of the application. -/
def rvHdrSplitNewFrame (existTs : Bool) (frame payload : Nat) : RvHdrSplitSession :=
  if existTs then
    s
  else if s.rv.cfg.ops.queryExtFrame then
    s.setFrameAddr frame env.extAddr
  else
    s.setFrameAddr frame payload

/-- `rv_handle_hdr_split_pkt`. -/
def rvHandleHdrSplitPkt : HdrSplitResult :=
  match rvHdrSplitHeaderCheck s.rv.cfg mbuf.pkt with
  | some reason => s.drop reason
  | none =>
    if (s.info port).mbufPoolReady = false then
      { s.drop .noSlot with ret := .error .inval }
    else
      let answer := rvSlotByTmstamp env.toRvEnv s.view mbuf.pkt.tmstamp
      let rv := answer.session
      match answer.slot with
      | none =>
        { (s.withRv (rv.setRedundant port 0)).drop .noSlot with events := answer.events }
      | some slotIdx =>
        match (rv.slots slotIdx).frame with
        | none =>
          { session := s.withRv ((rvCountRedundant rv slotIdx port).setRedundant port
              (rv.redundantErrorCnt port + 1))
            ret := .ok ()
            events := answer.events }
        | some frame =>
          let s := rvHdrSplitNewFrame env (s.withRv (rv.setRedundant port 0)) answer.existTs
            frame mbuf.payloadAddr
          let result := rvHdrSplitHandleInSlot env s slotIdx frame mbuf port
          { result with events := answer.events ++ result.events }

end MediaTransport.Video
