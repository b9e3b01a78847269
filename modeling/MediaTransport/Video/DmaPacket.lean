import MediaTransport.Video.FramePacket

namespace MediaTransport.Video

open Library

/-!
# Handling a packet of ST 2110-20 with a DMA device

A session with a DMA device lets the device copy the larger payloads.  The
handler is the same `rv_handle_frame_pkt`; here are its branches for such a
session.  A frame is handed over only while no copy is in flight, so the last
copy that the device reports may complete it, and a new timestamp first waits
for the copies of the frame before.  What the device takes and reports is
given by `DmaEnv`; the bytes of a copy are taken to land when it is reported.
-/

/-! ## Data -/

/-- A copy that the device has not reported. -/
structure RvDmaCopy where
  frame : Nat
  offset : Nat
  payload : List Byte

/-- The session with what its DMA device adds. -/
structure RvDmaSession where
  rv : RvSession
  /-- The copies in flight, oldest first. -/
  inFlight : List RvDmaCopy
  dmaSlot : Option Nat
  dmaCopy : Bool
  dmaFlushFailed : Bool
  dmaFlushFailTmstamp : Nat
  hasPktLcore : Bool
  pktsDma : Nat
  dmaFlushTimeouts : Nat
  dmaPreviousBusy : Nat

/-- What the device answers while one packet is handled, with the answers of
the application and the port. -/
structure DmaEnv extends RvEnv where
  /-- The device is full, the range crosses a page, or the copy fails. -/
  refuses : Bool
  /-- The copies reported at the polls of a flush; there is at least one poll,
  and the last one is followed by the timeout. -/
  firstReport : Nat
  laterReports : List Nat
  /-- The answer to a notification during a flush. -/
  notifyFlushed : Int

variable (env : DmaEnv) (s : RvDmaSession)

structure RvDmaResult where
  session : RvDmaSession
  ret : Except Errno Unit
  events : List RvEvent

namespace RvDmaSession

def withRv (rv : RvSession) : RvDmaSession := { s with rv := rv }

/-- The packet is dropped for one of the reasons all handlers share. -/
def drop (reason : RvDrop) : RvDmaResult :=
  let dropped := rvDrop s.rv reason
  { session := s.withRv dropped.session, ret := dropped.ret, events := dropped.events }

end RvDmaSession

/-! ## The device's reports -/

variable (tmstamp : Nat)

/-- A copy is reported: its bytes are in the frame, and a session of slices
adds them to those of `dma_slot`. -/
def rvDmaLand (copy : RvDmaCopy) : RvDmaSession × List RvEvent :=
  let held := s.rv.frames copy.frame
  let rv := s.rv.setFrame copy.frame { held with addr := store held.addr copy.offset copy.payload }
  match s.dmaSlot with
  | none => (s.withRv rv, [])
  | some idx =>
    let slot := rv.slots idx
    let (slot, stats, events) := rvSlices rv slot (slot.frame.getD copy.frame)
      { offset := copy.offset, payloadLength := copy.payload.length }
    (s.withRv ((rv.setSlot idx slot).withStats stats), events)

/-- `mt_dma_drop_mbuf` with the callback of the session. -/
def rvDmaDropMbuf : Nat -> RvDmaSession -> RvDmaSession × List RvEvent
  | 0, s => (s, [])
  | nbMbuf + 1, s =>
    match s.inFlight with
    | [] => (s, [])
    | copy :: rest =>
      let (s, events) := rvDmaLand { s with inFlight := rest } copy
      let (s, more) := rvDmaDropMbuf nbMbuf s
      (s, events ++ more)

/-- The frame of `dma_slot` is handed over if all its bytes are there. -/
def rvDmaComplete (env : RvEnv) (s : RvDmaSession) : RvDmaSession × List RvEvent :=
  match s.dmaSlot with
  | none => (s, [])
  | some idx =>
    match (s.rv.slots idx).frame with
    | none => (s, [])
    | some frame =>
      if s.rv.cfg.st20FrameSize ≤ rvSlotGetFrameSize (s.rv.slots idx) then
        let (rv, events) := rvSlotFullFrame env s.rv idx frame
        ({ s with rv := rv, dmaSlot := none }, events)
      else
        (s, [])

/-- `rv_dma_dequeue`. -/
def rvDmaDequeue (env : RvEnv) (nbDq : Nat) (s : RvDmaSession) : RvDmaSession × List RvEvent :=
  let (s, dropped) := rvDmaDropMbuf nbDq s
  if s.inFlight.isEmpty then
    let (s, events) := rvDmaComplete env { s with dmaFlushFailed := false }
    (s, dropped ++ events)
  else
    (s, dropped)

/-! ## The flush -/

/-- What a flush leaves, and whether nothing is in flight any more. -/
structure DmaFlushed where
  session : RvDmaSession
  events : List RvEvent
  emptied : Bool

/-- The polls of a flush, until nothing is in flight or the time is up. -/
def rvDmaPoll (env : RvEnv) : List Nat -> RvDmaSession -> DmaFlushed
  | [], s => { session := s, events := [], emptied := false }
  | nbDq :: rest, s =>
    let (s, events) := rvDmaDequeue env nbDq s
    if s.inFlight.isEmpty then
      { session := s, events := events, emptied := true }
    else
      let later := rvDmaPoll env rest s
      { later with events := events ++ later.events }

/-- `rv_dma_flush`. -/
def rvDmaFlush : DmaFlushed :=
  if s.hasPktLcore then
    { session := s, events := [], emptied := false }
  else if s.dmaFlushFailed && !mtSeq32Greater tmstamp s.dmaFlushFailTmstamp then
    { session := s, events := [], emptied := false }
  else
    let polled := rvDmaPoll { env.toRvEnv with notifyFull := env.notifyFlushed }
      (env.firstReport :: env.laterReports) { s with dmaCopy := false }
    if polled.emptied then
      polled
    else
      { polled with
        session :=
          { polled.session with
            dmaFlushTimeouts := polled.session.dmaFlushTimeouts + 1
            dmaFlushFailed := true
            dmaFlushFailTmstamp := tmstamp } }

/-- The wait for the frame before, with the count of the times it was in vain. -/
def rvDmaReady : DmaFlushed :=
  if s.inFlight.isEmpty then
    { session := s, events := [], emptied := true }
  else
    let flushed := rvDmaFlush env s tmstamp
    if flushed.emptied then
      flushed
    else
      { flushed with
        session :=
          { flushed.session with dmaPreviousBusy := flushed.session.dmaPreviousBusy + 1 } }

/-! ## The slot of a timestamp -/

structure DmaSlotAnswer where
  session : RvDmaSession
  slot : Option Nat
  existTs : Bool
  events : List RvEvent

/-- `rv_slot_by_tmstamp`. -/
def rvDmaSlotByTmstamp : DmaSlotAnswer :=
  match rvFindSlot s.rv tmstamp with
  | some idx => { session := s, slot := some idx, existTs := true, events := [] }
  | none =>
    if rvInThePast s.rv tmstamp && !rvGuardGivesWay s.rv then
      { session := s, slot := none, existTs := false, events := [] }
    else
      let ready := rvDmaReady env s tmstamp
      let s := ready.session
      if ready.emptied then
        let idx := rvNextSlot s.rv
        let (rv, events) := rvReuseSlot env.toRvEnv s.rv idx tmstamp
        let (rv, assigned) := rvAssignFrame env.toRvEnv rv idx
        { session := { s with rv := rv, dmaSlot := if assigned then some idx else s.dmaSlot }
          slot := if assigned then some idx else none
          existTs := false
          events := ready.events ++ events }
      else
        { session := s, slot := none, existTs := false, events := ready.events }

/-! ## The handler -/

/-- `ST_RX_VIDEO_DMA_MIN_SIZE`. -/
def stRxVideoDmaMinSize : Nat := 1024

def rvDmaTakes (cfg : RvConfig) (line : RvLine) (place : RvPlacement) : Bool :=
  decide (cfg.ops.uframeSize = 0) && !line.crosses cfg &&
    decide (stRxVideoDmaMinSize < place.payloadLength) && !env.refuses

/-- The payload goes to the device or is copied at once. -/
def rvDmaCopy (takes : Bool) (frame : Nat) (line : RvLine) (place : RvPlacement) : RvDmaSession :=
  if takes then
    { s with
      inFlight := s.inFlight ++ [⟨frame, place.offset, line.payload⟩]
      dmaCopy := true
      pktsDma := s.pktsDma + 1 }
  else
    let held := s.rv.frames frame
    s.withRv (s.rv.setFrame frame { held with addr := rvCopy s.rv.cfg line place held.addr })

/-- The slices of a payload that the device copies are added when the copy is
reported. -/
def rvDmaSlices (rv : RvSession) (takes : Bool) (slot : RvSlot) (frame : Nat)
    (place : RvPlacement) : RvSlot × RvStats × List RvEvent :=
  if takes then (slot, rv.stats, []) else rvSlices rv slot frame place

/-- The end of the handler for a packet that is new in its slot. -/
def rvDmaStorePacket (slotIdx frame : Nat) (slot : RvSlot) (line : RvLine) (place : RvPlacement)
    (pktIdx : Nat) (port : MtlSessionPort) (ctrlThread : Bool) : RvDmaSession × List RvEvent :=
  let takes := rvDmaTakes env s.rv.cfg line place
  let s := rvDmaCopy s takes frame line place
  let slot := slot.received pktIdx place.payloadLength port ctrlThread
  let rv := s.rv.withStats { s.rv.stats with pktsReceived := s.rv.stats.pktsReceived + 1 }
  let (slot, stats, sliceEvents) := rvDmaSlices rv takes slot frame place
  let rv := (rv.setSlot slotIdx slot).withStats stats
  let events := rvUframeEvents rv.cfg line frame ++ sliceEvents
  if rv.cfg.st20FrameSize ≤ rvSlotGetFrameSize slot ∧ s.inFlight = [] then
    let (rv, notified) := rvSlotFullFrame env.toRvEnv rv slotIdx frame
    (s.withRv rv, events ++ notified)
  else
    (s.withRv rv, events)

/-- The handler once the slot and its frame are known. -/
def rvDmaHandleInSlot (slotIdx frame : Nat) (mbuf : RvMbuf) (port : MtlSessionPort) (ctrlThread : Bool)
    : RvDmaResult :=
  let line := rvReadLine mbuf.pkt
  if line.userMeta then
    let result := rvUserMeta s.rv frame line
    { session := s.withRv result.session, ret := result.ret, events := result.events }
  else
    let s := s.withRv
      (s.rv.setSlot slotIdx { s.rv.slots slotIdx with secondField := line.secondField })
    match rvPlace s.rv.cfg line with
    | .error reason => s.drop reason
    | .ok place =>
      match rvIndex s.rv.cfg (s.rv.slots slotIdx) line place mbuf.pkt.seqId port ctrlThread with
      | .drop reason => s.drop reason
      | .redundant =>
        { session := s.withRv (rvCountRedundant s.rv slotIdx port)
          ret := .ok ()
          events := [] }
      | .fresh pktIdx slot reordered =>
        let s := s.withRv (rvCountReordered s.rv port reordered)
        let (s, events) := rvDmaStorePacket env s slotIdx frame slot line place pktIdx port
          ctrlThread
        { session := s, ret := .ok (), events := events }

/-- `rv_handle_frame_pkt` of a session with a DMA device. -/
def rvDmaHandleFramePkt (mbuf : RvMbuf) (port : MtlSessionPort) (ctrlThread : Bool) : RvDmaResult :=
  let s := s.withRv (rvCountRetransmit s.rv (rvReadLine mbuf.pkt))
  match rvHeaderCheck s.rv.cfg mbuf with
  | some reason => s.drop reason
  | none =>
    let answer := rvDmaSlotByTmstamp env s mbuf.pkt.tmstamp
    let s := answer.session
    let cleared := s.withRv (s.rv.setRedundant port 0)
    match answer.slot with
    | none => { cleared.drop .noSlot with events := answer.events }
    | some slotIdx =>
      match (s.rv.slots slotIdx).frame with
      | none =>
        -- The timestamp is known and its frame is gone.
        { session := s.withRv ((rvCountRedundant s.rv slotIdx port).setRedundant port
            (s.rv.redundantErrorCnt port + 1))
          ret := .ok ()
          events := answer.events }
      | some frame =>
        let result := rvDmaHandleInSlot env cleared slotIdx frame mbuf port ctrlThread
        { result with events := answer.events ++ result.events }

/-- `rv_session_reset` of a session with a DMA device. -/
def rvDmaSessionReset : RvDmaSession :=
  { s with
    rv := rvSessionReset s.rv
    dmaSlot := none
    dmaCopy := false
    dmaFlushFailed := false
    dmaFlushFailTmstamp := 0
    pktsDma := 0
    dmaFlushTimeouts := 0
    dmaPreviousBusy := 0 }

end MediaTransport.Video
