import MediaTransport.Video.PacketLedger
import MediaTransport.Video.RedundantGuard
import MediaTransport.Video.Storing

namespace MediaTransport.Video

open Library

/-!
# Where the packets of a header split frame lie

With a split header a frame is handed over as an address, and its packets must already lie behind
that address.  The handler takes the address from the packet that opens the slot, and finds out
from a base kept for the port whether a later payload is in place.  Here every packet that is
counted into a frame is recorded with its place, and the records are compared with the address of
the frame when it is handed over.
-/

/-! ## The packets of a frame -/

def rvStartsFrame (pkt : Rfc4175Packet) : Bool :=
  decide (clearBit topBit pkt.rowNumber = 0) && decide (clearBit topBit pkt.rowOffset = 0)

/-- A packet that was counted into a frame. -/
structure SplitCounted where
  first : Bool
  /-- Where the card wrote it. -/
  payload : Nat
  /-- Its own place in a frame. -/
  offset : Nat
  /-- Where it lies after the handler is done with it. -/
  lies : Nat
  deriving DecidableEq, Repr

/-- The session, and what was counted into each frame of the pool since a slot took it. -/
structure SplitLedger where
  session : RvHdrSplitSession
  counted : Nat -> List SplitCounted

/-- A packet is handled, the application gives frames back, or the card writes payloads. -/
inductive SplitInput where
  | packet (env : HdrSplitEnv) (mbuf : HdrSplitMbuf) (port : MtlSessionPort)
  | returned (frames : List Nat)
  | written (memory : Nat -> Byte)

/-- The slot lookup of a packet that passes the checks before it. -/
def splitLookup (env : HdrSplitEnv) (s : RvHdrSplitSession) (mbuf : HdrSplitMbuf)
    (port : MtlSessionPort) : Option SlotAnswer :=
  match rvHdrSplitHeaderCheck s.rv.cfg mbuf.pkt with
  | some _ => none
  | none =>
    if (s.info port).mbufPoolReady = false then
      none
    else
      some (rvSlotByTmstamp env.toRvEnv s.view mbuf.pkt.tmstamp)

def SlotAnswer.held (answer : SlotAnswer) : Option Nat :=
  answer.slot.bind fun idx => (answer.session.slots idx).frame

/-- The record of a packet, if it was counted.  A copied packet lies in the frame. -/
def splitRecord (before after : RvHdrSplitSession) (frame : Nat) (mbuf : HdrSplitMbuf) :
    List SplitCounted :=
  if after.rv.stats.pktsReceived = before.rv.stats.pktsReceived then
    []
  else
    let offset := (rvHdrSplitPlacement before.rv.cfg mbuf.pkt).offset
    [{ first := rvStartsFrame mbuf.pkt
       payload := mbuf.payloadAddr
       offset := offset
       lies :=
        if after.splitStats.copyHdrSplit = before.splitStats.copyHdrSplit then
          mbuf.payloadAddr
        else
          after.frameAddr frame + offset }]

/-- A frame that a slot just took starts without records. -/
def splitCount (env : HdrSplitEnv) (s : SplitLedger) (mbuf : HdrSplitMbuf) (port : MtlSessionPort) :
    Nat -> List SplitCounted :=
  match (splitLookup env s.session mbuf port).bind fun answer =>
      answer.held.map fun frame => (frame, answer.existTs) with
  | none => s.counted
  | some (frame, existTs) =>
    Function.update s.counted frame
      ((if existTs then s.counted frame else []) ++
        splitRecord s.session (rvHandleHdrSplitPkt env s.session mbuf port).session frame mbuf)

def splitStep (s : SplitLedger) : SplitInput -> SplitLedger
  | .packet env mbuf port =>
    { session := (rvHandleHdrSplitPkt env s.session mbuf port).session
      counted := splitCount env s mbuf port }
  | .returned frames => { s with session := s.session.withRv (rvReturnFrames s.session.rv frames) }
  | .written memory => { s with session := { s.session with memory := memory } }

/-- A session after `rv_attach`. -/
def splitInit (cfg : RvConfig) (info : MtlSessionPort -> HdrSplitInfo) : SplitLedger :=
  { session :=
      { rv := rvInit cfg, info := info, frameAddr := fun _ => 0, memory := fun _ => 0
        splitStats := ⟨0, 0, 0, 0⟩ }
    counted := fun _ => [] }

/-! ## What is promised -/

def RvEvent.completeFrame : RvEvent -> Option Nat
  | .frameReady frame info _ _ => if info.status = .corrupted then none else some frame
  | _ => none

/-- The packet fits a frame at the address. -/
structure SplitCounted.Fits (packet : SplitCounted) (addr : Nat) : Prop where
  base : packet.first = true -> packet.payload = addr
  lies : packet.lies = addr + packet.offset

/-- The frame has its packet 0 and starts with it, and its packets lie at their offsets. -/
structure SplitLedger.Whole (s : SplitLedger) (frame : Nat) : Prop where
  first : exists packet, packet ∈ s.counted frame ∧ packet.first = true
  fits : ∀ packet ∈ s.counted frame, packet.Fits (s.session.frameAddr frame)

/-- The packets that were rejected for their offset, their size and their position. -/
def RvHdrSplitSession.rejections (s : RvHdrSplitSession) : Nat × Nat × Nat :=
  (s.rv.stats.dropped .offset, s.splitStats.notBpm, s.splitStats.wrongPayloadHdrSplit)

def RvSlot.marks (slot : RvSlot) : List Byte × Bool × Nat :=
  (slot.frameBitmap, slot.seqIdGot, slot.seqIdBaseU32)

/-- What is promised of a packet: complete frames are whole, those of the lookup as they were before
the packet; a copy is made; and a rejected packet leaves no mark in its slot. -/
structure SplitPacketRight (s : SplitLedger) (env : HdrSplitEnv) (mbuf : HdrSplitMbuf)
    (port : MtlSessionPort) : Prop where
  recycled : forall answer, splitLookup env s.session mbuf port = some answer ->
    ∀ event ∈ answer.events, forall frame, event.completeFrame = some frame ->
      s.Whole frame
  delivered : forall event,
    event ∈ (rvHandleHdrSplitPkt env s.session mbuf port).events.drop
      (((splitLookup env s.session mbuf port).map fun answer => answer.events.length).getD 0) ->
    forall frame, event.completeFrame = some frame ->
      (splitStep s (.packet env mbuf port)).Whole frame
  copied : forall answer frame, splitLookup env s.session mbuf port = some answer ->
    answer.held = some frame ->
    (rvHandleHdrSplitPkt env s.session mbuf port).session.splitStats.copyHdrSplit ≠
      s.session.splitStats.copyHdrSplit ->
    let place := rvHdrSplitPlacement s.session.rv.cfg mbuf.pkt
    let after := (rvHandleHdrSplitPkt env s.session mbuf port).session
    ∀ position < place.payloadLength,
      after.memory (after.frameAddr frame + place.offset + position) =
        s.session.memory (mbuf.payloadAddr + position)
  rejected : forall answer slotIdx, splitLookup env s.session mbuf port = some answer ->
    answer.slot = some slotIdx ->
    (rvHandleHdrSplitPkt env s.session mbuf port).session.rejections ≠ s.session.rejections ->
    ((rvHandleHdrSplitPkt env s.session mbuf port).session.rv.slots slotIdx).marks =
      (answer.session.slots slotIdx).marks

def SplitInput.Right (s : SplitLedger) : SplitInput -> Prop
  | .packet env mbuf port => SplitPacketRight s env mbuf port
  | _ => True

/-! ## The condition -/

/-- The packet with the given index passes the checks of offset, size and position, and is in place for
the frame at the address: a packet 0 lies there, and for the others found in place that is the base of the
port, from which they lie as far as their bytes do in the frame.  A copied packet is not one of byte 0. -/
def rvHdrSplitInPlace (cfg : RvConfig) (info : HdrSplitInfo) (addr : Nat) (mbuf : HdrSplitMbuf)
    (pktIdx : Nat) : Bool :=
  let place := rvHdrSplitPlacement cfg mbuf.pkt
  decide (place.offset + place.payloadLength ≤ cfg.st20FrameSize) &&
  (decide (place.payloadLength = stVideoBpmSize) || mbuf.pkt.marker) &&
  match rvHdrSplitWhere info pktIdx mbuf.payloadAddr mbuf.pkt.marker with
  | .base => decide (mbuf.payloadAddr = addr ∧ place.offset = 0)
  | .inPlace => decide (info.curFrameAddr = addr ∧ place.offset = pktIdx * stVideoBpmSize)
  | .copy => !rvStartsFrame mbuf.pkt
  | .lost => false

def rvHdrSplitFits (cfg : RvConfig) (info : HdrSplitInfo) (addr : Nat) (slot : RvSlot)
    (mbuf : HdrSplitMbuf) (port : MtlSessionPort) : Bool :=
  match rvHdrSplitIndex cfg slot mbuf.pkt port with
  | .fresh pktIdx _ _ => rvHdrSplitInPlace cfg info addr mbuf pktIdx
  | _ => true

def rvHdrSplitTakes (env : HdrSplitEnv) (s : RvHdrSplitSession) : Bool :=
  (rvGetFrame { s.rv with frames := retiredFrames env.toRvEnv s.view (rvNextSlot s.rv) }).isSome &&
    (!s.rv.cfg.ops.queryExtFrame || (rvUsableExt s.rv.cfg env.queryExt).isSome)

/-- The packet fits the frame of its slot, or the frame that it gives its address when it opens a
slot. -/
def rvHdrSplitCareful (env : HdrSplitEnv) (s : RvHdrSplitSession) (mbuf : HdrSplitMbuf)
    (port : MtlSessionPort) : Bool :=
  match rvHdrSplitHeaderCheck s.rv.cfg mbuf.pkt, (s.info port).mbufPoolReady with
  | none, true =>
    match rvFindSlot s.rv mbuf.pkt.tmstamp with
    | some idx =>
      match (s.rv.slots idx).frame with
      | some frame =>
        rvHdrSplitFits s.rv.cfg (s.info port) (s.frameAddr frame) (s.rv.slots idx) mbuf port
      | none => true
    | none =>
      !(rvOpens s.rv mbuf.pkt.tmstamp && rvHdrSplitTakes env s) ||
        rvHdrSplitFits s.rv.cfg (s.info port)
          (if s.rv.cfg.ops.queryExtFrame then env.extAddr else mbuf.payloadAddr)
          ((s.rv.slots (rvNextSlot s.rv)).restart mbuf.pkt.tmstamp) mbuf port
  | _, _ => true

def SplitInput.Careful (s : SplitLedger) : SplitInput -> Prop
  | .packet env mbuf port => rvHdrSplitCareful env s.session mbuf port = true
  | .returned frames =>
    ∀ frame ∈ frames, forall idx, (s.session.rv.slots idx).frame ≠ some frame
  | .written _ => True

/-! ## A packet in its slot -/

/-- What a packet in its slot leaves alone. -/
structure InSlot (before after : RvHdrSplitSession) (slotIdx frame : Nat) : Prop where
  cfg : after.rv.cfg = before.rv.cfg
  addrs : after.frameAddr = before.frameAddr
  others : ∀ idx ≠ slotIdx, after.rv.slots idx = before.rv.slots idx
  refs : ∀ idx ≠ frame, (after.rv.frames idx).refcnt = (before.rv.frames idx).refcnt
  rejections : after.rejections = before.rejections

theorem InSlot.trans {first second third : RvHdrSplitSession} {slotIdx frame : Nat}
    (left : InSlot first second slotIdx frame) (right : InSlot second third slotIdx frame) :
    InSlot first third slotIdx frame where
  cfg := right.cfg.trans left.cfg
  addrs := right.addrs.trans left.addrs
  others idx other := (right.others idx other).trans (left.others idx other)
  refs idx other := (right.refs idx other).trans (left.refs idx other)
  rejections := right.rejections.trans left.rejections

/-- The slot keeps its frame and its size, and nothing is counted. -/
structure SplitIdle (before after : RvHdrSplitSession) (slotIdx frame : Nat) : Prop
    extends InSlot before after slotIdx frame where
  frame_eq : (after.rv.slots slotIdx).frame = (before.rv.slots slotIdx).frame
  size : rvSlotGetFrameSize (after.rv.slots slotIdx) = rvSlotGetFrameSize (before.rv.slots slotIdx)
  refcnt : (after.rv.frames frame).refcnt = (before.rv.frames frame).refcnt
  received : after.rv.stats.pktsReceived = before.rv.stats.pktsReceived
  copies : after.splitStats.copyHdrSplit = before.splitStats.copyHdrSplit

/-- The packet is counted; its slot fills, or hands its frame over. -/
structure SplitStored (before after : RvHdrSplitSession) (events : List RvEvent)
    (slotIdx frame : Nat) : Prop extends InSlot before after slotIdx frame where
  slot : (after.rv.slots slotIdx).frame = none ∨
    (after.rv.slots slotIdx).frame = some frame ∧
      rvSlotGetFrameSize (after.rv.slots slotIdx) < before.rv.cfg.st20FrameSize ∧
      (after.rv.frames frame).refcnt = (before.rv.frames frame).refcnt
  received : after.rv.stats.pktsReceived = before.rv.stats.pktsReceived + 1
  events_of : ∀ event ∈ events, forall other, event.completeFrame = some other ->
    other = frame

theorem completeFrame_of_quiet {events : List RvEvent} (quiet : deliveries events = [])
    {event : RvEvent} (member : event ∈ events) : event.completeFrame = none := by
  have silent := List.filterMap_eq_nil_iff.mp quiet event member
  cases event with
  | frameReady => cases silent
  | sliceReady => rfl
  | uframePg => rfl

theorem rvReady_completeFrame {s : RvSession} {slotIdx frame other : Nat} {ret : Int}
    (complete : (rvReady s slotIdx frame ret).completeFrame = some other) : other = frame := by
  unfold rvReady RvEvent.completeFrame at complete
  dsimp only at complete
  split at complete
  · cases complete
  · exact (Option.some.inj complete).symm

theorem Notified.refs {before after : RvSession} {events : List RvEvent} {slotIdx frame : Nat}
    {full : Bool} {ret : Int} {event : RvEvent}
    (notified : Notified before after events slotIdx frame full ret event) {other : Nat}
    (differ : other ≠ frame) : (after.frames other).refcnt = (before.frames other).refcnt := by
  rw [notified.frames]
  split
  · rw [rvPutFrame, RvSession.setFrame_frames_of_ne _ _ differ]
  · rfl

theorem rvSlotFullFrame_empties (env : RvEnv) (s : RvSession) (slotIdx frame : Nat) :
    let answer := rvSlotFullFrame env s slotIdx frame
    answer.1.cfg = s.cfg ∧ (∀ idx ≠ slotIdx, answer.1.slots idx = s.slots idx) ∧
      (answer.1.slots slotIdx).frame = none ∧
      (∀ idx ≠ frame, (answer.1.frames idx).refcnt = (s.frames idx).refcnt) ∧
      answer.1.stats.pktsReceived = s.stats.pktsReceived ∧
      answer.1.stats.dropped = s.stats.dropped ∧
      ∀ event ∈ answer.2, forall other, event.completeFrame = some other ->
        other = frame := by
  have notified := rvFrameNotify_notified env env.notifyFull s slotIdx frame
  have booked := (quiet_slotFullFrame env s slotIdx frame).booked
  dsimp only
  refine ⟨booked.cfg, fun idx other => ?_, ?_, fun idx other => ?_, ?_, booked.dropped, ?_⟩
  · rw [rvSlotFullFrame]
    dsimp only
    rw [RvSession.setSlot_slots_of_ne _ _ other, notified.slots, Function.update_of_ne other]
  · rw [rvSlotFullFrame]
    dsimp only
    rw [RvSession.setSlot_slots_self]
  · exact notified.refs other
  · exact notified.counts.received
  · intro event member other complete
    have among : event ∈ (rvFrameNotify env env.notifyFull s slotIdx frame).2 := member
    rw [notified.events_eq] at among
    split at among
    · rw [List.mem_singleton.mp among] at complete
      exact rvReady_completeFrame complete
    · cases among

theorem rvHdrSplitStorePacket_stored (env : HdrSplitEnv) (s : RvHdrSplitSession)
    (slotIdx frame : Nat) (place : RvPlacement) (port : MtlSessionPort)
    (held : (s.rv.slots slotIdx).frame = some frame) :
    let result := rvHdrSplitStorePacket env s slotIdx frame place port
    SplitStored s result.session result.events slotIdx frame ∧
      result.session.memory = s.memory ∧ result.session.splitStats = s.splitStats := by
  unfold rvHdrSplitStorePacket
  dsimp only
  set counted := s.view.withStats
    { s.rv.stats with pktsReceived := s.rv.stats.pktsReceived + 1 } with counted_def
  have quiet := rvSlices_quiet counted ((s.rv.slots slotIdx).gained place.payloadLength port) frame place
  have counts := rvSlices_counts counted ((s.rv.slots slotIdx).gained place.payloadLength port) frame place
  have books := (rvSlices_counted counted ((s.rv.slots slotIdx).gained place.payloadLength port)
    frame place).1.sameBooks
  rcases rvSlices_slot counted ((s.rv.slots slotIdx).gained place.payloadLength port) frame place with
    ⟨info, slot⟩
  generalize rvSlices counted ((s.rv.slots slotIdx).gained place.payloadLength port) frame place =
    sliced at quiet counts books slot ⊢
  have received : sliced.2.1.pktsReceived = s.rv.stats.pktsReceived + 1 := counts.received
  have dropped : sliced.2.1.dropped = s.rv.stats.dropped := books.dropped
  have kept : sliced.1.frame = some frame := by rw [slot]; exact held
  set stored := (counted.setSlot slotIdx sliced.1).withStats sliced.2.1 with stored_def
  have others : ∀ idx ≠ slotIdx, stored.slots idx = s.rv.slots idx :=
    fun idx other => RvSession.setSlot_slots_of_ne counted sliced.1 other
  have own : stored.slots slotIdx = sliced.1 := RvSession.setSlot_slots_self counted slotIdx sliced.1
  split
  · rename_i full
    rcases rvSlotFullFrame_empties env.toRvEnv stored slotIdx frame with
      ⟨cfg, rest, empty, refs, receivedAfter, droppedAfter, events⟩
    refine ⟨{
      cfg := cfg
      addrs := rfl
      others := fun idx other => (rest idx other).trans (others idx other)
      refs := fun idx other => refs idx other
      rejections := ?_
      slot := Or.inl empty
      received := receivedAfter.trans received
      events_of := ?_ }, rfl, rfl⟩
    · exact congrArg (fun count => (count RvDrop.offset, _, _)) (droppedAfter.trans dropped)
    · intro event member other complete
      rcases List.mem_append.mp member with early | late
      · rw [completeFrame_of_quiet quiet early] at complete
        cases complete
      · exact events event late other complete
  · rename_i short
    refine ⟨{
      cfg := rfl
      addrs := rfl
      others := others
      refs := fun _ _ => rfl
      rejections := congrArg (fun count => (count RvDrop.offset, _, _)) dropped
      slot := Or.inr ⟨?_, ?_, rfl⟩
      received := received
      events_of := ?_ }, rfl, rfl⟩
    · exact (congrArg RvSlot.frame own).trans kept
    · rw [show (s.withRv stored).rv.slots slotIdx = sliced.1 from own]
      exact Nat.lt_of_not_le short
    · intro event member other complete
      rw [completeFrame_of_quiet quiet member] at complete
      cases complete

/-! ### Positions -/

theorem startsFrame_offset {cfg : RvConfig} {pkt : Rfc4175Packet} (starts : rvStartsFrame pkt = true) :
    (rvHdrSplitPlacement cfg pkt).offset = 0 := by
  simp only [rvStartsFrame, Bool.and_eq_true, decide_eq_true_eq] at starts
  simp [rvHdrSplitPlacement, starts.1, starts.2, columnOf, u32, word]

theorem inPlace_base {cfg : RvConfig} {info : HdrSplitInfo} {addr pktIdx : Nat} {mbuf : HdrSplitMbuf}
    (inPlace : rvHdrSplitInPlace cfg info addr mbuf pktIdx = true)
    (starts : rvStartsFrame mbuf.pkt = true) : mbuf.payloadAddr = addr := by
  simp only [rvHdrSplitInPlace, Bool.and_eq_true, decide_eq_true_eq] at inPlace
  have position := inPlace.2
  cases place : rvHdrSplitWhere info pktIdx mbuf.payloadAddr mbuf.pkt.marker with
  | base =>
    rw [place] at position
    exact (of_decide_eq_true position).1
  | inPlace =>
    rw [place] at position
    have offset := (of_decide_eq_true position).2
    rw [startsFrame_offset starts] at offset
    have zero : pktIdx = 0 := (Nat.mul_eq_zero.mp offset.symm).resolve_right (by decide)
    rw [rvHdrSplitWhere, if_pos zero] at place
    cases place
  | copy =>
    rw [place, starts] at position
    cases position
  | lost =>
    rw [place] at position
    cases position

theorem rvHdrSplitRebase_slots (s : RvHdrSplitSession) (port : MtlSessionPort) (payload : Nat) :
    let moved := rvHdrSplitRebase s port payload
    moved.frameAddr = s.frameAddr ∧ moved.rejections = s.rejections ∧
      moved.splitStats.copyHdrSplit = s.splitStats.copyHdrSplit := by
  unfold rvHdrSplitRebase
  dsimp only
  split <;> exact ⟨rfl, rfl, rfl⟩

theorem rvHdrSplitCopy_bytes (s : RvHdrSplitSession) (frame payload : Nat) (place : RvPlacement)
    {position : Nat} (inside : position < place.payloadLength) :
    (rvHdrSplitCopy s frame payload place).memory (s.frameAddr frame + place.offset + position) =
      s.memory (payload + position) := by
  unfold rvHdrSplitCopy
  dsimp only
  refine (store_inside _ (Nat.le_add_right _ _) ?_).trans ?_
  · rw [List.length_map, List.length_range]
    exact Nat.add_lt_add_left inside _
  · rw [Nat.add_sub_cancel_left]
    simp [inside]

/-- Where a counted packet lies: in place, or copied there. -/
structure SplitPlaced (before after : RvHdrSplitSession) (frame : Nat) (mbuf : HdrSplitMbuf) : Prop where
  base : rvStartsFrame mbuf.pkt = true -> mbuf.payloadAddr = before.frameAddr frame
  lies : after.splitStats.copyHdrSplit = before.splitStats.copyHdrSplit ->
    mbuf.payloadAddr = before.frameAddr frame + (rvHdrSplitPlacement before.rv.cfg mbuf.pkt).offset
  copied : after.splitStats.copyHdrSplit ≠ before.splitStats.copyHdrSplit ->
    ∀ position < (rvHdrSplitPlacement before.rv.cfg mbuf.pkt).payloadLength,
      after.memory (before.frameAddr frame + (rvHdrSplitPlacement before.rv.cfg mbuf.pkt).offset +
        position) = before.memory (mbuf.payloadAddr + position)

theorem rvHdrSplitPlacePacket_stored (env : HdrSplitEnv) (s : RvHdrSplitSession)
    (slotIdx frame : Nat) (mbuf : HdrSplitMbuf) (pktIdx : Nat) (port : MtlSessionPort)
    (held : (s.rv.slots slotIdx).frame = some frame)
    (inPlace : rvHdrSplitInPlace s.rv.cfg (s.info port) (s.frameAddr frame) mbuf pktIdx = true) :
    let result := rvHdrSplitPlacePacket env s slotIdx frame mbuf pktIdx port
    SplitStored s result.session result.events slotIdx frame ∧
      SplitPlaced s result.session frame mbuf := by
  have base := inPlace_base inPlace
  simp only [rvHdrSplitInPlace, Bool.and_eq_true, Bool.or_eq_true, decide_eq_true_eq] at inPlace
  rcases inPlace with ⟨⟨fits, length⟩, position⟩
  unfold rvHdrSplitPlacePacket
  dsimp only
  rw [if_neg (Nat.not_lt.mpr fits), if_neg (by
    rintro ⟨other, noMarker⟩
    rcases length with same | marker
    · exact other same
    · rw [noMarker] at marker
      cases marker)]
  cases place : rvHdrSplitWhere (s.info port) pktIdx mbuf.payloadAddr mbuf.pkt.marker with
  | base =>
    rw [place] at position
    have same := rvHdrSplitRebase_rv s port mbuf.payloadAddr
    rcases rvHdrSplitRebase_slots s port mbuf.payloadAddr with ⟨addrs, rejections, copies⟩
    generalize rvHdrSplitRebase s port mbuf.payloadAddr = moved at same addrs rejections copies
    rcases rvHdrSplitStorePacket_stored env moved slotIdx frame
      (rvHdrSplitPlacement s.rv.cfg mbuf.pkt) port (by rw [same]; exact held) with
      ⟨stored, _, stats⟩
    dsimp only
    generalize rvHdrSplitStorePacket env moved slotIdx frame (rvHdrSplitPlacement s.rv.cfg mbuf.pkt)
      port = result at stored stats ⊢
    have rebased : InSlot s moved slotIdx frame :=
      ⟨congrArg RvSession.cfg same, addrs, fun idx _ => by rw [same], fun idx _ => by rw [same],
        rejections⟩
    refine ⟨⟨rebased.trans stored.toInSlot, ?_, ?_, stored.events_of⟩, base, fun _ => ?_, fun other => ?_⟩
    · have slot := stored.slot
      rw [same] at slot
      exact slot
    · rw [stored.received, same]
    · rcases of_decide_eq_true position with ⟨address, offset⟩
      rw [offset, Nat.add_zero]
      exact address
    · exact absurd ((congrArg HdrSplitStats.copyHdrSplit stats).trans copies) other
  | inPlace =>
    rw [place] at position
    rcases rvHdrSplitStorePacket_stored env s slotIdx frame
      (rvHdrSplitPlacement s.rv.cfg mbuf.pkt) port held with ⟨stored, _, stats⟩
    refine ⟨stored, base, fun _ => ?_, fun other => ?_⟩
    · have expected : (s.info port).expectPayload pktIdx = mbuf.payloadAddr := by
        rw [rvHdrSplitWhere] at place
        split at place
        · cases place
        · split at place
          · assumption
          · split at place <;> cases place
      rcases of_decide_eq_true position with ⟨address, offset⟩
      rw [← expected, offset, HdrSplitInfo.expectPayload, address]
    · exact absurd (congrArg HdrSplitStats.copyHdrSplit stats) other
  | copy =>
    rcases rvHdrSplitStorePacket_stored env
      (rvHdrSplitCopy s frame mbuf.payloadAddr (rvHdrSplitPlacement s.rv.cfg mbuf.pkt)) slotIdx frame
      (rvHdrSplitPlacement s.rv.cfg mbuf.pkt) port held with ⟨stored, memory, stats⟩
    have copies := congrArg HdrSplitStats.copyHdrSplit stats
    refine ⟨⟨⟨stored.cfg, stored.addrs, stored.others, stored.refs, stored.rejections⟩, stored.slot,
      stored.received, stored.events_of⟩, base, fun same => ?_, fun _ position inside => ?_⟩
    · have more : s.splitStats.copyHdrSplit + 1 = s.splitStats.copyHdrSplit := copies.symm.trans same
      omega
    · exact (congrFun memory _).trans (rvHdrSplitCopy_bytes s frame mbuf.payloadAddr _ inside)
  | lost =>
    rw [place] at position
    cases position

/-! ### The index -/

section

variable {cfg : RvConfig} {slot marked : RvSlot} {pkt : Rfc4175Packet} {pktIdx : Nat}
    {port : MtlSessionPort} {reordered : Bool}
    (fresh : rvHdrSplitIndex cfg slot pkt port = .fresh pktIdx marked reordered)

include fresh

theorem rvHdrSplitIndex_fresh :
    marked.frame = slot.frame ∧ (slot.seqIdGot = true ∨ rvStartsFrame pkt = true) := by
  unfold rvHdrSplitIndex at fresh
  dsimp only at fresh
  split at fresh
  · rename_i got
    split at fresh
    · cases fresh
    · split at fresh
      · cases fresh
      · cases fresh
        exact ⟨rfl, Or.inl got⟩
  · split at fresh
    · rename_i starts
      cases fresh
      refine ⟨rfl, Or.inr ?_⟩
      rw [rvStartsFrame, decide_eq_true starts.1, decide_eq_true starts.2]
      rfl
    · cases fresh

end

theorem rvHdrSplitIndex_drop {cfg : RvConfig} {slot : RvSlot} {pkt : Rfc4175Packet}
    {port : MtlSessionPort} {reason : RvDrop} (drop : rvHdrSplitIndex cfg slot pkt port = .drop reason) :
    reason ≠ .offset := by
  unfold rvHdrSplitIndex at drop
  dsimp only at drop
  split at drop
  · split at drop
    · cases drop
      decide
    · split at drop <;> cases drop
  · split at drop
    · cases drop
    · cases drop
      decide

theorem rvHdrSplitIndex_congr {cfg : RvConfig} {one other marked : RvSlot} {pkt : Rfc4175Packet}
    {pktIdx : Nat} {port : MtlSessionPort} {reordered : Bool} (got : one.seqIdGot = other.seqIdGot)
    (marks : one.seqIdGot = true -> one.marks = other.marks)
    (fresh : rvHdrSplitIndex cfg one pkt port = .fresh pktIdx marked reordered) :
    exists marked reordered, rvHdrSplitIndex cfg other pkt port = .fresh pktIdx marked reordered := by
  unfold rvHdrSplitIndex at fresh ⊢
  dsimp only at fresh ⊢
  cases known : one.seqIdGot with
  | true =>
    have same := marks known
    simp only [RvSlot.marks, Prod.mk.injEq] at same
    rw [if_pos known] at fresh
    rw [if_pos (got.symm.trans known)]
    have index : rvLaterPktIdx other pkt.seqId = rvLaterPktIdx one pkt.seqId := by
      rw [rvLaterPktIdx, rvLaterPktIdx, same.2.2]
    rw [index, ← same.1]
    split at fresh
    · cases fresh
    · rename_i bounded
      rw [if_neg bounded]
      split at fresh
      · cases fresh
      · rename_i clear
        rw [if_neg clear]
        cases fresh
        exact ⟨_, _, rfl⟩
  | false =>
    rw [if_neg (by rw [known]; decide)] at fresh
    rw [if_neg (by rw [← got, known]; decide)]
    split at fresh
    · rename_i starts
      rw [if_pos starts]
      cases fresh
      exact ⟨_, _, rfl⟩
    · cases fresh

theorem rvHdrSplitFits_congr {cfg : RvConfig} {info : HdrSplitInfo} {addr : Nat} {one other : RvSlot}
    {mbuf : HdrSplitMbuf} {port : MtlSessionPort} (got : one.seqIdGot = other.seqIdGot)
    (marks : one.seqIdGot = true -> one.marks = other.marks)
    (fits : rvHdrSplitFits cfg info addr other mbuf port = true) :
    rvHdrSplitFits cfg info addr one mbuf port = true := by
  unfold rvHdrSplitFits
  cases index : rvHdrSplitIndex cfg one mbuf.pkt port with
  | drop reason => rfl
  | redundant => rfl
  | fresh pktIdx marked reordered =>
    rcases rvHdrSplitIndex_congr got marks index with ⟨_, _, same⟩
    rw [rvHdrSplitFits, same] at fits
    exact fits

/-! ### The handler -/

theorem SplitStored.after_idle {first second third : RvHdrSplitSession} {events : List RvEvent}
    {slotIdx frame : Nat} (idle : SplitIdle first second slotIdx frame)
    (stored : SplitStored second third events slotIdx frame) :
    SplitStored first third events slotIdx frame where
  toInSlot := idle.toInSlot.trans stored.toInSlot
  slot := by
    have slot := stored.slot
    rw [idle.cfg, idle.refcnt] at slot
    exact slot
  received := stored.received.trans (congrArg (· + 1) idle.received)
  events_of := stored.events_of

theorem splitIdle_of_slot {s : RvHdrSplitSession} {rv : RvSession} {slotIdx frame : Nat} {slot : RvSlot}
    (cfg : rv.cfg = s.rv.cfg) (frames : rv.frames = s.rv.frames)
    (slots : rv.slots = Function.update s.rv.slots slotIdx slot)
    (frame_eq : slot.frame = (s.rv.slots slotIdx).frame)
    (size : rvSlotGetFrameSize slot = rvSlotGetFrameSize (s.rv.slots slotIdx))
    (received : rv.stats.pktsReceived = s.rv.stats.pktsReceived)
    (dropped : rv.stats.dropped .offset = s.rv.stats.dropped .offset) :
    SplitIdle s (s.withRv rv) slotIdx frame where
  cfg := cfg
  addrs := rfl
  others idx other := (congrFun slots idx).trans (Function.update_of_ne other _ _)
  refs idx _ := by rw [RvHdrSplitSession.withRv, frames]
  rejections := congrArg (fun count => (count, _, _)) dropped
  frame_eq := by rw [RvHdrSplitSession.withRv, slots, Function.update_self, frame_eq]
  size := by rw [RvHdrSplitSession.withRv, slots, Function.update_self, size]
  refcnt := by rw [RvHdrSplitSession.withRv, frames]
  received := received
  copies := rfl

/-- A packet whose slot has a frame, when it fits that frame: it is not counted and changes little, or it
is counted and lies where it should. -/
theorem rvHdrSplitHandleInSlot_fits (env : HdrSplitEnv) (s : RvHdrSplitSession) (slotIdx frame : Nat)
    (mbuf : HdrSplitMbuf) (port : MtlSessionPort) (held : (s.rv.slots slotIdx).frame = some frame)
    (fits : rvHdrSplitFits s.rv.cfg (s.info port) (s.frameAddr frame) (s.rv.slots slotIdx) mbuf port =
      true) :
    let result := rvHdrSplitHandleInSlot env s slotIdx frame mbuf port
    (SplitIdle s result.session slotIdx frame ∧
        (result.session.rv.slots slotIdx).seqIdGot = (s.rv.slots slotIdx).seqIdGot ∧
        result.events = []) ∨
      (SplitStored s result.session result.events slotIdx frame ∧
        SplitPlaced s result.session frame mbuf ∧
        ((s.rv.slots slotIdx).seqIdGot = true ∨ rvStartsFrame mbuf.pkt = true)) := by
  unfold rvHdrSplitHandleInSlot
  dsimp only
  set slot := { s.rv.slots slotIdx with secondField := hasBit topBit mbuf.pkt.rowNumber } with slot_def
  have fitsSlot : rvHdrSplitFits s.rv.cfg (s.info port) (s.frameAddr frame) slot mbuf port = true :=
    @rvHdrSplitFits_congr s.rv.cfg (s.info port) (s.frameAddr frame) slot (s.rv.slots slotIdx) mbuf port
      rfl (fun _ => rfl) fits
  cases index : rvHdrSplitIndex (s.withRv (s.rv.setSlot slotIdx slot)).rv.cfg slot mbuf.pkt port with
  | drop reason =>
    have other := rvHdrSplitIndex_drop index
    have got : ((s.rv.setSlot slotIdx slot).slots slotIdx).seqIdGot =
        (s.rv.slots slotIdx).seqIdGot := by rw [RvSession.setSlot_slots_self]
    refine Or.inl ⟨splitIdle_of_slot rfl rfl rfl rfl rfl rfl ?_, got, rfl⟩
    exact Function.update_of_ne (Ne.symm other) _ _
  | redundant =>
    have slots : (rvCountRedundant (s.rv.setSlot slotIdx slot) slotIdx port).slots =
        Function.update s.rv.slots slotIdx (slot.countPort port) := by
      rw [rvCountRedundant]
      dsimp only
      rw [RvSession.setSlot_slots_self, RvSession.setSlot_slots, RvSession.setSlot_slots,
        Function.update_idem]
    have got : ((rvCountRedundant (s.rv.setSlot slotIdx slot) slotIdx port).slots slotIdx).seqIdGot =
        (s.rv.slots slotIdx).seqIdGot := by
      rw [slots, Function.update_self]
      rfl
    exact Or.inl ⟨splitIdle_of_slot rfl rfl slots rfl rfl rfl rfl, got, rfl⟩
  | fresh pktIdx marked reordered =>
    have inPlace : rvHdrSplitInPlace s.rv.cfg (s.info port) (s.frameAddr frame) mbuf pktIdx = true := by
      rw [rvHdrSplitFits, show rvHdrSplitIndex s.rv.cfg slot mbuf.pkt port = _ from index] at fitsSlot
      exact fitsSlot
    rcases rvHdrSplitIndex_fresh index with ⟨frame_eq, known⟩
    dsimp only
    have counted := onlyCounted_countReordered (s.rv.setSlot slotIdx slot) port reordered
    have booked := (quiet_countReordered (s.rv.setSlot slotIdx slot) port reordered).booked
    set rv := rvCountReordered (s.rv.setSlot slotIdx slot) port reordered with rv_def
    have slots : (rv.setSlot slotIdx (marked.advance pktIdx port)).slots =
        Function.update s.rv.slots slotIdx (marked.advance pktIdx port) := by
      rw [RvSession.setSlot_slots, counted.slots, RvSession.setSlot_slots, Function.update_idem]
    have idle : SplitIdle s (s.withRv (rv.setSlot slotIdx (marked.advance pktIdx port))) slotIdx frame :=
      splitIdle_of_slot counted.cfg counted.frames slots frame_eq
        (rvHdrSplitIndex_fresh_marked index).size_eq
        counted.counts.received (congrFun booked.dropped .offset)
    rcases rvHdrSplitPlacePacket_stored env
      (s.withRv (rv.setSlot slotIdx (marked.advance pktIdx port))) slotIdx frame mbuf pktIdx port
      (idle.frame_eq.trans held) (by rw [idle.cfg]; exact inPlace) with ⟨stored, placed⟩
    refine Or.inr ⟨stored.after_idle idle, ⟨placed.base, fun same => ?_, fun other => ?_⟩, known⟩
    · have lies := placed.lies same
      rw [idle.cfg] at lies
      exact lies
    · have copied := placed.copied other
      rw [idle.cfg] at copied
      exact copied

/-! ## The ledger -/

/-- What is known of a slot and the frame it holds. -/
structure SplitSlotKept (s : SplitLedger) (slotIdx frame : Nat) : Prop where
  short : rvSlotGetFrameSize (s.session.rv.slots slotIdx) < s.session.rv.cfg.st20FrameSize
  taken : (s.session.rv.frames frame).refcnt ≠ 0
  fits : ∀ packet ∈ s.counted frame, packet.Fits (s.session.frameAddr frame)
  begun : (s.session.rv.slots slotIdx).seqIdGot = true ->
    exists packet, packet ∈ s.counted frame ∧ packet.first = true

/-- What careful packets keep: no frame is in two slots, and the packets of each frame in a slot lie where
they should. -/
structure SplitKept (s : SplitLedger) : Prop where
  sized : 0 < s.session.rv.cfg.st20FrameSize
  single : forall idx other frame, (s.session.rv.slots idx).frame = some frame ->
    (s.session.rv.slots other).frame = some frame -> idx = other
  slots : forall idx frame, (s.session.rv.slots idx).frame = some frame -> SplitSlotKept s idx frame

def RvSlot.filling (slot : RvSlot) : Option Nat × Nat × Bool :=
  (slot.frame, rvSlotGetFrameSize slot, slot.seqIdGot)

theorem SplitSlotKept.of_same {before after : SplitLedger} {slotIdx frame : Nat}
    (kept : SplitSlotKept before slotIdx frame) (cfg : after.session.rv.cfg = before.session.rv.cfg)
    (slot : (after.session.rv.slots slotIdx).filling = (before.session.rv.slots slotIdx).filling)
    (refcnt : (after.session.rv.frames frame).refcnt = (before.session.rv.frames frame).refcnt)
    (addr : after.session.frameAddr frame = before.session.frameAddr frame)
    (counted : after.counted frame = before.counted frame) : SplitSlotKept after slotIdx frame := by
  simp only [RvSlot.filling, Prod.mk.injEq] at slot
  rcases slot with ⟨_, size, got⟩
  refine ⟨?_, ?_, ?_, ?_⟩
  · rw [size, cfg]
    exact kept.short
  · rw [refcnt]
    exact kept.taken
  · rw [counted, addr]
    exact kept.fits
  · rw [got, counted]
    exact kept.begun

theorem SplitKept.of_one {before after : SplitLedger} (kept : SplitKept before) (slotIdx : Nat)
    (cfg : after.session.rv.cfg = before.session.rv.cfg)
    (others : ∀ idx ≠ slotIdx, after.session.rv.slots idx = before.session.rv.slots idx)
    (same : forall idx frame, idx ≠ slotIdx -> (before.session.rv.slots idx).frame = some frame ->
      (after.session.rv.frames frame).refcnt = (before.session.rv.frames frame).refcnt ∧
        after.session.frameAddr frame = before.session.frameAddr frame ∧
        after.counted frame = before.counted frame)
    (own : forall frame, (after.session.rv.slots slotIdx).frame = some frame ->
      SplitSlotKept after slotIdx frame ∧
        ∀ idx ≠ slotIdx, (before.session.rv.slots idx).frame ≠ some frame) :
    SplitKept after where
  sized := by
    rw [cfg]
    exact kept.sized
  single idx other frame holds also := by
    by_cases here : idx = slotIdx
    · by_cases there : other = slotIdx
      · exact here.trans there.symm
      · rw [here] at holds
        rw [others other there] at also
        exact absurd also ((own frame holds).2 other there)
    · rw [others idx here] at holds
      by_cases there : other = slotIdx
      · rw [there] at also
        exact absurd holds ((own frame also).2 idx here)
      · rw [others other there] at also
        exact kept.single idx other frame holds also
  slots idx frame holds := by
    by_cases here : idx = slotIdx
    · rw [here] at holds ⊢
      exact (own frame holds).1
    · rw [others idx here] at holds
      rcases same idx frame here holds with ⟨refcnt, addr, counted⟩
      exact (kept.slots idx frame holds).of_same cfg (congrArg RvSlot.filling (others idx here)) refcnt
        addr counted

theorem SplitKept.of_idle {before after : SplitLedger} (kept : SplitKept before)
    (cfg : after.session.rv.cfg = before.session.rv.cfg)
    (slots : forall idx, (after.session.rv.slots idx).filling = (before.session.rv.slots idx).filling)
    (refcnt : forall idx frame, (before.session.rv.slots idx).frame = some frame ->
      (after.session.rv.frames frame).refcnt = (before.session.rv.frames frame).refcnt)
    (addrs : after.session.frameAddr = before.session.frameAddr)
    (counted : after.counted = before.counted) : SplitKept after := by
  have frames : forall idx, (after.session.rv.slots idx).frame = (before.session.rv.slots idx).frame :=
    fun idx => congrArg Prod.fst (slots idx)
  refine ⟨?_, fun idx other frame holds also => ?_, fun idx frame holds => ?_⟩
  · rw [cfg]
    exact kept.sized
  · rw [frames] at holds also
    exact kept.single idx other frame holds also
  · rw [frames] at holds
    exact (kept.slots idx frame holds).of_same cfg (slots idx) (refcnt idx frame holds)
      (congrFun addrs frame) (congrFun counted frame)

/-! ### A packet in its slot -/

/-- The lookup counts no packet, and no copy or rejection. -/
structure SplitSame (before after : RvHdrSplitSession) : Prop where
  cfg : after.rv.cfg = before.rv.cfg
  received : after.rv.stats.pktsReceived = before.rv.stats.pktsReceived
  copies : after.splitStats.copyHdrSplit = before.splitStats.copyHdrSplit
  rejections : after.rejections = before.rejections
  memory : after.memory = before.memory

theorem splitRecord_nil {before after : RvHdrSplitSession} {frame : Nat} {mbuf : HdrSplitMbuf}
    (received : after.rv.stats.pktsReceived = before.rv.stats.pktsReceived) :
    splitRecord before after frame mbuf = [] := if_pos received

theorem splitRecord_stored {before middle after : RvHdrSplitSession} {frame : Nat} {mbuf : HdrSplitMbuf}
    (same : SplitSame before middle) (placed : SplitPlaced middle after frame mbuf)
    (received : after.rv.stats.pktsReceived = middle.rv.stats.pktsReceived + 1)
    (addrs : after.frameAddr = middle.frameAddr) :
    (∀ packet ∈ splitRecord before after frame mbuf,
        packet.Fits (after.frameAddr frame)) ∧
      (rvStartsFrame mbuf.pkt = true ->
        exists packet, packet ∈ splitRecord before after frame mbuf ∧ packet.first = true) := by
  have counted : after.rv.stats.pktsReceived ≠ before.rv.stats.pktsReceived := by
    rw [received, same.received]
    omega
  rw [splitRecord, if_neg counted]
  refine ⟨fun packet member => ?_, fun starts => ⟨_, List.mem_singleton.mpr rfl, starts⟩⟩
  rw [List.mem_singleton.mp member, addrs]
  refine ⟨placed.base, ?_⟩
  dsimp only
  rw [← same.cfg, ← same.copies]
  split
  · rename_i inPlace
    exact placed.lies inPlace
  · rfl

def splitHandled (before after : RvHdrSplitSession) (counted : Nat -> List SplitCounted) (frame : Nat)
    (mbuf : HdrSplitMbuf) : SplitLedger :=
  { session := after
    counted := Function.update counted frame
      (counted frame ++ splitRecord before after frame mbuf) }

/-- A packet that fits its frame keeps the ledger, its deliveries are whole, its copy is made, and it is
not rejected. -/
theorem SplitKept.inSlot {before middle : RvHdrSplitSession} {counted : Nat -> List SplitCounted}
    {slotIdx frame : Nat} {mbuf : HdrSplitMbuf} {port : MtlSessionPort} (env : HdrSplitEnv)
    (kept : SplitKept ⟨middle, counted⟩) (same : SplitSame before middle)
    (held : (middle.rv.slots slotIdx).frame = some frame)
    (fits : rvHdrSplitFits middle.rv.cfg (middle.info port) (middle.frameAddr frame)
      (middle.rv.slots slotIdx) mbuf port = true) :
    let result := rvHdrSplitHandleInSlot env middle slotIdx frame mbuf port
    let after := splitHandled before result.session counted frame mbuf
    SplitKept after ∧
      (∀ event ∈ result.events, forall other, event.completeFrame = some other ->
        after.Whole other) ∧
      (result.session.splitStats.copyHdrSplit ≠ before.splitStats.copyHdrSplit ->
        ∀ position < (rvHdrSplitPlacement before.rv.cfg mbuf.pkt).payloadLength,
          result.session.memory (result.session.frameAddr frame +
              (rvHdrSplitPlacement before.rv.cfg mbuf.pkt).offset + position) =
            before.memory (mbuf.payloadAddr + position)) ∧
      result.session.rejections = before.rejections := by
  have slotKept := kept.slots slotIdx frame held
  have handled := rvHdrSplitHandleInSlot_fits env middle slotIdx frame mbuf port held fits
  dsimp only at handled ⊢
  generalize rvHdrSplitHandleInSlot env middle slotIdx frame mbuf port = result at handled ⊢
  have away : forall idx other, idx ≠ slotIdx -> (middle.rv.slots idx).frame = some other ->
      other ≠ frame := by
    intro idx other differ holds equal
    rw [equal] at holds
    exact differ (kept.single idx slotIdx frame holds held)
  rcases handled with ⟨idle, got, none⟩ | ⟨stored, placed, begins⟩
  · have record : splitRecord before result.session frame mbuf = [] :=
      splitRecord_nil (idle.received.trans same.received)
    have counts : (splitHandled before result.session counted frame mbuf).counted = counted := by
      rw [splitHandled, record, List.append_nil, Function.update_eq_self]
    refine ⟨kept.of_one slotIdx idle.cfg idle.others ?_ ?_, ?_, ?_, idle.rejections.trans same.rejections⟩
    · intro idx other differ holds
      exact ⟨idle.refs other (away idx other differ holds), congrFun idle.addrs other,
        congrFun counts other⟩
    · intro other holds
      have equal : frame = other := Option.some.inj ((held.symm.trans idle.frame_eq.symm).trans holds)
      subst equal
      refine ⟨⟨?_, ?_, ?_, ?_⟩, fun idx differ holds => away idx frame differ holds rfl⟩
      · exact lt_of_eq_of_lt idle.size (slotKept.short.trans_eq (congrArg _ idle.cfg.symm))
      · exact idle.refcnt.trans_ne slotKept.taken
      · rw [counts]
        intro packet member
        exact (congrFun idle.addrs frame).symm ▸ slotKept.fits packet member
      · rw [counts]
        exact fun after => slotKept.begun (got.symm.trans after)
    · rw [none]
      intro event member
      cases member
    · exact fun differ => absurd (idle.copies.trans same.copies) differ
  · rcases splitRecord_stored same placed stored.received stored.addrs with ⟨fitsRecord, firstRecord⟩
    have own : (splitHandled before result.session counted frame mbuf).counted frame =
        counted frame ++ splitRecord before result.session frame mbuf := Function.update_self ..
    have allFit : ∀ packet ∈ (splitHandled before result.session counted frame mbuf).counted frame,
        packet.Fits (result.session.frameAddr frame) := by
      rw [own]
      intro packet member
      rcases List.mem_append.mp member with earlier | new
      · rw [stored.addrs]
        exact slotKept.fits packet earlier
      · exact fitsRecord packet new
    have oneFirst : exists packet,
        packet ∈ (splitHandled before result.session counted frame mbuf).counted frame ∧
          packet.first = true := by
      rw [own]
      rcases begins with known | starts
      · rcases slotKept.begun known with ⟨packet, member, first⟩
        exact ⟨packet, List.mem_append_left _ member, first⟩
      · rcases firstRecord starts with ⟨packet, member, first⟩
        exact ⟨packet, List.mem_append_right _ member, first⟩
    refine ⟨kept.of_one slotIdx stored.cfg stored.others ?_ ?_, ?_, ?_,
      stored.rejections.trans same.rejections⟩
    · intro idx other differ holds
      have apart := away idx other differ holds
      exact ⟨stored.refs other apart, congrFun stored.addrs other, Function.update_of_ne apart _ _⟩
    · intro other holds
      rcases stored.slot with empty | ⟨still, short, refcnt⟩
      · cases empty.symm.trans holds
      · have equal : frame = other := Option.some.inj (still.symm.trans holds)
        subst equal
        refine ⟨⟨?_, ?_, allFit, fun _ => oneFirst⟩, fun idx differ holds => away idx frame differ holds rfl⟩
        · exact short.trans_eq (congrArg _ stored.cfg.symm)
        · exact refcnt.trans_ne slotKept.taken
    · intro event member other complete
      rw [stored.events_of event member other complete]
      exact ⟨oneFirst, allFit⟩
    · intro copied position inside
      rw [stored.addrs, ← same.memory, ← same.cfg]
      rw [← same.cfg] at inside
      exact placed.copied (by rw [same.copies]; exact copied) position inside

/-! ### The slot lookup -/

theorem retiredFrames_refcnt (env : RvEnv) (s : RvSession) (slotIdx : Nat) {frame : Nat}
    (other : (s.slots slotIdx).frame ≠ some frame) :
    (retiredFrames env s slotIdx frame).refcnt = (s.frames frame).refcnt := by
  unfold retiredFrames
  cases holds : (s.slots slotIdx).frame with
  | none => rfl
  | some retired =>
    have differ : frame ≠ retired := fun same => other (by rw [holds, same])
    dsimp only
    split
    · rw [rvPutFrame, RvSession.setFrame_frames_of_ne _ _ differ]
    · rfl

theorem retiredEvents_incomplete (env : RvEnv) (s : RvSession) (slotIdx : Nat)
    (short : forall frame, (s.slots slotIdx).frame = some frame ->
      rvSlotGetFrameSize (s.slots slotIdx) < s.cfg.st20FrameSize) {event : RvEvent}
    (member : event ∈ retiredEvents env s slotIdx) : event.completeFrame = none := by
  unfold retiredEvents at member
  cases holds : (s.slots slotIdx).frame with
  | none =>
    rw [holds] at member
    cases member
  | some frame =>
    rw [holds] at member
    dsimp only at member
    split at member
    · rw [List.mem_singleton.mp member, recycledReady]
      cases s.cfg.st22 with
      | some ops => rfl
      | none =>
        have corrupted : (rvFrameMeta s (s.slots slotIdx) (s.frames frame)).status = .corrupted := by
          by_contra whole
          have full := (rvFrameMeta_status s (s.slots slotIdx) (s.frames frame)).mp whole
          exact absurd (short frame holds) (Nat.not_lt.mpr full)
        exact if_pos corrupted
    · cases member

theorem rvAssignFrame_takes {env : RvEnv} {s : RvSession} {slotIdx : Nat}
    (assigned : (rvAssignFrame env s slotIdx).2 = true) :
    (rvGetFrame s).isSome = true ∧
      (!s.cfg.ops.queryExtFrame || (rvUsableExt s.cfg env.queryExt).isSome) = true := by
  unfold rvAssignFrame at assigned
  cases free : rvGetFrame s with
  | none =>
    rw [free] at assigned
    cases assigned
  | some frame =>
    rw [free] at assigned
    dsimp only at assigned
    refine ⟨rfl, ?_⟩
    cases buffer : rvFrameBuffer env s frame with
    | none =>
      rw [buffer] at assigned
      cases assigned
    | some addr =>
      unfold rvFrameBuffer at buffer
      cases query : s.cfg.ops.queryExtFrame with
      | false => rfl
      | true =>
        rw [if_pos query] at buffer
        rw [buffer]
        rfl

theorem rvAssignFrame_received (env : RvEnv) (s : RvSession) (slotIdx : Nat) :
    (rvAssignFrame env s slotIdx).1.stats.pktsReceived = s.stats.pktsReceived := by
  rcases rvAssignFrame_cases env s slotIdx with ⟨_, counted⟩ | ⟨frame, addr, _, taken⟩
  · exact counted.counts.received
  · rw [taken]
    rfl

/-- What the slot lookup leaves of the slots: it finds one, refuses, or opens the next one. -/
structure SplitLooked (s : RvHdrSplitSession) (env : HdrSplitEnv) (tmstamp : Nat)
    (answer : SlotAnswer) : Prop where
  cfg : answer.session.cfg = s.rv.cfg
  received : answer.session.stats.pktsReceived = s.rv.stats.pktsReceived
  dropped : answer.session.stats.dropped = s.rv.stats.dropped
  quiet : ∀ event ∈ answer.events, event.completeFrame = none
  others : ∀ idx ≠ rvNextSlot s.rv, answer.session.slots idx = s.rv.slots idx
  refs : forall idx frame, idx ≠ rvNextSlot s.rv -> (s.rv.slots idx).frame = some frame ->
    (answer.session.frames frame).refcnt = (s.rv.frames frame).refcnt
  next : (exists frame, answer.slot = some (rvNextSlot s.rv) ∧ answer.existTs = false ∧
      (answer.session.slots (rvNextSlot s.rv)).frame = some frame ∧
      (answer.session.slots (rvNextSlot s.rv)).seqIdGot = false ∧
      rvSlotGetFrameSize (answer.session.slots (rvNextSlot s.rv)) = 0 ∧
      (answer.session.frames frame).refcnt ≠ 0 ∧
      (∀ idx ≠ rvNextSlot s.rv, (s.rv.slots idx).frame ≠ some frame) ∧
      rvFindSlot s.rv tmstamp = none ∧ rvOpens s.rv tmstamp = true ∧ rvHdrSplitTakes env s = true) ∨
    (answer.slot = none ∧ (answer.session.slots (rvNextSlot s.rv)).frame = none)

/-- The slot that is opened is empty or has a frame that was free. -/
theorem splitLooked_opened {s : RvHdrSplitSession} {counted : Nat -> List SplitCounted}
    (kept : SplitKept ⟨s, counted⟩) (env : HdrSplitEnv) {tmstamp : Nat}
    (opens : rvOpens s.view tmstamp = true) :
    let reused := rvReuseSlot env.toRvEnv s.view (rvNextSlot s.view) tmstamp
    let assigned := rvAssignFrame env.toRvEnv reused.1 (rvNextSlot s.view)
    SplitLooked s env tmstamp
      ⟨assigned.1, if assigned.2 then some (rvNextSlot s.view) else none, false, reused.2⟩ := by
  have reused := rvReuseSlot_reused env.toRvEnv s.view (rvNextSlot s.view) tmstamp
  have dropped := (quiet_retireSlot env.toRvEnv s.view (rvNextSlot s.view)).booked.dropped
  dsimp only
  have next : rvNextSlot s.view = rvNextSlot s.rv := rfl
  rw [next] at reused dropped ⊢
  have unknown : rvFindSlot s.rv tmstamp = none := by
    rw [rvOpens, Bool.and_eq_true, Option.isNone_iff_eq_none] at opens
    exact opens.1
  have droppedReused : (rvReuseSlot env.toRvEnv s.view (rvNextSlot s.rv) tmstamp).1.stats.dropped =
      s.rv.stats.dropped := dropped
  have takes := @rvAssignFrame_takes env.toRvEnv
    (rvReuseSlot env.toRvEnv s.view (rvNextSlot s.rv) tmstamp).1 (rvNextSlot s.rv)
  have quiet : ∀ event ∈ (rvReuseSlot env.toRvEnv s.view (rvNextSlot s.rv) tmstamp).2,
      event.completeFrame = none := by
    intro event member
    rw [reused.events_eq] at member
    exact retiredEvents_incomplete env.toRvEnv s.view (rvNextSlot s.rv)
      (fun frame holds => (kept.slots (rvNextSlot s.rv) frame holds).short) member
  generalize rvReuseSlot env.toRvEnv s.view (rvNextSlot s.rv) tmstamp =
    retired at reused droppedReused takes quiet ⊢
  have others : ∀ idx ≠ rvNextSlot s.rv, retired.1.slots idx = s.rv.slots idx := by
    intro idx differ
    rw [reused.slots, Function.update_of_ne differ]
    rfl
  have refs : forall idx frame, idx ≠ rvNextSlot s.rv -> (s.rv.slots idx).frame = some frame ->
      (retired.1.frames frame).refcnt = (s.rv.frames frame).refcnt := by
    intro idx frame differ holds
    rw [reused.frames]
    refine retiredFrames_refcnt env.toRvEnv s.view (rvNextSlot s.rv) (fun also => ?_)
    exact differ (kept.single idx (rvNextSlot s.rv) frame holds also)
  have received := rvAssignFrame_received env.toRvEnv retired.1 (rvNextSlot s.rv)
  have droppedAssigned := (quiet_assignFrame env.toRvEnv retired.1 (rvNextSlot s.rv)).booked.dropped
  rcases rvAssignFrame_cases env.toRvEnv retired.1 (rvNextSlot s.rv) with
    ⟨failed, only⟩ | ⟨frame, addr, free, taken⟩
  · rw [failed]
    refine ⟨only.cfg.trans reused.cfg, received.trans reused.counts.received,
      droppedAssigned.trans droppedReused, quiet, fun idx differ => ?_, fun idx frame differ holds => ?_,
      Or.inr ⟨rfl, ?_⟩⟩
    · exact (congrFun only.slots idx).trans (others idx differ)
    · exact (congrArg (fun frames => (frames frame).refcnt) only.frames).trans (refs idx frame differ holds)
    · dsimp only
      rw [only.slots, reused.slots, Function.update_self]
      rfl
  · rw [taken] at received droppedAssigned takes ⊢
    have unheld : ∀ idx ≠ rvNextSlot s.rv, (s.rv.slots idx).frame ≠ some frame := by
      intro idx differ holds
      have zero := (refs idx frame differ holds).symm.trans (rvGetFrame_some free).2
      exact (kept.slots idx frame holds).taken zero
    refine ⟨reused.cfg, received.trans reused.counts.received, droppedAssigned.trans droppedReused,
      quiet, fun idx differ => ?_, fun idx other differ holds => ?_,
      Or.inl ⟨frame, rfl, rfl, ?_, ?_, ?_, ?_, unheld, unknown, opens, ?_⟩⟩
    · dsimp only
      rw [RvSession.setSlot_slots_of_ne _ _ differ]
      exact others idx differ
    · have apart : other ≠ frame := fun same => unheld idx differ (same ▸ holds)
      exact (congrArg RvFrame.refcnt (RvSession.setFrame_frames_of_ne retired.1 _ apart)).trans
        (refs idx other differ holds)
    · dsimp only
      rw [RvSession.setSlot_slots_self]
      rfl
    · dsimp only
      rw [RvSession.setSlot_slots_self, reused.slots, Function.update_self]
      rfl
    · dsimp only
      rw [RvSession.setSlot_slots_self, reused.slots, Function.update_self]
      rfl
    · dsimp only
      rw [RvSession.setSlot_frames, RvSession.setFrame_frames_self]
      have zero := (rvGetFrame_some free).2
      rw [RvFrame.take, zero]
      exact (by decide : (0 + 1 : Int) ≠ 0)
    · have given := takes rfl
      have same : rvGetFrame { s.rv with frames := retiredFrames env.toRvEnv s.view (rvNextSlot s.rv) } =
          rvGetFrame retired.1 := by
        rw [rvGetFrame, rvGetFrame, reused.cfg, reused.frames]
        rfl
      rw [rvHdrSplitTakes, Bool.and_eq_true, same]
      refine ⟨given.1, ?_⟩
      rw [show s.rv.cfg = retired.1.cfg from reused.cfg.symm]
      exact given.2

/-! ### The handler and the lookup -/

theorem splitLookup_some {env : HdrSplitEnv} {s : RvHdrSplitSession} {mbuf : HdrSplitMbuf}
    {port : MtlSessionPort} {answer : SlotAnswer} (looked : splitLookup env s mbuf port = some answer) :
    rvHdrSplitHeaderCheck s.rv.cfg mbuf.pkt = none ∧ (s.info port).mbufPoolReady = true ∧
      answer = rvSlotByTmstamp env.toRvEnv s.view mbuf.pkt.tmstamp := by
  unfold splitLookup at looked
  split at looked
  · cases looked
  · rename_i accepted
    split at looked
    · cases looked
    · rename_i ready
      exact ⟨accepted, Bool.not_eq_false _ ▸ ready, (Option.some.inj looked).symm⟩

/-- A packet that is not counted: what it does after the lookup, if that is made. -/
structure SplitUncounted (s : RvHdrSplitSession) (seen : RvSession) (events : List RvEvent)
    (result : HdrSplitResult) : Prop where
  addrs : result.session.frameAddr = s.frameAddr
  splitStats : result.session.splitStats = s.splitStats
  cfg : result.session.rv.cfg = seen.cfg
  frames : result.session.rv.frames = seen.frames
  slots : forall idx, (result.session.rv.slots idx).filling = (seen.slots idx).filling
  received : result.session.rv.stats.pktsReceived = seen.stats.pktsReceived
  dropped : result.session.rv.stats.dropped .offset = seen.stats.dropped .offset
  events_eq : result.events = events

theorem drop_dropped_offset (s : RvHdrSplitSession) {reason : RvDrop} (other : reason ≠ .offset) :
    (s.drop reason).session.rv.stats.dropped .offset = s.rv.stats.dropped .offset :=
  Function.update_of_ne (Ne.symm other) _ _

theorem rvCountRedundant_filling (s : RvSession) (slotIdx : Nat) (port : MtlSessionPort) (idx : Nat) :
    ((rvCountRedundant s slotIdx port).slots idx).filling = (s.slots idx).filling := by
  rw [rvCountRedundant]
  dsimp only
  by_cases here : idx = slotIdx
  · rw [here, RvSession.setSlot_slots_self]
    rfl
  · rw [RvSession.setSlot_slots_of_ne _ _ here]

section

variable {env : HdrSplitEnv} {s : RvHdrSplitSession} {mbuf : HdrSplitMbuf} {port : MtlSessionPort}

theorem rvHandleHdrSplitPkt_refused (refused : splitLookup env s mbuf port = none) :
    SplitUncounted s s.rv [] (rvHandleHdrSplitPkt env s mbuf port) := by
  unfold splitLookup at refused
  unfold rvHandleHdrSplitPkt
  cases check : rvHdrSplitHeaderCheck s.rv.cfg mbuf.pkt with
  | some reason =>
    have other : reason ≠ .offset := by
      unfold rvHdrSplitHeaderCheck at check
      split at check
      · cases check
        decide
      · split at check
        · cases check
          decide
        · cases check
    exact ⟨rfl, rfl, rfl, rfl, fun _ => rfl, rfl, drop_dropped_offset s other, rfl⟩
  | none =>
    rw [check] at refused
    dsimp only at refused ⊢
    split at refused
    · rename_i unready
      rw [if_pos unready]
      exact ⟨rfl, rfl, rfl, rfl, fun _ => rfl, rfl, @drop_dropped_offset s .noSlot (by decide), rfl⟩
    · cases refused

theorem rvHandleHdrSplitPkt_looks {answer : SlotAnswer} (looked : splitLookup env s mbuf port = some answer) :
    (answer.held = none ∧
        SplitUncounted s answer.session answer.events (rvHandleHdrSplitPkt env s mbuf port)) ∨
      exists slotIdx frame, answer.slot = some slotIdx ∧
        (answer.session.slots slotIdx).frame = some frame ∧ answer.held = some frame ∧
        rvHandleHdrSplitPkt env s mbuf port =
          let result := rvHdrSplitHandleInSlot env (rvHdrSplitNewFrame env
            (s.withRv (answer.session.setRedundant port 0)) answer.existTs frame mbuf.payloadAddr)
            slotIdx frame mbuf port
          { result with events := answer.events ++ result.events } := by
  rcases splitLookup_some looked with ⟨accepted, ready, same⟩
  unfold rvHandleHdrSplitPkt
  rw [accepted]
  dsimp only
  rw [if_neg (by rw [ready]; decide), ← same]
  cases slot : answer.slot with
  | none =>
    refine Or.inl ⟨by rw [SlotAnswer.held, slot]; rfl, ?_⟩
    exact ⟨rfl, rfl, rfl, rfl, fun _ => rfl, rfl,
      @drop_dropped_offset (s.withRv (answer.session.setRedundant port 0)) .noSlot (by decide), rfl⟩
  | some slotIdx =>
    dsimp only
    cases holds : (answer.session.slots slotIdx).frame with
    | none =>
      exact Or.inl ⟨by rw [SlotAnswer.held, slot]; exact holds, rfl, rfl, rfl, rfl,
        rvCountRedundant_filling answer.session slotIdx port, rfl, rfl, rfl⟩
    | some frame =>
      exact Or.inr ⟨slotIdx, frame, rfl, holds, by rw [SlotAnswer.held, slot]; exact holds, rfl⟩

end

/-! ### One packet -/

section

variable {s : RvHdrSplitSession} {counted : Nat -> List SplitCounted}
    (kept : SplitKept ⟨s, counted⟩) (env : HdrSplitEnv) (tmstamp : Nat)

include kept env tmstamp

theorem SplitKept.seen :
    let answer := rvSlotByTmstamp env.toRvEnv s.view tmstamp
    (answer.session = s.view ∧ answer.events = [] ∧
        (answer.slot = none ∨ answer.slot = rvFindSlot s.rv tmstamp ∧ answer.existTs = true)) ∨
      answer.existTs = false ∧ SplitLooked s env tmstamp answer := by
  rcases rvSlotByTmstamp_cases env.toRvEnv s.view tmstamp with ⟨idx, found, same⟩ | same | ⟨opens, same⟩
  · rw [same]
    exact Or.inl ⟨rfl, rfl, Or.inr ⟨found.symm, rfl⟩⟩
  · rw [same]
    exact Or.inl ⟨rfl, rfl, Or.inl rfl⟩
  · rw [same]
    exact Or.inr ⟨rfl, splitLooked_opened kept env opens⟩

theorem SplitKept.lookup_same :
    let answer := rvSlotByTmstamp env.toRvEnv s.view tmstamp
    (∀ event ∈ answer.events, event.completeFrame = none) ∧
      SplitSame s (s.withRv answer.session) := by
  have seen := kept.seen env tmstamp
  dsimp only at seen ⊢
  generalize rvSlotByTmstamp env.toRvEnv s.view tmstamp = answer at seen ⊢
  rcases seen with ⟨same, none, _⟩ | ⟨_, looked⟩
  · rw [same, none]
    refine ⟨fun event member => ?_, rfl, rfl, rfl, rfl, rfl⟩
    cases member
  · exact ⟨looked.quiet, looked.cfg, looked.received, rfl,
      congrArg (fun count => (count RvDrop.offset, _, _)) looked.dropped, rfl⟩

theorem SplitKept.unheld (unheld : (rvSlotByTmstamp env.toRvEnv s.view tmstamp).held = none) :
    SplitKept ⟨s.withRv (rvSlotByTmstamp env.toRvEnv s.view tmstamp).session, counted⟩ := by
  have seen := kept.seen env tmstamp
  dsimp only at seen
  generalize rvSlotByTmstamp env.toRvEnv s.view tmstamp = answer at seen unheld ⊢
  rcases seen with ⟨same, _, _⟩ | ⟨_, looked⟩
  · rw [same]
    exact kept.of_idle rfl (fun _ => rfl) (fun _ _ _ => rfl) rfl rfl
  · refine kept.of_one (rvNextSlot s.rv) looked.cfg looked.others
      (fun idx frame differ holds => ⟨looked.refs idx frame differ holds, rfl, rfl⟩) ?_
    intro frame holds
    rcases looked.next with ⟨other, slot, _, has, _⟩ | ⟨_, empty⟩
    · rw [SlotAnswer.held, slot] at unheld
      cases unheld.symm.trans has
    · cases empty.symm.trans holds

end

theorem SplitUncounted.kept {s : RvHdrSplitSession} {counted : Nat -> List SplitCounted}
    {seen : RvSession} {events : List RvEvent} {result : HdrSplitResult}
    (kept : SplitKept ⟨s.withRv seen, counted⟩) (uncounted : SplitUncounted s seen events result) :
    SplitKept ⟨result.session, counted⟩ :=
  kept.of_idle uncounted.cfg uncounted.slots
    (fun _ frame _ => congrArg (fun frames => (frames frame).refcnt) uncounted.frames) uncounted.addrs rfl

theorem SplitUncounted.rejections {s : RvHdrSplitSession} {seen : RvSession} {events : List RvEvent}
    {result : HdrSplitResult} (uncounted : SplitUncounted s seen events result)
    (same : (s.withRv seen).rejections = s.rejections) : result.session.rejections = s.rejections := by
  rw [← same, RvHdrSplitSession.rejections, RvHdrSplitSession.rejections, uncounted.dropped,
    uncounted.splitStats]
  rfl

theorem SplitUncounted.right {s : SplitLedger} {env : HdrSplitEnv} {mbuf : HdrSplitMbuf}
    {port : MtlSessionPort} {seen : RvSession}
    (uncounted : SplitUncounted s.session seen
      (((splitLookup env s.session mbuf port).map SlotAnswer.events).getD [])
      (rvHandleHdrSplitPkt env s.session mbuf port))
    (same : (s.session.withRv seen).rejections = s.session.rejections)
    (quiet : forall answer, splitLookup env s.session mbuf port = some answer ->
      ∀ event ∈ answer.events, event.completeFrame = none) :
    SplitPacketRight s env mbuf port where
  recycled answer looked event member frame complete := by
    rw [quiet answer looked event member] at complete
    cases complete
  delivered event member := by
    rw [uncounted.events_eq] at member
    cases looked : splitLookup env s.session mbuf port with
    | none => simp [looked] at member
    | some answer => simp [looked] at member
  copied answer frame _ _ copied :=
    absurd (congrArg HdrSplitStats.copyHdrSplit uncounted.splitStats) copied
  rejected answer slotIdx _ _ rejected := absurd (uncounted.rejections same) rejected

theorem SplitKept.opened {s : RvHdrSplitSession} {counted : Nat -> List SplitCounted}
    (kept : SplitKept ⟨s, counted⟩) {env : HdrSplitEnv} {tmstamp slotIdx frame : Nat} {answer : SlotAnswer}
    (looked : SplitLooked s env tmstamp answer) (slot : answer.slot = some slotIdx)
    (held : (answer.session.slots slotIdx).frame = some frame) (addr : Nat) :
    SplitKept ⟨(s.withRv answer.session).setFrameAddr frame addr,
      Function.update counted frame []⟩ := by
  rcases looked.next with ⟨other, next, _, has, got, size, taken, unheld, _⟩ | ⟨refused, _⟩
  · have here : slotIdx = rvNextSlot s.rv := Option.some.inj (slot.symm.trans next)
    rw [here] at held
    have equal : frame = other := Option.some.inj (held.symm.trans has)
    subst equal
    refine kept.of_one (rvNextSlot s.rv) looked.cfg looked.others (fun idx other differ holds => ?_) ?_
    · have apart : other ≠ frame := fun same => unheld idx differ (same ▸ holds)
      exact ⟨looked.refs idx other differ holds, Function.update_of_ne apart _ _,
        Function.update_of_ne apart _ _⟩
    · intro other holds
      have equal : frame = other := Option.some.inj (held.symm.trans holds)
      subst equal
      refine ⟨⟨?_, taken, fun packet member => ?_, fun begun => ?_⟩, unheld⟩
      · refine lt_of_eq_of_lt size (kept.sized.trans_eq (congrArg RvConfig.st20FrameSize looked.cfg.symm))
      · have none : packet ∈ Function.update counted frame [] frame := member
        rw [Function.update_self] at none
        cases none
      · cases begun.symm.trans got
  · cases refused.symm.trans slot

theorem RvHdrSplitSession.setFrameAddr_self (s : RvHdrSplitSession) (frame addr : Nat) :
    (s.setFrameAddr frame addr).frameAddr frame = addr := Function.update_self ..

theorem rvHdrSplitNewFrame_opened (env : HdrSplitEnv) (s : RvHdrSplitSession) (frame payload : Nat) :
    rvHdrSplitNewFrame env s false frame payload =
      s.setFrameAddr frame (if s.rv.cfg.ops.queryExtFrame then env.extAddr else payload) := by
  rw [rvHdrSplitNewFrame, if_neg (by decide)]
  split <;> rfl

theorem rvHdrSplitCareful_ready {env : HdrSplitEnv} {s : RvHdrSplitSession} {mbuf : HdrSplitMbuf}
    {port : MtlSessionPort} (careful : rvHdrSplitCareful env s mbuf port = true)
    (accepted : rvHdrSplitHeaderCheck s.rv.cfg mbuf.pkt = none)
    (ready : (s.info port).mbufPoolReady = true) :
    (forall idx frame, rvFindSlot s.rv mbuf.pkt.tmstamp = some idx ->
        (s.rv.slots idx).frame = some frame ->
        rvHdrSplitFits s.rv.cfg (s.info port) (s.frameAddr frame) (s.rv.slots idx) mbuf port = true) ∧
      (rvFindSlot s.rv mbuf.pkt.tmstamp = none -> rvOpens s.rv mbuf.pkt.tmstamp = true ->
        rvHdrSplitTakes env s = true ->
        rvHdrSplitFits s.rv.cfg (s.info port)
          (if s.rv.cfg.ops.queryExtFrame then env.extAddr else mbuf.payloadAddr)
          ((s.rv.slots (rvNextSlot s.rv)).restart mbuf.pkt.tmstamp) mbuf port = true) := by
  unfold rvHdrSplitCareful at careful
  rw [accepted, ready] at careful
  dsimp only at careful
  refine ⟨fun idx frame found holds => ?_, fun unknown opens takes => ?_⟩
  · rw [found] at careful
    dsimp only at careful
    rw [holds] at careful
    exact careful
  · rw [unknown] at careful
    dsimp only at careful
    rw [opens, takes] at careful
    exact careful

theorem SplitKept.handled {s : RvHdrSplitSession} {counted : Nat -> List SplitCounted}
    (kept : SplitKept ⟨s, counted⟩) {env : HdrSplitEnv} {mbuf : HdrSplitMbuf} {port : MtlSessionPort}
    (careful : rvHdrSplitCareful env s mbuf port = true)
    (accepted : rvHdrSplitHeaderCheck s.rv.cfg mbuf.pkt = none)
    (ready : (s.info port).mbufPoolReady = true) {slotIdx frame : Nat}
    (slot : (rvSlotByTmstamp env.toRvEnv s.view mbuf.pkt.tmstamp).slot = some slotIdx)
    (held : ((rvSlotByTmstamp env.toRvEnv s.view mbuf.pkt.tmstamp).session.slots slotIdx).frame =
      some frame) :
    let answer := rvSlotByTmstamp env.toRvEnv s.view mbuf.pkt.tmstamp
    let middle := rvHdrSplitNewFrame env (s.withRv (answer.session.setRedundant port 0)) answer.existTs
      frame mbuf.payloadAddr
    SplitKept ⟨middle, Function.update counted frame (if answer.existTs then counted frame else [])⟩ ∧
      SplitSame s middle ∧ (middle.rv.slots slotIdx).frame = some frame ∧
      rvHdrSplitFits middle.rv.cfg (middle.info port) (middle.frameAddr frame)
        (middle.rv.slots slotIdx) mbuf port = true := by
  have seen := kept.seen env mbuf.pkt.tmstamp
  have same := (kept.lookup_same env mbuf.pkt.tmstamp).2
  rcases rvHdrSplitCareful_ready careful accepted ready with ⟨fitsKnown, fitsNew⟩
  dsimp only at seen same ⊢
  generalize rvSlotByTmstamp env.toRvEnv s.view mbuf.pkt.tmstamp = answer at seen same slot held ⊢
  rcases seen with ⟨session, _, refused | ⟨found, exist⟩⟩ | ⟨new, looked⟩
  · cases refused.symm.trans slot
  · rw [exist, rvHdrSplitNewFrame, if_pos rfl, if_pos rfl, Function.update_eq_self]
    rw [session] at held ⊢
    exact ⟨kept.of_idle rfl (fun _ => rfl) (fun _ _ _ => rfl) rfl rfl, ⟨rfl, rfl, rfl, rfl, rfl⟩, held,
      fitsKnown slotIdx frame (found.symm.trans slot) held⟩
  · rw [new, rvHdrSplitNewFrame_opened]
    have opened := kept.opened looked slot held
      (if answer.session.cfg.ops.queryExtFrame then env.extAddr else mbuf.payloadAddr)
    refine ⟨opened.of_idle rfl (fun _ => rfl) (fun _ _ _ => rfl) rfl rfl,
      ⟨same.cfg, same.received, same.copies, same.rejections, same.memory⟩, held, ?_⟩
    rcases looked.next with ⟨other, next, _, _, got, _, _, _, unknown, opens, takes⟩ | ⟨refused, _⟩
    · have here : slotIdx = rvNextSlot s.rv := Option.some.inj (slot.symm.trans next)
      have fits := fitsNew unknown opens takes
      rw [RvHdrSplitSession.setFrameAddr_self, here]
      rw [← looked.cfg] at fits
      have unknownBase : (answer.session.slots (rvNextSlot s.rv)).seqIdGot =
          ((s.rv.slots (rvNextSlot s.rv)).restart mbuf.pkt.tmstamp).seqIdGot := got
      refine rvHdrSplitFits_congr unknownBase (fun begun => ?_) fits
      cases begun.symm.trans got
    · cases refused.symm.trans slot

/-- A careful packet keeps the ledger and what is promised of it. -/
theorem SplitKept.packet {s : SplitLedger} (kept : SplitKept s) (env : HdrSplitEnv)
    (mbuf : HdrSplitMbuf) (port : MtlSessionPort)
    (careful : rvHdrSplitCareful env s.session mbuf port = true) :
    SplitKept (splitStep s (.packet env mbuf port)) ∧ SplitPacketRight s env mbuf port := by
  cases looked : splitLookup env s.session mbuf port with
  | none =>
    have refused := rvHandleHdrSplitPkt_refused looked
    have counts : splitCount env s mbuf port = s.counted := by
      rw [splitCount, looked]
      rfl
    have uncounted : SplitUncounted s.session s.session.rv
        (((splitLookup env s.session mbuf port).map SlotAnswer.events).getD [])
        (rvHandleHdrSplitPkt env s.session mbuf port) := by
      rw [looked]
      exact refused
    refine ⟨?_, uncounted.right rfl (fun answer other => ?_)⟩
    · rw [splitStep, counts]
      exact SplitUncounted.kept kept refused
    · cases looked.symm.trans other
  | some answer =>
    rcases splitLookup_some looked with ⟨accepted, ready, same⟩
    rcases kept.lookup_same env mbuf.pkt.tmstamp with ⟨quiet, sameBooks⟩
    have quietLookup : forall other, splitLookup env s.session mbuf port = some other ->
        ∀ event ∈ other.events, event.completeFrame = none := by
      intro other also
      rw [← Option.some.inj (looked.symm.trans also), same]
      exact quiet
    rcases rvHandleHdrSplitPkt_looks looked with ⟨unheld, after⟩ | ⟨slotIdx, frame, slot, holds, held, eq⟩
    · have counts : splitCount env s mbuf port = s.counted := by
        rw [splitCount, looked, Option.bind_some, unheld]
        rfl
      have uncounted : SplitUncounted s.session answer.session
          (((splitLookup env s.session mbuf port).map SlotAnswer.events).getD [])
          (rvHandleHdrSplitPkt env s.session mbuf port) := by
        rw [looked]
        exact after
      rw [same] at uncounted unheld
      refine ⟨?_, uncounted.right sameBooks.rejections quietLookup⟩
      rw [splitStep, counts]
      exact uncounted.kept (kept.unheld env mbuf.pkt.tmstamp unheld)
    · have counts : splitCount env s mbuf port = Function.update s.counted frame
          ((if answer.existTs then s.counted frame else []) ++ splitRecord s.session
            (rvHandleHdrSplitPkt env s.session mbuf port).session frame mbuf) := by
        rw [splitCount, looked, Option.bind_some, held]
        rfl
      rw [same] at slot holds
      rcases kept.handled careful accepted ready slot holds with ⟨before, books, has, fits⟩
      rw [← same] at before books has fits
      rcases before.inSlot env books has fits with ⟨keptAfter, delivered, copied, rejections⟩
      generalize rvHdrSplitHandleInSlot env (rvHdrSplitNewFrame env
        (s.session.withRv (answer.session.setRedundant port 0)) answer.existTs frame mbuf.payloadAddr)
        slotIdx frame mbuf port = result at eq keptAfter delivered copied rejections
      have stepped : splitStep s (.packet env mbuf port) = splitHandled s.session result.session
          (Function.update s.counted frame (if answer.existTs then s.counted frame else [])) frame
          mbuf := by
        rw [splitStep, counts, eq, splitHandled, Function.update_idem, Function.update_self]
      rw [← stepped] at keptAfter delivered
      refine ⟨keptAfter, ?_, ?_, ?_, ?_⟩
      · intro other also event member other complete
        rw [quietLookup _ also event member] at complete
        cases complete
      · intro event member other complete
        rw [looked, eq, Option.map_some, Option.getD_some, List.drop_left] at member
        exact delivered event member other complete
      · intro other also isAnswer isHeld
        rw [eq]
        rw [← Option.some.inj (looked.symm.trans isAnswer), held] at isHeld
        rw [← Option.some.inj isHeld]
        exact copied
      · intro other idx _ _ rejected
        rw [eq] at rejected
        exact absurd rejections rejected

/-! ## Runs -/

theorem rvReturnFrames_refcnt (s : RvSession) (frames : List Nat) {frame : Nat}
    (kept : frame ∉ frames) : ((rvReturnFrames s frames).frames frame).refcnt = (s.frames frame).refcnt := by
  induction frames generalizing s with
  | nil => rfl
  | cons returned rest ih =>
    have apart : frame ≠ returned := fun same => kept (same ▸ List.mem_cons_self)
    have later := ih (rvPutFrame s returned) (fun member => kept (List.mem_cons_of_mem _ member))
    rw [rvPutFrame, RvSession.setFrame_frames_of_ne _ _ apart] at later
    exact later

theorem splitStep_kept (s : SplitLedger) (input : SplitInput) (kept : SplitKept s)
    (careful : input.Careful s) : SplitKept (splitStep s input) := by
  cases input with
  | packet env mbuf port => exact (kept.packet env mbuf port careful).1
  | returned frames =>
    have rest := rvReturnFrames_eq s.session.rv frames
    refine kept.of_idle (rvReturnFrames_cfg s.session.rv frames) (fun idx => ?_)
      (fun idx frame holds => ?_) rfl rfl
    · show ((rvReturnFrames s.session.rv frames).slots idx).filling = _
      rw [rest]
    · exact rvReturnFrames_refcnt s.session.rv frames (fun member => careful frame member idx holds)
  | written memory => exact kept.of_idle rfl (fun _ => rfl) (fun _ _ _ => rfl) rfl rfl

theorem splitStep_right (s : SplitLedger) (input : SplitInput) (kept : SplitKept s)
    (careful : input.Careful s) : input.Right s := by
  cases input with
  | packet env mbuf port => exact (kept.packet env mbuf port careful).2
  | returned frames => trivial
  | written memory => trivial

/-- When every packet that is new to its slot passes the checks and is in place for the frame of the slot,
each frame that is handed over as complete starts with its packet 0 and has all its packets at their
offsets, and no rejected packet leaves a mark. -/
theorem split_packets_placed (cfg : RvConfig) (info : MtlSessionPort -> HdrSplitInfo)
    (sized : 0 < cfg.st20FrameSize) (inputs : List SplitInput)
    (careful : Admitted splitStep SplitInput.Careful (splitInit cfg info) inputs) :
    Admitted splitStep SplitInput.Right (splitInit cfg info) inputs := by
  have initially : SplitKept (splitInit cfg info) :=
    { sized := sized
      single := fun _ _ _ holds => by cases holds
      slots := fun _ _ holds => by cases holds }
  exact admitted_of_invariant splitStep SplitInput.Careful SplitKept splitStep_kept splitStep_right
    initially careful

/-- A receiver of four lines that fill a packet each, on one port and with two slots. -/
def splitRxOps : St20RxOps :=
  { width := 504, height := 4, fmt := .yuv422Bit10, interlaced := false, linesize := 0
    payloadType := 112, ssrc := 0, numPort := 1, type := .frameLevel, framebuffCnt := 3
    sliceLines := 0, uframeSize := 0, receiveIncompleteFrame := false, enableRtcp := true
    queryExtFrame := false }

def splitConfig : RvConfig :=
  { ops := splitRxOps, st22 := none, st20Pg := st20GetPgroup .yuv422Bit10
    st20BytesInLine := 1260, st20Linesize := 1260, st20FbSize := 5040, st20FrameSize := 5040
    st20FrameBitmapSize := 1, sliceLines := 0, sliceSize := 0, slotMax := 2
    userMetaBufferSize := 1024 }

example : rvAttach 1024 splitRxOps none = .ok splitConfig := rfl

/-- The buffer of the port has cells for three frames and what one may be shifted. -/
def splitInfo : HdrSplitInfo :=
  { frames := 0, framesSize := 15 * 1260, mbufAllocIdx := 0, mbufsPerFrame := 4, mbufsTotal := 15
    mbufPoolReady := true, curFrameAddr := 0, curFrameMbufIdx := 0 }

def splitStart : SplitLedger := splitInit splitConfig fun _ => splitInfo

def splitPacketEnv : HdrSplitEnv :=
  { notifyRecycled := 0, notifyFull := 0, queryExt := none, portDown := fun _ => false
    timeStamp := 0, missEstimate := 0, extAddr := 0 }

/-- Packet `idx` of the frame with the timestamp, in the given cell of the buffer. -/
def splitMbuf (tmstamp idx cell : Nat) : HdrSplitMbuf :=
  { pkt :=
      { marker := decide (idx = 3), payloadType := 112, seqNumber := tmstamp + idx, seqNumberExt := 0
        tmstamp := tmstamp, ssrc := 0, rowLength := 1260, rowNumber := idx, rowOffset := 0
        body := [] }
    bodyAddr := 0
    next := some (rtePktmbufHeadroom + cell * 1260) }

def splitPacket (tmstamp idx cell : Nat) : SplitInput :=
  .packet splitPacketEnv (splitMbuf tmstamp idx cell) .p

def splitInOrder : List SplitInput :=
  [splitPacket 5000 0 0, splitPacket 5000 1 1, splitPacket 5000 2 2, splitPacket 5000 3 3]

theorem splitInOrder_placed : Admitted splitStep SplitInput.Right splitStart splitInOrder :=
  split_packets_placed splitConfig (fun _ => splitInfo) (by decide) splitInOrder
    ⟨(by decide +kernel : rvHdrSplitCareful _ _ _ _ = true),
      (by decide +kernel : rvHdrSplitCareful _ _ _ _ = true),
      (by decide +kernel : rvHdrSplitCareful _ _ _ _ = true),
      (by decide +kernel : rvHdrSplitCareful _ _ _ _ = true), trivial⟩

/-- The first packet of the next frame overtakes the last three of a frame. -/
def splitOvertaken : List SplitInput :=
  [splitPacket 5000 0 0, splitPacket 6000 0 1, splitPacket 5000 1 2, splitPacket 5000 2 3]

/-- The base of the next frame passes the late packets for in place, one cell too far, and the frame is
handed over as complete; and when a packet is lost, the next one is rejected with its bit set. -/
theorem overtaken_frame_misplaced :
    ¬ Admitted splitStep SplitInput.Right splitStart (splitOvertaken ++ [splitPacket 5000 3 4]) ∧
      ¬ Admitted splitStep SplitInput.Right splitStart
        ([splitPacket 5000 0 0] ++ [splitPacket 5000 2 1]) := by
  constructor
  · rw [admitted_append]
    rintro ⟨_, last⟩
    have right : SplitPacketRight (run splitStep splitStart splitOvertaken) splitPacketEnv
        (splitMbuf 5000 3 4) .p := last.1
    have counted : ((splitStep (run splitStep splitStart splitOvertaken)
        (splitPacket 5000 3 4)).counted 0)[1]? = some ⟨false, 2648, 1260, 2648⟩ := by decide +kernel
    have addr : (splitStep (run splitStep splitStart splitOvertaken)
        (splitPacket 5000 3 4)).session.frameAddr 0 = 128 := by decide +kernel
    have complete : ((rvHandleHdrSplitPkt splitPacketEnv
        (run splitStep splitStart splitOvertaken).session (splitMbuf 5000 3 4) .p).events.drop
          (((splitLookup splitPacketEnv (run splitStep splitStart splitOvertaken).session
            (splitMbuf 5000 3 4) .p).map fun answer => answer.events.length).getD 0)).map
        RvEvent.completeFrame = [some 0] := by decide +kernel
    have member : some 0 ∈ [some 0] := List.mem_singleton_self _
    rw [← complete, List.mem_map] at member
    rcases member with ⟨event, among, frame⟩
    have fits := (right.delivered event among 0 frame).fits _ (List.mem_of_getElem? counted)
    have lies := fits.lies
    rw [show (splitStep (run splitStep splitStart splitOvertaken)
      (.packet splitPacketEnv (splitMbuf 5000 3 4) .p)).session.frameAddr 0 = 128 from addr] at lies
    exact absurd lies (by decide)
  · rw [admitted_append]
    rintro ⟨_, last⟩
    have right : SplitPacketRight (run splitStep splitStart [splitPacket 5000 0 0]) splitPacketEnv
        (splitMbuf 5000 2 1) .p := last.1
    have looked : (splitLookup splitPacketEnv (run splitStep splitStart [splitPacket 5000 0 0]).session
        (splitMbuf 5000 2 1) .p).map (fun answer => (answer.slot, (answer.session.slots 0).marks)) =
          some (some 0, [1#8], true, 5000) := by decide +kernel
    have rejected : (rvHandleHdrSplitPkt splitPacketEnv
        (run splitStep splitStart [splitPacket 5000 0 0]).session (splitMbuf 5000 2 1) .p).session.rejections ≠
          (run splitStep splitStart [splitPacket 5000 0 0]).session.rejections := by decide +kernel
    have marks : ((rvHandleHdrSplitPkt splitPacketEnv
        (run splitStep splitStart [splitPacket 5000 0 0]).session (splitMbuf 5000 2 1) .p).session.rv.slots
          0).marks = ([5#8], true, 5000) := by decide +kernel
    rcases Option.map_eq_some_iff.mp looked with ⟨answer, found, seen⟩
    simp only [Prod.mk.injEq] at seen
    have kept := right.rejected answer 0 found seen.1 rejected
    rw [marks, seen.2] at kept
    exact absurd kept (by decide)

end MediaTransport.Video
