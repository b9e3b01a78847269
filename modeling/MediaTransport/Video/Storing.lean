import MediaTransport.Video.FramePacket
import MediaTransport.Video.Slots

namespace MediaTransport.Video

open Library

/-!
# What storing a packet changes

A packet that is new in its slot is copied into the frame and counted.  If it
does not fill the frame nothing else happens; if it does, the frame leaves the
slot and the application hears of it exactly once.
-/

/-! ## Deliveries -/

/-- One call of `notify_frame_ready`. -/
structure Delivery where
  frame : Nat
  info : RxFrameMeta
  content : Nat -> Byte
  ret : Int

def RvEvent.delivery : RvEvent -> Option Delivery
  | .frameReady frame info content ret => some ⟨frame, info, content, ret⟩
  | .sliceReady .. => none
  | .uframePg .. => none

def deliveries (events : List RvEvent) : List Delivery := events.filterMap RvEvent.delivery

@[simp] theorem deliveries_append (first second : List RvEvent) :
    deliveries (first ++ second) = deliveries first ++ deliveries second :=
  List.filterMap_append

/-! ## Slices and user frames -/

section

variable (s : RvSession) (slot : RvSlot) (frame : Nat) (place : RvPlacement)

theorem rvSlices_slot :
    Exists fun info => (rvSlices s slot frame place).1 = { slot with sliceInfo := info } := by
  unfold rvSlices
  cases slot.sliceInfo with
  | none => exact ⟨slot.sliceInfo, rfl⟩
  | some info => exact ⟨_, rfl⟩

theorem rvSlices_counts :
    SameCounts s.stats (rvSlices s slot frame place).2.1 := by
  unfold rvSlices
  cases slot.sliceInfo with
  | none => exact SameCounts.refl _
  | some info => exact ⟨rfl, rfl⟩

theorem rvSlices_quiet :
    deliveries (rvSlices s slot frame place).2.2 = [] := by
  unfold rvSlices
  cases slot.sliceInfo with
  | none => rfl
  | some info =>
    dsimp only
    split <;> rfl

end

theorem rvUframeEvents_quiet (cfg : RvConfig) (line : RvLine) (frame : Nat) :
    deliveries (rvUframeEvents cfg line frame) = [] := by
  unfold rvUframeEvents
  split
  · rfl
  · cases line.extra <;> rfl

/-! ## Storing -/

@[simp] theorem received_frameSize (slot : RvSlot) (pktIdx payloadLength : Nat)
    (port : MtlSessionPort) (ctrlThread : Bool) :
    rvSlotGetFrameSize (slot.received pktIdx payloadLength port ctrlThread) =
      rvSlotGetFrameSize slot + payloadLength := by
  cases ctrlThread <;> simp [rvSlotGetFrameSize, RvSlot.received, RvSlot.countPort] <;> omega

def RvSession.withContent (s : RvSession) (frame : Nat) (content : Nat -> Byte) : RvSession :=
  s.setFrame frame { s.frames frame with addr := content }

/-- A packet went into its slot, now `filled`, and its frame, now with
`content`, and did not complete it. -/
structure StoredPart (before after : RvSession) (events : List RvEvent) (slotIdx frame : Nat)
    (filled : RvSlot) (content : Nat -> Byte) : Prop where
  cfg : after.cfg = before.cfg
  frames : after.frames = (before.withContent frame content).frames
  slots : Exists fun info => after.slots =
    Function.update before.slots slotIdx { filled with sliceInfo := info }
  slotIdx_eq : after.slotIdx = before.slotIdx
  received : after.stats.pktsReceived = before.stats.pktsReceived + 1
  redundant : after.stats.pktsRedundant = before.stats.pktsRedundant
  quiet : deliveries events = []

def RvSlot.delivered (slot : RvSlot) : RvSlot :=
  { slot with lossPending := true, frameRecvSize := 0, pktLcoreFrameRecvSize := 0, frame := none }

/-- A packet completed the frame: the frame leaves the slot and is announced
as whole; if the application refuses it, it returns to the pool. -/
structure StoredLast (before after : RvSession) (events : List RvEvent) (slotIdx frame : Nat)
    (filled : RvSlot) (content : Nat -> Byte) (ret : Int) : Prop where
  cfg : after.cfg = before.cfg
  frames : after.frames =
    if ret < 0 then
      (rvPutFrame (before.withContent frame content) frame).frames
    else
      (before.withContent frame content).frames
  slots : Exists fun info => after.slots =
    Function.update before.slots slotIdx { filled.delivered with sliceInfo := info }
  slotIdx_eq : after.slotIdx = before.slotIdx
  received : after.stats.pktsReceived = before.stats.pktsReceived + 1
  redundant : after.stats.pktsRedundant = before.stats.pktsRedundant
  delivered : Exists fun info => deliveries events = [⟨frame, info, content, ret⟩] ∧
    info.timestamp = filled.tmstamp ∧ info.frameRecvSize = rvSlotGetFrameSize filled ∧
    (info.status = .complete ∨ info.status = .reconstructed)

theorem StoredPart.handOver {s stored after : RvSession} {quiet events : List RvEvent}
    {slotIdx frame : Nat} {filled : RvSlot} {content : Nat -> Byte} {ret : Int} {info : RxFrameMeta}
    (part : StoredPart s stored quiet slotIdx frame filled content)
    (notified : Notified stored after events slotIdx frame true ret
      (.frameReady frame info (stored.frames frame).addr ret))
    (timestamp : info.timestamp = filled.tmstamp)
    (recvSize : info.frameRecvSize = rvSlotGetFrameSize filled)
    (status : info.status = .complete ∨ info.status = .reconstructed) :
    StoredLast s
      (after.setSlot slotIdx
        { after.slots slotIdx with frameRecvSize := 0, pktLcoreFrameRecvSize := 0, frame := none })
      (quiet ++ events) slotIdx frame filled content ret := by
  rcases part.slots with ⟨sliceInfo, slots⟩
  have content_eq : (stored.frames frame).addr = content := by
    rw [part.frames, RvSession.withContent, RvSession.setFrame_frames_self]
  refine ⟨notified.cfg.trans part.cfg, ?_, ⟨sliceInfo, ?_⟩,
    notified.slotIdx_eq.trans part.slotIdx_eq, notified.counts.received.trans part.received,
    notified.counts.redundant.trans part.redundant, ⟨info, ?_, timestamp, recvSize, status⟩⟩
  · rw [RvSession.setSlot_frames, notified.frames]
    unfold givesBack rvPutFrame
    simp only [if_true, decide_eq_true_eq]
    by_cases refused : ret < 0
    · rw [if_pos refused, if_pos refused]
      show Function.update _ frame _ = Function.update _ frame _
      rw [part.frames]
    · rw [if_neg refused, if_neg refused, part.frames]
  · rw [RvSession.setSlot_slots, notified.slots, slots]
    simp only [Function.update_idem, Function.update_self]
    rfl
  · rw [deliveries_append, part.quiet, notified.events_eq, Bool.true_or, if_pos rfl, content_eq]
    rfl

section Store

variable (env : RvEnv) (s : RvSession) (slotIdx frame : Nat) (slot : RvSlot) (line : RvLine)
  (place : RvPlacement) (pktIdx : Nat) (port : MtlSessionPort) (ctrlThread : Bool)

/-- The session after copy, count and slices, before the check for a full
frame. -/
def rvStored : RvSession × List RvEvent :=
  let copied := s.withContent frame (rvCopy s.cfg line place (s.frames frame).addr)
  let counted : RvSession :=
    { copied with stats := { s.stats with pktsReceived := s.stats.pktsReceived + 1 } }
  let sliced := rvSlices counted (slot.received pktIdx place.payloadLength port ctrlThread) frame
    place
  ({ counted.setSlot slotIdx sliced.1 with stats := sliced.2.1 },
    rvUframeEvents s.cfg line frame ++ sliced.2.2)

theorem rvStored_part :
    let stored := rvStored s slotIdx frame slot line place pktIdx port ctrlThread
    StoredPart s stored.1 stored.2 slotIdx frame
      (slot.received pktIdx place.payloadLength port ctrlThread)
      (rvCopy s.cfg line place (s.frames frame).addr) := by
  dsimp only [rvStored]
  generalize sliced : rvSlices _ _ frame place = answer
  rcases sliced ▸ rvSlices_slot _ _ frame place with ⟨info, same⟩
  have counts := sliced ▸ rvSlices_counts _ _ frame place
  have quiet := sliced ▸ rvSlices_quiet _ _ frame place
  refine ⟨rfl, rfl, ⟨info, ?_⟩, rfl, counts.received, counts.redundant, ?_⟩
  · rw [← same]
    rfl
  · rw [deliveries_append, rvUframeEvents_quiet, quiet]
    rfl

theorem rvStorePacket_eq :
    rvStorePacket env s slotIdx frame slot line place pktIdx port ctrlThread =
      let stored := rvStored s slotIdx frame slot line place pktIdx port ctrlThread
      if s.cfg.st20FrameSize ≤ rvSlotGetFrameSize (stored.1.slots slotIdx) then
        let answer := rvSlotFullFrame env stored.1 slotIdx frame
        (answer.1, stored.2 ++ answer.2)
      else
        stored := by
  unfold rvStorePacket
  dsimp only [rvStored, RvSession.withContent]
  rw [RvSession.setSlot_slots_self]
  rfl

variable {env s slotIdx frame slot line place pktIdx port ctrlThread}

theorem rvStorePacket_part
    (room : rvSlotGetFrameSize slot + place.payloadLength < s.cfg.st20FrameSize) :
    let stored := rvStorePacket env s slotIdx frame slot line place pktIdx port ctrlThread
    StoredPart s stored.1 stored.2 slotIdx frame
      (slot.received pktIdx place.payloadLength port ctrlThread)
      (rvCopy s.cfg line place (s.frames frame).addr) := by
  have part := rvStored_part s slotIdx frame slot line place pktIdx port ctrlThread
  rw [rvStorePacket_eq]
  generalize rvStored s slotIdx frame slot line place pktIdx port ctrlThread = stored at part ⊢
  rcases part.slots with ⟨info, slots⟩
  have size : rvSlotGetFrameSize (stored.1.slots slotIdx) =
      rvSlotGetFrameSize (slot.received pktIdx place.payloadLength port ctrlThread) := by
    rw [slots, Function.update_self]
    rfl
  dsimp only
  rw [if_neg (by rw [size, received_frameSize]; omega)]
  exact part

theorem rvStorePacket_last
    (full : s.cfg.st20FrameSize ≤ rvSlotGetFrameSize slot + place.payloadLength) :
    let stored := rvStorePacket env s slotIdx frame slot line place pktIdx port ctrlThread
    StoredLast s stored.1 stored.2 slotIdx frame
      (slot.received pktIdx place.payloadLength port ctrlThread)
      (rvCopy s.cfg line place (s.frames frame).addr) env.notifyFull := by
  have part := rvStored_part s slotIdx frame slot line place pktIdx port ctrlThread
  rw [rvStorePacket_eq]
  generalize rvStored s slotIdx frame slot line place pktIdx port ctrlThread = stored at part ⊢
  generalize filledEq : slot.received pktIdx place.payloadLength port ctrlThread = filled at part ⊢
  generalize rvCopy s.cfg line place (s.frames frame).addr = content at part ⊢
  rcases part.slots with ⟨info, slots⟩
  have slotEq : stored.1.slots slotIdx = { filled with sliceInfo := info } := by
    rw [slots, Function.update_self]
  have size : rvSlotGetFrameSize (stored.1.slots slotIdx) = rvSlotGetFrameSize filled := by
    rw [slotEq]
    rfl
  have large : s.cfg.st20FrameSize ≤ rvSlotGetFrameSize filled := by
    rw [← filledEq, received_frameSize]
    exact full
  have whole : isFull stored.1 slotIdx = true := by
    rw [isFull, part.cfg, size]
    exact decide_eq_true large
  have notified := rvFrameNotify_notified env env.notifyFull stored.1 slotIdx frame
  rw [whole] at notified
  dsimp only
  rw [if_pos (by rw [size]; exact large)]
  refine part.handOver notified ?_ size ?_
  · show (stored.1.slots slotIdx).tmstamp = _
    rw [slotEq]
  · show (if _ then _ else _) = _ ∨ (if _ then _ else _) = _
    rw [part.cfg, size, if_pos large]
    split
    · exact Or.inr rfl
    · exact Or.inl rfl

end Store

/-! ## The packet in its slot -/

theorem onlyCounted_countRetransmit (s : RvSession) (line : RvLine) :
    OnlyCounted s (rvCountRetransmit s line) := by
  unfold rvCountRetransmit
  split
  · exact onlyCounted_withStats s ⟨rfl, rfl⟩
  · exact OnlyCounted.refl s

theorem onlyCounted_countReordered (s : RvSession) (port : MtlSessionPort) (reordered : Bool) :
    OnlyCounted s (rvCountReordered s port reordered) := by
  unfold rvCountReordered
  dsimp only
  split
  · exact onlyCounted_withStats s ⟨rfl, rfl⟩
  · exact OnlyCounted.refl s

/-- The part of a slot that decides what the next packet does is kept. -/
structure SlotKept (before after : RvSlot) : Prop where
  tmstamp : after.tmstamp = before.tmstamp
  seqIdBaseU32 : after.seqIdBaseU32 = before.seqIdBaseU32
  seqIdGot : after.seqIdGot = before.seqIdGot
  frame : after.frame = before.frame
  frameBitmap : after.frameBitmap = before.frameBitmap
  frameSize : rvSlotGetFrameSize after = rvSlotGetFrameSize before

/-- A packet that the slot had already got is counted and nothing else. -/
structure Repeated (before after : RvSession) (events : List RvEvent) (slotIdx : Nat) : Prop where
  cfg : after.cfg = before.cfg
  frames : after.frames = before.frames
  slots : Exists fun slot => SlotKept (before.slots slotIdx) slot ∧
    after.slots = Function.update before.slots slotIdx slot
  slotIdx_eq : after.slotIdx = before.slotIdx
  received : after.stats.pktsReceived = before.stats.pktsReceived
  redundant : after.stats.pktsRedundant = before.stats.pktsRedundant + 1
  quiet : events = []

section

variable {s mid after : RvSession} {events : List RvEvent} {slotIdx frame : Nat}
    {slot filled : RvSlot} {content : Nat -> Byte}

theorem StoredPart.rebase (counted : OnlyCounted (s.setSlot slotIdx slot) mid)
    (part : StoredPart mid after events slotIdx frame filled content) :
    StoredPart s after events slotIdx frame filled content := by
  rcases part.slots with ⟨info, slots⟩
  refine ⟨part.cfg.trans counted.cfg, ?_, ⟨info, ?_⟩, part.slotIdx_eq.trans counted.slotIdx,
    ?_, part.redundant.trans counted.counts.redundant, part.quiet⟩
  · rw [part.frames, RvSession.withContent, RvSession.setFrame, counted.frames]
    rfl
  · rw [slots, counted.slots, RvSession.setSlot_slots, Function.update_idem]
  · rw [part.received, counted.counts.received]
    rfl

theorem StoredLast.rebase {ret : Int}
    (counted : OnlyCounted (s.setSlot slotIdx slot) mid)
    (last : StoredLast mid after events slotIdx frame filled content ret) :
    StoredLast s after events slotIdx frame filled content ret := by
  rcases last.slots with ⟨info, slots⟩
  refine ⟨last.cfg.trans counted.cfg, ?_, ⟨info, ?_⟩, last.slotIdx_eq.trans counted.slotIdx,
    ?_, last.redundant.trans counted.counts.redundant, last.delivered⟩
  · rw [last.frames]
    unfold rvPutFrame RvSession.withContent RvSession.setFrame
    rw [counted.frames]
    rfl
  · rw [slots, counted.slots, RvSession.setSlot_slots, Function.update_idem]
  · rw [last.received, counted.counts.received]
    rfl

end

section InSlot

variable {env : RvEnv} {s : RvSession} {slotIdx frame : Nat} {mbuf : RvMbuf}
  {port : MtlSessionPort} {ctrlThread : Bool} {place : RvPlacement}

def fielded (s : RvSession) (slotIdx : Nat) (mbuf : RvMbuf) : RvSlot :=
  { s.slots slotIdx with secondField := (rvReadLine mbuf.pkt).secondField }

theorem rvHandleInSlot_repeated (plain : (rvReadLine mbuf.pkt).userMeta = false)
    (placed : rvPlace s.cfg (rvReadLine mbuf.pkt) = .ok place)
    (index : rvIndex s.cfg (fielded s slotIdx mbuf) (rvReadLine mbuf.pkt) place mbuf.pkt.seqId port
      ctrlThread = .redundant) :
    let result := rvHandleInSlot env s slotIdx frame mbuf port ctrlThread
    Repeated s result.session result.events slotIdx := by
  unfold rvHandleInSlot
  dsimp only
  rw [plain, if_neg Bool.false_ne_true, RvSession.setSlot_cfg, RvSession.setSlot_slots_self, placed]
  dsimp only
  unfold fielded at index
  rw [index]
  refine ⟨rfl, rfl, ⟨(fielded s slotIdx mbuf).countPort port, ⟨rfl, rfl, rfl, rfl, rfl, rfl⟩, ?_⟩,
    rfl, rfl, rfl, rfl⟩
  show Function.update (Function.update _ _ _) _ _ = _
  rw [Function.update_idem, RvSession.setSlot_slots_self]
  rfl

section

variable {pktIdx : Nat} {slot : RvSlot} {reordered : Bool}
    (plain : (rvReadLine mbuf.pkt).userMeta = false)
    (placed : rvPlace s.cfg (rvReadLine mbuf.pkt) = .ok place)
    (index : rvIndex s.cfg (fielded s slotIdx mbuf) (rvReadLine mbuf.pkt) place mbuf.pkt.seqId port ctrlThread =
      .fresh pktIdx slot reordered)

include plain placed index

theorem rvHandleInSlot_fresh :
    let result := rvHandleInSlot env s slotIdx frame mbuf port ctrlThread
    let stored := rvStorePacket env
      (rvCountReordered (s.setSlot slotIdx (fielded s slotIdx mbuf)) port reordered) slotIdx frame
      slot (rvReadLine mbuf.pkt) place pktIdx port ctrlThread
    result.session = stored.1 ∧ result.events = stored.2 := by
  unfold rvHandleInSlot
  dsimp only
  rw [plain, if_neg Bool.false_ne_true, RvSession.setSlot_cfg, RvSession.setSlot_slots_self, placed]
  dsimp only
  unfold fielded at index
  rw [index]
  exact ⟨rfl, rfl⟩

theorem rvHandleInSlot_part
    (room : rvSlotGetFrameSize slot + place.payloadLength < s.cfg.st20FrameSize) :
    let result := rvHandleInSlot env s slotIdx frame mbuf port ctrlThread
    StoredPart s result.session result.events slotIdx frame
      (slot.received pktIdx place.payloadLength port ctrlThread)
      (rvCopy s.cfg (rvReadLine mbuf.pkt) place (s.frames frame).addr) := by
  have counted := onlyCounted_countReordered (s.setSlot slotIdx (fielded s slotIdx mbuf)) port
    reordered
  rcases @rvHandleInSlot_fresh env s slotIdx frame mbuf port ctrlThread place pktIdx slot reordered
    plain placed index with ⟨session, events⟩
  have part := (@rvStorePacket_part env _ slotIdx frame slot (rvReadLine mbuf.pkt) place pktIdx port
    ctrlThread (by rw [counted.cfg]; exact room)).rebase counted
  rw [counted.cfg, counted.frames] at part
  dsimp only
  rw [session, events]
  exact part

theorem rvHandleInSlot_last
    (full : s.cfg.st20FrameSize ≤ rvSlotGetFrameSize slot + place.payloadLength) :
    let result := rvHandleInSlot env s slotIdx frame mbuf port ctrlThread
    StoredLast s result.session result.events slotIdx frame
      (slot.received pktIdx place.payloadLength port ctrlThread)
      (rvCopy s.cfg (rvReadLine mbuf.pkt) place (s.frames frame).addr) env.notifyFull := by
  have counted := onlyCounted_countReordered (s.setSlot slotIdx (fielded s slotIdx mbuf)) port
    reordered
  rcases @rvHandleInSlot_fresh env s slotIdx frame mbuf port ctrlThread place pktIdx slot reordered
    plain placed index with ⟨session, events⟩
  have last := (@rvStorePacket_last env _ slotIdx frame slot (rvReadLine mbuf.pkt) place pktIdx port
    ctrlThread (by rw [counted.cfg]; exact full)).rebase counted
  rw [counted.cfg, counted.frames] at last
  dsimp only
  rw [session, events]
  exact last

end

theorem rvHandleFramePkt_inSlot
    (accepted : rvHeaderCheck s.cfg mbuf = none)
    {answer : SlotAnswer}
    (lookup : rvSlotByTmstamp env (rvCountRetransmit s (rvReadLine mbuf.pkt)) mbuf.pkt.tmstamp =
      answer)
    (found : answer.slot = some slotIdx)
    (held : (answer.session.slots slotIdx).frame = some frame) :
    let result := rvHandleFramePkt env s mbuf port ctrlThread
    let inSlot := rvHandleInSlot env (answer.session.setRedundant port 0) slotIdx frame mbuf port
      ctrlThread
    result.session = inSlot.session ∧ result.events = answer.events ++ inSlot.events := by
  have same := (onlyCounted_countRetransmit s (rvReadLine mbuf.pkt)).cfg
  unfold rvHandleFramePkt
  dsimp only
  rw [same, accepted, lookup]
  dsimp only
  rw [found]
  dsimp only
  rw [held]
  exact ⟨rfl, rfl⟩

theorem rvHandleFramePkt_gone (accepted : rvHeaderCheck s.cfg mbuf = none)
    (found : rvFindSlot s mbuf.pkt.tmstamp = some slotIdx)
    (gone : (s.slots slotIdx).frame = none) :
    let result := rvHandleFramePkt env s mbuf port ctrlThread
    Repeated s result.session result.events slotIdx := by
  have once := onlyCounted_countRetransmit s (rvReadLine mbuf.pkt)
  unfold rvHandleFramePkt
  dsimp only
  generalize rvCountRetransmit s (rvReadLine mbuf.pkt) = counted at once ⊢
  have lookup : rvSlotByTmstamp env counted mbuf.pkt.tmstamp =
      ⟨counted, some slotIdx, true, []⟩ := by
    apply rvSlotByTmstamp_found
    rw [rvFindSlot_congr once.cfg (fun idx => by rw [once.slots])]
    exact found
  rw [once.cfg, accepted, lookup]
  dsimp only
  rw [once.slots, gone]
  refine ⟨once.cfg, once.frames, ⟨(s.slots slotIdx).countPort port,
    ⟨rfl, rfl, rfl, rfl, rfl, rfl⟩, ?_⟩, once.slotIdx, once.counts.received,
    congrArg (· + 1) once.counts.redundant, rfl⟩
  show Function.update counted.slots slotIdx ((counted.slots slotIdx).countPort port) = _
  rw [once.slots]

end InSlot

end MediaTransport.Video
