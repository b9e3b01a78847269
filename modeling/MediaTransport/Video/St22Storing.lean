import MediaTransport.Video.St22Packet
import MediaTransport.Video.Storing

namespace MediaTransport.Video

open Library

/-!
# What storing a packet of ST 2110-22 changes

The same two outcomes as for ST 2110-20, except that a frame is full when its
size is the one that the session expects.  The expectation comes from the last
marker that any slot has stored, and is forgotten with every frame that is
handed over.
-/

/-- The size that the frame is expected to have when the packet has been stored. -/
def rvExpected (s : RvSession) (marker : Bool) (piece : RvSt22Piece) : Nat :=
  if marker then piece.offset + piece.bytes.length else s.st22ExpectFrameSize

/-- With this packet the frame has all its bytes. -/
def rvSt22Completes (s : RvSession) (slot : RvSlot) (marker : Bool) (piece : RvSt22Piece) : Prop :=
  rvExpected s marker piece ≠ 0 ∧
    rvExpected s marker piece = rvSlotGetFrameSize slot + piece.bytes.length

instance (s : RvSession) (slot : RvSlot) (marker : Bool) (piece : RvSt22Piece) :
    Decidable (rvSt22Completes s slot marker piece) :=
  inferInstanceAs (Decidable (_ ∧ _))

theorem onlyCounted_countBoxes (s : RvSession) (slot : RvSlot) (pkt : Rfc9134Packet) :
    OnlyCounted s (rvCountBoxes s slot pkt) := by
  unfold rvCountBoxes
  split
  · exact onlyCounted_withStats s ⟨rfl, rfl⟩
  · exact OnlyCounted.refl s

theorem rvHandOver_expect (s : RvSession) (slotIdx frame : Nat) (event : RvEvent) (ret : Int) :
    (rvHandOver s slotIdx frame event ret).1.st22ExpectFrameSize = s.st22ExpectFrameSize := by
  unfold rvHandOver
  dsimp only
  split <;> rfl

theorem rvGiveUp_expect (env : RvEnv) (s : RvSession) (slotIdx frame miss : Nat) (event : RvEvent) :
    (rvGiveUp env s slotIdx frame miss event).1.st22ExpectFrameSize = s.st22ExpectFrameSize := by
  unfold rvGiveUp
  dsimp only
  split <;> rfl

theorem rvSt22FrameNotify_expect (env : RvEnv) (ret : Int) (s : RvSession) (slotIdx frame : Nat)
    (status : StFrameStatus) :
    (rvSt22FrameNotify env ret s slotIdx frame status).1.st22ExpectFrameSize = 0 := by
  unfold rvSt22FrameNotify
  dsimp only
  split
  · rw [rvHandOver_expect, rvSt22CountFrame]
    split <;> rfl
  · exact rvGiveUp_expect ..

section Store

variable (env : RvEnv) (s : RvSession) (slotIdx frame : Nat) (slot : RvSlot) (marker : Bool)
  (piece : RvSt22Piece) (port : MtlSessionPort)

/-- The session after copy, count and learning the size, before the check for
a full frame. -/
def rvSt22Stored : RvSession :=
  let copied := s.withContent frame (store (s.frames frame).addr piece.offset piece.bytes)
  rvLearnSize
    ((copied.setSlot slotIdx (slot.gained piece.bytes.length port)).withStats
      { s.stats with pktsReceived := s.stats.pktsReceived + 1 })
    marker (piece.offset + piece.bytes.length)

/-- Up to the check for a full frame, a packet changes its slot and the bytes of its frame. -/
theorem rvSt22Stored_part :
    StoredPart s (rvSt22Stored s slotIdx frame slot marker piece port) [] slotIdx frame
      (slot.gained piece.bytes.length port)
      (store (s.frames frame).addr piece.offset piece.bytes) := by
  unfold rvSt22Stored rvLearnSize
  dsimp only
  split
  · exact ⟨rfl, rfl, ⟨slot.sliceInfo, rfl⟩, rfl, rfl, rfl, rfl⟩
  · exact ⟨rfl, rfl, ⟨slot.sliceInfo, rfl⟩, rfl, rfl, rfl, rfl⟩

theorem rvSt22Stored_expect :
    (rvSt22Stored s slotIdx frame slot marker piece port).st22ExpectFrameSize =
      rvExpected s marker piece := by
  unfold rvSt22Stored rvLearnSize rvExpected
  cases marker <;> rfl

theorem gained_frameSize (length : Nat) :
    rvSlotGetFrameSize (slot.gained length port) = rvSlotGetFrameSize slot + length := by
  simp only [rvSlotGetFrameSize, RvSlot.gained, RvSlot.countPort]
  omega

/-- Storing a packet is the change of the slot, and a full frame is then handed over. -/
theorem rvSt22StorePacket_eq :
    rvSt22StorePacket env s slotIdx frame slot marker piece port =
      let stored := rvSt22Stored s slotIdx frame slot marker piece port
      if rvSt22Completes s slot marker piece then
        rvSt22SlotFullFrame env stored slotIdx frame
      else
        (stored, []) := by
  have test : rvSt22Completes s slot marker piece ↔
      (rvSt22Stored s slotIdx frame slot marker piece port).st22ExpectFrameSize ≠ 0 ∧
        (rvSt22Stored s slotIdx frame slot marker piece port).st22ExpectFrameSize =
          rvSlotGetFrameSize (slot.gained piece.bytes.length port) := by
    rw [rvSt22Stored_expect, gained_frameSize]
    rfl
  dsimp only
  by_cases full : rvSt22Completes s slot marker piece
  · rw [if_pos full]
    exact if_pos (test.mp full)
  · rw [if_neg full]
    exact if_neg (fun both => full (test.mpr both))

variable {env s slotIdx frame slot marker piece port}

/-- A packet that leaves its frame incomplete. -/
theorem rvSt22StorePacket_part (short : ¬ rvSt22Completes s slot marker piece) :
    let stored := rvSt22StorePacket env s slotIdx frame slot marker piece port
    StoredPart s stored.1 stored.2 slotIdx frame (slot.gained piece.bytes.length port)
        (store (s.frames frame).addr piece.offset piece.bytes) ∧
      stored.1.st22ExpectFrameSize = rvExpected s marker piece := by
  rw [rvSt22StorePacket_eq]
  dsimp only
  rw [if_neg short]
  exact ⟨rvSt22Stored_part .., rvSt22Stored_expect ..⟩

/-- A packet that completes its frame. -/
theorem rvSt22StorePacket_last (full : rvSt22Completes s slot marker piece) :
    let stored := rvSt22StorePacket env s slotIdx frame slot marker piece port
    StoredLast s stored.1 stored.2 slotIdx frame (slot.gained piece.bytes.length port)
        (store (s.frames frame).addr piece.offset piece.bytes) env.notifyFull ∧
      stored.1.st22ExpectFrameSize = 0 := by
  have part := rvSt22Stored_part s slotIdx frame slot marker piece port
  rw [rvSt22StorePacket_eq]
  dsimp only
  rw [if_pos full]
  generalize rvSt22Stored s slotIdx frame slot marker piece port = stored at part ⊢
  generalize slot.gained piece.bytes.length port = filled at part ⊢
  generalize store (s.frames frame).addr piece.offset piece.bytes = content at part ⊢
  have forgets := rvSt22FrameNotify_expect env env.notifyFull stored slotIdx frame .complete
  have notified := rvSt22FrameNotify_notified env env.notifyFull stored slotIdx frame .complete
  rcases part.slots with ⟨info, slots⟩
  have slotEq : stored.slots slotIdx = { filled with sliceInfo := info } := by
    rw [slots, Function.update_self]
  refine ⟨part.handOver notified ?_ ?_ (Or.inl rfl), forgets⟩
  · show (stored.slots slotIdx).tmstamp = _
    rw [slotEq]
  · show rvSlotGetFrameSize (stored.slots slotIdx) = _
    rw [slotEq]
    rfl

end Store

/-! ## The packet in its slot -/

/-- A packet was dropped after it may have changed its slot. -/
structure Dropped (before after : RvSession) (events : List RvEvent) (slotIdx : Nat)
    (slot : RvSlot) : Prop where
  cfg : after.cfg = before.cfg
  frames : after.frames = before.frames
  slots : after.slots = Function.update before.slots slotIdx slot
  slotIdx_eq : after.slotIdx = before.slotIdx
  counts : SameCounts before.stats after.stats
  expect : after.st22ExpectFrameSize = before.st22ExpectFrameSize
  quiet : events = []

theorem rvCountBoxes_expect (s : RvSession) (slot : RvSlot) (pkt : Rfc9134Packet) :
    (rvCountBoxes s slot pkt).st22ExpectFrameSize = s.st22ExpectFrameSize := by
  unfold rvCountBoxes
  split <;> rfl

theorem rvCountReordered_expect (s : RvSession) (port : MtlSessionPort) (reordered : Bool) :
    (rvCountReordered s port reordered).st22ExpectFrameSize = s.st22ExpectFrameSize := by
  unfold rvCountReordered
  dsimp only
  split <;> rfl

section InSlot

variable {env : RvEnv} {s : RvSession} {slotIdx frame : Nat} {pkt : Rfc9134Packet}
  {port : MtlSessionPort}

def st22Fielded (s : RvSession) (slotIdx : Nat) (pkt : Rfc9134Packet) : RvSlot :=
  { s.slots slotIdx with secondField := decide (pkt.interlaced = 3) }

def st22Counted (s : RvSession) (slotIdx : Nat) (pkt : Rfc9134Packet) : RvSession :=
  rvCountBoxes (s.setSlot slotIdx (st22Fielded s slotIdx pkt)) (st22Fielded s slotIdx pkt) pkt

theorem onlyCounted_st22Counted (s : RvSession) (slotIdx : Nat) (pkt : Rfc9134Packet) :
    OnlyCounted (s.setSlot slotIdx (st22Fielded s slotIdx pkt)) (st22Counted s slotIdx pkt) :=
  onlyCounted_countBoxes _ _ _

theorem dropped_of_counted {middle : RvSession} {first slot : RvSlot} (reason : RvDrop)
    (counted : OnlyCounted (s.setSlot slotIdx first) middle)
    (expect : middle.st22ExpectFrameSize = s.st22ExpectFrameSize) :
    Dropped s (rvDrop (middle.setSlot slotIdx slot) reason).session
      (rvDrop (middle.setSlot slotIdx slot) reason).events slotIdx slot := by
  refine ⟨counted.cfg, counted.frames, ?_, counted.slotIdx,
    ⟨counted.counts.received, counted.counts.redundant⟩, expect, rfl⟩
  show Function.update middle.slots slotIdx slot = _
  rw [counted.slots, RvSession.setSlot_slots, Function.update_idem]

/-- A packet that gets no number in its frame is dropped, and changes its slot alone. -/
theorem rvSt22HandleInSlot_dropped {reason : RvDrop} {slot : RvSlot}
    (index : rvSt22Index s.cfg (st22Fielded s slotIdx pkt) pkt port = .drop reason slot) :
    let result := rvSt22HandleInSlot env s slotIdx frame pkt port
    Dropped s result.session result.events slotIdx slot := by
  have counted := onlyCounted_st22Counted s slotIdx pkt
  rw [← counted.cfg.trans (RvSession.setSlot_cfg _ _ _)] at index
  unfold rvSt22HandleInSlot
  dsimp only
  unfold st22Counted st22Fielded at index
  rw [index]
  exact dropped_of_counted reason counted (rvCountBoxes_expect _ _ _)

/-- A packet that was there before. -/
theorem rvSt22HandleInSlot_repeated
    (index : rvSt22Index s.cfg (st22Fielded s slotIdx pkt) pkt port = .redundant) :
    let result := rvSt22HandleInSlot env s slotIdx frame pkt port
    Repeated s result.session result.events slotIdx ∧
      result.session.st22ExpectFrameSize = s.st22ExpectFrameSize := by
  have counted := onlyCounted_st22Counted s slotIdx pkt
  rw [← counted.cfg.trans (RvSession.setSlot_cfg _ _ _)] at index
  unfold rvSt22HandleInSlot
  dsimp only
  unfold st22Counted st22Fielded at index
  rw [index]
  refine ⟨⟨counted.cfg, counted.frames, ⟨(st22Fielded s slotIdx pkt).countPort port,
    ⟨rfl, rfl, rfl, rfl, rfl, rfl⟩, ?_⟩, counted.slotIdx, counted.counts.received,
    congrArg (· + 1) counted.counts.redundant, rfl⟩, rvCountBoxes_expect _ _ _⟩
  show Function.update (st22Counted s slotIdx pkt).slots slotIdx
    (((st22Counted s slotIdx pkt).slots slotIdx).countPort port) = _
  rw [counted.slots, RvSession.setSlot_slots, Function.update_idem, Function.update_self]

/-- A packet whose bytes have no place in the frame has marked its number all the same. -/
theorem rvSt22HandleInSlot_misplaced {pktIdx : Nat} {slot : RvSlot} {reordered : Bool}
    {reason : RvDrop}
    (index : rvSt22Index s.cfg (st22Fielded s slotIdx pkt) pkt port = .fresh pktIdx slot reordered)
    (placed : rvSt22Place s.cfg (slot.advance pktIdx port) pkt = .error reason) :
    let result := rvSt22HandleInSlot env s slotIdx frame pkt port
    Dropped s result.session result.events slotIdx (slot.advance pktIdx port) := by
  have boxes := onlyCounted_st22Counted s slotIdx pkt
  have counted := boxes.trans (onlyCounted_countReordered (st22Counted s slotIdx pkt) port reordered)
  rw [← boxes.cfg.trans (RvSession.setSlot_cfg _ _ _)] at index
  rw [← counted.cfg.trans (RvSession.setSlot_cfg _ _ _)] at placed
  unfold rvSt22HandleInSlot
  dsimp only
  unfold st22Counted st22Fielded at index placed
  rw [index]
  dsimp only
  rw [placed]
  exact dropped_of_counted reason counted
    ((rvCountReordered_expect _ _ _).trans (rvCountBoxes_expect _ _ _))

section

variable {pktIdx : Nat} {slot : RvSlot} {reordered : Bool} {piece : RvSt22Piece}
    (index : rvSt22Index s.cfg (st22Fielded s slotIdx pkt) pkt port = .fresh pktIdx slot reordered)
    (placed : rvSt22Place s.cfg (slot.advance pktIdx port) pkt = .ok piece)

include index placed

theorem rvSt22HandleInSlot_stored :
    let result := rvSt22HandleInSlot env s slotIdx frame pkt port
    let stored := rvSt22StorePacket env (rvCountReordered (st22Counted s slotIdx pkt) port reordered)
      slotIdx frame (slot.advance pktIdx port) pkt.marker piece port
    result.session = stored.1 ∧ result.events = stored.2 := by
  have boxes := onlyCounted_st22Counted s slotIdx pkt
  have counted := boxes.trans (onlyCounted_countReordered (st22Counted s slotIdx pkt) port reordered)
  rw [← boxes.cfg.trans (RvSession.setSlot_cfg _ _ _)] at index
  rw [← counted.cfg.trans (RvSession.setSlot_cfg _ _ _)] at placed
  unfold rvSt22HandleInSlot
  dsimp only
  unfold st22Counted st22Fielded at index placed
  rw [index]
  dsimp only
  rw [placed]
  exact ⟨rfl, rfl⟩

omit index placed in
theorem st22Reordered_expected :
    OnlyCounted (s.setSlot slotIdx (st22Fielded s slotIdx pkt))
        (rvCountReordered (st22Counted s slotIdx pkt) port reordered) ∧
      rvExpected (rvCountReordered (st22Counted s slotIdx pkt) port reordered) pkt.marker piece =
        rvExpected s pkt.marker piece := by
  refine ⟨(onlyCounted_st22Counted s slotIdx pkt).trans
    (onlyCounted_countReordered (st22Counted s slotIdx pkt) port reordered), ?_⟩
  have expect : (rvCountReordered (st22Counted s slotIdx pkt) port reordered).st22ExpectFrameSize =
      s.st22ExpectFrameSize :=
    (rvCountReordered_expect _ _ _).trans (rvCountBoxes_expect _ _ _)
  rw [rvExpected, rvExpected, expect]

/-- A new packet of a frame that stays incomplete. -/
theorem rvSt22HandleInSlot_part (short : ¬ rvSt22Completes s slot pkt.marker piece) :
    let result := rvSt22HandleInSlot env s slotIdx frame pkt port
    StoredPart s result.session result.events slotIdx frame
        ((slot.advance pktIdx port).gained piece.bytes.length port)
        (store (s.frames frame).addr piece.offset piece.bytes) ∧
      result.session.st22ExpectFrameSize = rvExpected s pkt.marker piece := by
  rcases @st22Reordered_expected s slotIdx pkt port reordered piece with ⟨counted, same⟩
  rcases @rvSt22HandleInSlot_stored env s slotIdx frame pkt port pktIdx slot reordered piece index
    placed with ⟨session, events⟩
  have stored := @rvSt22StorePacket_part env
    (rvCountReordered (st22Counted s slotIdx pkt) port reordered) slotIdx frame
    (slot.advance pktIdx port) pkt.marker piece port (by rw [rvSt22Completes, same]; exact short)
  dsimp only at stored ⊢
  rw [same, counted.frames] at stored
  rw [session, events]
  exact ⟨stored.1.rebase counted, stored.2⟩

theorem rvSt22HandleInSlot_last (full : rvSt22Completes s slot pkt.marker piece) :
    let result := rvSt22HandleInSlot env s slotIdx frame pkt port
    StoredLast s result.session result.events slotIdx frame
        ((slot.advance pktIdx port).gained piece.bytes.length port)
        (store (s.frames frame).addr piece.offset piece.bytes) env.notifyFull ∧
      result.session.st22ExpectFrameSize = 0 := by
  rcases @st22Reordered_expected s slotIdx pkt port reordered piece with ⟨counted, same⟩
  rcases @rvSt22HandleInSlot_stored env s slotIdx frame pkt port pktIdx slot reordered piece index
    placed with ⟨session, events⟩
  have stored := @rvSt22StorePacket_last env
    (rvCountReordered (st22Counted s slotIdx pkt) port reordered) slotIdx frame
    (slot.advance pktIdx port) pkt.marker piece port (by rw [rvSt22Completes, same]; exact full)
  dsimp only at stored ⊢
  rw [counted.frames] at stored
  rw [session, events]
  exact ⟨stored.1.rebase counted, stored.2⟩

end

end InSlot

end MediaTransport.Video
