import MediaTransport.Video.Rejection

namespace MediaTransport.Video

open Library

/-!
# Packets in sequence order and the count of reordered packets

A slot keeps the highest index that each port has brought, and a later packet
of the port with a lower index is counted as reordered.  The mark belongs to
one timestamp, but `rv_slot_by_tmstamp` restarts a slot without clearing it:
only `rv_reset_slot` does.  Here a port delivers packets in sequence order for
as long as it likes, with any losses.  No packet is counted as reordered as
long as no slot begins a timestamp with a mark above the first index, which is
what a slot holds that was never used; the third frame of a session with two
slots already finds the mark of the first.
-/

/-! ## What a slot knows of the order -/

/-- What a slot keeps of the order of a port's packets. -/
structure SlotOrder where
  got : Bool
  base : Nat
  mark : Int
  deriving DecidableEq, Repr

def RvSlot.order (slot : RvSlot) (port : MtlSessionPort) : SlotOrder :=
  { got := slot.seqIdGot, base := slot.seqIdBaseU32, mark := slot.lastPktIdx port }

def SameReorders (before after : RvStats) : Prop :=
  forall port, (after.port port).reorderedPackets = (before.port port).reorderedPackets

theorem SameReorders.refl (stats : RvStats) : SameReorders stats stats := fun _ => rfl

theorem SameReorders.trans {first second third : RvStats} (left : SameReorders first second)
    (right : SameReorders second third) : SameReorders first third :=
  fun port => (right port).trans (left port)

theorem sameReorders_setPort (stats : RvStats) (port : MtlSessionPort) {values : RvPortStats}
    (kept : values.reorderedPackets = (stats.port port).reorderedPackets) :
    SameReorders stats (stats.setPort port values) := by
  intro other
  by_cases same : other = port
  · rw [same, setPort_port_self, kept]
  · rw [setPort_port_of_ne stats _ same]

theorem sameReorders_foldl {step : RvStats -> MtlSessionPort -> RvStats}
    (each : forall stats port, SameReorders stats (step stats port)) (ports : List MtlSessionPort)
    (stats : RvStats) : SameReorders stats (ports.foldl step stats) := by
  induction ports generalizing stats with
  | nil => exact SameReorders.refl stats
  | cons port rest ih => exact (each stats port).trans (ih (step stats port))

theorem sameReorders_accountPort (env : RvEnv) (slot : RvSlot) (expected : Nat) (stats : RvStats)
    (port : MtlSessionPort) : SameReorders stats (rvAccountPort env slot expected stats port) := by
  unfold rvAccountPort
  dsimp only
  split
  · exact SameReorders.refl stats
  · exact sameReorders_setPort stats port rfl

theorem sameReorders_countField (cfg : RvConfig) (secondField : Bool) (stats : RvStats) :
    SameReorders stats (rvCountField cfg secondField stats) := by
  unfold rvCountField
  split
  · exact SameReorders.refl stats
  · split <;> exact SameReorders.refl stats

theorem sameReorders_countFramePort (slot : RvSlot) (stats : RvStats) (port : MtlSessionPort) :
    SameReorders stats (rvCountFramePort slot stats port) := by
  unfold rvCountFramePort
  dsimp only
  split <;> exact sameReorders_setPort stats port rfl

/-! ## Steps that touch no order -/

/-- Nothing is counted as reordered, and the slots keep what they know of the
order. -/
structure OrderStays (port : MtlSessionPort) (before after : RvSession) : Prop where
  cfg : after.cfg = before.cfg
  reorders : SameReorders before.stats after.stats
  orders : forall idx, (after.slots idx).order port = (before.slots idx).order port

variable {port : MtlSessionPort}

namespace OrderStays

theorem refl (s : RvSession) : OrderStays port s s := ⟨rfl, SameReorders.refl _, fun _ => rfl⟩

theorem trans {first second third : RvSession} (left : OrderStays port first second)
    (right : OrderStays port second third) : OrderStays port first third where
  cfg := right.cfg.trans left.cfg
  reorders := left.reorders.trans right.reorders
  orders idx := (right.orders idx).trans (left.orders idx)

theorem stats (s : RvSession) {stats : RvStats} (kept : SameReorders s.stats stats) :
    OrderStays port s (s.withStats stats) := ⟨rfl, kept, fun _ => rfl⟩

theorem slot (s : RvSession) (idx : Nat) (slot : RvSlot)
    (kept : slot.order port = (s.slots idx).order port) : OrderStays port s (s.setSlot idx slot) := by
  refine ⟨rfl, SameReorders.refl _, fun other => ?_⟩
  by_cases same : other = idx
  · rw [same, RvSession.setSlot_slots_self, kept]
  · rw [RvSession.setSlot_slots, Function.update_of_ne same]

theorem rest (s : RvSession) (frames : Nat -> RvFrame) (errors : MtlSessionPort -> Nat)
    (framePkts expect expectPerFrame : Nat) :
    OrderStays port s
      { s with
        frames := frames
        redundantErrorCnt := errors
        st20FramePkts := framePkts
        st22ExpectFrameSize := expect
        st22ExpectSizePerFrame := expectPerFrame } :=
  ⟨rfl, SameReorders.refl _, fun _ => rfl⟩

theorem frames (s : RvSession) (frames : Nat -> RvFrame) : OrderStays port s { s with frames := frames } :=
  rest s frames _ _ _ _

end OrderStays

open OrderStays

variable (env : RvEnv) {first second third : RvSession} (s : RvSession) (slot : RvSlot)
  (slotIdx frame : Nat)

theorem orderStays_account (expected : Nat) :
    OrderStays port s (rvSlotAccountPerPortLoss env s slot expected) :=
  stats s (sameReorders_foldl (sameReorders_accountPort env slot expected) _ _)

theorem orderStays_countNotify (slotIdx : Nat) :
    OrderStays port s (rvCountNotify s slotIdx) := stats s (sameReorders_countField _ _ _)

theorem orderStays_countFrame (slotIdx : Nat) : OrderStays port s (rvCountFrame s slotIdx) :=
  ⟨rfl, sameReorders_foldl (sameReorders_countFramePort (s.slots slotIdx)) _ _, fun _ => rfl⟩

theorem orderStays_st22CountFrame (slotIdx : Nat) : OrderStays port s (rvSt22CountFrame s slotIdx) := by
  unfold rvSt22CountFrame
  split
  · exact stats s (sameReorders_foldl (sameReorders_countFramePort (s.slots slotIdx)) _ _)
  · exact stats s (sameReorders_setPort s.stats .p rfl)

theorem orderStays_handOver (event : RvEvent) (ret : Int) :
    OrderStays port s (rvHandOver s slotIdx frame event ret).1 := by
  unfold rvHandOver
  dsimp only
  split
  · exact (slot s slotIdx { s.slots slotIdx with lossPending := true, frame := none } rfl).trans
      (frames _ _)
  · exact slot s slotIdx _ rfl

theorem orderStays_giveUp (slotIdx frame miss : Nat) (event : RvEvent) :
    OrderStays port s (rvGiveUp env s slotIdx frame miss event).1 := by
  have counted : OrderStays port s
      (s.withStats
        { s.stats with
          framesIncomplete := s.stats.framesIncomplete + 1
          pktsUnrecovered := s.stats.pktsUnrecovered + miss }) :=
    stats s (SameReorders.refl s.stats)
  have charged := counted.trans
    (orderStays_account env _ (s.slots slotIdx) ((s.slots slotIdx).pktsReceived + miss))
  unfold rvGiveUp
  dsimp only
  split
  · exact charged
  · have emptied := charged.trans (slot _ slotIdx { s.slots slotIdx with frame := none } rfl)
    exact emptied.trans (frames _ _)

theorem orderStays_frameNotify (ret : Int) (s : RvSession) (slotIdx frame : Nat) :
    OrderStays port s (rvFrameNotify env ret s slotIdx frame).1 := by
  have noted : OrderStays port s (rvCountNotify s slotIdx) := orderStays_countNotify s slotIdx
  unfold rvFrameNotify
  dsimp only
  split
  · exact (noted.trans (orderStays_countFrame _ slotIdx)).trans (orderStays_handOver _ slotIdx frame _ ret)
  · exact noted.trans (orderStays_giveUp env _ slotIdx frame _ _)

theorem orderStays_st22FrameNotify (ret : Int) (s : RvSession) (slotIdx frame : Nat)
    (status : StFrameStatus)
    : OrderStays port s (rvSt22FrameNotify env ret s slotIdx frame status).1 := by
  have noted : OrderStays port s { rvCountNotify s slotIdx with st22ExpectFrameSize := 0 } :=
    (orderStays_countNotify s slotIdx).trans (rest _ _ _ _ 0 _)
  unfold rvSt22FrameNotify
  dsimp only
  split
  · exact (noted.trans (orderStays_st22CountFrame _ slotIdx)).trans
      (orderStays_handOver _ slotIdx frame _ ret)
  · exact noted.trans (orderStays_giveUp env _ slotIdx frame _ _)

theorem orderStays_retireSlot (slotIdx : Nat) : OrderStays port s (rvRetireSlot env s slotIdx).1 := by
  have emptied : OrderStays port s (rvEmptySlot env s slotIdx).1 := by
    unfold rvEmptySlot rvRecycle
    cases (s.slots slotIdx).frame with
    | none => exact OrderStays.refl s
    | some frame =>
      cases s.cfg.st22 with
      | some ops => exact (orderStays_st22FrameNotify env _ s slotIdx frame _).trans (slot _ slotIdx _ rfl)
      | none => exact (orderStays_frameNotify env _ s slotIdx frame).trans (slot _ slotIdx _ rfl)
  unfold rvRetireSlot rvChargePending
  dsimp only
  split
  · exact emptied.trans ((orderStays_account env _ _ _).trans (slot _ slotIdx _ rfl))
  · exact emptied

theorem orderStays_assignFrame (slotIdx : Nat) : OrderStays port s (rvAssignFrame env s slotIdx).1 := by
  unfold rvAssignFrame
  cases rvGetFrame s with
  | none => exact stats s (SameReorders.refl _)
  | some frame =>
    dsimp only
    cases rvFrameBuffer env s frame with
    | none => exact stats s (SameReorders.refl _)
    | some addr => exact (frames s _).trans (slot _ slotIdx _ rfl)

theorem orderStays_slotFullFrame : OrderStays port s (rvSlotFullFrame env s slotIdx frame).1 :=
  (orderStays_frameNotify env env.notifyFull s slotIdx frame).trans (slot _ slotIdx _ rfl)

theorem rvSlices_order (frame : Nat) (place : RvPlacement) :
    (rvSlices s slot frame place).1.order port = slot.order port ∧
      SameReorders s.stats (rvSlices s slot frame place).2.1 := by
  unfold rvSlices
  cases slot.sliceInfo with
  | none => exact ⟨rfl, SameReorders.refl _⟩
  | some info => exact ⟨rfl, SameReorders.refl _⟩

theorem orderStays_userMeta (frame : Nat) (line : RvLine) :
    OrderStays port s (rvUserMeta s frame line).session := by
  unfold rvUserMeta
  dsimp only
  generalize (if line.extra.isSome = true then rfc4175ExtraHdrSize else 0) = extraBytes
  split
  · exact (frames s _).trans (stats _ (SameReorders.refl _))
  · exact stats s (SameReorders.refl _)

theorem orderStays_countRetransmit (line : RvLine) : OrderStays port s (rvCountRetransmit s line) := by
  unfold rvCountRetransmit
  split
  · exact stats s (SameReorders.refl _)
  · exact OrderStays.refl s

/-! ### The device -/

theorem orderStays_dmaLand (s : RvDmaSession) (copy : RvDmaCopy) :
    OrderStays port s.rv (rvDmaLand s copy).1.rv := by
  unfold rvDmaLand
  dsimp only
  set filled := s.rv.setFrame copy.frame
    { s.rv.frames copy.frame with
      addr := store (s.rv.frames copy.frame).addr copy.offset copy.payload }
  have landed : OrderStays port s.rv filled := frames s.rv _
  cases s.dmaSlot with
  | none => exact landed
  | some idx =>
    rcases @rvSlices_order port filled (filled.slots idx) ((filled.slots idx).frame.getD copy.frame)
      { offset := copy.offset, payloadLength := copy.payload.length } with ⟨kept, counts⟩
    exact landed.trans ((slot filled idx _ kept).trans (stats (filled.setSlot idx _) counts))

theorem orderStays_dmaSteps : DmaSteps fun before after _ => OrderStays port before after where
  refl := OrderStays.refl
  trans left right := left.trans right
  land := orderStays_dmaLand
  full env s slotIdx frame _ _ := orderStays_slotFullFrame env s slotIdx frame

/-! ## What becomes of the order of one slot -/

/-- One slot gets another order; the rest stays, and nothing is counted as
reordered. -/
structure Reordered (port : MtlSessionPort) (idx : Nat) (order : SlotOrder)
    (before after : RvSession) : Prop where
  cfg : after.cfg = before.cfg
  reorders : SameReorders before.stats after.stats
  others : ∀ other ≠ idx, (after.slots other).order port = (before.slots other).order port
  slot : (after.slots idx).order port = order

theorem Reordered.of_slot {s : RvSession} {idx : Nat} {order : SlotOrder} {slot : RvSlot}
    (given : slot.order port = order) : Reordered port idx order s (s.setSlot idx slot) where
  cfg := rfl
  reorders := SameReorders.refl _
  others other differ := by rw [RvSession.setSlot_slots, Function.update_of_ne differ]
  slot := by rw [RvSession.setSlot_slots_self, given]

theorem OrderStays.before {idx : Nat} {order : SlotOrder} (stays : OrderStays port first second)
    (moved : Reordered port idx order second third) :
    Reordered port idx order first third where
  cfg := moved.cfg.trans stays.cfg
  reorders := stays.reorders.trans moved.reorders
  others other differ := (moved.others other differ).trans (stays.orders other)
  slot := moved.slot

theorem Reordered.after {idx : Nat} {order : SlotOrder} (moved : Reordered port idx order first second)
    (stays : OrderStays port second third) :
    Reordered port idx order first third where
  cfg := stays.cfg.trans moved.cfg
  reorders := moved.reorders.trans stays.reorders
  others other differ := (stays.orders other).trans (moved.others other differ)
  slot := (stays.orders idx).trans moved.slot

/-! ### The slot lookup -/

/-- A slot waits for the first packet of a timestamp; the mark is still the
old one. -/
def SlotOrder.restart (order : SlotOrder) : SlotOrder := { order with got := false }

theorem rvReuseSlot_reordered (idx tmstamp : Nat) :
    Reordered port idx ((s.slots idx).order port).restart s (rvReuseSlot env s idx tmstamp).1 := by
  have retired : OrderStays port s (rvRetireSlot env s idx).1 := orderStays_retireSlot env s idx
  have restarted : Reordered port idx ((s.slots idx).order port).restart (rvRetireSlot env s idx).1
      ((rvRetireSlot env s idx).1.setSlot idx (((rvRetireSlot env s idx).1.slots idx).restart tmstamp)) := by
    apply Reordered.of_slot
    rw [← retired.orders idx]
    rfl
  exact retired.before
    ⟨restarted.cfg, restarted.reorders, restarted.others, restarted.slot⟩

/-- The slot that a packet is looked up in keeps its order, or was restarted
for the packet. -/
inductive LookupOrder (port : MtlSessionPort) (before after : RvSession) : Option Nat -> Prop where
  | stays (slot : Option Nat) (kept : OrderStays port before after) : LookupOrder port before after slot
  | restarts (idx : Nat) (slot : Option Nat) (here : forall other, slot = some other -> other = idx)
      (moved : Reordered port idx ((before.slots idx).order port).restart before after) :
      LookupOrder port before after slot

theorem LookupOrder.of_stays {slot : Option Nat} (stays : OrderStays port first second)
    (looked : LookupOrder port second third slot) :
    LookupOrder port first third slot := by
  cases looked with
  | stays _ kept => exact LookupOrder.stays slot (stays.trans kept)
  | restarts idx _ here moved =>
    refine LookupOrder.restarts idx slot here ?_
    rw [← stays.orders idx]
    exact stays.before moved

theorem lookupOrder_reuse (env : RvEnv) (s : RvSession) (idx tmstamp : Nat) :
    let answer := rvAssignFrame env (rvReuseSlot env s idx tmstamp).1 idx
    LookupOrder port s answer.1 (if answer.2 then some idx else none) := by
  refine LookupOrder.restarts idx _ (fun other found => ?_)
    ((rvReuseSlot_reordered env s idx tmstamp).after (orderStays_assignFrame env _ idx))
  split at found
  · cases found
    rfl
  · cases found

theorem rvDmaSlotByTmstamp_order (env : DmaEnv) (s : RvDmaSession) (tmstamp : Nat) :
    LookupOrder port s.rv (rvDmaSlotByTmstamp env s tmstamp).session.rv
      (rvDmaSlotByTmstamp env s tmstamp).slot := by
  unfold rvDmaSlotByTmstamp
  cases rvFindSlot s.rv tmstamp with
  | some idx => exact LookupOrder.stays _ (OrderStays.refl s.rv)
  | none =>
    dsimp only
    split
    · exact LookupOrder.stays _ (OrderStays.refl s.rv)
    · have ready : OrderStays port s.rv (rvDmaReady env s tmstamp).session.rv :=
        orderStays_dmaSteps.ready env s tmstamp
      generalize rvDmaReady env s tmstamp = waited at ready ⊢
      split
      · exact LookupOrder.of_stays ready (lookupOrder_reuse env.toRvEnv waited.session.rv _ tmstamp)
      · exact LookupOrder.stays _ ready

theorem rvSlotByTmstamp_order (tmstamp : Nat) :
    LookupOrder port s (rvSlotByTmstamp env s tmstamp).session (rvSlotByTmstamp env s tmstamp).slot := by
  have same := (rvSlotByTmstamp_refusing env (s := s.idle) rfl tmstamp).1
  rw [show rvSlotByTmstamp env s tmstamp = _ from same]
  exact rvDmaSlotByTmstamp_order env.refusing s.idle tmstamp

theorem RvCopier.lookup_order (copier : RvCopier) (env : copier.Env) (s : copier.Session) (mbuf : RvMbuf) :
    LookupOrder port (copier.rv s) (copier.rv (copier.lookup env s mbuf).session)
      (copier.lookup env s mbuf).slot := by
  have counted : OrderStays port (copier.rv s) (rvCountRetransmit (copier.rv s) (rvReadLine mbuf.pkt)) :=
    orderStays_countRetransmit _ _
  cases copier with
  | cpu => exact LookupOrder.of_stays counted (rvSlotByTmstamp_order env _ mbuf.pkt.tmstamp)
  | dma =>
    exact LookupOrder.of_stays counted (rvDmaSlotByTmstamp_order env
      (RvDmaSession.withRv s (rvCountRetransmit (RvDmaSession.rv s) (rvReadLine mbuf.pkt)))
      mbuf.pkt.tmstamp)

/-! ### The packet in its slot -/

def SlotOrder.raise (order : SlotOrder) (pktIdx : Nat) : SlotOrder :=
  { order with mark := max (pktIdx : Int) order.mark }

theorem received_order (pktIdx payloadLength : Nat) (ctrlThread : Bool) :
    (slot.received pktIdx payloadLength port ctrlThread).order port = (slot.order port).raise pktIdx := by
  simp only [RvSlot.order, RvSlot.received, RvSlot.countPort, SlotOrder.raise, Function.update_self]

theorem rvDmaStorePacket_order (env : DmaEnv) (s : RvDmaSession) (slotIdx frame : Nat) (slot : RvSlot)
    (line : RvLine) (place : RvPlacement) (pktIdx : Nat) (ctrlThread : Bool) :
    Reordered port slotIdx ((slot.order port).raise pktIdx) s.rv
      (rvDmaStorePacket env s slotIdx frame slot line place pktIdx port ctrlThread).1.rv := by
  unfold rvDmaStorePacket
  dsimp only
  generalize rvDmaTakes env s.rv.cfg line place = takes
  have copied : OrderStays port s.rv (rvDmaCopy s takes frame line place).rv := by
    unfold rvDmaCopy
    split
    · exact OrderStays.refl s.rv
    · exact frames s.rv _
  generalize rvDmaCopy s takes frame line place = first at copied ⊢
  set counted := first.rv.withStats
    { first.rv.stats with pktsReceived := first.rv.stats.pktsReceived + 1 }
  have stays : OrderStays port s.rv counted := copied.trans (stats _ (SameReorders.refl first.rv.stats))
  set filled := slot.received pktIdx place.payloadLength port ctrlThread with filled_def
  have sliced : (rvDmaSlices counted takes filled frame place).1.order port = filled.order port ∧
      SameReorders counted.stats (rvDmaSlices counted takes filled frame place).2.1 := by
    unfold rvDmaSlices
    split
    · exact ⟨rfl, SameReorders.refl _⟩
    · exact rvSlices_order counted filled frame place
  generalize rvDmaSlices counted takes filled frame place = slices at sliced ⊢
  have placed := @Reordered.of_slot port counted slotIdx _ _
    (sliced.1.trans (received_order slot pktIdx place.payloadLength ctrlThread))
  have stored := stays.before (placed.after (stats _ sliced.2))
  split
  · exact stored.after (orderStays_slotFullFrame env.toRvEnv _ slotIdx frame)
  · exact stored

/-- What a packet makes of the order of the slot it is handled in. -/
inductive InSlotOrder (port : MtlSessionPort) (idx : Nat) (mbuf : RvMbuf) (ctrlThread : Bool)
    (before after : RvSession) : Prop where
  | stays (kept : OrderStays port before after) : InSlotOrder port idx mbuf ctrlThread before after
  | first (place : RvPlacement) (fresh : (before.slots idx).seqIdGot = false)
      (plain : (rvReadLine mbuf.pkt).userMeta = false)
      (placed : rvPlace before.cfg (rvReadLine mbuf.pkt) = .ok place) (ctrl : ctrlThread = true)
      (inside : rvFirstPktIdx before.cfg (rvReadLine mbuf.pkt) place < before.cfg.st20FrameBitmapSize * 8)
      (moved : Reordered port idx
        (SlotOrder.raise
          ⟨true, u32 ((mbuf.pkt.seqId : Int) - rvFirstPktIdx before.cfg (rvReadLine mbuf.pkt) place),
            (before.slots idx).lastPktIdx port⟩
          (rvFirstPktIdx before.cfg (rvReadLine mbuf.pkt) place)) before after) :
      InSlotOrder port idx mbuf ctrlThread before after
  | later (got : (before.slots idx).seqIdGot = true)
      (inside : rvLaterPktIdx (before.slots idx) mbuf.pkt.seqId < before.cfg.st20FrameBitmapSize * 8)
      (moved : (before.slots idx).lastPktIdx port ≤ rvLaterPktIdx (before.slots idx) mbuf.pkt.seqId ->
        Reordered port idx
          (((before.slots idx).order port).raise (rvLaterPktIdx (before.slots idx) mbuf.pkt.seqId))
          before after) : InSlotOrder port idx mbuf ctrlThread before after

/-- A packet that is new in its slot comes first, or behind another one. -/
inductive FreshIndex (cfg : RvConfig) (slot : RvSlot) (line : RvLine) (place : RvPlacement)
    (seqId : Nat) (port : MtlSessionPort) (ctrlThread : Bool) (pktIdx : Nat) (marked : RvSlot)
    (reordered : Bool) : Prop where
  | first (fresh : slot.seqIdGot = false) (ctrl : ctrlThread = true)
      (index : pktIdx = rvFirstPktIdx cfg line place) (inside : pktIdx < cfg.st20FrameBitmapSize * 8)
      (quiet : reordered = false)
      (order : marked.order port = ⟨true, u32 ((seqId : Int) - pktIdx), slot.lastPktIdx port⟩) :
      FreshIndex cfg slot line place seqId port ctrlThread pktIdx marked reordered
  | later (got : slot.seqIdGot = true) (index : pktIdx = rvLaterPktIdx slot seqId)
      (inside : pktIdx < cfg.st20FrameBitmapSize * 8)
      (backward : reordered = decide ((pktIdx : Int) < slot.lastPktIdx port))
      (order : marked.order port = slot.order port) :
      FreshIndex cfg slot line place seqId port ctrlThread pktIdx marked reordered

theorem rvIndex_fresh_cases {cfg : RvConfig} {slot marked : RvSlot} {line : RvLine} {place : RvPlacement}
    {seqId pktIdx : Nat} {ctrlThread reordered : Bool}
    (index : rvIndex cfg slot line place seqId port ctrlThread = .fresh pktIdx marked reordered) :
    FreshIndex cfg slot line place seqId port ctrlThread pktIdx marked reordered := by
  unfold rvIndex at index
  dsimp only at index
  split at index
  · next got =>
      split at index
      · cases index
      · next inside =>
          split at index
          · cases index
          · cases index
            exact FreshIndex.later got rfl (Nat.lt_of_not_le inside) rfl rfl
  · next fresh =>
      split at index
      · next ctrl =>
          split at index
          · cases index
          · next inside =>
              cases index
              exact FreshIndex.first (Bool.eq_false_iff.mpr fresh) ctrl rfl (Nat.lt_of_not_le inside) rfl rfl
      · cases index

theorem orderStays_countReordered (port : MtlSessionPort) :
    OrderStays port s (rvCountReordered s port false) := OrderStays.refl s

theorem orderStays_countRedundant (slotIdx : Nat) :
    OrderStays port s (rvCountRedundant s slotIdx port) :=
  (slot s slotIdx ((s.slots slotIdx).countPort port) rfl).trans (stats _ (SameReorders.refl s.stats))

theorem orderStays_drop (reason : RvDrop) : OrderStays port s (rvDrop s reason).session :=
  stats s (SameReorders.refl s.stats)

theorem InSlotOrder.of_fresh {before counted after : RvSession} {idx : Nat} {mbuf : RvMbuf}
    {ctrlThread : Bool} {place : RvPlacement} {pktIdx : Nat} {marked : RvSlot} {reordered : Bool}
    (plain : (rvReadLine mbuf.pkt).userMeta = false)
    (placed : rvPlace before.cfg (rvReadLine mbuf.pkt) = .ok place)
    (fresh : FreshIndex before.cfg
      { before.slots idx with secondField := (rvReadLine mbuf.pkt).secondField }
      (rvReadLine mbuf.pkt) place mbuf.pkt.seqId port ctrlThread pktIdx marked reordered)
    (uncounted : reordered = false -> OrderStays port before counted)
    (stored : Reordered port idx ((marked.order port).raise pktIdx) counted after) :
    InSlotOrder port idx mbuf ctrlThread before after := by
  cases fresh with
  | first fresh ctrl index inside quiet order =>
    subst index
    rw [order] at stored
    exact InSlotOrder.first place fresh plain placed ctrl inside ((uncounted quiet).before stored)
  | later got index inside backward order =>
    subst index
    rw [order] at stored
    refine InSlotOrder.later got inside (fun forward => ?_)
    have quiet : reordered = false := by
      rw [backward]
      exact decide_eq_false (Int.not_lt.mpr forward)
    exact (uncounted quiet).before stored

theorem rvDmaHandleInSlot_order (env : DmaEnv) (s : RvDmaSession) (slotIdx frame : Nat) (mbuf : RvMbuf)
    (port : MtlSessionPort) (ctrlThread : Bool) :
    InSlotOrder port slotIdx mbuf ctrlThread s.rv
      (rvDmaHandleInSlot env s slotIdx frame mbuf port ctrlThread).session.rv := by
  have fielded : OrderStays port s.rv
      (s.rv.setSlot slotIdx
        { s.rv.slots slotIdx with secondField := (rvReadLine mbuf.pkt).secondField }) :=
    slot s.rv slotIdx _ rfl
  unfold rvDmaHandleInSlot RvDmaSession.withRv
  dsimp only
  split
  · exact InSlotOrder.stays (orderStays_userMeta s.rv frame _)
  · next plain =>
      rw [RvSession.setSlot_cfg, RvSession.setSlot_slots_self]
      cases placed : rvPlace s.rv.cfg (rvReadLine mbuf.pkt) with
      | error reason => exact InSlotOrder.stays (fielded.trans (orderStays_drop _ reason))
      | ok place =>
        dsimp only
        cases index : rvIndex s.rv.cfg _ (rvReadLine mbuf.pkt) place mbuf.pkt.seqId port ctrlThread with
        | drop reason => exact InSlotOrder.stays (fielded.trans (orderStays_drop _ reason))
        | redundant => exact InSlotOrder.stays (fielded.trans (orderStays_countRedundant _ slotIdx))
        | fresh pktIdx marked reordered =>
          refine InSlotOrder.of_fresh (Bool.eq_false_iff.mpr plain) placed (rvIndex_fresh_cases index)
            ?_ (rvDmaStorePacket_order env _ slotIdx frame marked _ place pktIdx ctrlThread)
          rintro rfl
          exact fielded.trans (orderStays_countReordered _ port)

theorem rvHandleInSlot_order (mbuf : RvMbuf) (port : MtlSessionPort) (ctrlThread : Bool) :
    InSlotOrder port slotIdx mbuf ctrlThread s
      (rvHandleInSlot env s slotIdx frame mbuf port ctrlThread).session := by
  rw [rvHandleInSlot_eq_plain]
  exact rvDmaHandleInSlot_order env.refusing s.idle slotIdx frame mbuf port ctrlThread

theorem InSlotOrder.of_setRedundant {before after : RvSession} {idx : Nat} {mbuf : RvMbuf}
    {ctrlThread : Bool} {count : Nat}
    (inSlot : InSlotOrder port idx mbuf ctrlThread (before.setRedundant port count) after) :
    InSlotOrder port idx mbuf ctrlThread before after := by
  have stays : OrderStays port before (before.setRedundant port count) := rest before _ _ _ _ _
  cases inSlot with
  | stays kept => exact InSlotOrder.stays (stays.trans kept)
  | first place fresh plain placed ctrl inside moved =>
    exact InSlotOrder.first place fresh plain placed ctrl inside (stays.before moved)
  | later got inside moved => exact InSlotOrder.later got inside (fun forward => stays.before (moved forward))

theorem RvCopier.inSlot_order (copier : RvCopier) (env : copier.Env) (s : copier.Session)
    (slotIdx frame : Nat) (mbuf : RvMbuf) (port : MtlSessionPort) (ctrlThread : Bool) :
    InSlotOrder port slotIdx mbuf ctrlThread (copier.rv s)
      (copier.rv (copier.inSlot env s slotIdx frame mbuf port ctrlThread).session) := by
  cases copier with
  | cpu =>
    exact InSlotOrder.of_setRedundant
      (rvHandleInSlot_order env (RvSession.setRedundant s port 0) slotIdx frame mbuf port ctrlThread)
  | dma =>
    exact InSlotOrder.of_setRedundant (rvDmaHandleInSlot_order env
      (RvDmaSession.withRv s ((RvDmaSession.rv s).setRedundant port 0)) slotIdx frame mbuf port ctrlThread)

/-! ### The handler -/

theorem RvCopier.handle_order (copier : RvCopier) (env : copier.Env) (s : copier.Session)
    (mbuf : RvMbuf) (port : MtlSessionPort) (ctrlThread : Bool) :
    let found := copier.lookup env s mbuf
    let after := copier.rv (copier.handle env s mbuf port ctrlThread).session
    (rvHeaderCheck (copier.rv s).cfg mbuf ≠ none ∧ OrderStays port (copier.rv s) after) ∨
    (rvHeaderCheck (copier.rv s).cfg mbuf = none ∧ OrderStays port (copier.rv found.session) after) ∨
    (rvHeaderCheck (copier.rv s).cfg mbuf = none ∧ Exists fun idx => found.slot = some idx ∧
      ((copier.rv found.session).slots idx).frame.isSome ∧
      InSlotOrder port idx mbuf ctrlThread (copier.rv found.session) after) := by
  have counted : OrderStays port (copier.rv s) (rvCountRetransmit (copier.rv s) (rvReadLine mbuf.pkt)) :=
    orderStays_countRetransmit _ _
  cases checked : rvHeaderCheck (copier.rv s).cfg mbuf with
  | some reason =>
    refine Or.inl ⟨nofun, counted.trans ?_⟩
    have cfg := counted.cfg
    cases copier with
    | cpu =>
      change rvHeaderCheck (RvSession.cfg s) mbuf = some reason at checked
      change (rvCountRetransmit s (rvReadLine mbuf.pkt)).cfg = RvSession.cfg s at cfg
      simp only [handle, rv, rvHandleFramePkt, cfg, checked]
      exact orderStays_drop _ reason
    | dma =>
      change rvHeaderCheck (RvDmaSession.rv s).cfg mbuf = some reason at checked
      change (rvCountRetransmit (RvDmaSession.rv s) (rvReadLine mbuf.pkt)).cfg =
        (RvDmaSession.rv s).cfg at cfg
      simp only [handle, rv, rvDmaHandleFramePkt, RvDmaSession.withRv, cfg, checked]
      exact orderStays_drop _ reason
  | none =>
    refine Or.inr ?_
    rcases copier.handle_cases env port ctrlThread checked with
      ⟨-, kept⟩ | ⟨idx, -, -, -, gone⟩ | ⟨idx, frame, slot, held, shape⟩
    · refine Or.inl ⟨rfl, kept.cfg, fun other => by rw [kept.ports], fun idx => ?_⟩
      rw [kept.slots idx]
      rfl
    · refine Or.inl ⟨rfl, ?_⟩
      rw [gone]
      exact (orderStays_countRedundant _ idx).trans (rest _ _ _ _ _ _)
    · refine Or.inr ⟨rfl, idx, slot, by rw [held]; rfl, ?_⟩
      rw [shape]
      exact copier.inSlot_order env _ idx frame mbuf port ctrlThread

/-! ## Deliveries in sequence order -/

namespace RvCopier

/-- The slot that a packet is handled in, as the lookup leaves it. -/
def meets (copier : RvCopier) (env : copier.Env) (s : copier.Session) (mbuf : RvMbuf) :
    Option (Nat × RvSlot) :=
  if rvHeaderCheck (copier.rv s).cfg mbuf = none then
    let found := copier.lookup env s mbuf
    found.slot.map (fun idx => (idx, (copier.rv found.session).slots idx))
  else
    none

def returnFrames : (copier : RvCopier) -> copier.Session -> List Nat -> copier.Session
  | .cpu, s, frames => rvReturnFrames s frames
  | .dma, s, frames => RvDmaSession.withRv s (rvReturnFrames (RvDmaSession.rv s) frames)

def dequeue : (copier : RvCopier) -> copier.Session -> RvEnv -> Nat -> copier.Session
  | .cpu, s, _, _ => s
  | .dma, s, env, nbDq => (rvDmaDequeue env nbDq s).1

/-- `rv_session_reset`. -/
def reset : (copier : RvCopier) -> copier.Session -> copier.Session
  | .cpu, s => rvSessionReset s
  | .dma, s => rvDmaSessionReset s

end RvCopier

/-- What happens to a session whose packets come on one port.  The sender
numbers its packets without end, and a packet carries 32 bits of its number. -/
inductive RvOrderInput (copier : RvCopier) where
  | packet (env : copier.Env) (mbuf : RvMbuf) (ctrlThread : Bool) (number : Nat)
  | returned (frames : List Nat)
  | report (env : RvEnv) (nbDq : Nat)
  | reset

/-- A session with what is known of the numbers it was sent. -/
structure RvOrdered (copier : RvCopier) where
  session : copier.Session
  /-- The first number that was not sent yet. -/
  next : Nat
  /-- The number of the packet that a slot took as the first of its timestamp. -/
  first : Nat -> Nat

variable {copier : RvCopier}

/-- A slot that waits for the first packet of its timestamp takes the number of
the packet it meets. -/
def rvFirstNumber (first : Nat -> Nat) (number : Nat) : Option (Nat × RvSlot) -> Nat -> Nat
  | none => first
  | some (idx, slot) => if slot.seqIdGot then first else Function.update first idx number

def rvOrderStep (port : MtlSessionPort) (s : RvOrdered copier) : RvOrderInput copier -> RvOrdered copier
  | .packet env mbuf ctrlThread number =>
    { session := (copier.handle env s.session mbuf port ctrlThread).session
      next := number + 1
      first := rvFirstNumber s.first number (copier.meets env s.session mbuf) }
  | .returned frames => { s with session := copier.returnFrames s.session frames }
  | .report env nbDq => { s with session := copier.dequeue s.session env nbDq }
  | .reset => { s with session := copier.reset s.session }

/-- Packets come in the order of their numbers, any of which may be lost, and
no timestamp goes on for so long that its numbers come around in 32 bits. -/
def RvOrderInput.InSequence (s : RvOrdered copier) : RvOrderInput copier -> Prop
  | .packet env mbuf _ number =>
    s.next ≤ number ∧ mbuf.pkt.seqId = u32 number ∧
      ∀ found ∈ copier.meets env s.session mbuf, found.2.seqIdGot = true ->
        number + (copier.rv s.session).cfg.st20FrameBitmapSize * 8 ≤ s.first found.1 + 4294967296
  | _ => True

/-- The index with which a packet becomes the first of a slot's timestamp. -/
def rvBegins (cfg : RvConfig) (slot : RvSlot) (mbuf : RvMbuf) (ctrlThread : Bool) : Option Nat :=
  if slot.seqIdGot || slot.frame.isNone || (rvReadLine mbuf.pkt).userMeta || !ctrlThread then
    none
  else
    match rvPlace cfg (rvReadLine mbuf.pkt) with
    | .error _ => none
    | .ok place =>
      let pktIdx := rvFirstPktIdx cfg (rvReadLine mbuf.pkt) place
      if pktIdx < cfg.st20FrameBitmapSize * 8 then some pktIdx else none

/-- The slot that begins a timestamp with the packet has no mark above its
index. -/
def RvOrderInput.Unmarked (port : MtlSessionPort) (s : RvOrdered copier) : RvOrderInput copier -> Prop
  | .packet env mbuf ctrlThread _ =>
    ∀ found ∈ copier.meets env s.session mbuf,
      ∀ pktIdx ∈ rvBegins (copier.rv s.session).cfg found.2 mbuf ctrlThread,
        found.2.lastPktIdx port ≤ (pktIdx : Int)
  | _ => True

/-! ### The order that a slot follows -/

/-- The mark of a slot is where the packets that were sent have led. -/
def SlotOrder.Follows (order : SlotOrder) (bits next first : Nat) : Prop :=
  order.got = true -> Exists fun start : Nat => start < bits ∧ first < next ∧
    order.base = u32 ((first : Int) - start) ∧ order.mark + first < start + next

theorem SlotOrder.Follows.later {order : SlotOrder} {bits next more first : Nat}
    (follows : order.Follows bits next first) (grown : next ≤ more) : order.Follows bits more first := by
  intro got
  rcases follows got with ⟨start, inside, sent, base, mark⟩
  exact ⟨start, inside, by omega, base, by omega⟩

theorem SlotOrder.follows_first {bits number pktIdx : Nat} {mark : Int} (inside : pktIdx < bits)
    (below : mark ≤ (pktIdx : Int)) :
    (SlotOrder.raise ⟨true, u32 ((u32 number : Int) - pktIdx), mark⟩ pktIdx).Follows bits (number + 1)
      number := by
  intro _
  refine ⟨pktIdx, inside, Nat.lt_succ_self number, ?_, ?_⟩
  · show u32 ((u32 number : Int) - pktIdx) = u32 ((number : Int) - pktIdx)
    simp only [u32_eq]
    omega
  · show max (pktIdx : Int) mark + number < pktIdx + (number + 1 : Nat)
    omega

theorem SlotOrder.Follows.forward {order : SlotOrder} {bits next first number : Nat}
    (follows : order.Follows bits next first) (got : order.got = true) (sent : next ≤ number)
    (apart : number + bits ≤ first + 4294967296) :
    order.mark ≤ (u32 ((u32 number : Int) - order.base) : Int) ∧
      (order.raise (u32 ((u32 number : Int) - order.base))).Follows bits (number + 1) first := by
  rcases follows got with ⟨start, inside, before, base, mark⟩
  have index : (u32 ((u32 number : Int) - order.base) : Int) = start + number - first := by
    rw [base]
    simp only [u32_eq]
    omega
  refine ⟨by omega, fun _ => ⟨start, inside, by omega, base, ?_⟩⟩
  show max (u32 ((u32 number : Int) - order.base) : Int) order.mark + first < start + (number + 1 : Nat)
  omega

/-- Nothing was counted as reordered, and every slot follows its packets. -/
structure InOrder (port : MtlSessionPort) (next : Nat) (first : Nat -> Nat) (s : RvSession) : Prop where
  zero : forall other, (s.stats.port other).reorderedPackets = 0
  follows : forall idx, ((s.slots idx).order port).Follows (s.cfg.st20FrameBitmapSize * 8) next (first idx)

namespace InOrder

variable {next : Nat} {first : Nat -> Nat}

theorem later {more : Nat} {s : RvSession} (ordered : InOrder port next first s) (grown : next ≤ more) :
    InOrder port more first s := ⟨ordered.zero, fun idx => (ordered.follows idx).later grown⟩

theorem stays {before after : RvSession} (ordered : InOrder port next first before)
    (kept : OrderStays port before after) : InOrder port next first after where
  zero other := (kept.reorders other).trans (ordered.zero other)
  follows idx := by
    rw [kept.cfg, kept.orders idx]
    exact ordered.follows idx

theorem moves {before after : RvSession} {idx : Nat} {order : SlotOrder} {changed : Nat -> Nat}
    (ordered : InOrder port next first before) (moved : Reordered port idx order before after)
    (borne : order.Follows (before.cfg.st20FrameBitmapSize * 8) next (changed idx))
    (others : ∀ other ≠ idx, changed other = first other) :
    InOrder port next changed after where
  zero other := (moved.reorders other).trans (ordered.zero other)
  follows other := by
    rw [moved.cfg]
    by_cases same : other = idx
    · rw [same, moved.slot]
      exact borne
    · rw [moved.others other same, others other same]
      exact ordered.follows other

theorem waiting {s : RvSession} {idx : Nat} {changed : Nat -> Nat} (ordered : InOrder port next first s)
    (waits : (s.slots idx).seqIdGot = false)
    (others : ∀ other ≠ idx, changed other = first other) :
    InOrder port next changed s where
  zero := ordered.zero
  follows other := by
    by_cases same : other = idx
    · intro got
      rw [same] at got
      exact absurd got (Bool.eq_false_iff.mp waits)
    · rw [others other same]
      exact ordered.follows other

end InOrder

theorem rvFirstNumber_of_ne {first : Nat -> Nat} {number idx other : Nat} {slot : RvSlot}
    (differ : other ≠ idx) : rvFirstNumber first number (some (idx, slot)) other = first other := by
  unfold rvFirstNumber
  dsimp only
  split
  · rfl
  · exact Function.update_of_ne differ ..

theorem InOrder.lookup {next number : Nat} {first : Nat -> Nat} {before after : RvSession} {slot : Option Nat}
    (ordered : InOrder port next first before) (looked : LookupOrder port before after slot) :
    InOrder port next (rvFirstNumber first number (slot.map (fun idx => (idx, after.slots idx)))) after := by
  have met (held : InOrder port next first after) :
      InOrder port next (rvFirstNumber first number (slot.map (fun idx => (idx, after.slots idx))))
        after := by
    cases slot with
    | none => exact held
    | some idx =>
      cases got : (after.slots idx).seqIdGot with
      | true =>
        have same : rvFirstNumber first number (some (idx, after.slots idx)) = first := by
          unfold rvFirstNumber
          exact if_pos got
        rw [Option.map_some, same]
        exact held
      | false => exact held.waiting got (fun other differ => rvFirstNumber_of_ne differ)
  cases looked with
  | stays _ kept => exact met (ordered.stays kept)
  | restarts idx _ here moved => exact met (ordered.moves moved nofun (fun _ _ => rfl))

/-! ### Runs -/

theorem rvBegins_of_first {cfg : RvConfig} {slot : RvSlot} {mbuf : RvMbuf} {ctrlThread : Bool}
    {place : RvPlacement} (fresh : slot.seqIdGot = false) (held : slot.frame.isSome)
    (plain : (rvReadLine mbuf.pkt).userMeta = false)
    (placed : rvPlace cfg (rvReadLine mbuf.pkt) = .ok place) (ctrl : ctrlThread = true)
    (inside : rvFirstPktIdx cfg (rvReadLine mbuf.pkt) place < cfg.st20FrameBitmapSize * 8) :
    rvBegins cfg slot mbuf ctrlThread = some (rvFirstPktIdx cfg (rvReadLine mbuf.pkt) place) := by
  have holds : slot.frame.isNone = false := by
    rw [← Option.not_isSome, held]
    rfl
  unfold rvBegins
  rw [fresh, holds, plain, ctrl, placed]
  exact if_pos inside

/-- A packet keeps a session in order, on the two conditions. -/
theorem InOrder.packet {s : RvOrdered copier} {env : copier.Env} {mbuf : RvMbuf} {ctrlThread : Bool}
    {number : Nat} (ordered : InOrder port s.next s.first (copier.rv s.session))
    (delivered : (RvOrderInput.packet env mbuf ctrlThread number).InSequence s)
    (unmarked : (RvOrderInput.packet env mbuf ctrlThread number).Unmarked port s) :
    InOrder port (number + 1) (rvFirstNumber s.first number (copier.meets env s.session mbuf))
      (copier.rv (copier.handle env s.session mbuf port ctrlThread).session) := by
  rcases delivered with ⟨sent, carried, apart⟩
  have looked : LookupOrder port (copier.rv s.session)
      (copier.rv (copier.lookup env s.session mbuf).session) (copier.lookup env s.session mbuf).slot :=
    copier.lookup_order env s.session mbuf
  rcases copier.handle_order env s.session mbuf port ctrlThread with
    ⟨checked, kept⟩ | ⟨checked, kept⟩ | ⟨checked, idx, slot, held, inSlot⟩
  · have missed : copier.meets env s.session mbuf = none := if_neg checked
    rw [missed]
    exact (ordered.stays kept).later (by omega)
  · have met := @InOrder.lookup port _ number _ _ _ _ ordered looked
    rw [RvCopier.meets, if_pos checked]
    exact (met.stays kept).later (by omega)
  · have met := @InOrder.lookup port _ number _ _ _ _ ordered looked
    have cfg : (copier.rv (copier.lookup env s.session mbuf).session).cfg = (copier.rv s.session).cfg := by
      cases looked with
      | stays _ kept => exact kept.cfg
      | restarts _ _ _ moved => exact moved.cfg
    have meeting : copier.meets env s.session mbuf =
        some (idx, (copier.rv (copier.lookup env s.session mbuf).session).slots idx) := by
      rw [RvCopier.meets, if_pos checked]
      dsimp only
      rw [slot, Option.map_some]
    rw [slot, Option.map_some] at met
    simp only [RvOrderInput.Unmarked] at unmarked
    rw [meeting] at apart unmarked ⊢
    generalize copier.rv (copier.lookup env s.session mbuf).session = before
      at held inSlot met cfg apart unmarked ⊢
    have follows := met.follows idx
    cases inSlot with
    | stays kept => exact (met.stays kept).later (by omega)
    | first place fresh plain placed ctrl inside moved =>
      have begins := rvBegins_of_first fresh held plain placed ctrl inside
      rw [cfg] at begins
      have below := unmarked _ rfl _ begins
      rw [carried, cfg] at moved
      rw [cfg] at inside
      have number_first : rvFirstNumber s.first number (some (idx, before.slots idx)) idx = number := by
        unfold rvFirstNumber
        dsimp only
        rw [if_neg (Bool.eq_false_iff.mp fresh), Function.update_self]
      refine (met.later (by omega : s.next ≤ number + 1)).moves moved ?_ (fun _ _ => rfl)
      rw [cfg, number_first]
      exact SlotOrder.follows_first inside below
    | later got inside moved =>
      have near := apart _ rfl got
      have kept_first : rvFirstNumber s.first number (some (idx, before.slots idx)) = s.first := by
        unfold rvFirstNumber
        exact if_pos got
      rw [kept_first] at met follows ⊢
      rw [← cfg] at near
      rcases follows.forward got sent near with ⟨forward, borne⟩
      rw [rvLaterPktIdx, carried] at moved
      exact (met.later (by omega : s.next ≤ number + 1)).moves (moved forward) borne (fun _ _ => rfl)

theorem orderStays_returnFrames (copier : RvCopier) (s : copier.Session) (returned : List Nat) :
    OrderStays port (copier.rv s) (copier.rv (copier.returnFrames s returned)) := by
  have kept (s : RvSession) : OrderStays port s (rvReturnFrames s returned) := by
    rw [rvReturnFrames_eq]
    exact frames s _
  cases copier with
  | cpu => exact kept s
  | dma => exact kept (RvDmaSession.rv s)

theorem orderStays_dequeue (copier : RvCopier) (s : copier.Session) (env : RvEnv) (nbDq : Nat) :
    OrderStays port (copier.rv s) (copier.rv (copier.dequeue s env nbDq)) := by
  cases copier with
  | cpu => exact OrderStays.refl _
  | dma => exact orderStays_dmaSteps.dequeue env nbDq s

theorem InOrder.reset (copier : RvCopier) (s : copier.Session) (next : Nat) (first : Nat -> Nat) :
    InOrder port next first (copier.rv (copier.reset s)) := by
  cases copier with
  | cpu => exact ⟨fun _ => rfl, fun _ => nofun⟩
  | dma => exact ⟨fun _ => rfl, fun _ => nofun⟩

theorem rvOrderStep_inOrder (s : RvOrdered copier) (input : RvOrderInput copier)
    (ordered : InOrder port s.next s.first (copier.rv s.session))
    (guarded : input.InSequence s ∧ input.Unmarked port s) :
    InOrder port (rvOrderStep port s input).next (rvOrderStep port s input).first
      (copier.rv (rvOrderStep port s input).session) := by
  cases input with
  | packet env mbuf ctrlThread number => exact ordered.packet guarded.1 guarded.2
  | returned frames => exact ordered.stays (orderStays_returnFrames copier s.session frames)
  | report env nbDq => exact ordered.stays (orderStays_dequeue copier s.session env nbDq)
  | reset => exact InOrder.reset copier s.session _ _

/-- A session behind `rv_session_reset`, before its first packet. -/
def rvOrderStart (copier : RvCopier) (s : copier.Session) : RvOrdered copier :=
  { session := copier.reset s, next := 0, first := fun _ => 0 }

/-- No packet is counted as reordered while the packets of a port come in
sequence order and no slot begins a timestamp with a mark above its first
index. -/
theorem in_order_not_reordered (copier : RvCopier) (s : copier.Session) (port : MtlSessionPort)
    (inputs : List (RvOrderInput copier))
    (delivered : Admitted (rvOrderStep port)
      (fun state input => input.InSequence state ∧ input.Unmarked port state)
      (rvOrderStart copier s) inputs) (other : MtlSessionPort) :
    ((copier.rv (run (rvOrderStep port) (rvOrderStart copier s) inputs).session).stats.port
      other).reorderedPackets = 0 := by
  have initially := @InOrder.reset port copier s 0 (fun _ => 0)
  exact (run_invariant (rvOrderStep port) _
    (fun state => InOrder port state.next state.first (copier.rv state.session))
    rvOrderStep_inOrder initially delivered).zero other

instance RvOrderInput.decidableInSequence (s : RvOrdered copier) :
    forall input : RvOrderInput copier, Decidable (input.InSequence s)
  | .packet .. => inferInstanceAs (Decidable (_ ∧ _ ∧ _))
  | .returned _ => inferInstanceAs (Decidable True)
  | .report .. => inferInstanceAs (Decidable True)
  | .reset => inferInstanceAs (Decidable True)

instance RvOrderInput.decidableUnmarked (s : RvOrdered copier) :
    forall input : RvOrderInput copier, Decidable (input.Unmarked port s)
  | .packet .. => inferInstanceAs (Decidable (∀ found ∈ _, _))
  | .returned _ => inferInstanceAs (Decidable True)
  | .report .. => inferInstanceAs (Decidable True)
  | .reset => inferInstanceAs (Decidable True)

/-- The packets with these numbers of frames of four lines, a packet for each line. -/
def linesOfFrames (numbers : List Nat) : List (RvOrderInput .cpu) :=
  numbers.map (fun number =>
    .packet twinEnv
      { pkt :=
          { marker := decide (number % 4 = 3), payloadType := 112, seqNumber := number, seqNumberExt := 0
            tmstamp := 1000 + number / 4, ssrc := 0, rowLength := 5, rowNumber := number % 4, rowOffset := 0
            body := List.replicate 5 9 }
        multiSegment := false }
      true number)

def framesInOrder (count : Nat) : List (RvOrderInput .cpu) := linesOfFrames (List.range (count * 4))

def twinOrdered : RvOrdered .cpu := rvOrderStart .cpu (rvInit twinRxConfig)

/-- The last three packets of the first frame and the first of the third are lost. -/
def slotAgain : List (RvOrderInput .cpu) := linesOfFrames [0, 4, 5, 6, 7, 9, 10, 11]

/-- Each of the two slots takes one frame; and with the losses the first slot takes the third frame too. -/
theorem frames_not_reordered :
    ((run (rvOrderStep .p) twinOrdered (framesInOrder 2)).session.stats.port .p).reorderedPackets = 0 ∧
      ((run (rvOrderStep .p) twinOrdered slotAgain).session.stats.port .p).reorderedPackets = 0 ∧
      ((run (rvOrderStep .p) twinOrdered slotAgain).session.slots 0).tmstamp = 1002 :=
  ⟨in_order_not_reordered .cpu (rvInit twinRxConfig) .p (framesInOrder 2) (by decide +kernel) .p,
    in_order_not_reordered .cpu (rvInit twinRxConfig) .p slotAgain (by decide +kernel) .p, by decide +kernel⟩

/-- The third frame is measured by the mark of the first one. -/
theorem third_frame_counted_reordered :
    rvAttach 1024 twinRxConfig.ops none = .ok twinRxConfig ∧
      Admitted (rvOrderStep .p) (fun state input => input.InSequence state) twinOrdered (framesInOrder 3) ∧
      ((run (rvOrderStep .p) twinOrdered (framesInOrder 3)).session.stats.port .p).reorderedPackets = 2 :=
  ⟨rfl, by decide +kernel, by decide +kernel⟩

end MediaTransport.Video
