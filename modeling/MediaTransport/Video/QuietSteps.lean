import MediaTransport.Video.DmaSteps
import MediaTransport.Video.HdrSplitPacket

namespace MediaTransport.Video

open Library

/-!
# Steps that settle no packet

Looking up a slot, charging losses, handing frames over and storing payloads
are made of a few kinds of update.  None of them says what became of the
packet that is handled, none changes the timestamp of a slot, and each keeps
the session's loss in step with the losses of its ports.  The relation `Quiet`
is generated by these updates and counts the complete frames that were handed
over; every function gets one lemma, and a property of sessions is then
checked against the generators instead of the functions.  `Handled` adds the
one update that settles the packet.
-/

/-! ## Counters -/

variable (env : RvEnv) (cfg : RvConfig) (s : RvSession) (slot : RvSlot) (stats : RvStats)
  (slotIdx frame : Nat) (pkt : Rfc9134Packet) (expected : Nat) (port : MtlSessionPort)

/-- One update of the counters that settles no packet and hands over no
complete frame. -/
inductive CountStep : RvStats -> RvStats -> Prop where
  | lost (stats : RvStats) (port : MtlSessionPort) (count : Nat) :
      CountStep stats
        { stats.setPort port
            { stats.port port with lostPackets := (stats.port port).lostPackets + count } with
          lostPackets := stats.lostPackets + count }
  | reordered (stats : RvStats) (port : MtlSessionPort) (count : Nat) :
      CountStep stats
        (stats.setPort port { stats.port port with reorderedPackets := count })
  | received (stats : RvStats) (count : Nat) :
      CountStep stats { stats with framesReceived := count }
  | incomplete (stats : RvStats) (count unrecovered : Nat) :
      CountStep stats { stats with framesIncomplete := count, pktsUnrecovered := unrecovered }
  | fields (stats : RvStats) (first second : Nat) :
      CountStep stats { stats with interlaceFirstField := first, interlaceSecondField := second }
  | buffers (stats : RvStats) (getFrameFail queryExtFail : Nat) :
      CountStep stats
        { stats with slotGetFrameFail := getFrameFail, slotQueryExtFail := queryExtFail }
  | slices (stats : RvStats) (failed merged received : Nat) :
      CountStep stats
        { stats with
          pktsSliceFail := failed, pktsSliceMerged := merged, slicesReceived := received }
  | boxes (stats : RvStats) (count : Nat) : CountStep stats { stats with st22Boxes := count }
  | retransmit (stats : RvStats) (count : Nat) :
      CountStep stats { stats with pktsRetransmit := count }

def Counted : RvStats -> RvStats -> Prop := Relation.ReflTransGen CountStep

theorem Counted.refl (stats : RvStats) : Counted stats stats := Relation.ReflTransGen.refl

theorem Counted.trans {first second third : RvStats} (left : Counted first second)
    (right : Counted second third) : Counted first third := Relation.ReflTransGen.trans left right

theorem CountStep.counted {before after : RvStats} (step : CountStep before after) :
    Counted before after := Relation.ReflTransGen.single step

theorem counted_accountPort (stats : RvStats) (port : MtlSessionPort)
    : Counted stats (rvAccountPort env slot expected stats port) := by
  unfold rvAccountPort
  dsimp only
  split
  · exact Counted.refl stats
  · exact (CountStep.lost stats port _).counted

theorem counted_account (ports : List MtlSessionPort) (stats : RvStats) :
    Counted stats (ports.foldl (rvAccountPort env slot expected) stats) := by
  induction ports generalizing stats with
  | nil => exact Counted.refl stats
  | cons port rest ih => exact (counted_accountPort env slot expected stats port).trans (ih _)

theorem counted_countField (secondField : Bool) (stats : RvStats) :
    Counted stats (rvCountField cfg secondField stats) := by
  unfold rvCountField
  split
  · exact Counted.refl stats
  · split
    · exact (CountStep.fields stats _ _).counted
    · exact (CountStep.fields stats _ _).counted

theorem setPort_port_self (values : RvPortStats) :
    (stats.setPort port values).port port = values := Function.update_self ..

theorem setPort_port_of_ne {port other : MtlSessionPort} (values : RvPortStats) (differ : other ≠ port)
    : (stats.setPort port values).port other = stats.port other :=
  Function.update_of_ne differ ..

/-! ### A complete frame -/

def OneFrameMore (before after : RvPortStats) : Prop :=
  (after.frames = before.frames + 1 ∧ after.framesPartial = before.framesPartial) ∨
    (after.frames = before.frames ∧ after.framesPartial = before.framesPartial + 1)

/-- The counters of the ports after a complete frame: exactly one of a live
port's two counts of frames grew. -/
structure DeliverStep (live : List MtlSessionPort) (before after : RvStats) : Prop where
  rest : after = { before with port := after.port }
  lost : forall port, (after.port port).lostPackets = (before.port port).lostPackets
  each : ∀ port ∈ live, OneFrameMore (before.port port) (after.port port)

theorem rvCountFramePort_port :
    (rvCountFramePort slot stats port =
        { stats with port := (rvCountFramePort slot stats port).port }) ∧
      (forall other, ((rvCountFramePort slot stats port).port other).lostPackets =
        (stats.port other).lostPackets) ∧
      OneFrameMore (stats.port port) ((rvCountFramePort slot stats port).port port) ∧
      ∀ other ≠ port,
        (rvCountFramePort slot stats port).port other = stats.port other := by
  unfold rvCountFramePort
  dsimp only
  split
  · refine ⟨rfl, fun other => ?_, ?_, fun other => setPort_port_of_ne stats _⟩
    · by_cases same : other = port
      · rw [same, setPort_port_self]
      · rw [setPort_port_of_ne stats _ same]
    · rw [setPort_port_self]
      exact Or.inl ⟨rfl, rfl⟩
  · refine ⟨rfl, fun other => ?_, ?_, fun other => setPort_port_of_ne stats _⟩
    · by_cases same : other = port
      · rw [same, setPort_port_self]
      · rw [setPort_port_of_ne stats _ same]
    · rw [setPort_port_self]
      exact Or.inr ⟨rfl, rfl⟩

theorem deliverStep_bothPorts (live : List MtlSessionPort) (slot : RvSlot) (stats : RvStats) :
    DeliverStep live stats ([MtlSessionPort.p, .r].foldl (rvCountFramePort slot) stats) := by
  rcases rvCountFramePort_port slot stats .p with ⟨restP, lostP, oneP, otherP⟩
  rcases rvCountFramePort_port slot (rvCountFramePort slot stats .p) .r with
    ⟨restR, lostR, oneR, otherR⟩
  rw [List.foldl_cons, List.foldl_cons, List.foldl_nil]
  refine ⟨?_, fun port => (lostR port).trans (lostP port), fun port _ => ?_⟩
  · rw [restR, restP]
  · cases port with
    | p =>
      rw [otherR .p (by decide)]
      exact oneP
    | r =>
      rw [← otherP .r (by decide)]
      exact oneR

/-! ## Sessions -/

/-- A session after updates that settle no packet, with the number of complete
frames that were handed over. -/
inductive Quiet : Nat -> RvSession -> RvSession -> Prop where
  | refl (s : RvSession) : Quiet 0 s s
  | trans {many more : Nat} {first second third : RvSession} (left : Quiet many first second)
      (right : Quiet more second third) : Quiet (many + more) first third
  | counted (s : RvSession) {stats : RvStats} (steps : Counted s.stats stats) :
      Quiet 0 s (s.withStats stats)
  | delivered (s : RvSession) {stats : RvStats}
      (step : DeliverStep s.cfg.ops.ports s.stats stats) : Quiet 1 s (s.withStats stats)
  | frames (s : RvSession) (frames : Nat -> RvFrame) : Quiet 0 s { s with frames := frames }
  | slot (s : RvSession) (idx : Nat) (slot : RvSlot)
      (stamp : slot.tmstamp = (s.slots idx).tmstamp) : Quiet 0 s (s.setSlot idx slot)
  | sizes (s : RvSession) (framePkts expect expectPerFrame : Nat) :
      Quiet 0 s
        { s with
          st20FramePkts := framePkts
          st22ExpectFrameSize := expect
          st22ExpectSizePerFrame := expectPerFrame }

theorem Quiet.before {many : Nat} {first second third : RvSession} (left : Quiet 0 first second)
    (right : Quiet many second third) : Quiet many first third := by
  have both := left.trans right
  rw [Nat.zero_add] at both
  exact both

theorem Quiet.after {many : Nat} {first second third : RvSession} (left : Quiet many first second)
    (right : Quiet 0 second third) : Quiet many first third := left.trans right

theorem Quiet.of_count {many more : Nat} {first second : RvSession} (same : many = more)
    (quiet : Quiet many first second) : Quiet more first second := same ▸ quiet

theorem quiet_account : Quiet 0 s (rvSlotAccountPerPortLoss env s slot expected) :=
  Quiet.counted s (counted_account env slot expected _ _)

theorem quiet_countNotify (slotIdx : Nat) : Quiet 0 s (rvCountNotify s slotIdx) :=
  Quiet.counted s (counted_countField _ _ _)

theorem quiet_countFrame (slotIdx : Nat) : Quiet 1 s (rvCountFrame s slotIdx) := by
  have ports := Quiet.delivered s (deliverStep_bothPorts s.cfg.ops.ports (s.slots slotIdx) s.stats)
  have counted := ports.after (Quiet.counted _ (CountStep.received _
    (([MtlSessionPort.p, .r].foldl (rvCountFramePort (s.slots slotIdx)) s.stats).framesReceived
      + 1)).counted)
  exact counted.after (Quiet.sizes _ (s.slots slotIdx).pktsReceived _ _)

theorem quiet_st22CountFrame (slotIdx : Nat) : Quiet 1 s (rvSt22CountFrame s slotIdx) := by
  unfold rvSt22CountFrame
  split
  · exact Quiet.delivered s (deliverStep_bothPorts _ (s.slots slotIdx) s.stats)
  · rename_i onePort
    have ports : s.cfg.ops.ports = [.p] := if_neg onePort
    refine Quiet.delivered s ⟨rfl, fun port => ?_, fun port live => ?_⟩
    · by_cases same : port = .p
      · rw [same, setPort_port_self]
      · rw [setPort_port_of_ne _ _ same]
    · rw [ports, List.mem_singleton] at live
      rw [live, setPort_port_self]
      exact Or.inl ⟨rfl, rfl⟩

theorem quiet_handOver (event : RvEvent) (ret : Int) :
    Quiet 0 s (rvHandOver s slotIdx frame event ret).1 := by
  unfold rvHandOver
  dsimp only
  split
  · exact (Quiet.slot s slotIdx { s.slots slotIdx with lossPending := true, frame := none } rfl).after
      (Quiet.frames _ _)
  · exact Quiet.slot s slotIdx _ rfl

theorem quiet_giveUp (slotIdx frame miss : Nat) (event : RvEvent) :
    Quiet 0 s (rvGiveUp env s slotIdx frame miss event).1 := by
  have counted := Quiet.counted s (CountStep.incomplete s.stats (s.stats.framesIncomplete + 1)
    (s.stats.pktsUnrecovered + miss)).counted
  have charged := counted.after (quiet_account env _ (s.slots slotIdx)
    ((s.slots slotIdx).pktsReceived + miss))
  unfold rvGiveUp
  dsimp only
  split
  · exact charged
  · have emptied := charged.trans
      (Quiet.slot _ slotIdx { s.slots slotIdx with frame := none } rfl)
    exact emptied.after (Quiet.frames _ _)

/-! ### Notification -/

def RvEvent.isComplete : RvEvent -> Bool
  | .frameReady _ info _ _ => decide (info.status ≠ .corrupted)
  | _ => false

def completed (events : List RvEvent) : Nat := events.countP RvEvent.isComplete

theorem completed_append (first second : List RvEvent) :
    completed (first ++ second) = completed first + completed second := List.countP_append ..

theorem completed_of_first {first second : List RvEvent} (none : completed first = 0) :
    completed (first ++ second) = completed second := by
  rw [completed_append, none, Nat.zero_add]

theorem rvFrameMeta_status (frame : RvFrame) :
    (rvFrameMeta s slot frame).status ≠ .corrupted <->
      s.cfg.st20FrameSize ≤ rvSlotGetFrameSize slot := by
  unfold rvFrameMeta
  dsimp only
  split
  · rename_i full
    refine iff_of_true ?_ full
    split <;> decide
  · rename_i short
    exact iff_of_false (fun complete => complete rfl) short

theorem completed_giveUp {env : RvEnv} {s : RvSession} {slotIdx frame miss : Nat}
    {event : RvEvent} (short : event.isComplete = false) :
    completed (rvGiveUp env s slotIdx frame miss event).2 = 0 := by
  unfold rvGiveUp
  dsimp only
  split
  · exact List.countP_eq_zero.mpr (fun other member => by
      rw [List.mem_singleton.mp member, short]
      decide)
  · rfl

theorem completed_handOver {s : RvSession} {slotIdx frame : Nat} {event : RvEvent} {ret : Int}
    (full : event.isComplete = true) :
    completed (rvHandOver s slotIdx frame event ret).2 = 1 := by
  unfold rvHandOver
  dsimp only
  split
  · exact List.countP_cons_of_pos full
  · exact List.countP_cons_of_pos full

theorem quiet_frameNotify (ret : Int) (s : RvSession) (slotIdx frame : Nat) :
    Quiet (completed (rvFrameNotify env ret s slotIdx frame).2) s
      (rvFrameNotify env ret s slotIdx frame).1 := by
  have noted := quiet_countNotify s slotIdx
  have status := rvFrameMeta_status s (s.slots slotIdx) (s.frames frame)
  unfold rvFrameNotify
  dsimp only
  split
  · rename_i full
    rw [completed_handOver]
    · exact noted.before
        ((quiet_countFrame _ slotIdx).after (quiet_handOver _ slotIdx frame _ ret))
    · exact decide_eq_true (status.mpr full)
  · rename_i short
    rw [completed_giveUp]
    · exact noted.before (quiet_giveUp env _ slotIdx frame _ _)
    · exact decide_eq_false (fun complete => short (status.mp complete))

theorem quiet_st22FrameNotify (ret : Int) (s : RvSession) (slotIdx frame : Nat) (status : StFrameStatus)
    :
    Quiet (completed (rvSt22FrameNotify env ret s slotIdx frame status).2) s
      (rvSt22FrameNotify env ret s slotIdx frame status).1 := by
  have noted := (quiet_countNotify s slotIdx).after
    (Quiet.sizes _ s.st20FramePkts 0 s.st22ExpectSizePerFrame)
  unfold rvSt22FrameNotify
  dsimp only
  split
  · rename_i full
    have complete : status ≠ .corrupted := by
      rintro rfl
      rcases full with absent | absent <;> cases absent
    rw [completed_handOver]
    · exact noted.before
        ((quiet_st22CountFrame _ slotIdx).after (quiet_handOver _ slotIdx frame _ ret))
    · exact decide_eq_true complete
  · rename_i short
    have corrupted : status = .corrupted := by
      cases status with
      | complete => exact False.elim (short (Or.inl rfl))
      | reconstructed => exact False.elim (short (Or.inr rfl))
      | corrupted => rfl
    rw [completed_giveUp]
    · exact noted.before (quiet_giveUp env _ slotIdx frame _ _)
    · exact decide_eq_false (fun complete => complete corrupted)

/-! ### Slots -/

section

variable (env : RvEnv) (s : RvSession)

theorem quiet_recycle (slotIdx frame : Nat) :
    Quiet (completed (rvRecycle env s slotIdx frame).2) s (rvRecycle env s slotIdx frame).1 := by
  unfold rvRecycle
  cases s.cfg.st22 with
  | some ops => exact quiet_st22FrameNotify env _ s slotIdx frame _
  | none => exact quiet_frameNotify env _ s slotIdx frame

theorem quiet_emptySlot (slotIdx : Nat) :
    Quiet (completed (rvEmptySlot env s slotIdx).2) s (rvEmptySlot env s slotIdx).1 := by
  unfold rvEmptySlot
  cases (s.slots slotIdx).frame with
  | none => exact Quiet.refl s
  | some frame =>
    exact (quiet_recycle env s slotIdx frame).after (Quiet.slot _ slotIdx _ rfl)

theorem quiet_chargePending (slotIdx : Nat) :
    Quiet 0 s (rvChargePending env s slotIdx) := by
  unfold rvChargePending
  dsimp only
  split
  · exact (quiet_account env s _ _).after (Quiet.slot _ slotIdx _ rfl)
  · exact Quiet.refl s

theorem quiet_retireSlot (slotIdx : Nat) :
    Quiet (completed (rvRetireSlot env s slotIdx).2) s (rvRetireSlot env s slotIdx).1 :=
  (quiet_emptySlot env s slotIdx).after (quiet_chargePending env _ slotIdx)

theorem quiet_assignFrame (slotIdx : Nat) :
    Quiet 0 s (rvAssignFrame env s slotIdx).1 := by
  unfold rvAssignFrame
  cases rvGetFrame s with
  | none => exact Quiet.counted s (CountStep.buffers s.stats _ _).counted
  | some frame =>
    dsimp only
    cases rvFrameBuffer env s frame with
    | none => exact Quiet.counted s (CountStep.buffers s.stats _ _).counted
    | some addr => exact (Quiet.frames s _).after (Quiet.slot _ slotIdx _ rfl)

theorem quiet_slotFullFrame (slotIdx frame : Nat) :
    Quiet (completed (rvSlotFullFrame env s slotIdx frame).2) s
      (rvSlotFullFrame env s slotIdx frame).1 :=
  (quiet_frameNotify env env.notifyFull s slotIdx frame).after (Quiet.slot _ slotIdx _ rfl)

theorem quiet_st22SlotFullFrame (slotIdx frame : Nat) :
    Quiet (completed (rvSt22SlotFullFrame env s slotIdx frame).2) s
      (rvSt22SlotFullFrame env s slotIdx frame).1 :=
  (quiet_st22FrameNotify env env.notifyFull s slotIdx frame .complete).after
    (Quiet.slot _ slotIdx _ rfl)

end

/-! ### Parts of the handlers -/

theorem quiet_countReordered (reordered : Bool) : Quiet 0 s (rvCountReordered s port reordered) := by
  unfold rvCountReordered
  dsimp only
  split
  · exact Quiet.counted s (CountStep.reordered s.stats port _).counted
  · exact Quiet.refl s

theorem quiet_countRetransmit (line : RvLine) : Quiet 0 s (rvCountRetransmit s line) := by
  unfold rvCountRetransmit
  split
  · exact Quiet.counted s (CountStep.retransmit s.stats _).counted
  · exact Quiet.refl s

theorem quiet_countBoxes : Quiet 0 s (rvCountBoxes s slot pkt) := by
  unfold rvCountBoxes
  split
  · exact Quiet.counted s (CountStep.boxes s.stats _).counted
  · exact Quiet.refl s

theorem quiet_learnSize (marker : Bool) (size : Nat) : Quiet 0 s (rvLearnSize s marker size) := by
  unfold rvLearnSize
  split
  · exact Quiet.sizes s s.st20FramePkts size size
  · exact Quiet.refl s

theorem rvSlices_counted (frame : Nat) (place : RvPlacement) :
    Counted s.stats (rvSlices s slot frame place).2.1 ∧
      (rvSlices s slot frame place).1.tmstamp = slot.tmstamp ∧
      completed (rvSlices s slot frame place).2.2 = 0 := by
  unfold rvSlices
  cases slot.sliceInfo with
  | none => exact ⟨Counted.refl _, rfl, rfl⟩
  | some info =>
    refine ⟨(CountStep.slices s.stats _ _ _).counted, rfl, ?_⟩
    dsimp only
    split <;> rfl

/-- Bytes that land settle no packet and hand over no frame; at most a slice is announced. -/
theorem quiet_dmaLand (s : RvDmaSession) (copy : RvDmaCopy) :
    Quiet 0 s.rv (rvDmaLand s copy).1.rv ∧ completed (rvDmaLand s copy).2 = 0 := by
  unfold rvDmaLand
  dsimp only
  set filled := s.rv.setFrame copy.frame
    { s.rv.frames copy.frame with
      addr := store (s.rv.frames copy.frame).addr copy.offset copy.payload }
  have landed : Quiet 0 s.rv filled := Quiet.frames s.rv _
  cases s.dmaSlot with
  | none => exact ⟨landed, rfl⟩
  | some idx =>
    rcases rvSlices_counted filled (filled.slots idx)
      ((filled.slots idx).frame.getD copy.frame)
      { offset := copy.offset, payloadLength := copy.payload.length } with
      ⟨counts, kept, noFrame⟩
    have stored := (Quiet.slot filled idx _ kept).after
      (Quiet.counted (filled.setSlot idx _) counts)
    exact ⟨landed.before stored, noFrame⟩

theorem quiet_dmaSteps : DmaSteps fun before after events => Quiet (completed events) before after where
  refl s := Quiet.refl s
  trans left right := Quiet.of_count (completed_append _ _).symm (left.trans right)
  land s copy :=
    have landed := quiet_dmaLand s copy
    Quiet.of_count landed.2.symm landed.1
  full env _ _ _ _ _ := quiet_slotFullFrame env _ _ _

/-! ## Settling a packet -/

/-- The update of the counters that goes with a return code. -/
inductive SettleStep : RvStats -> RvStats -> Except Errno Unit -> Prop where
  | received (stats : RvStats) :
      SettleStep stats { stats with pktsReceived := stats.pktsReceived + 1 } (.ok ())
  | redundant (stats : RvStats) :
      SettleStep stats { stats with pktsRedundant := stats.pktsRedundant + 1 } (.ok ())
  | userMeta (stats : RvStats) :
      SettleStep stats { stats with pktsUserMeta := stats.pktsUserMeta + 1 } (.ok ())
  | dropped (stats : RvStats) (reason : RvDrop) (errno : Errno) :
      SettleStep stats (stats.drop reason) (.error errno)

/-- One packet is settled before complete frames are handed over. -/
structure Handled (delivered : Nat) (before after : RvSession) (ret : Except Errno Unit) :
    Prop where
  split : Exists fun middle => Exists fun stats => Quiet 0 before middle ∧
    SettleStep middle.stats stats ret ∧ Quiet delivered (middle.withStats stats) after

theorem Handled.of_step {delivered : Nat} {before after : RvSession} {stats : RvStats}
    {ret : Except Errno Unit} (step : SettleStep before.stats stats ret)
    (rest : Quiet delivered (before.withStats stats) after) : Handled delivered before after ret :=
  ⟨before, stats, Quiet.refl before, step, rest⟩

theorem Handled.after_quiet {delivered : Nat} {first second third : RvSession}
    {ret : Except Errno Unit} (quiet : Quiet 0 first second)
    (handled : Handled delivered second third ret) : Handled delivered first third ret := by
  rcases handled.split with ⟨middle, stats, left, step, right⟩
  exact ⟨middle, stats, quiet.before left, step, right⟩

theorem rvDrop_handled (reason : RvDrop) :
    Handled 0 s (rvDrop s reason).session (rvDrop s reason).ret :=
  Handled.of_step (SettleStep.dropped s.stats reason reason.errno) (Quiet.refl _)

theorem rvCountRedundant_handled (slotIdx : Nat) (port : MtlSessionPort) :
    Handled 0 s (rvCountRedundant s slotIdx port) (.ok ()) :=
  Handled.of_step (SettleStep.redundant s.stats) (Quiet.slot _ slotIdx _ rfl)

theorem rvUserMeta_handled (frame : Nat) (line : RvLine) :
    Handled (completed (rvUserMeta s frame line).events) s (rvUserMeta s frame line).session
      (rvUserMeta s frame line).ret := by
  unfold rvUserMeta
  dsimp only
  generalize (if line.extra.isSome = true then rfc4175ExtraHdrSize else 0) = extraBytes
  -- Neither way tells the application of a frame.
  split
  · exact Handled.of_step (SettleStep.userMeta s.stats) (Quiet.frames _ _)
  · exact rvDrop_handled s _

/-- A new packet sets the base of its slot or a bit of the bitmap, and nothing else. -/
def RvSlot.OnlyMarked (before after : RvSlot) : Prop :=
  after =
    { before with
      seqIdBaseU32 := after.seqIdBaseU32, seqIdGot := after.seqIdGot, frameBitmap := after.frameBitmap }

section

variable {before after : RvSlot} (marked : before.OnlyMarked after)

include marked

theorem RvSlot.OnlyMarked.tmstamp_eq : after.tmstamp = before.tmstamp := by rw [marked]

theorem RvSlot.OnlyMarked.frame_eq : after.frame = before.frame := by rw [marked]

theorem RvSlot.OnlyMarked.sliceInfo_eq : after.sliceInfo = before.sliceInfo := by rw [marked]

theorem RvSlot.OnlyMarked.size_eq : rvSlotGetFrameSize after = rvSlotGetFrameSize before := by
  rw [marked]
  rfl

end

theorem rvIndex_fresh_marked {cfg : RvConfig} {slot marked : RvSlot} {line : RvLine}
    {place : RvPlacement} {seqId pktIdx : Nat} {port : MtlSessionPort} {ctrlThread reordered : Bool}
    (fresh : rvIndex cfg slot line place seqId port ctrlThread = .fresh pktIdx marked reordered) :
    slot.OnlyMarked marked := by
  unfold rvIndex at fresh
  dsimp only at fresh
  split at fresh
  · split at fresh
    · cases fresh
    · split at fresh
      · cases fresh
      · cases fresh
        rfl
  · split at fresh
    · split at fresh
      · cases fresh
      · cases fresh
        rfl
    · cases fresh

theorem rvHdrSplitIndex_fresh_marked {cfg : RvConfig} {slot marked : RvSlot} {pkt : Rfc4175Packet}
    {pktIdx : Nat} {port : MtlSessionPort} {reordered : Bool}
    (fresh : rvHdrSplitIndex cfg slot pkt port = .fresh pktIdx marked reordered) :
    slot.OnlyMarked marked := by
  unfold rvHdrSplitIndex at fresh
  dsimp only at fresh
  split at fresh
  · split at fresh
    · cases fresh
    · split at fresh
      · cases fresh
      · cases fresh
        rfl
  · split at fresh
    · cases fresh
      rfl
    · cases fresh

theorem completed_uframeEvents (line : RvLine) (frame : Nat) :
    completed (rvUframeEvents cfg line frame) = 0 := by
  unfold rvUframeEvents
  split
  · rfl
  · cases line.extra with
    | none => rfl
    | some extra => rfl

/-- A packet is settled when its copy is ordered, before the device has made it. -/
theorem rvDmaStorePacket_handled (env : DmaEnv) (s : RvDmaSession) (slotIdx frame : Nat)
    {slot : RvSlot} (line : RvLine) (place : RvPlacement) (pktIdx : Nat) (port : MtlSessionPort)
    (ctrlThread : Bool) (stamp : slot.tmstamp = (s.rv.slots slotIdx).tmstamp) :
    let stored := rvDmaStorePacket env s slotIdx frame slot line place pktIdx port ctrlThread
    Handled (completed stored.2) s.rv stored.1.rv (.ok ()) := by
  unfold rvDmaStorePacket
  dsimp only
  generalize rvDmaTakes env s.rv.cfg line place = takes
  have copied : Quiet 0 s.rv (rvDmaCopy s takes frame line place).rv := by
    unfold rvDmaCopy
    split
    · exact Quiet.refl s.rv
    · exact Quiet.frames s.rv _
  have kept : ((rvDmaCopy s takes frame line place).rv.slots slotIdx).tmstamp =
      (s.rv.slots slotIdx).tmstamp := by
    unfold rvDmaCopy
    split <;> rfl
  generalize rvDmaCopy s takes frame line place = first at copied kept ⊢
  refine Handled.after_quiet copied (Handled.of_step (SettleStep.received first.rv.stats) ?_)
  set counted := first.rv.withStats
    { first.rv.stats with pktsReceived := first.rv.stats.pktsReceived + 1 }
  set filled := slot.received pktIdx place.payloadLength port ctrlThread
  have sliced : Counted counted.stats (rvDmaSlices counted takes filled frame place).2.1 ∧
      (rvDmaSlices counted takes filled frame place).1.tmstamp = filled.tmstamp ∧
      completed (rvDmaSlices counted takes filled frame place).2.2 = 0 := by
    unfold rvDmaSlices
    split
    · exact ⟨Counted.refl _, rfl, rfl⟩
    · exact rvSlices_counted counted filled frame place
  rcases sliced with ⟨counts, same, noFrame⟩
  generalize rvDmaSlices counted takes filled frame place = slices at counts same noFrame ⊢
  have stored := (Quiet.slot counted slotIdx slices.1 (same.trans (stamp.trans kept.symm))).after
    (Quiet.counted (counted.setSlot slotIdx slices.1) counts)
  have told : completed (rvUframeEvents counted.cfg line frame ++ slices.2.2) = 0 :=
    (completed_of_first (completed_uframeEvents counted.cfg line frame)).trans noFrame
  split
  · exact Quiet.of_count (completed_of_first told).symm
      (stored.before (quiet_slotFullFrame env.toRvEnv _ slotIdx frame))
  · exact Quiet.of_count told.symm stored

/-- A packet that found its slot is received, counted as a copy of another one or dropped. -/
theorem rvDmaHandleInSlot_handled (env : DmaEnv) (s : RvDmaSession) (slotIdx frame : Nat)
    (mbuf : RvMbuf) (port : MtlSessionPort) (ctrlThread : Bool) :
    let result := rvDmaHandleInSlot env s slotIdx frame mbuf port ctrlThread
    Handled (completed result.events) s.rv result.session.rv result.ret := by
  unfold rvDmaHandleInSlot
  dsimp only
  split
  · exact rvUserMeta_handled s.rv frame _
  · refine Handled.after_quiet (Quiet.slot s.rv slotIdx
      { s.rv.slots slotIdx with secondField := (rvReadLine mbuf.pkt).secondField } rfl) ?_
    cases rvPlace _ (rvReadLine mbuf.pkt) with
    | error reason => exact rvDrop_handled _ reason
    | ok place =>
      dsimp only
      cases index : rvIndex _ _ (rvReadLine mbuf.pkt) place mbuf.pkt.seqId port ctrlThread with
      | drop reason => exact rvDrop_handled _ reason
      | redundant => exact rvCountRedundant_handled _ slotIdx port
      | fresh pktIdx slot reordered =>
        refine Handled.after_quiet (quiet_countReordered _ port reordered) ?_
        refine rvDmaStorePacket_handled env _ slotIdx frame _ place pktIdx port ctrlThread ?_
        have stamp := (rvIndex_fresh_marked index).tmstamp_eq
        unfold RvDmaSession.withRv rvCountReordered
        dsimp only
        split <;> exact stamp

theorem rvHandleInSlot_handled (mbuf : RvMbuf) (port : MtlSessionPort) (ctrlThread : Bool) :
    Handled (completed (rvHandleInSlot env s slotIdx frame mbuf port ctrlThread).events) s
      (rvHandleInSlot env s slotIdx frame mbuf port ctrlThread).session
      (rvHandleInSlot env s slotIdx frame mbuf port ctrlThread).ret := by
  rw [rvHandleInSlot_eq_plain]
  exact rvDmaHandleInSlot_handled env.refusing s.idle slotIdx frame mbuf port ctrlThread

/-! ## ST 2110-22 -/

/-- The slot that a search for an index leaves has the given timestamp. -/
def RvSt22Index.Stamped (tmstamp : Int) : RvSt22Index -> Prop
  | .drop _ slot => slot.tmstamp = tmstamp
  | .redundant => True
  | .fresh _ slot _ => slot.tmstamp = tmstamp

theorem rvSt22Index_stamped : (rvSt22Index cfg slot pkt port).Stamped slot.tmstamp := by
  unfold rvSt22Index
  dsimp only
  split
  · split
    · rfl
    · split
      · rfl
      · split
        · trivial
        · rfl
  · cases rvSt22BoxHdrLength cfg slot pkt with
    | none => rfl
    | some length =>
      dsimp only
      split
      · rfl
      · rfl

theorem rvSt22StorePacket_handled {slot : RvSlot} (marker : Bool) (piece : RvSt22Piece)
    (port : MtlSessionPort) (stamp : slot.tmstamp = (s.slots slotIdx).tmstamp) :
    Handled (completed (rvSt22StorePacket env s slotIdx frame slot marker piece port).2) s
      (rvSt22StorePacket env s slotIdx frame slot marker piece port).1 (.ok ()) := by
  unfold rvSt22StorePacket
  dsimp only
  set filled := s.setFrame frame
    { s.frames frame with addr := store (s.frames frame).addr piece.offset piece.bytes }
  have copied : Quiet 0 s filled := Quiet.frames s _
  refine Handled.after_quiet copied (Handled.of_step (SettleStep.received filled.stats) ?_)
  have stored := Quiet.slot (filled.withStats
    { filled.stats with pktsReceived := filled.stats.pktsReceived + 1 }) slotIdx
    (slot.gained piece.bytes.length port) stamp
  have learnt := stored.after (quiet_learnSize _ marker (piece.offset + piece.bytes.length))
  split
  · exact learnt.before (quiet_st22SlotFullFrame env _ slotIdx frame)
  · exact learnt

theorem rvSt22HandleInSlot_handled :
    Handled (completed (rvSt22HandleInSlot env s slotIdx frame pkt port).events) s
      (rvSt22HandleInSlot env s slotIdx frame pkt port).session
      (rvSt22HandleInSlot env s slotIdx frame pkt port).ret := by
  unfold rvSt22HandleInSlot
  dsimp only
  set slot := { s.slots slotIdx with secondField := decide (pkt.interlaced = 3) }
  refine Handled.after_quiet (Quiet.slot s slotIdx slot rfl)
    (Handled.after_quiet (quiet_countBoxes _ slot pkt) ?_)
  have held : ((rvCountBoxes (s.setSlot slotIdx slot) slot pkt).slots slotIdx).tmstamp =
      slot.tmstamp := by
    unfold rvCountBoxes
    split <;> exact congrArg RvSlot.tmstamp (s.setSlot_slots_self slotIdx slot)
  generalize rvCountBoxes (s.setSlot slotIdx slot) slot pkt = counted at held ⊢
  have stamps := rvSt22Index_stamped counted.cfg slot pkt port
  cases index : rvSt22Index counted.cfg slot pkt port with
  | drop reason marked =>
    rw [index] at stamps
    exact Handled.after_quiet (Quiet.slot counted slotIdx marked (stamps.trans held.symm))
      (rvDrop_handled _ reason)
  | redundant => exact rvCountRedundant_handled _ slotIdx port
  | fresh pktIdx marked reordered =>
    rw [index] at stamps
    dsimp only
    have kept : ((rvCountReordered counted port reordered).slots slotIdx).tmstamp =
        slot.tmstamp := by
      unfold rvCountReordered
      dsimp only
      split <;> exact held
    refine Handled.after_quiet (quiet_countReordered counted port reordered) ?_
    cases rvSt22Place (rvCountReordered counted port reordered).cfg (marked.advance pktIdx port)
      pkt with
    | error reason =>
      exact Handled.after_quiet
        (Quiet.slot _ slotIdx (marked.advance pktIdx port) (stamps.trans kept.symm))
        (rvDrop_handled _ reason)
    | ok piece =>
      exact rvSt22StorePacket_handled env _ slotIdx frame pkt.marker piece port
        (stamps.trans kept.symm)

/-! ## Header split -/

theorem rvHdrSplitRebase_rv (s : RvHdrSplitSession) (port : MtlSessionPort) (payload : Nat) :
    (rvHdrSplitRebase s port payload).rv = s.rv := by
  unfold rvHdrSplitRebase
  dsimp only
  split <;> rfl

theorem rvHdrSplitNewFrame_rv (env : HdrSplitEnv) (s : RvHdrSplitSession) (existTs : Bool)
    (frame payload : Nat) : (rvHdrSplitNewFrame env s existTs frame payload).rv = s.rv := by
  unfold rvHdrSplitNewFrame
  split
  · rfl
  · split <;> rfl

end MediaTransport.Video
