import MediaTransport.Anc.Receiver

namespace MediaTransport.Anc

/-!
# What the assembler leaves alone

The assembler works on frame slots.  The sequence numbers, timestamps and
windows by which packets are filtered are not its own, and neither are the
counters of packets.
-/

variable (env : AncEnv) (s : RxAncSession)

/-- The part of a session that the filter reads and writes, and the size of the buffers. -/
structure FilterPart where
  ops : St40RxOps
  udwBufSize : Nat
  sessionSeqId : Int
  redundantErrorCnt : MtlSessionPort -> Nat
  ancWindowCur : AncWindow
  ancWindowPrev : AncWindow
  tmstamp : Int
  prevTmstamp : Int
  pktsReceived : Nat
  pktsUnrecovered : Nat
  pktsEnqueueFail : Nat

def RxAncSession.filterPart : FilterPart where
  ops := s.ops
  udwBufSize := s.udwBufSize
  sessionSeqId := s.sessionSeqId
  redundantErrorCnt := s.redundantErrorCnt
  ancWindowCur := s.ancWindowCur
  ancWindowPrev := s.ancWindowPrev
  tmstamp := s.tmstamp
  prevTmstamp := s.prevTmstamp
  pktsReceived := s.stats.pktsReceived
  pktsUnrecovered := s.stats.pktsUnrecovered
  pktsEnqueueFail := s.stats.pktsEnqueueFail

/-- The filter's part, and the counter of the frames for which there was no slot. -/
def RxAncSession.outside : FilterPart × Nat := (s.filterPart, s.stats.ancFramesDropped)

/-- A view of a session that does not see frame slots, nor the counters of the assembler other
than that of frames without a slot. -/
structure SlotBlind {View : Type*} (view : RxAncSession -> View) : Prop where
  same : forall (s : RxAncSession) (slots : Nat -> AncSlot) (inflight pending : Option Nat)
    (ready dispatched refused : Nat) (events : List AncEvent),
    view { s with
      frameSlots := slots
      ancInflightSlot := inflight
      ancPendingSlot := pending
      stats := { s.stats with
        ancFramesReady := ready
        assembleDispatched := dispatched
        ancPktParseErr := refused }
      events := events } = view s

theorem outside_blind : SlotBlind RxAncSession.outside := ⟨fun _ _ _ _ _ _ _ _ => rfl⟩

theorem filterPart_blind : SlotBlind RxAncSession.filterPart := ⟨fun _ _ _ _ _ _ _ _ => rfl⟩

namespace SlotBlind

variable {View : Type*} {view : RxAncSession -> View}

theorem slots (blind : SlotBlind view) (s : RxAncSession) (slots : Nat -> AncSlot) :
    view { s with frameSlots := slots } = view s :=
  blind.same s slots s.ancInflightSlot s.ancPendingSlot s.stats.ancFramesReady
    s.stats.assembleDispatched s.stats.ancPktParseErr s.events

theorem pointers (blind : SlotBlind view) (s : RxAncSession) (inflight pending : Option Nat) :
    view { s with ancInflightSlot := inflight, ancPendingSlot := pending } = view s :=
  blind.same s s.frameSlots inflight pending s.stats.ancFramesReady s.stats.assembleDispatched
    s.stats.ancPktParseErr s.events

theorem countDropped (blind : SlotBlind view) :
    SlotBlind (fun s => view (rxAncCountDropped s)) :=
  ⟨fun s => blind.same (rxAncCountDropped s)⟩

theorem putFramebuffs (blind : SlotBlind view) (s : RxAncSession) (frames : List Nat) :
    view (putFramebuffs s frames) = view s := by
  unfold Anc.putFramebuffs
  induction frames generalizing s with
  | nil => rfl
  | cons frame rest ih =>
    rw [List.foldl_cons, ih]
    unfold returnFrame st40RxPutFramebuff
    split
    · split
      · exact blind.slots s _
      · rfl
    · rfl

theorem getFreeSlot (blind : SlotBlind view) (racing : Nat -> List Nat) (s : RxAncSession) :
    view (rxAncGetFreeSlot racing s).1 = view s := by
  have scan : forall left idx s, view (rxAncScanSlots racing s idx left).1 = view s := by
    intro left
    induction left with
    | zero => exact fun _ _ => rfl
    | succ left ih =>
      intro idx s
      rw [rxAncScanSlots]
      split
      · exact blind.putFramebuffs s _
      · rw [ih, blind.putFramebuffs]
  exact scan s.frameSlotsCnt 0 s

section

variable (blind : SlotBlind view) (env : AncEnv) (s : RxAncSession)

include blind

theorem slotDeliver (idx : Nat) :
    view (rxAncSlotDeliver env s idx) = view s := by
  have handed : view (rxAncSlotHandOff s idx) = view s := blind.same s _ _ _ _ _ _ _
  unfold rxAncSlotDeliver
  dsimp only
  split
  · exact (blind.slots _ _).trans ((blind.putFramebuffs _ _).trans handed)
  · exact (blind.putFramebuffs _ _).trans handed

theorem forceDeliverPending
    (pending : Nat) : view (rxAncForceDeliverPending env s pending) = view s :=
  (blind.slotDeliver env _ pending).trans ((blind.slots _ _).trans (blind.pointers s _ _))

theorem rollover (old : Nat) :
    view (rxAncRollover env s old) = view s := by
  have evicted : forall s, view (rxAncEvictPending env s) = view s := by
    intro s
    unfold rxAncEvictPending
    split
    · exact blind.forceDeliverPending env s _
    · rfl
  have cleared : view s.clearInflight = view s := blind.pointers s _ _
  unfold rxAncRollover
  dsimp only
  split
  · have parked : forall s : RxAncSession, view (s.park old) = view s :=
      fun s => blind.same s _ _ _ _ _ _ _
    exact (parked _).trans ((evicted _).trans cleared)
  · exact (blind.slotDeliver env _ old).trans ((blind.slots _ _).trans cleared)

theorem findOpen (tmstamp : Nat) :
    view (rxAncFindOpen env s tmstamp).1 = view s := by
  unfold rxAncFindOpen
  split
  · split
    · rfl
    · split
      · split
        · rfl
        · exact blind.rollover env s _
      · rfl
  · split
    · rfl
    · exact blind.rollover env s _
  · rfl

theorem allocate
    (pendingAtEntry : Option Nat) : view (rxAncAllocate env s pendingAtEntry).1 = view s := by
  have searched := blind.getFreeSlot (env.racing 0) s
  unfold rxAncAllocate
  cases found_eq : rxAncGetFreeSlot (env.racing 0) s with
  | mk after found =>
    rw [found_eq] at searched
    cases found with
    | some idx => exact searched
    | none =>
      dsimp only
      split
      · split
        · rw [blind.getFreeSlot, blind.forceDeliverPending]
          exact searched
        · exact searched
      · exact searched

end

theorem selectSlot (blind : SlotBlind view) (env : AncEnv) (s : RxAncSession) (tmstamp : Nat)
    (interlaced secondField : Bool) (recvTs : Nat) :
    view (rxAncSelectSlot env s tmstamp interlaced secondField recvTs).1 =
      match (rxAncSelectSlot env s tmstamp interlaced secondField recvTs).2 with
      | some _ => view s
      | none => view (rxAncCountDropped s) := by
  have opened := blind.findOpen env s tmstamp
  have counted := blind.countDropped.findOpen env s tmstamp
  unfold rxAncSelectSlot
  cases open_eq : rxAncFindOpen env s tmstamp with
  | mk after found =>
    rw [open_eq] at opened counted
    cases found with
    | some idx => exact (blind.slots _ _).trans opened
    | none =>
      have allocated := blind.allocate env after s.ancPendingSlot
      have recounted := blind.countDropped.allocate env after s.ancPendingSlot
      dsimp only
      cases alloc_eq : rxAncAllocate env after s.ancPendingSlot with
      | mk last slot =>
        rw [alloc_eq] at allocated recounted
        cases slot with
        | none => exact recounted.trans counted
        | some idx =>
          have taken : forall slot, view (last.takeSlot idx slot) = view last :=
            fun slot => blind.same last _ _ _ _ _ _ _
          exact (taken _).trans (allocated.trans opened)

theorem close (blind : SlotBlind view) (env : AncEnv) (s : RxAncSession) (idx : Nat) :
    view (rxAncClose env s idx) = view s := by
  have released : forall s : RxAncSession, view (s.release idx) = view s := by
    intro s
    unfold RxAncSession.release
    split
    · exact blind.pointers s _ _
    · exact blind.pointers s _ _
  unfold rxAncClose
  dsimp only
  exact (blind.slotDeliver env _ idx).trans
    ((blind.slots _ _).trans ((released _).trans (blind.slots s _)))

theorem feed (blind : SlotBlind view) (s : RxAncSession) (idx : Nat) (pkt : AncPkt)
    (port : MtlSessionPort) : view (rxAncFeed s idx pkt port) = view s := by
  unfold rxAncFeed
  dsimp only
  split
  · exact blind.same s _ _ _ _ _ _ _
  · exact blind.slots s _

theorem assemblePkt (blind : SlotBlind view) (env : AncEnv) (s : RxAncSession) (pkt : AncPkt)
    (port : MtlSessionPort) :
    view (rxAncillarySessionAssemblePkt env s pkt port) =
      match (rxAncSelectSlot env (rxAncCountDispatch s) pkt.tmstamp pkt.interlaced pkt.secondField
        pkt.recvTs).2 with
      | some _ => view s
      | none => view (rxAncCountDropped s) := by
  have selected := blind.selectSlot env (rxAncCountDispatch s) pkt.tmstamp pkt.interlaced
    pkt.secondField pkt.recvTs
  have dispatched : view (rxAncCountDispatch s) = view s := blind.same s _ _ _ _ _ _ _
  have counted : view (rxAncCountDropped (rxAncCountDispatch s)) = view (rxAncCountDropped s) :=
    blind.countDropped.same s _ _ _ _ _ _ _
  unfold rxAncillarySessionAssemblePkt
  cases select_eq : rxAncSelectSlot env (rxAncCountDispatch s) pkt.tmstamp pkt.interlaced
      pkt.secondField pkt.recvTs with
  | mk after found =>
    rw [select_eq] at selected
    cases found with
    | none => exact selected.trans counted
    | some idx =>
      dsimp only at selected ⊢
      split
      · rw [blind.close, blind.feed, selected, dispatched]
      · rw [blind.feed, selected, dispatched]

end SlotBlind

theorem rxAncSelectSlot_filterPart (tmstamp : Nat) (interlaced secondField : Bool) (recvTs : Nat) :
    (rxAncSelectSlot env s tmstamp interlaced secondField recvTs).1.filterPart = s.filterPart := by
  rw [filterPart_blind.selectSlot]
  split <;> rfl

theorem rxAncSelectSlot_dropped (tmstamp : Nat) (interlaced secondField : Bool) (recvTs : Nat)
    (none : (rxAncSelectSlot env s tmstamp interlaced secondField recvTs).2 = none) :
    (rxAncSelectSlot env s tmstamp interlaced secondField recvTs).1.stats.ancFramesDropped =
      s.stats.ancFramesDropped + 1 := by
  have counted := outside_blind.selectSlot env s tmstamp interlaced secondField recvTs
  rw [none] at counted
  exact congrArg Prod.snd counted

theorem rxAncillarySessionAssemblePkt_filterPart (pkt : AncPkt) (port : MtlSessionPort) :
    (rxAncillarySessionAssemblePkt env s pkt port).filterPart = s.filterPart := by
  rw [filterPart_blind.assemblePkt]
  split <;> rfl

end MediaTransport.Anc
