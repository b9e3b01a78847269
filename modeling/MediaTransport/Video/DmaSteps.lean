import MediaTransport.Video.DmaPacket

namespace MediaTransport.Video

/-!
# The steps of a session with a DMA device

Two rules for facts about such a session.  While the session waits for the
device, copies land and slots become full, and nothing else happens to the
frames: a relation that these two steps keep is kept by every wait.  And a
session whose device takes nothing handles its packets as a session without a
device does, so what holds of the one handler holds of the other.
-/

/-! ## Reports -/

/-- A relation of sessions and the events between them that holds when a copy lands and when a slot
becomes full. -/
structure DmaSteps (related : RvSession -> RvSession -> List RvEvent -> Prop) : Prop where
  refl (s : RvSession) : related s s []
  trans {first second third : RvSession} {events more : List RvEvent} :
    related first second events -> related second third more -> related first third (events ++ more)
  land (s : RvDmaSession) (copy : RvDmaCopy) : related s.rv (rvDmaLand s copy).1.rv (rvDmaLand s copy).2
  full (env : RvEnv) {s : RvSession} {slotIdx frame : Nat} :
    s.cfg.st20FrameSize ≤ rvSlotGetFrameSize (s.slots slotIdx) -> (s.slots slotIdx).frame = some frame ->
    related s (rvSlotFullFrame env s slotIdx frame).1 (rvSlotFullFrame env s slotIdx frame).2

namespace DmaSteps

variable {related : RvSession -> RvSession -> List RvEvent -> Prop} (steps : DmaSteps related)

include steps

theorem dropMbuf (nbMbuf : Nat) (s : RvDmaSession) :
    related s.rv (rvDmaDropMbuf nbMbuf s).1.rv (rvDmaDropMbuf nbMbuf s).2 := by
  induction nbMbuf generalizing s with
  | zero => exact steps.refl s.rv
  | succ nbMbuf ih =>
    unfold rvDmaDropMbuf
    cases s.inFlight with
    | nil => exact steps.refl s.rv
    | cons copy rest => exact steps.trans (steps.land { s with inFlight := rest } copy) (ih _)

theorem complete (env : RvEnv) (s : RvDmaSession) :
    related s.rv (rvDmaComplete env s).1.rv (rvDmaComplete env s).2 := by
  unfold rvDmaComplete
  cases s.dmaSlot with
  | none => exact steps.refl s.rv
  | some idx =>
    dsimp only
    cases holds : (s.rv.slots idx).frame with
    | none => exact steps.refl s.rv
    | some frame =>
      dsimp only
      split
      · next size => exact steps.full env size holds
      · exact steps.refl s.rv

/-- One report of the device. -/
theorem dequeue (env : RvEnv) (nbDq : Nat) (s : RvDmaSession) :
    related s.rv (rvDmaDequeue env nbDq s).1.rv (rvDmaDequeue env nbDq s).2 := by
  have dropped := steps.dropMbuf nbDq s
  unfold rvDmaDequeue
  dsimp only
  split
  · exact steps.trans dropped
      (steps.complete env { (rvDmaDropMbuf nbDq s).1 with dmaFlushFailed := false })
  · exact dropped

/-- A flush is a series of reports. -/
theorem poll (env : RvEnv) (reports : List Nat) (s : RvDmaSession) :
    related s.rv (rvDmaPoll env reports s).session.rv (rvDmaPoll env reports s).events := by
  induction reports generalizing s with
  | nil => exact steps.refl s.rv
  | cons nbDq rest ih =>
    have dequeued := steps.dequeue env nbDq s
    unfold rvDmaPoll
    dsimp only
    split
    · exact dequeued
    · exact steps.trans dequeued (ih _)

variable (env : DmaEnv) (s : RvDmaSession) (tmstamp : Nat)

theorem flush :
    related s.rv (rvDmaFlush env s tmstamp).session.rv (rvDmaFlush env s tmstamp).events := by
  have polled := steps.poll { env.toRvEnv with notifyFull := env.notifyFlushed }
    (env.firstReport :: env.laterReports) { s with dmaCopy := false }
  unfold rvDmaFlush
  split
  · exact steps.refl s.rv
  · split
    · exact steps.refl s.rv
    · dsimp only
      split
      · exact polled
      · exact polled

/-- The wait for the frame before. -/
theorem ready :
    related s.rv (rvDmaReady env s tmstamp).session.rv (rvDmaReady env s tmstamp).events := by
  have flushed := steps.flush env s tmstamp
  unfold rvDmaReady
  split
  · exact steps.refl s.rv
  · dsimp only
    split
    · exact flushed
    · exact flushed

end DmaSteps

/-! ## A device that takes nothing -/

/-- A session without a device, as one whose device has nothing to do. -/
def RvSession.idle (s : RvSession) : RvDmaSession :=
  { rv := s, inFlight := [], dmaSlot := none, dmaCopy := false, dmaFlushFailed := false
    dmaFlushFailTmstamp := 0, hasPktLcore := false, pktsDma := 0, dmaFlushTimeouts := 0
    dmaPreviousBusy := 0 }

def RvEnv.refusing (env : RvEnv) : DmaEnv :=
  { env with refuses := true, firstReport := 0, laterReports := [], notifyFlushed := 0 }

def RvDmaResult.plain (result : RvDmaResult) : RvResult :=
  { session := result.session.rv, ret := result.ret, events := result.events }

variable (env : RvEnv) {s : RvDmaSession} (slotIdx frame : Nat) (mbuf : RvMbuf) (port : MtlSessionPort)
  (ctrlThread : Bool)

theorem rvStorePacket_refusing (idle : s.inFlight = []) (slot : RvSlot) (line : RvLine)
    (place : RvPlacement) (pktIdx : Nat) :
    let stored := rvDmaStorePacket env.refusing s slotIdx frame slot line place pktIdx port ctrlThread
    rvStorePacket env s.rv slotIdx frame slot line place pktIdx port ctrlThread =
      (stored.1.rv, stored.2) := by
  have takes : rvDmaTakes env.refusing s.rv.cfg line place = false := by
    simp [rvDmaTakes, RvEnv.refusing]
  dsimp only
  unfold rvDmaStorePacket rvStorePacket
  rw [takes]
  simp only [rvDmaCopy, rvDmaSlices, RvDmaSession.withRv, idle, and_true, Bool.false_eq_true, if_false]
  split
  · next full =>
      rw [if_pos]
      · rfl
      · exact full
  · next part =>
      rw [if_neg]
      · rfl
      · exact part

theorem rvHandleInSlot_refusing (idle : s.inFlight = []) :
    rvHandleInSlot env s.rv slotIdx frame mbuf port ctrlThread =
      (rvDmaHandleInSlot env.refusing s slotIdx frame mbuf port ctrlThread).plain := by
  unfold rvHandleInSlot rvDmaHandleInSlot
  dsimp only
  split
  · rfl
  · generalize s.rv.setSlot slotIdx
      { s.rv.slots slotIdx with secondField := (rvReadLine mbuf.pkt).secondField } = marked
    cases placed : rvPlace marked.cfg (rvReadLine mbuf.pkt) with
    | error reason =>
      simp only [RvDmaSession.withRv, placed]
      rfl
    | ok place =>
      simp only [RvDmaSession.withRv, placed]
      cases rvIndex marked.cfg (marked.slots slotIdx) (rvReadLine mbuf.pkt) place mbuf.pkt.seqId port
          ctrlThread with
      | drop reason => rfl
      | redundant => rfl
      | fresh pktIdx slot reordered =>
        have stored := rvStorePacket_refusing env
          (s := { s with rv := rvCountReordered marked port reordered }) slotIdx frame port ctrlThread idle
          slot (rvReadLine mbuf.pkt) place pktIdx
        dsimp only at stored ⊢
        rw [stored]
        rfl

theorem rvSlotByTmstamp_refusing (idle : s.inFlight = []) (tmstamp : Nat) :
    let answer := rvDmaSlotByTmstamp env.refusing s tmstamp
    rvSlotByTmstamp env s.rv tmstamp = ⟨answer.session.rv, answer.slot, answer.existTs, answer.events⟩ ∧
      answer.session.inFlight = [] := by
  have ready : rvDmaReady env.refusing s tmstamp = ⟨s, [], true⟩ := by
    unfold rvDmaReady
    rw [idle]
    rfl
  dsimp only
  unfold rvSlotByTmstamp rvDmaSlotByTmstamp
  rw [ready]
  cases rvFindSlot s.rv tmstamp with
  | some idx => exact ⟨rfl, idle⟩
  | none =>
    dsimp only
    split
    · exact ⟨rfl, idle⟩
    · exact ⟨rfl, idle⟩

theorem rvHandleFramePkt_refusing (idle : s.inFlight = []) :
    rvHandleFramePkt env s.rv mbuf port ctrlThread =
      (rvDmaHandleFramePkt env.refusing s mbuf port ctrlThread).plain := by
  unfold rvHandleFramePkt rvDmaHandleFramePkt
  dsimp only
  have looked := rvSlotByTmstamp_refusing env
    (s := s.withRv (rvCountRetransmit s.rv (rvReadLine mbuf.pkt))) idle mbuf.pkt.tmstamp
  dsimp only [RvDmaSession.withRv] at looked ⊢
  cases rvHeaderCheck (rvCountRetransmit s.rv (rvReadLine mbuf.pkt)).cfg mbuf with
  | some reason => rfl
  | none =>
    rw [looked.1]
    have idle := looked.2
    generalize rvDmaSlotByTmstamp env.refusing _ mbuf.pkt.tmstamp = answer at idle ⊢
    dsimp only
    cases answer.slot with
    | none => rfl
    | some slotIdx =>
      dsimp only
      cases (answer.session.rv.slots slotIdx).frame with
      | none => rfl
      | some frame =>
        dsimp only
        have handled := rvHandleInSlot_refusing env
          (s := { answer.session with rv := answer.session.rv.setRedundant port 0 }) slotIdx frame mbuf port
          ctrlThread idle
        dsimp only at handled
        rw [handled]
        rfl

/-! ## A session without a device -/

variable (s : RvSession)

theorem rvHandleInSlot_eq_plain : rvHandleInSlot env s slotIdx frame mbuf port ctrlThread =
    (rvDmaHandleInSlot env.refusing s.idle slotIdx frame mbuf port ctrlThread).plain :=
  rvHandleInSlot_refusing env (s := s.idle) slotIdx frame mbuf port ctrlThread rfl

theorem rvHandleFramePkt_eq_plain : rvHandleFramePkt env s mbuf port ctrlThread =
    (rvDmaHandleFramePkt env.refusing s.idle mbuf port ctrlThread).plain :=
  rvHandleFramePkt_refusing env (s := s.idle) mbuf port ctrlThread rfl

end MediaTransport.Video
