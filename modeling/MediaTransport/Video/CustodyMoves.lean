import MediaTransport.Video.Custody
import MediaTransport.Video.QuietSteps
import MediaTransport.Video.St22Storing

namespace MediaTransport.Video

open Library

/-!
# Packets pass frames on

Each handler of a receive session is a sequence of moves of the owners.  A DMA
device may write into a frame long after its packet, and may hand the frame
over with its last report; with a split header the card itself writes the
frames.  Neither adds an owner.
-/

section Steps

variable {s : RvSession} {slotIdx frame : Nat} {slot : RvSlot}

/-! ## A packet in its slot -/

/-- What a packet in its slot can do to the owners: nothing, or the slot's
frame is announced and goes to the application, or to the pool when that
refuses it. -/
def SlotEffect (before after : RvSession) (events : List RvEvent) (slotIdx frame : Nat) : Prop :=
  after.cfg = before.cfg ∧
    ((after.custody = before.custody ∧ deliveries events = []) ∨
      Exists fun info => Exists fun content => Exists fun ret =>
        deliveries events = [⟨frame, info, content, ret⟩] ∧
        after.custody =
          if ret < 0 then
            (before.custody.put frame).leave slotIdx
          else
            before.custody.leave slotIdx)

theorem SlotEffect.passes {after : RvSession} {events : List RvEvent} {slotIdx frame : Nat}
    (effect : SlotEffect s after events slotIdx frame)
    (holds : (s.slots slotIdx).frame = some frame) : Passes s after events := by
  rcases effect with ⟨cfg, ⟨same, quiet⟩ | ⟨info, content, ret, delivered, custody⟩⟩
  · exact Passes.of_custody cfg same quiet
  · refine ⟨cfg, fun app owner agrees => ?_⟩
    rw [custody, handed_of_delivered delivered]
    by_cases refused : ret < 0
    · rw [if_pos refused, if_pos refused, List.append_nil]
      exact ⟨_, agrees.giveBack holds⟩
    · rw [if_neg refused, if_neg refused]
      exact ⟨_, agrees.handOver holds⟩

theorem SlotEffect.quiet {after : RvSession} {slotIdx frame : Nat} {slot : RvSlot}
    (cfg : after.cfg = s.cfg) (frames : after.frames = s.frames)
    (slots : after.slots = Function.update s.slots slotIdx slot)
    (kept : slot.frame = (s.slots slotIdx).frame) : SlotEffect s after [] slotIdx frame := by
  refine ⟨cfg, Or.inl ⟨congrArg₂ Custody.mk ?_ (held_update_self slots kept), rfl⟩⟩
  rw [frames]

section

variable {after : RvSession} {events : List RvEvent} {slotIdx frame : Nat} {filled : RvSlot}
    {content : Nat -> Byte}

theorem StoredPart.effect (part : StoredPart s after events slotIdx frame filled content)
    (kept : filled.frame = (s.slots slotIdx).frame) : SlotEffect s after events slotIdx frame := by
  rcases part.slots with ⟨info, slots⟩
  refine ⟨part.cfg, Or.inl ⟨congrArg₂ Custody.mk ?_ (held_update_self slots kept), part.quiet⟩⟩
  rw [part.frames]
  exact refcnt_withContent s frame content

theorem StoredLast.effect {ret : Int}
    (last : StoredLast s after events slotIdx frame filled content ret) :
    SlotEffect s after events slotIdx frame := by
  rcases last.slots with ⟨sliceInfo, slots⟩
  rcases last.delivered with ⟨info, delivered, -⟩
  have empties : (fun other => (after.slots other).frame) =
      Function.update s.custody.held slotIdx none := held_update slots
  refine ⟨last.cfg, Or.inr ⟨info, content, ret, delivered, ?_⟩⟩
  have refcnt := congrArg (fun frames => fun other => (frames other : RvFrame).refcnt) last.frames
  by_cases refused : ret < 0
  · rw [if_pos refused] at refcnt ⊢
    refine congrArg₂ Custody.mk (refcnt.trans ?_) empties
    have put := congrArg Custody.refcnt (custody_putFrame (s.withContent frame content) frame)
    refine put.trans ?_
    rw [Custody.put_refcnt, Custody.put_refcnt]
    exact congrArg (fun refs : Nat -> Int => Function.update refs frame (refs frame - 1))
      (refcnt_withContent s frame content)
  · rw [if_neg refused] at refcnt ⊢
    exact congrArg₂ Custody.mk (refcnt.trans (refcnt_withContent s frame content)) empties

end

/-! ## Shared steps -/

theorem passes_withContent (s : RvSession) (frame : Nat) (content : Nat -> Byte) :
    Passes s (s.withContent frame content) [] :=
  Passes.of_custody rfl (congrArg₂ Custody.mk (refcnt_withContent s frame content) rfl) rfl

theorem passes_setSlot {stats : RvStats} {events : List RvEvent}
    (kept : slot.frame = (s.slots slotIdx).frame) (quiet : deliveries events = []) :
    Passes s ((s.setSlot slotIdx slot).withStats stats) events :=
  Passes.of_custody rfl
    (congrArg₂ Custody.mk rfl (held_update_self (RvSession.setSlot_slots s slotIdx slot) kept)) quiet

theorem rvSlices_frame (s : RvSession) (slot : RvSlot) (frame : Nat) (place : RvPlacement) :
    (rvSlices s slot frame place).1.frame = slot.frame := by
  unfold rvSlices
  cases slot.sliceInfo with
  | none => rfl
  | some info => rfl

/-- The slot of a full frame is left, and the frame goes to the application or back to the pool. -/
theorem passes_slotFullFrame (env : RvEnv)
    (full : s.cfg.st20FrameSize ≤ rvSlotGetFrameSize (s.slots slotIdx))
    (holds : (s.slots slotIdx).frame = some frame) :
    Passes s (rvSlotFullFrame env s slotIdx frame).1 (rvSlotFullFrame env s slotIdx frame).2 := by
  have notified := rvFrameNotify_notified env env.notifyFull s slotIdx frame
  have whole : isFull s slotIdx = true := decide_eq_true full
  rw [whole] at notified
  unfold rvSlotFullFrame
  generalize rvFrameNotify env env.notifyFull s slotIdx frame = answer at notified ⊢
  generalize leftEq : ({ answer.1.slots slotIdx with
    frameRecvSize := 0, pktLcoreFrameRecvSize := 0, frame := none } : RvSlot) = left
  have slots : (answer.1.setSlot slotIdx left).slots = Function.update s.slots slotIdx left := by
    rw [RvSession.setSlot_slots, notified.slots, Function.update_idem]
  have empties : (fun other => ((answer.1.setSlot slotIdx left).slots other).frame) =
      Function.update s.custody.held slotIdx none := by
    rw [held_update slots, ← leftEq]
  have refcnt := congrArg (fun frames => fun other => (frames other : RvFrame).refcnt) notified.frames
  have effect : SlotEffect s (answer.1.setSlot slotIdx left) answer.2 slotIdx frame := by
    refine ⟨notified.cfg, Or.inr ⟨rvFrameMeta s (s.slots slotIdx) (s.frames frame),
      (s.frames frame).addr, env.notifyFull, ?_, ?_⟩⟩
    · rw [notified.events_eq]
      rfl
    · unfold givesBack at refcnt
      by_cases refused : env.notifyFull < 0
      · rw [if_pos rfl, decide_eq_true refused] at refcnt
        rw [if_pos refused]
        exact congrArg₂ Custody.mk
          (refcnt.trans (congrArg Custody.refcnt (custody_putFrame s frame))) empties
      · rw [if_pos rfl, decide_eq_false refused] at refcnt
        rw [if_neg refused]
        exact congrArg₂ Custody.mk refcnt empties
  rw [← leftEq] at effect
  exact effect.passes holds

theorem passes_userMeta (s : RvSession) (frame : Nat) (line : RvLine) :
    Passes s (rvUserMeta s frame line).session (rvUserMeta s frame line).events := by
  unfold rvUserMeta
  dsimp only
  generalize (if line.extra.isSome = true then rfc4175ExtraHdrSize else 0) = extraBytes
  split
  · refine Passes.of_custody rfl (congrArg₂ Custody.mk (funext fun other => ?_) rfl) rfl
    by_cases same : other = frame
    · rw [same, RvSession.setFrame_frames_self]
    · rw [RvSession.setFrame_frames_of_ne _ _ same]
  · exact Passes.of_custody rfl rfl rfl

/-- A packet that finds no slot. -/
theorem Passes.no_slot {looked : RvSession} {events : List RvEvent} (passes : Passes s looked events)
    (port : MtlSessionPort) :
    Passes s (rvDrop (looked.setRedundant port 0) .noSlot).session events :=
  passes.then_same rfl rfl

/-- A packet whose timestamp is known and whose frame is gone. -/
theorem Passes.gone {looked : RvSession} {events : List RvEvent} (passes : Passes s looked events)
    (slotIdx : Nat) (port : MtlSessionPort) (errors : Nat) :
    Passes s ((rvCountRedundant looked slotIdx port).setRedundant port errors) events :=
  passes.then_same rfl (congrArg₂ Custody.mk rfl
    (@held_update_self looked _ slotIdx ((looked.slots slotIdx).countPort port) rfl rfl))

/-- A packet that is handled in its slot. -/
theorem Passes.in_slot {looked after : RvSession} {events more : List RvEvent}
    (passes : Passes s looked events) (port : MtlSessionPort)
    (handled : Passes (looked.setRedundant port 0) after more) : Passes s after (events ++ more) :=
  have cleared : Passes s (looked.setRedundant port 0) events := passes.then_same rfl rfl
  cleared.trans handled

/-! ## ST 2110-22 -/

/-- The slot that goes with an index, if any, holds the given frame. -/
def RvSt22Index.Holds (held : Option Nat) : RvSt22Index -> Prop
  | .drop _ slot => slot.frame = held
  | .redundant => True
  | .fresh _ slot _ => slot.frame = held

theorem rvSt22Index_holds (cfg : RvConfig) (slot : RvSlot) (pkt : Rfc9134Packet)
    (port : MtlSessionPort) : (rvSt22Index cfg slot pkt port).Holds slot.frame := by
  unfold rvSt22Index
  dsimp only
  split
  · split
    · rfl
    · split
      · rfl
      · split
        · trivial
        · rfl
  · cases rvSt22BoxHdrLength cfg slot pkt with
    | none => rfl
    | some boxHdrLength =>
      dsimp only
      split
      · rfl
      · rfl

theorem rvSt22HandleInSlot_effect (env : RvEnv) (s : RvSession) (slotIdx frame : Nat)
    (pkt : Rfc9134Packet) (port : MtlSessionPort) :
    SlotEffect s (rvSt22HandleInSlot env s slotIdx frame pkt port).session
      (rvSt22HandleInSlot env s slotIdx frame pkt port).events slotIdx frame := by
  have holds := rvSt22Index_holds s.cfg (st22Fielded s slotIdx pkt) pkt port
  cases index : rvSt22Index s.cfg (st22Fielded s slotIdx pkt) pkt port with
  | drop reason slot =>
    rw [index] at holds
    have dropped := @rvSt22HandleInSlot_dropped env s slotIdx frame pkt port reason slot index
    rw [dropped.quiet]
    exact SlotEffect.quiet dropped.cfg dropped.frames dropped.slots holds
  | redundant =>
    have repeated := (@rvSt22HandleInSlot_repeated env s slotIdx frame pkt port index).1
    rcases repeated.slots with ⟨slot, kept, slots⟩
    rw [repeated.quiet]
    exact SlotEffect.quiet repeated.cfg repeated.frames slots kept.frame
  | fresh pktIdx slot reordered =>
    rw [index] at holds
    cases placed : rvSt22Place s.cfg (slot.advance pktIdx port) pkt with
    | error reason =>
      have dropped := @rvSt22HandleInSlot_misplaced env s slotIdx frame pkt port pktIdx slot
        reordered reason index placed
      rw [dropped.quiet]
      exact SlotEffect.quiet dropped.cfg dropped.frames dropped.slots holds
    | ok piece =>
      by_cases full : rvSt22Completes s slot pkt.marker piece
      · exact (rvSt22HandleInSlot_last index placed full).1.effect
      · exact (rvSt22HandleInSlot_part index placed full).1.effect holds

theorem rvOpens_countRetransmit (s : RvSession) (line : RvLine) (tmstamp : Nat) :
    rvOpens (rvCountRetransmit s line) tmstamp = rvOpens s tmstamp := by
  unfold rvCountRetransmit
  split <;> rfl

theorem refusesIncomplete_countRetransmit (env : RvEnv) (s : RvSession) (line : RvLine) :
    refusesIncomplete env (rvCountRetransmit s line) (rvNextSlot (rvCountRetransmit s line)) =
      refusesIncomplete env s (rvNextSlot s) := by
  unfold rvCountRetransmit
  split <;> rfl

theorem passes_st22Pkt (env : RvEnv) (s : RvSession) (mbuf : Option Rfc9134Packet) (port : MtlSessionPort)
    (accepted : ∀ pkt ∈ mbuf, rvSt22HeaderCheck s.cfg pkt = none -> rvOpens s pkt.tmstamp = true ->
      refusesIncomplete env s (rvNextSlot s) = false) :
    Passes s (rvHandleSt22Pkt env s mbuf port).session (rvHandleSt22Pkt env s mbuf port).events := by
  unfold rvHandleSt22Pkt
  cases mbuf with
  | none => exact Passes.of_custody rfl rfl rfl
  | some pkt =>
    dsimp only
    cases header : rvSt22HeaderCheck s.cfg pkt with
    | some reason => exact Passes.of_custody rfl rfl rfl
    | none =>
      have looked := passes_lookup (accepted pkt rfl header)
      dsimp only
      generalize rvSlotByTmstamp env s pkt.tmstamp = answer at looked ⊢
      cases answer.slot with
      | none => exact looked.no_slot port
      | some slotIdx =>
        dsimp only
        cases holds : (answer.session.slots slotIdx).frame with
        | none => exact looked.gone slotIdx port _
        | some frame =>
          exact looked.in_slot port ((rvSt22HandleInSlot_effect env (answer.session.setRedundant port 0)
            slotIdx frame pkt port).passes holds)

end Steps

/-! ## A DMA device -/

theorem passes_dmaLand (s : RvDmaSession) (copy : RvDmaCopy) :
    Passes s.rv (rvDmaLand s copy).1.rv (rvDmaLand s copy).2 := by
  have landed := passes_withContent s.rv copy.frame
    (store (s.rv.frames copy.frame).addr copy.offset copy.payload)
  unfold rvDmaLand
  dsimp only
  cases s.dmaSlot with
  | none => exact landed
  | some idx =>
    exact landed.trans (passes_setSlot (rvSlices_frame _ _ _ _) (rvSlices_quiet _ _ _ _))

theorem passes_dmaSteps : DmaSteps fun before after events => Passes before after events where
  refl := Passes.refl
  trans := Passes.trans
  land := passes_dmaLand
  full env _ _ _ := passes_slotFullFrame env

section

variable (env : DmaEnv) (s : RvDmaSession)

/-- The application does not refuse the incomplete frame that the packet makes the session announce. -/
def rvDmaAccepted (tmstamp : Nat) : Prop :=
  rvOpens s.rv tmstamp = true ->
    let ready := rvDmaReady env s tmstamp
    ready.emptied = true ->
      refusesIncomplete env.toRvEnv ready.session.rv (rvNextSlot ready.session.rv) = false

theorem passes_dmaLookup {tmstamp : Nat} (accepted : rvDmaAccepted env s tmstamp) :
    Passes s.rv (rvDmaSlotByTmstamp env s tmstamp).session.rv
      (rvDmaSlotByTmstamp env s tmstamp).events := by
  unfold rvDmaAccepted rvOpens at accepted
  unfold rvDmaSlotByTmstamp
  cases found : rvFindSlot s.rv tmstamp with
  | some idx => exact Passes.refl s.rv
  | none =>
    rw [found] at accepted
    dsimp only
    cases old : rvInThePast s.rv tmstamp && !rvGuardGivesWay s.rv with
    | true => exact Passes.refl s.rv
    | false =>
      rw [old] at accepted
      have ready := passes_dmaSteps.ready env s tmstamp
      cases emptied : (rvDmaReady env s tmstamp).emptied with
      | false => exact ready
      | true => exact ready.trans (passes_reopen env.toRvEnv tmstamp (accepted rfl emptied))

/-! ## A packet with a DMA device -/

theorem passes_dmaStore {slotIdx frame : Nat} {slot : RvSlot} (line : RvLine) (place : RvPlacement)
    (pktIdx : Nat) (port : MtlSessionPort) (ctrlThread : Bool)
    (kept : slot.frame = (s.rv.slots slotIdx).frame) (holds : (s.rv.slots slotIdx).frame = some frame) :
    let stored := rvDmaStorePacket env s slotIdx frame slot line place pktIdx port ctrlThread
    Passes s.rv stored.1.rv stored.2 := by
  dsimp only
  unfold rvDmaStorePacket
  dsimp only
  generalize rvDmaTakes env s.rv.cfg line place = takes
  have copied : Passes s.rv (rvDmaCopy s takes frame line place).rv [] ∧
      (rvDmaCopy s takes frame line place).rv.slots = s.rv.slots := by
    unfold rvDmaCopy
    cases takes with
    | true => exact ⟨Passes.refl s.rv, rfl⟩
    | false => exact ⟨passes_withContent s.rv frame _, rfl⟩
  generalize rvDmaCopy s takes frame line place = first at copied ⊢
  rcases copied with ⟨copied, slots⟩
  generalize receivedEq : first.rv.withStats
    { first.rv.stats with pktsReceived := first.rv.stats.pktsReceived + 1 } = received
  have counted : Passes first.rv received [] := by
    rw [← receivedEq]
    exact Passes.of_custody rfl rfl rfl
  have same : received.slots = s.rv.slots := by
    rw [← receivedEq, ← slots]
    rfl
  have sliced : (rvDmaSlices received takes
        (slot.received pktIdx place.payloadLength port ctrlThread) frame place).1.frame = slot.frame ∧
      deliveries (rvDmaSlices received takes
        (slot.received pktIdx place.payloadLength port ctrlThread) frame place).2.2 = [] := by
    unfold rvDmaSlices
    split
    · exact ⟨rfl, rfl⟩
    · exact ⟨rvSlices_frame _ _ _ _, rvSlices_quiet _ _ _ _⟩
  generalize rvDmaSlices received takes (slot.received pktIdx place.payloadLength port ctrlThread) frame
    place = slices at sliced ⊢
  have marked : slices.1.frame = (received.slots slotIdx).frame := by
    rw [sliced.1, kept, same]
  have quiet : deliveries (rvUframeEvents received.cfg line frame ++ slices.2.2) = [] := by
    rw [deliveries_append, rvUframeEvents_quiet, sliced.2]
    rfl
  have stored := copied.trans (counted.trans (@passes_setSlot _ _ _ slices.2.1 _ marked quiet))
  split
  · rename_i full
    refine stored.trans (passes_slotFullFrame env.toRvEnv ?_ ?_)
    · show _ ≤ rvSlotGetFrameSize ((received.setSlot slotIdx slices.1).slots slotIdx)
      rw [RvSession.setSlot_slots_self]
      exact full.1
    · show ((received.setSlot slotIdx slices.1).slots slotIdx).frame = _
      rw [RvSession.setSlot_slots_self, sliced.1, kept, holds]
  · exact stored

theorem passes_dmaHandleInSlot {slotIdx frame : Nat} (mbuf : RvMbuf) (port : MtlSessionPort)
    (ctrlThread : Bool) (holds : (s.rv.slots slotIdx).frame = some frame) :
    let result := rvDmaHandleInSlot env s slotIdx frame mbuf port ctrlThread
    Passes s.rv result.session.rv result.events := by
  dsimp only
  unfold rvDmaHandleInSlot
  dsimp only
  split
  · exact passes_userMeta s.rv frame _
  · have marks : Passes s.rv (s.rv.setSlot slotIdx
        { s.rv.slots slotIdx with secondField := (rvReadLine mbuf.pkt).secondField }) [] :=
      @passes_setSlot s.rv slotIdx _ s.rv.stats [] rfl rfl
    have held := s.rv.setSlot_slots_self slotIdx
      { s.rv.slots slotIdx with secondField := (rvReadLine mbuf.pkt).secondField }
    generalize s.rv.setSlot slotIdx
      { s.rv.slots slotIdx with secondField := (rvReadLine mbuf.pkt).secondField } = marked at marks held ⊢
    have holds : (marked.slots slotIdx).frame = some frame := by
      rw [held]
      exact holds
    cases placed : rvPlace marked.cfg (rvReadLine mbuf.pkt) with
    | error reason =>
      simp only [RvDmaSession.withRv, placed]
      exact marks.trans (Passes.of_custody rfl rfl rfl)
    | ok place =>
      simp only [RvDmaSession.withRv, placed]
      cases index : rvIndex marked.cfg (marked.slots slotIdx) (rvReadLine mbuf.pkt) place mbuf.pkt.seqId
          port ctrlThread with
      | drop reason => exact marks.trans (Passes.of_custody rfl rfl rfl)
      | redundant => exact marks.trans (@passes_setSlot marked slotIdx _ _ [] rfl rfl)
      | fresh pktIdx slot reordered =>
        have counted := onlyCounted_countReordered marked port reordered
        have slots := congrArg (fun slots => (slots slotIdx : RvSlot).frame) counted.slots
        refine marks.trans ((Passes.of_counted counted).trans (passes_dmaStore env
          { s with rv := rvCountReordered marked port reordered } (rvReadLine mbuf.pkt) place pktIdx port
          ctrlThread ?_ (slots.trans holds)))
        exact (rvIndex_fresh_marked index).frame_eq.trans slots.symm


theorem passes_dmaFramePkt (mbuf : RvMbuf) (port : MtlSessionPort) (ctrlThread : Bool)
    (accepted : rvHeaderCheck s.rv.cfg mbuf = none ->
      rvDmaAccepted env (s.withRv (rvCountRetransmit s.rv (rvReadLine mbuf.pkt))) mbuf.pkt.tmstamp) :
    let result := rvDmaHandleFramePkt env s mbuf port ctrlThread
    Passes s.rv result.session.rv result.events := by
  have counted := onlyCounted_countRetransmit s.rv (rvReadLine mbuf.pkt)
  have cfg : (s.withRv (rvCountRetransmit s.rv (rvReadLine mbuf.pkt))).rv.cfg = s.rv.cfg := counted.cfg
  dsimp only
  unfold rvDmaHandleFramePkt
  dsimp only
  rw [cfg]
  cases header : rvHeaderCheck s.rv.cfg mbuf with
  | some reason => exact (Passes.of_counted counted).trans (Passes.of_custody rfl rfl rfl)
  | none =>
    have looked := (Passes.of_counted counted).trans (passes_dmaLookup env _ (accepted header))
    dsimp only
    generalize rvDmaSlotByTmstamp env _ mbuf.pkt.tmstamp = answer at looked ⊢
    cases answer.slot with
    | none => exact looked.no_slot port
    | some slotIdx =>
      dsimp only
      cases holds : (answer.session.rv.slots slotIdx).frame with
      | none => exact looked.gone slotIdx port _
      | some frame =>
        exact looked.in_slot port (passes_dmaHandleInSlot env
          (answer.session.withRv (answer.session.rv.setRedundant port 0)) mbuf port ctrlThread holds)

end

/-! ## ST 2110-20 -/

theorem passes_framePkt (env : RvEnv) (s : RvSession) (mbuf : RvMbuf) (port : MtlSessionPort)
    (ctrlThread : Bool)
    (accepted : rvHeaderCheck s.cfg mbuf = none -> rvOpens s mbuf.pkt.tmstamp = true ->
      refusesIncomplete env s (rvNextSlot s) = false) :
    Passes s (rvHandleFramePkt env s mbuf port ctrlThread).session
      (rvHandleFramePkt env s mbuf port ctrlThread).events := by
  rw [rvHandleFramePkt_eq_plain]
  refine passes_dmaFramePkt env.refusing s.idle mbuf port ctrlThread (fun header opens _ => ?_)
  have opened : rvOpens s mbuf.pkt.tmstamp = true := by
    rw [← rvOpens_countRetransmit s (rvReadLine mbuf.pkt)]
    exact opens
  exact (refusesIncomplete_countRetransmit env s (rvReadLine mbuf.pkt)).trans (accepted header opened)

/-! ## A split header -/

section

variable (env : HdrSplitEnv) {s : RvHdrSplitSession} {slotIdx frame : Nat}

theorem passes_hdrSplitStore (place : RvPlacement) (port : MtlSessionPort)
    (holds : (s.rv.slots slotIdx).frame = some frame) :
    let result := rvHdrSplitStorePacket env s slotIdx frame place port
    Passes s.rv result.session.rv result.events := by
  dsimp only
  unfold rvHdrSplitStorePacket
  dsimp only
  generalize seenEq : s.view.withStats { s.rv.stats with pktsReceived := s.rv.stats.pktsReceived + 1 } = seen
  have counted : Passes s.rv seen [] := by
    rw [← seenEq]
    exact Passes.of_custody rfl rfl rfl
  have same : seen.slots = s.rv.slots := by
    rw [← seenEq]
    rfl
  have kept := rvSlices_frame seen ((s.rv.slots slotIdx).gained place.payloadLength port) frame place
  have quiet := rvSlices_quiet seen ((s.rv.slots slotIdx).gained place.payloadLength port) frame place
  generalize rvSlices seen _ frame place = slices at kept quiet ⊢
  have marked : slices.1.frame = (seen.slots slotIdx).frame := by
    rw [kept, same]
    rfl
  have stored := counted.trans (@passes_setSlot _ _ _ slices.2.1 _ marked quiet)
  split
  · next full =>
      refine stored.trans (passes_slotFullFrame env.toRvEnv ?_ ?_)
      · show _ ≤ rvSlotGetFrameSize ((seen.setSlot slotIdx slices.1).slots slotIdx)
        rw [RvSession.setSlot_slots_self]
        exact full
      · show ((seen.setSlot slotIdx slices.1).slots slotIdx).frame = _
        rw [RvSession.setSlot_slots_self, marked, same, holds]
  · exact stored

theorem passes_hdrSplitPlace (mbuf : HdrSplitMbuf) (pktIdx : Nat) (port : MtlSessionPort)
    (holds : (s.rv.slots slotIdx).frame = some frame) :
    let result := rvHdrSplitPlacePacket env s slotIdx frame mbuf pktIdx port
    Passes s.rv result.session.rv result.events := by
  have rejected : Passes s.rv s.rv [] := Passes.refl s.rv
  dsimp only
  unfold rvHdrSplitPlacePacket
  dsimp only
  split
  · exact Passes.of_custody rfl rfl rfl
  · split
    · exact rejected
    · cases rvHdrSplitWhere (s.info port) pktIdx mbuf.payloadAddr mbuf.pkt.marker with
      | base =>
        have rebased := rvHdrSplitRebase_rv s port mbuf.payloadAddr
        rw [← rebased] at holds
        have stored := passes_hdrSplitStore env (rvHdrSplitPlacement s.rv.cfg mbuf.pkt) port holds
        rwa [rebased] at stored
      | inPlace => exact passes_hdrSplitStore env _ port holds
      | copy =>
        exact passes_hdrSplitStore env
          (s := rvHdrSplitCopy s frame mbuf.payloadAddr (rvHdrSplitPlacement s.rv.cfg mbuf.pkt)) _ port holds
      | lost => exact rejected

theorem passes_hdrSplitHandleInSlot (mbuf : HdrSplitMbuf) (port : MtlSessionPort)
    (holds : (s.rv.slots slotIdx).frame = some frame) :
    let result := rvHdrSplitHandleInSlot env s slotIdx frame mbuf port
    Passes s.rv result.session.rv result.events := by
  dsimp only
  unfold rvHdrSplitHandleInSlot
  dsimp only
  generalize slotEq : ({ s.rv.slots slotIdx with
    secondField := hasBit topBit mbuf.pkt.rowNumber } : RvSlot) = slot
  have kept : slot.frame = (s.rv.slots slotIdx).frame := by rw [← slotEq]
  have marks : Passes s.rv (s.rv.setSlot slotIdx slot) [] :=
    @passes_setSlot s.rv slotIdx slot s.rv.stats [] kept rfl
  have held := s.rv.setSlot_slots_self slotIdx slot
  generalize s.rv.setSlot slotIdx slot = marked at marks held ⊢
  cases index : rvHdrSplitIndex (s.withRv marked).rv.cfg slot mbuf.pkt port with
  | drop reason => exact marks.then_same rfl rfl
  | redundant => exact marks.trans (@passes_setSlot marked slotIdx _ _ [] rfl rfl)
  | fresh pktIdx fresh reordered =>
    have counted := onlyCounted_countReordered marked port reordered
    have fielded : fresh.frame = slot.frame := (rvHdrSplitIndex_fresh_marked index).frame_eq
    have frames : fresh.frame = ((rvCountReordered marked port reordered).slots slotIdx).frame := by
      rw [fielded, counted.slots, held]
    have advanced := @passes_setSlot (rvCountReordered marked port reordered) slotIdx
      (fresh.advance pktIdx port) (rvCountReordered marked port reordered).stats [] frames rfl
    have holding : (((rvCountReordered marked port reordered).setSlot slotIdx
        (fresh.advance pktIdx port)).slots slotIdx).frame = some frame := by
      rw [RvSession.setSlot_slots_self]
      exact fielded.trans (kept.trans holds)
    have placed := passes_hdrSplitPlace env (s := s.withRv ((rvCountReordered marked port reordered).setSlot
      slotIdx (fresh.advance pktIdx port))) mbuf pktIdx port holding
    exact marks.trans ((Passes.of_counted counted).trans (advanced.trans placed))

theorem passes_hdrSplitPkt (s : RvHdrSplitSession) (mbuf : HdrSplitMbuf) (port : MtlSessionPort)
    (accepted : rvOpens s.rv mbuf.pkt.tmstamp = true ->
      refusesIncomplete env.toRvEnv s.rv (rvNextSlot s.rv) = false) :
    Passes s.rv (rvHandleHdrSplitPkt env s mbuf port).session.rv
      (rvHandleHdrSplitPkt env s mbuf port).events := by
  unfold rvHandleHdrSplitPkt
  cases rvHdrSplitHeaderCheck s.rv.cfg mbuf.pkt with
  | some reason => exact Passes.of_custody rfl rfl rfl
  | none =>
    dsimp only
    split
    · exact Passes.of_custody rfl rfl rfl
    · have viewed : Passes s.rv s.view [] := Passes.of_custody rfl rfl rfl
      have looked := viewed.trans (@passes_lookup s.view env.toRvEnv mbuf.pkt.tmstamp accepted)
      generalize rvSlotByTmstamp env.toRvEnv s.view mbuf.pkt.tmstamp = answer at looked ⊢
      cases answer.slot with
      | none => exact looked.no_slot port
      | some slotIdx =>
        dsimp only
        cases holds : (answer.session.slots slotIdx).frame with
        | none => exact looked.gone slotIdx port _
        | some frame =>
          have same := rvHdrSplitNewFrame_rv env (s.withRv (answer.session.setRedundant port 0))
            answer.existTs frame mbuf.payloadAddr
          have kept := holds
          rw [show (answer.session.slots slotIdx).frame =
            ((s.withRv (answer.session.setRedundant port 0)).rv.slots slotIdx).frame from rfl, ← same] at kept
          have handled := passes_hdrSplitHandleInSlot env mbuf port kept
          rw [same] at handled
          exact looked.in_slot port handled

end

end MediaTransport.Video
