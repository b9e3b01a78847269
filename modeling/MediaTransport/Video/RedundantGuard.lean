import MediaTransport.Library.Run
import MediaTransport.Video.Handlers
import MediaTransport.Video.QuietSteps
import MediaTransport.Video.Slots

namespace MediaTransport.Video

open Library

/-!
# The guard against packets from the past

A packet whose timestamp is older than that of every slot is dropped, unless
every port has counted enough redundant packets in a row.  The count of a port
grows with packets of a slot without a frame and starts again with every other
packet, a packet from the past included.  So packets from the past alone never
make the guard give way.

A session with a DMA device has the same guard, but is left out here: behind the
guard its lookup waits for the copies of the frame before, and opens no slot for
any packet, from the past or not, while these do not end.
-/

/-! ## What the slot functions leave alone -/

variable (env : RvEnv) (s : RvSession)

/-- The configuration, the redundancy counts and the timestamps are kept. -/
structure SameGuard (before after : RvSession) : Prop where
  cfg : after.cfg = before.cfg
  counts : after.redundantErrorCnt = before.redundantErrorCnt
  stamps : forall idx, (after.slots idx).tmstamp = (before.slots idx).tmstamp

theorem SameGuard.refl : SameGuard s s := ⟨rfl, rfl, fun _ => rfl⟩

theorem SameGuard.trans {first second third : RvSession} (left : SameGuard first second)
    (right : SameGuard second third) : SameGuard first third where
  cfg := right.cfg.trans left.cfg
  counts := right.counts.trans left.counts
  stamps idx := (right.stamps idx).trans (left.stamps idx)

theorem Quiet.sameGuard {delivered : Nat} {before after : RvSession}
    (quiet : Quiet delivered before after) : SameGuard before after := by
  induction quiet with
  | refl s => exact SameGuard.refl s
  | trans _ _ left right => exact left.trans right
  | counted s _ => exact ⟨rfl, rfl, fun _ => rfl⟩
  | delivered s _ => exact ⟨rfl, rfl, fun _ => rfl⟩
  | frames s frames => exact ⟨rfl, rfl, fun _ => rfl⟩
  | slot s idx slot stamp =>
    refine ⟨rfl, rfl, fun other => ?_⟩
    by_cases same : other = idx
    · rw [same, RvSession.setSlot_slots_self, stamp]
    · rw [RvSession.setSlot_slots_of_ne s slot same]
  | sizes s => exact ⟨rfl, rfl, fun _ => rfl⟩

theorem Handled.sameGuard {delivered : Nat} {before after : RvSession} {ret : Except Errno Unit}
    (handled : Handled delivered before after ret) : SameGuard before after := by
  rcases handled.split with ⟨middle, stats, left, -, right⟩
  have settled : SameGuard middle (middle.withStats stats) := ⟨rfl, rfl, fun _ => rfl⟩
  exact left.sameGuard.trans (settled.trans right.sameGuard)

/-! ## The slot lookup -/

def rvMeetsCopy (tmstamp : Nat) : Bool :=
  match rvFindSlot s tmstamp with
  | some idx => (s.slots idx).frame.isNone
  | none => false

theorem rvReuseSlot_guard (slotIdx tmstamp : Nat) :
    (rvReuseSlot env s slotIdx tmstamp).1.cfg = s.cfg ∧
      (rvReuseSlot env s slotIdx tmstamp).1.redundantErrorCnt = s.redundantErrorCnt ∧
      ((rvReuseSlot env s slotIdx tmstamp).1.slots slotIdx).tmstamp = tmstamp := by
  have kept := (quiet_retireSlot env s slotIdx).sameGuard
  refine ⟨kept.cfg, kept.counts, ?_⟩
  exact congrArg RvSlot.tmstamp (RvSession.setSlot_slots_self _ slotIdx _)

theorem rvSlotByTmstamp_opened {env : RvEnv} {s : RvSession} {tmstamp : Nat}
    (opens : rvOpens s tmstamp = true) :
    (rvSlotByTmstamp env s tmstamp).session.cfg = s.cfg ∧
      (rvSlotByTmstamp env s tmstamp).session.redundantErrorCnt = s.redundantErrorCnt ∧
      ((rvSlotByTmstamp env s tmstamp).session.slots (rvNextSlot s)).tmstamp = tmstamp ∧
      forall idx, (rvSlotByTmstamp env s tmstamp).slot = some idx ->
        ((rvSlotByTmstamp env s tmstamp).session.slots idx).frame ≠ none := by
  have unknown : rvFindSlot s tmstamp = none := by
    rw [rvOpens, Bool.and_eq_true] at opens
    exact Option.isNone_iff_eq_none.mp opens.1
  have admitted : (rvInThePast s tmstamp && !rvGuardGivesWay s) = false := by
    rw [rvOpens, Bool.and_eq_true, Bool.not_eq_true'] at opens
    exact opens.2
  have shape : rvSlotByTmstamp env s tmstamp =
      let reused := rvReuseSlot env s (rvNextSlot s) tmstamp
      let answer := rvAssignFrame env reused.1 (rvNextSlot s)
      ⟨answer.1, if answer.2 then some (rvNextSlot s) else none, false, reused.2⟩ := by
    rw [rvSlotByTmstamp, unknown, admitted]
    rfl
  rcases rvReuseSlot_guard env s (rvNextSlot s) tmstamp with ⟨cfg, counts, stamp⟩
  generalize rvReuseSlot env s (rvNextSlot s) tmstamp = reused at shape cfg counts stamp
  have kept := (quiet_assignFrame env reused.1 (rvNextSlot s)).sameGuard
  rw [shape]
  dsimp only
  refine ⟨kept.cfg.trans cfg, kept.counts.trans counts, (kept.stamps _).trans stamp, ?_⟩
  intro idx taken
  rcases rvAssignFrame_cases env reused.1 (rvNextSlot s) with failed | ⟨frame, addr, -, assigned⟩
  · rw [failed.1] at taken
    cases taken
  · rw [assigned] at taken ⊢
    cases taken
    dsimp only
    rw [RvSession.setSlot_slots_self]
    exact Option.some_ne_none frame

/-- What a handler that looks slots up leaves of the guard. -/
structure Looked (before after : RvSession) (tmstamp : Nat) (port : MtlSessionPort)
    (ret : Except Errno Unit) : Prop where
  cfg : after.cfg = before.cfg
  counts : after.redundantErrorCnt = Function.update before.redundantErrorCnt port
    (if rvMeetsCopy before tmstamp then before.redundantErrorCnt port + 1 else 0)
  refused : rvFindSlot before tmstamp = none -> rvOpens before tmstamp = false ->
    after.slots = before.slots ∧
      after.stats.dropped .noSlot = before.stats.dropped .noSlot + 1 ∧ ret = .error .io
  opened : rvOpens before tmstamp = true -> (after.slots (rvNextSlot before)).tmstamp = tmstamp

/-- The three ways on from the slot lookup, as all handlers take them. -/
theorem looked_of_lookup {env : RvEnv} {s after : RvSession} {tmstamp : Nat}
    {port : MtlSessionPort} {ret : Except Errno Unit}
    (refused : (rvSlotByTmstamp env s tmstamp).slot = none ->
      after = (rvDrop ((rvSlotByTmstamp env s tmstamp).session.setRedundant port 0) .noSlot).session ∧
        ret = .error .io)
    (copy : forall idx, (rvSlotByTmstamp env s tmstamp).slot = some idx ->
      ((rvSlotByTmstamp env s tmstamp).session.slots idx).frame = none ->
        after = (rvCountRedundant (rvSlotByTmstamp env s tmstamp).session idx port).setRedundant port
          ((rvSlotByTmstamp env s tmstamp).session.redundantErrorCnt port + 1))
    (inSlot : forall idx frame, (rvSlotByTmstamp env s tmstamp).slot = some idx ->
      ((rvSlotByTmstamp env s tmstamp).session.slots idx).frame = some frame ->
        SameGuard ((rvSlotByTmstamp env s tmstamp).session.setRedundant port 0) after) :
    Looked s after tmstamp port ret := by
  rcases rvSlotByTmstamp_cases env s tmstamp with ⟨idx, found, shape⟩ | shape | ⟨opens, -⟩
  · -- The timestamp is known.
    have closed : rvOpens s tmstamp = false := by rw [rvOpens, found]; rfl
    have unknown : ¬ rvFindSlot s tmstamp = none := by rw [found]; exact Option.some_ne_none idx
    rw [shape] at copy inSlot
    cases held : (s.slots idx).frame with
    | none =>
      have gone := copy idx rfl held
      have meets : rvMeetsCopy s tmstamp = true := by rw [rvMeetsCopy, found]; simp [held]
      rw [gone]
      refine ⟨rfl, ?_, fun absent => False.elim (unknown absent), fun opens => ?_⟩
      · rw [meets]
        rfl
      · rw [closed] at opens
        cases opens
    | some frame =>
      have kept := inSlot idx frame rfl held
      have meets : rvMeetsCopy s tmstamp = false := by rw [rvMeetsCopy, found]; simp [held]
      refine ⟨kept.cfg, ?_, fun absent => False.elim (unknown absent), fun opens => ?_⟩
      · rw [kept.counts, meets]
        rfl
      · rw [closed] at opens
        cases opens
  · -- The timestamp is from the past.
    rw [shape] at refused
    rcases refused rfl with ⟨dropped, failed⟩
    have unknown : rvFindSlot s tmstamp = none := by
      cases found : rvFindSlot s tmstamp with
      | none => rfl
      | some idx =>
        rw [rvSlotByTmstamp_found found] at shape
        cases shape
    have meets : rvMeetsCopy s tmstamp = false := by rw [rvMeetsCopy, unknown]
    rw [dropped]
    refine ⟨rfl, ?_, fun _ _ => ⟨rfl, ?_, failed⟩, fun opens => ?_⟩
    · rw [meets]
      rfl
    · exact Function.update_self RvDrop.noSlot (s.stats.dropped .noSlot + 1) s.stats.dropped
    · have stamp := (@rvSlotByTmstamp_opened env s tmstamp opens).2.2.1
      rw [shape] at stamp
      exact stamp
  · -- The next slot takes the timestamp.
    rcases @rvSlotByTmstamp_opened env s tmstamp opens with ⟨cfg, counts, stamp, holds⟩
    have unknown : rvFindSlot s tmstamp = none := by
      rw [rvOpens, Bool.and_eq_true] at opens
      exact Option.isNone_iff_eq_none.mp opens.1
    have meets : rvMeetsCopy s tmstamp = false := by rw [rvMeetsCopy, unknown]
    generalize rvSlotByTmstamp env s tmstamp = answer at refused copy inSlot cfg counts stamp holds
    have kept : SameGuard (answer.session.setRedundant port 0) after := by
      cases taken : answer.slot with
      | none => rw [(refused taken).1]; exact ⟨rfl, rfl, fun _ => rfl⟩
      | some idx =>
        cases held : (answer.session.slots idx).frame with
        | none => exact False.elim (holds idx taken held)
        | some frame => exact inSlot idx frame taken held
    refine ⟨kept.cfg.trans cfg, ?_, fun _ closed => ?_, fun _ => (kept.stamps _).trans stamp⟩
    · rw [kept.counts, meets, ← counts]
      rfl
    · rw [closed] at opens
      cases opens

/-! ## The handlers that use the lookup -/

theorem rvHandleFramePkt_looked (mbuf : RvMbuf) (port : MtlSessionPort) (ctrlThread : Bool)
    (accepted : rvHeaderCheck s.cfg mbuf = none) :
    Looked s (rvHandleFramePkt env s mbuf port ctrlThread).session mbuf.pkt.tmstamp port
      (rvHandleFramePkt env s mbuf port ctrlThread).ret := by
  -- The count of retransmitted packets is no part of the guard.
  have counted : Looked (rvCountRetransmit s (rvReadLine mbuf.pkt))
      (rvHandleFramePkt env s mbuf port ctrlThread).session mbuf.pkt.tmstamp port
      (rvHandleFramePkt env s mbuf port ctrlThread).ret := by
    have checked : rvHeaderCheck (rvCountRetransmit s (rvReadLine mbuf.pkt)).cfg mbuf = none := by
      rw [(quiet_countRetransmit s (rvReadLine mbuf.pkt)).sameGuard.cfg, accepted]
    unfold rvHandleFramePkt
    dsimp only
    rw [checked]
    dsimp only
    refine @looked_of_lookup env _ _ _ _ _ (fun refused => ?_) (fun idx found gone => ?_)
      (fun idx frame found held => ?_)
    · rw [refused]
      exact ⟨rfl, rfl⟩
    · rw [found]
      dsimp only
      rw [gone]
    · rw [found]
      dsimp only
      rw [held]
      exact (rvHandleInSlot_handled env _ idx frame mbuf port ctrlThread).sameGuard
  generalize (rvHandleFramePkt env s mbuf port ctrlThread).session = after at counted ⊢
  unfold rvCountRetransmit at counted
  split at counted
  · exact ⟨counted.cfg, counted.counts, counted.refused, counted.opened⟩
  · exact counted

theorem rvHandleSt22Pkt_looked (pkt : Rfc9134Packet) (port : MtlSessionPort)
    (accepted : rvSt22HeaderCheck s.cfg pkt = none) :
    Looked s (rvHandleSt22Pkt env s (some pkt) port).session pkt.tmstamp port
      (rvHandleSt22Pkt env s (some pkt) port).ret := by
  unfold rvHandleSt22Pkt
  dsimp only
  rw [accepted]
  dsimp only
  refine @looked_of_lookup env _ _ _ _ _ (fun refused => ?_) (fun idx found gone => ?_)
    (fun idx frame found held => ?_)
  · rw [refused]
    exact ⟨rfl, rfl⟩
  · rw [found]
    dsimp only
    rw [gone]
  · rw [found]
    dsimp only
    rw [held]
    exact (rvSt22HandleInSlot_handled env _ idx frame pkt port).sameGuard

/-! ### Header split -/

section

variable (env : HdrSplitEnv) (s : RvHdrSplitSession)

variable (slotIdx frame : Nat) (mbuf : HdrSplitMbuf)

theorem rvHdrSplitStorePacket_guard (place : RvPlacement) (port : MtlSessionPort) :
    SameGuard s.rv (rvHdrSplitStorePacket env s slotIdx frame place port).session.rv := by
  unfold rvHdrSplitStorePacket
  dsimp only
  set counted := s.view.withStats
    { s.rv.stats with pktsReceived := s.rv.stats.pktsReceived + 1 }
  have same : SameGuard s.rv counted := ⟨rfl, rfl, fun _ => rfl⟩
  have sliced := rvSlices_counted counted ((s.rv.slots slotIdx).gained place.payloadLength port)
    frame place
  have stored := (Quiet.slot counted slotIdx _ sliced.2.1).after
    (Quiet.counted (counted.setSlot slotIdx _) sliced.1)
  refine same.trans ?_
  split
  · exact (stored.before (quiet_slotFullFrame env.toRvEnv _ slotIdx frame)).sameGuard
  · exact stored.sameGuard

theorem rvHdrSplitPlacePacket_guard (pktIdx : Nat) (port : MtlSessionPort) :
    SameGuard s.rv (rvHdrSplitPlacePacket env s slotIdx frame mbuf pktIdx port).session.rv := by
  unfold rvHdrSplitPlacePacket
  dsimp only
  split
  · exact ⟨rfl, rfl, fun _ => rfl⟩
  · split
    · exact SameGuard.refl s.rv
    · cases rvHdrSplitWhere (s.info port) pktIdx mbuf.payloadAddr mbuf.pkt.marker with
      | base =>
        have stored := rvHdrSplitStorePacket_guard env (rvHdrSplitRebase s port mbuf.payloadAddr)
          slotIdx frame (rvHdrSplitPlacement s.rv.cfg mbuf.pkt) port
        rw [rvHdrSplitRebase_rv] at stored
        exact stored
      | inPlace => exact rvHdrSplitStorePacket_guard env s slotIdx frame _ port
      | copy => exact rvHdrSplitStorePacket_guard env (rvHdrSplitCopy s frame _ _) slotIdx frame _ port
      | lost => exact SameGuard.refl s.rv

theorem rvHdrSplitHandleInSlot_guard (port : MtlSessionPort) :
    SameGuard s.rv (rvHdrSplitHandleInSlot env s slotIdx frame mbuf port).session.rv := by
  unfold rvHdrSplitHandleInSlot
  dsimp only
  set slot := { s.rv.slots slotIdx with secondField := hasBit topBit mbuf.pkt.rowNumber }
  have flagged := (Quiet.slot s.rv slotIdx slot rfl).sameGuard
  refine flagged.trans ?_
  cases index : rvHdrSplitIndex (s.withRv (s.rv.setSlot slotIdx slot)).rv.cfg slot mbuf.pkt port with
  | drop reason => exact (rvDrop_handled (s.rv.setSlot slotIdx slot) reason).sameGuard
  | redundant => exact (rvCountRedundant_handled (s.rv.setSlot slotIdx slot) slotIdx port).sameGuard
  | fresh pktIdx marked reordered =>
    dsimp only
    have reorder := quiet_countReordered (s.rv.setSlot slotIdx slot) port reordered
    have stamp : (marked.advance pktIdx port).tmstamp =
        ((rvCountReordered (s.rv.setSlot slotIdx slot) port reordered).slots slotIdx).tmstamp := by
      rw [reorder.sameGuard.stamps, RvSession.setSlot_slots_self]
      exact (rvHdrSplitIndex_fresh_marked index).tmstamp_eq
    have placed := rvHdrSplitPlacePacket_guard env (s.withRv
      ((rvCountReordered (s.rv.setSlot slotIdx slot) port reordered).setSlot slotIdx
        (marked.advance pktIdx port))) slotIdx frame mbuf pktIdx port
    exact (reorder.after (Quiet.slot _ slotIdx _ stamp)).sameGuard.trans placed

theorem rvHandleHdrSplitPkt_looked (port : MtlSessionPort)
    (accepted : rvHdrSplitHeaderCheck s.rv.cfg mbuf.pkt = none)
    (ready : (s.info port).mbufPoolReady = true) :
    Looked s.rv (rvHandleHdrSplitPkt env s mbuf port).session.rv mbuf.pkt.tmstamp port
      (rvHandleHdrSplitPkt env s mbuf port).ret := by
  have counted : Looked s.view (rvHandleHdrSplitPkt env s mbuf port).session.rv mbuf.pkt.tmstamp
      port (rvHandleHdrSplitPkt env s mbuf port).ret := by
    unfold rvHandleHdrSplitPkt
    dsimp only
    rw [accepted, ready]
    dsimp only
    rw [if_neg (by decide)]
    refine @looked_of_lookup env.toRvEnv _ _ _ _ _ (fun refused => ?_) (fun idx found gone => ?_)
      (fun idx frame found held => ?_)
    · rw [refused]
      exact ⟨rfl, rfl⟩
    · rw [found]
      dsimp only
      rw [gone]
      rfl
    · rw [found]
      dsimp only
      rw [held]
      dsimp only
      have kept := rvHdrSplitHandleInSlot_guard env (rvHdrSplitNewFrame env (s.withRv
        ((rvSlotByTmstamp env.toRvEnv s.view mbuf.pkt.tmstamp).session.setRedundant port 0))
        (rvSlotByTmstamp env.toRvEnv s.view mbuf.pkt.tmstamp).existTs frame mbuf.payloadAddr) idx
        frame mbuf port
      rw [rvHdrSplitNewFrame_rv] at kept
      exact kept
  exact ⟨counted.cfg, counted.counts, counted.refused, counted.opened⟩

end

/-! ### RTP level -/

theorem rvRtpEnqueue_guard (s : RvRtpSession) (pkt : RvRtpPacket) :
    SameGuard s.rv (rvRtpEnqueue s pkt).session.rv := by
  unfold rvRtpEnqueue
  split
  · exact ⟨rfl, rfl, fun _ => rfl⟩
  · exact SameGuard.refl s.rv

theorem rtpAdvance_tmstamp (slot : RvSlot) (pktIdx : Nat) (port : MtlSessionPort) :
    (slot.rtpAdvance pktIdx port).tmstamp = slot.tmstamp := by
  unfold RvSlot.rtpAdvance
  split <;> rfl

theorem sameGuard_setSlot (stats : RvStats) (idx : Nat) {slot : RvSlot}
    (stamp : slot.tmstamp = (s.slots idx).tmstamp) :
    SameGuard s ((s.withStats stats).setSlot idx slot) := by
  have counted : SameGuard s (s.withStats stats) := ⟨rfl, rfl, fun _ => rfl⟩
  exact counted.trans (Quiet.slot (s.withStats stats) idx slot stamp).sameGuard

theorem rvRtpHandleInSlot_guard (s : RvRtpSession) (slotIdx : Nat) (pkt : RvRtpPacket)
    (port : MtlSessionPort) : SameGuard s.rv (rvRtpHandleInSlot s slotIdx pkt port).session.rv := by
  unfold rvRtpHandleInSlot
  dsimp only
  split
  · split
    · exact ⟨rfl, rfl, fun _ => rfl⟩
    · split
      · exact ⟨rfl, rfl, fun _ => rfl⟩
      · refine SameGuard.trans ?_ (rvRtpEnqueue_guard _ pkt)
        exact sameGuard_setSlot s.rv _ slotIdx (rtpAdvance_tmstamp _ _ port)
  · refine SameGuard.trans ?_ (rvRtpEnqueue_guard _ pkt)
    exact sameGuard_setSlot s.rv _ slotIdx (rtpAdvance_tmstamp _ _ port)

theorem rvRtpSlotByTmstamp_opens (tmstamp : Nat) :
    (rvRtpSlotByTmstamp s tmstamp).1.cfg = s.cfg ∧
      (rvRtpSlotByTmstamp s tmstamp).2 < stVideoRxRecNumOfo ∧
      ((rvRtpSlotByTmstamp s tmstamp).1.slots (rvRtpSlotByTmstamp s tmstamp).2).tmstamp = tmstamp := by
  unfold rvRtpSlotByTmstamp
  cases found : rvRtpFindSlot s tmstamp with
  | some idx =>
    have holds := List.find?_some found
    exact ⟨rfl, List.mem_range.mp (List.mem_of_find?_eq_some found), of_decide_eq_true holds⟩
  | none =>
    refine ⟨rfl, ?_, congrArg RvSlot.tmstamp (RvSession.setSlot_slots_self s _ _)⟩
    have upper := Int.emod_lt_of_pos (s.slotIdx + 1)
      (show (0 : Int) < stVideoRxRecNumOfo by decide)
    have lower := Int.emod_nonneg (s.slotIdx + 1)
      (show (stVideoRxRecNumOfo : Int) ≠ 0 by decide)
    dsimp only
    rw [rvRtpNextSlot]
    omega

theorem rvHandleRtpPkt_opens (s : RvRtpSession) (pkt : RvRtpPacket) (port : MtlSessionPort)
    (accepted : rvRtpHeaderCheck s.rv.cfg pkt = none) :
    (rvHandleRtpPkt s pkt port).session.rv.cfg = s.rv.cfg ∧
      Exists fun idx => idx < stVideoRxRecNumOfo ∧
        ((rvHandleRtpPkt s pkt port).session.rv.slots idx).tmstamp = pkt.tmstamp := by
  rcases rvRtpSlotByTmstamp_opens s.rv pkt.tmstamp with ⟨cfg, inside, stamp⟩
  unfold rvHandleRtpPkt
  rw [accepted]
  dsimp only
  have kept := rvRtpHandleInSlot_guard (s.withRv (rvRtpSlotByTmstamp s.rv pkt.tmstamp).1)
    (rvRtpSlotByTmstamp s.rv pkt.tmstamp).2 pkt port
  exact ⟨kept.cfg.trans cfg, _, inside, (kept.stamps _).trans stamp⟩

/-! ## All handlers together -/

theorem Looked.of_returned {s after : RvSession} {returned : List Nat} {tmstamp : Nat}
    {port : MtlSessionPort} {ret : Except Errno Unit}
    (looked : Looked (rvReturnFrames s returned) after tmstamp port ret) :
    Looked s after tmstamp port ret := by
  have same := rvReturnFrames_eq s returned
  generalize (rvReturnFrames s returned).frames = frames at same
  rw [same] at looked
  exact ⟨looked.cfg, looked.counts, looked.refused, looked.opened⟩

namespace RvPktHandler

variable (handler : RvPktHandler)

def step (s : handler.Session) (arrival : handler.Arrival) : handler.Session :=
  (handler.arrive s arrival).session

def slotCount (s : handler.Session) : Nat :=
  if handler = .rtp then stVideoRxRecNumOfo else (handler.rv s).cfg.slotMax

def past (s : handler.Session) (tmstamp : Nat) : Bool :=
  (List.range (handler.slotCount s)).all (fun idx =>
    decide (((handler.rv s).slots idx).tmstamp ≠ -1) &&
      !mtSeq32Greater tmstamp ((handler.rv s).slots idx).tmstamp)

def known (s : handler.Session) (tmstamp : Nat) : Bool :=
  (List.range (handler.slotCount s)).any
    (fun idx => decide (((handler.rv s).slots idx).tmstamp = tmstamp))

/-- The packet is one for the session and its timestamp is in the past. -/
def IsPast (s : handler.Session) (arrival : handler.Arrival) : Prop :=
  handler.accepts s arrival.packet arrival.port = true ∧ handler.past s (handler.tmstamp arrival.packet) = true

/-- The packet repeats one of a frame that is no longer in its slot. -/
def isCopy (s : handler.Session) (arrival : handler.Arrival) : Bool :=
  rvMeetsCopy (handler.rv s) (handler.tmstamp arrival.packet)

/-- How many packets of a port, at the end of a run, were such copies. -/
def copiesInARow (port : MtlSessionPort) :
    handler.Session -> List handler.Arrival -> Nat -> Nat
  | _, [], count => count
  | s, arrival :: rest, count =>
    copiesInARow port (handler.step s arrival) rest
      (if arrival.port = port then (if handler.isCopy s arrival then count + 1 else 0) else count)

def Opens (s : handler.Session) (arrival : handler.Arrival) : Prop :=
  handler.known (handler.step s arrival) (handler.tmstamp arrival.packet) = true

def DropsForSlot (s : handler.Session) (arrival : handler.Arrival) : Prop :=
  (handler.rv (handler.step s arrival)).slots = (handler.rv s).slots ∧
    (handler.rv (handler.step s arrival)).stats.dropped .noSlot =
      (handler.rv s).stats.dropped .noSlot + 1 ∧
    (handler.arrive s arrival).ret = .error .io

variable {handler : RvPktHandler}

/-! ### One packet -/

theorem step_looked (lookup : handler ≠ .rtp) {s : handler.Session} {arrival : handler.Arrival}
    (accepted : handler.accepts s arrival.packet arrival.port = true) :
    Looked (handler.rv s) (handler.rv (handler.step s arrival)) (handler.tmstamp arrival.packet)
      arrival.port (handler.arrive s arrival).ret := by
  cases handler with
  | frame =>
    have checked := Option.isNone_iff_eq_none.mp accepted
    refine Looked.of_returned (rvHandleFramePkt_looked _ _ _ _ _ ?_)
    rw [rvReturnFrames_cfg]
    exact checked
  | st22 =>
    rcases arrival with ⟨env, returned, mbuf, port, ctrlThread⟩
    cases mbuf with
    | none => cases accepted
    | some pkt =>
      have checked := Option.isNone_iff_eq_none.mp accepted
      refine Looked.of_returned (rvHandleSt22Pkt_looked _ _ pkt _ ?_)
      rw [rvReturnFrames_cfg]
      exact checked
  | hdrSplit =>
    have both := Bool.and_eq_true_iff.mp accepted
    have checked := Option.isNone_iff_eq_none.mp both.1
    refine Looked.of_returned (rvHandleHdrSplitPkt_looked _
      (RvHdrSplitSession.withRv s (rvReturnFrames (RvHdrSplitSession.rv s) arrival.returned))
      _ _ ?_ both.2)
    refine (congrArg (fun cfg => rvHdrSplitHeaderCheck cfg _) ?_).trans checked
    exact rvReturnFrames_cfg (RvHdrSplitSession.rv s) arrival.returned
  | rtp => exact False.elim (lookup rfl)

theorem step_cfg {s : handler.Session} {arrival : handler.Arrival}
    (accepted : handler.accepts s arrival.packet arrival.port = true) :
    (handler.rv (handler.step s arrival)).cfg = (handler.rv s).cfg := by
  by_cases rtp : handler = .rtp
  · subst rtp
    exact (rvHandleRtpPkt_opens s arrival.packet arrival.port
      (Option.isNone_iff_eq_none.mp accepted)).1
  · exact (step_looked rtp accepted).cfg

/-! ### Runs -/

theorem run_cfg {s : handler.Session} {arrivals : List handler.Arrival}
    (past : Admitted handler.step handler.IsPast s arrivals) :
    (handler.rv (run handler.step s arrivals)).cfg = (handler.rv s).cfg := by
  induction arrivals generalizing s with
  | nil => rfl
  | cons arrival rest ih => exact (ih past.2).trans (step_cfg past.1.1)

theorem run_redundantErrorCnt (lookup : handler ≠ .rtp) (port : MtlSessionPort)
    {s : handler.Session} {arrivals : List handler.Arrival}
    (past : Admitted handler.step handler.IsPast s arrivals) :
    (handler.rv (run handler.step s arrivals)).redundantErrorCnt port =
      handler.copiesInARow port s arrivals ((handler.rv s).redundantErrorCnt port) := by
  induction arrivals generalizing s with
  | nil => rfl
  | cons arrival rest ih =>
    have counts := congrFun (step_looked lookup past.1.1).counts port
    rw [run_cons, ih past.2, copiesInARow, counts]
    by_cases same : arrival.port = port
    · rw [same, Function.update_self, if_pos rfl]
      rfl
    · rw [Function.update_of_ne (Ne.symm same), if_neg same]

theorem copiesInARow_add (port : MtlSessionPort) (start count : Nat) (s : handler.Session)
    (arrivals : List handler.Arrival) :
    let onPort := (arrivals.filter (fun arrival => decide (arrival.port = port))).length
    handler.copiesInARow port s arrivals (start + count) = handler.copiesInARow port s arrivals count ∨
      (handler.copiesInARow port s arrivals count = count + onPort ∧
        handler.copiesInARow port s arrivals (start + count) = start + count + onPort) := by
  induction arrivals generalizing s count with
  | nil => exact Or.inr ⟨rfl, rfl⟩
  | cons arrival rest ih =>
    dsimp only
    rw [copiesInARow, copiesInARow]
    by_cases same : arrival.port = port
    · have counted : (arrival :: rest).filter (fun arrival => decide (arrival.port = port)) =
          arrival :: rest.filter (fun arrival => decide (arrival.port = port)) :=
        List.filter_cons_of_pos (decide_eq_true same)
      rw [if_pos same, if_pos same, counted, List.length_cons]
      by_cases copy : handler.isCopy s arrival = true
      · rw [if_pos copy, if_pos copy]
        have later := ih (count + 1) (handler.step s arrival)
        rw [← Nat.add_assoc] at later
        rcases later with equal | both
        · exact Or.inl equal
        · exact Or.inr (by omega)
      · rw [if_neg copy, if_neg copy]
        exact Or.inl rfl
    · have skipped : (arrival :: rest).filter (fun arrival => decide (arrival.port = port)) =
          rest.filter (fun arrival => decide (arrival.port = port)) :=
        List.filter_cons_of_neg (by simpa using same)
      rw [if_neg same, if_neg same, skipped]
      exact ih count (handler.step s arrival)

theorem enough_copies (port : MtlSessionPort) (start : Nat) {s : handler.Session}
    {arrivals : List handler.Arrival}
    (enough : stSessionRedundantErrorThreshold ≤
      (arrivals.filter (fun arrival => decide (arrival.port = port))).length) :
    stSessionRedundantErrorThreshold ≤ handler.copiesInARow port s arrivals start <->
      stSessionRedundantErrorThreshold ≤ handler.copiesInARow port s arrivals 0 := by
  have forgets := copiesInARow_add port start 0 s arrivals
  rw [Nat.add_zero] at forgets
  rcases forgets with equal | ⟨fromZero, fromStart⟩
  · rw [equal]
  · rw [fromZero, fromStart]
    constructor
    · intro _
      omega
    · intro _
      omega

/-! ### A packet from the past -/

theorem known_of_slot {s : handler.Session} {tmstamp idx : Nat}
    (inside : idx < handler.slotCount s)
    (stamp : ((handler.rv s).slots idx).tmstamp = tmstamp) : handler.known s tmstamp = true :=
  List.any_eq_true.mpr ⟨idx, List.mem_range.mpr inside, decide_eq_true stamp⟩

theorem slotCount_step {s : handler.Session} {arrival : handler.Arrival}
    (accepted : handler.accepts s arrival.packet arrival.port = true) :
    handler.slotCount (handler.step s arrival) = handler.slotCount s := by
  rw [slotCount, slotCount, step_cfg accepted]

theorem rtp_opens {s : RvPktHandler.rtp.Session} {arrival : RvPktHandler.rtp.Arrival}
    (accepted : RvPktHandler.rtp.accepts s arrival.packet arrival.port = true) :
    RvPktHandler.rtp.Opens s arrival := by
  rcases rvHandleRtpPkt_opens s arrival.packet arrival.port
    (Option.isNone_iff_eq_none.mp accepted) with ⟨-, idx, inside, stamp⟩
  exact known_of_slot inside stamp

theorem lookup_opens (lookup : handler ≠ .rtp) {s : handler.Session} {arrival : handler.Arrival}
    (someSlot : 0 < handler.slotCount s) (past : handler.IsPast s arrival)
    (new : handler.known s (handler.tmstamp arrival.packet) = false) :
    (rvGuardGivesWay (handler.rv s) = true -> handler.Opens s arrival) ∧
      (rvGuardGivesWay (handler.rv s) = false ->
        ¬ handler.Opens s arrival ∧ handler.DropsForSlot s arrival) := by
  have looked := step_looked lookup past.1
  have count : handler.slotCount s = (handler.rv s).cfg.slotMax := if_neg lookup
  have unknown : rvFindSlot (handler.rv s) (handler.tmstamp arrival.packet) = none := by
    rw [rvFindSlot, List.find?_eq_none, ← count]
    intro idx member
    exact List.any_eq_false.mp new idx member
  have inPast : rvInThePast (handler.rv s) (handler.tmstamp arrival.packet) = true := by
    rw [rvInThePast, ← count]
    exact past.2
  constructor
  · intro gives
    have opens : rvOpens (handler.rv s) (handler.tmstamp arrival.packet) = true := by
      rw [rvOpens, unknown, inPast, gives]
      rfl
    refine known_of_slot ?_ (looked.opened opens)
    rw [slotCount_step past.1, count]
    exact rvNextSlot_lt (count ▸ someSlot)
  · intro holds
    have closed : rvOpens (handler.rv s) (handler.tmstamp arrival.packet) = false := by
      rw [rvOpens, unknown, inPast, holds]
      rfl
    have dropped := looked.refused unknown closed
    refine ⟨?_, dropped⟩
    unfold Opens known
    rw [slotCount_step past.1, dropped.1]
    exact Bool.eq_false_iff.mp new

instance (handler : RvPktHandler) (s : handler.Session) (arrival : handler.Arrival) :
    Decidable (handler.IsPast s arrival) := inferInstanceAs (Decidable (_ ∧ _))

instance (handler : RvPktHandler) (s : handler.Session) (arrival : handler.Arrival) :
    Decidable (handler.Opens s arrival) := inferInstanceAs (Decidable (_ = true))

end RvPktHandler

/-- After enough packets from the past on every port, the next packet with a
new timestamp from the past opens a slot exactly if the session is at the RTP
level, or the last packets of every port all were copies for a slot without a
frame.  Otherwise it is dropped. -/
theorem past_packet_opens_slot_iff (handler : RvPktHandler) (s : handler.Session)
    (someSlot : 0 < handler.slotCount s) {arrivals : List handler.Arrival}
    (past : Admitted handler.step handler.IsPast s arrivals)
    (enough : ∀ port ∈ (handler.rv s).cfg.ops.ports,
      stSessionRedundantErrorThreshold ≤
        (arrivals.filter (fun arrival => decide (arrival.port = port))).length)
    {next : handler.Arrival} (nextPast : handler.IsPast (run handler.step s arrivals) next)
    (new : handler.known (run handler.step s arrivals) (handler.tmstamp next.packet) = false) :
    (handler.Opens (run handler.step s arrivals) next <->
      handler = .rtp ∨ ∀ port ∈ (handler.rv s).cfg.ops.ports,
        stSessionRedundantErrorThreshold ≤ handler.copiesInARow port s arrivals 0) ∧
      (¬ handler.Opens (run handler.step s arrivals) next ->
        handler.DropsForSlot (run handler.step s arrivals) next) := by
  by_cases rtp : handler = .rtp
  · subst rtp
    have opens := RvPktHandler.rtp_opens nextPast.1
    exact ⟨⟨fun _ => Or.inl rfl, fun _ => opens⟩, fun closed => False.elim (closed opens)⟩
  · have cfg := RvPktHandler.run_cfg past
    have ways := RvPktHandler.lookup_opens rtp
      (by rw [RvPktHandler.slotCount, cfg]; exact someSlot) nextPast new
    -- The guard gives way when every port has seen enough copies in a row.
    have guard : rvGuardGivesWay (handler.rv (run handler.step s arrivals)) = true <->
        ∀ port ∈ (handler.rv s).cfg.ops.ports,
          stSessionRedundantErrorThreshold ≤ handler.copiesInARow port s arrivals 0 := by
      rw [rvGuardGivesWay, List.all_eq_true, cfg]
      refine forall_congr' (fun port => forall_congr' (fun member => ?_))
      rw [decide_eq_true_iff, RvPktHandler.run_redundantErrorCnt rtp port past]
      exact RvPktHandler.enough_copies port _ (enough port member)
    cases gives : rvGuardGivesWay (handler.rv (run handler.step s arrivals)) with
    | true =>
      have opens := ways.1 gives
      exact ⟨⟨fun _ => Or.inr (guard.mp gives), fun _ => opens⟩,
        fun closed => False.elim (closed opens)⟩
    | false =>
      rcases ways.2 gives with ⟨closed, dropped⟩
      refine ⟨⟨fun opens => False.elim (closed opens), ?_⟩, fun _ => dropped⟩
      rintro (same | copies)
      · exact False.elim (rtp same)
      · rw [guard.mpr copies] at gives
        cases gives

/-! ## A sender that starts again -/

def restartRxOps : St20RxOps :=
  { width := 2, height := 4, fmt := .yuv422Bit10, interlaced := false, linesize := 0
    payloadType := 112, ssrc := 0, numPort := 2, type := .frameLevel, framebuffCnt := 3
    sliceLines := 0, uframeSize := 0, receiveIncompleteFrame := true, enableRtcp := false
    queryExtFrame := false }

def restartConfig : RvConfig :=
  { ops := restartRxOps, st22 := none, st20Pg := st20GetPgroup .yuv422Bit10
    st20BytesInLine := 5, st20Linesize := 5, st20FbSize := 20, st20FrameSize := 20
    st20FrameBitmapSize := 1, sliceLines := 0, sliceSize := 0, slotMax := 2
    userMetaBufferSize := 1024 }

/-- The first line of the frame with the given timestamp. -/
def restartLine (port : MtlSessionPort) (tmstamp : Nat) : RvPktHandler.frame.Arrival :=
  { env :=
      { notifyRecycled := 0, notifyFull := 0, queryExt := none, portDown := fun _ => false
        timeStamp := 0, missEstimate := 0, extAddr := 0 }
    returned := []
    packet :=
      { pkt :=
          { marker := false, payloadType := 112, seqNumber := 0, seqNumberExt := 0
            tmstamp := tmstamp, ssrc := 0, rowLength := 5, rowNumber := 0, rowOffset := 0
            body := List.replicate 5 0 }
        multiSegment := false }
    port := port
    ctrlThread := true }

def beforeRestart : RvPktHandler.frame.Session :=
  run RvPktHandler.frame.step (rvInit restartConfig) [restartLine .p 5000, restartLine .p 6000]

def afterRestart : List RvPktHandler.frame.Arrival :=
  (List.range 20).flatMap (fun count => [restartLine .p (10 + count), restartLine .r (10 + count)])

theorem restart_opens_iff :
    RvPktHandler.frame.Opens (run RvPktHandler.frame.step beforeRestart afterRestart)
        (restartLine .p 30) <->
      RvPktHandler.frame = .rtp ∨ ∀ port ∈ (RvPktHandler.frame.rv beforeRestart).cfg.ops.ports,
        stSessionRedundantErrorThreshold ≤
          RvPktHandler.frame.copiesInARow port beforeRestart afterRestart 0 :=
  (past_packet_opens_slot_iff .frame beforeRestart (by decide +kernel)
    (show Admitted RvPktHandler.frame.step RvPktHandler.frame.IsPast beforeRestart afterRestart by
      decide +kernel)
    (by decide +kernel) (by decide +kernel) (by decide +kernel)).1

/-- The twenty-first packet from the past finds the guard still closed. -/
theorem restarted_sender_stays_dropped :
    rvAttach 1024 restartRxOps none = .ok restartConfig ∧
    Admitted RvPktHandler.frame.step RvPktHandler.frame.IsPast beforeRestart afterRestart ∧
    (∀ port ∈ restartRxOps.ports, stSessionRedundantErrorThreshold ≤
      (afterRestart.filter (fun arrival => decide (arrival.port = port))).length) ∧
    RvPktHandler.frame.IsPast (run RvPktHandler.frame.step beforeRestart afterRestart)
      (restartLine .p 30) ∧
    ¬ RvPktHandler.frame.Opens (run RvPktHandler.frame.step beforeRestart afterRestart)
      (restartLine .p 30) := by
  refine ⟨rfl, ?_, ?_, ?_, ?_⟩
  · decide +kernel
  · decide +kernel
  · decide +kernel
  · decide +kernel

end MediaTransport.Video
