import MediaTransport.Video.Handlers
import MediaTransport.Video.QuietSteps

namespace MediaTransport.Video

/-!
# What becomes of a packet

Every handler settles the packet it is given once: it is new, repeated or user
meta data, or it is dropped for one reason.  On the way the loss of the
session stays the loss of its ports, and every live port counts each complete
frame once, as whole or as partial.
-/

/-! ## The books -/

variable (stats : RvStats) (s : RvRtpSession) {delivered : Nat} {many more : Nat} (env : RvEnv)
  {before after : RvSession} (port : MtlSessionPort)

def RvStats.accepted (stats : RvStats) : Nat :=
  stats.pktsReceived + stats.pktsRedundant + stats.pktsUserMeta

def RvStats.LossesAgree (stats : RvStats) : Prop :=
  stats.lostPackets = (stats.port .p).lostPackets + (stats.port .r).lostPackets

/-- The port counted so many complete frames more, each as whole or partial. -/
def FramesMore (count : Nat) (before after : RvPortStats) : Prop :=
  Exists fun whole => Exists fun part => whole + part = count ∧
    after.frames = before.frames + whole ∧ after.framesPartial = before.framesPartial + part

theorem FramesMore.same {before after : RvPortStats} (frames : after.frames = before.frames)
    (part : after.framesPartial = before.framesPartial) : FramesMore 0 before after :=
  ⟨0, 0, rfl, frames, part⟩

theorem FramesMore.trans {first second third : RvPortStats} (left : FramesMore many first second)
    (right : FramesMore more second third) :
    FramesMore (many + more) first third := by
  rcases left with ⟨whole, part, total, frames, partial'⟩
  rcases right with ⟨wholeMore, partMore, totalMore, framesMore, partialMore⟩
  exact ⟨whole + wholeMore, part + partMore, by omega, by omega, by omega⟩

theorem OneFrameMore.framesMore {before after : RvPortStats} (one : OneFrameMore before after) :
    FramesMore 1 before after := by
  rcases one with ⟨frames, part⟩ | ⟨frames, part⟩
  · exact ⟨1, 0, rfl, frames, part⟩
  · exact ⟨0, 1, rfl, frames, part⟩

/-! ### Counters -/

/-- Counting settles nothing. -/
structure SameBooks (before after : RvStats) : Prop where
  accepted : after.accepted = before.accepted
  dropped : after.dropped = before.dropped
  losses : before.LossesAgree -> after.LossesAgree
  frames : forall port, (after.port port).frames = (before.port port).frames ∧
    (after.port port).framesPartial = (before.port port).framesPartial

theorem lossesAgree_lost {stats : RvStats} (agree : stats.LossesAgree) (port : MtlSessionPort)
    (count : Nat) :
    RvStats.LossesAgree
      { stats.setPort port
          { stats.port port with lostPackets := (stats.port port).lostPackets + count } with
        lostPackets := stats.lostPackets + count } := by
  unfold RvStats.LossesAgree at agree ⊢
  cases port with
  | p =>
    have self := setPort_port_self stats .p
      { stats.port .p with lostPackets := (stats.port .p).lostPackets + count }
    have other := setPort_port_of_ne stats
      { stats.port .p with lostPackets := (stats.port .p).lostPackets + count }
      (show MtlSessionPort.r ≠ .p by decide)
    dsimp only
    rw [self, other]
    dsimp only
    omega
  | r =>
    have self := setPort_port_self stats .r
      { stats.port .r with lostPackets := (stats.port .r).lostPackets + count }
    have other := setPort_port_of_ne stats
      { stats.port .r with lostPackets := (stats.port .r).lostPackets + count }
      (show MtlSessionPort.p ≠ .r by decide)
    dsimp only
    rw [self, other]
    dsimp only
    omega

theorem lossesAgree_setPort {stats : RvStats} (agree : stats.LossesAgree) (port : MtlSessionPort)
    {values : RvPortStats} (same : values.lostPackets = (stats.port port).lostPackets) :
    (stats.setPort port values).LossesAgree := by
  have each : forall other, ((stats.setPort port values).port other).lostPackets =
      (stats.port other).lostPackets := by
    intro other
    by_cases equal : other = port
    · rw [equal, setPort_port_self, same]
    · rw [setPort_port_of_ne stats values equal]
  unfold RvStats.LossesAgree at agree ⊢
  rw [each, each]
  exact agree

theorem setPort_frames {values : RvPortStats} (frames : values.frames = (stats.port port).frames)
    (part : values.framesPartial = (stats.port port).framesPartial) (other : MtlSessionPort) :
    ((stats.setPort port values).port other).frames = (stats.port other).frames ∧
      ((stats.setPort port values).port other).framesPartial =
        (stats.port other).framesPartial := by
  by_cases equal : other = port
  · rw [equal, setPort_port_self]
    exact ⟨frames, part⟩
  · rw [setPort_port_of_ne stats values equal]
    exact ⟨rfl, rfl⟩

theorem CountStep.sameBooks {before after : RvStats} (step : CountStep before after) :
    SameBooks before after := by
  cases step with
  | lost port count =>
    exact ⟨rfl, rfl, fun agree => lossesAgree_lost agree port count,
      setPort_frames before port rfl rfl⟩
  | reordered port count =>
    exact ⟨rfl, rfl, fun agree => lossesAgree_setPort agree port rfl,
      setPort_frames before port rfl rfl⟩
  | received count => exact ⟨rfl, rfl, fun agree => agree, fun _ => ⟨rfl, rfl⟩⟩
  | incomplete count unrecovered => exact ⟨rfl, rfl, fun agree => agree, fun _ => ⟨rfl, rfl⟩⟩
  | fields first second => exact ⟨rfl, rfl, fun agree => agree, fun _ => ⟨rfl, rfl⟩⟩
  | buffers getFrameFail queryExtFail => exact ⟨rfl, rfl, fun agree => agree, fun _ => ⟨rfl, rfl⟩⟩
  | slices failed merged received => exact ⟨rfl, rfl, fun agree => agree, fun _ => ⟨rfl, rfl⟩⟩
  | boxes count => exact ⟨rfl, rfl, fun agree => agree, fun _ => ⟨rfl, rfl⟩⟩
  | retransmit count => exact ⟨rfl, rfl, fun agree => agree, fun _ => ⟨rfl, rfl⟩⟩

theorem Counted.sameBooks {before after : RvStats} (counted : Counted before after) :
    SameBooks before after := by
  induction counted with
  | refl => exact ⟨rfl, rfl, fun agree => agree, fun _ => ⟨rfl, rfl⟩⟩
  | tail _ step ih =>
    have last := step.sameBooks
    exact
      { accepted := last.accepted.trans ih.accepted
        dropped := last.dropped.trans ih.dropped
        losses := fun agree => last.losses (ih.losses agree)
        frames := fun port =>
          ⟨(last.frames port).1.trans (ih.frames port).1,
            (last.frames port).2.trans (ih.frames port).2⟩ }

/-! ### Sessions -/

/-- Nothing is settled, and so many complete frames are handed over. -/
structure Booked (delivered : Nat) (before after : RvSession) : Prop where
  cfg : after.cfg = before.cfg
  accepted : after.stats.accepted = before.stats.accepted
  dropped : after.stats.dropped = before.stats.dropped
  losses : before.stats.LossesAgree -> after.stats.LossesAgree
  frames : ∀ port ∈ before.cfg.ops.ports,
    FramesMore delivered (before.stats.port port) (after.stats.port port)

theorem Booked.of_same (cfg : after.cfg = before.cfg) (stats : after.stats = before.stats)
    : Booked 0 before after where
  cfg := cfg
  accepted := by rw [stats]
  dropped := by rw [stats]
  losses agree := by rw [stats]; exact agree
  frames port _ := by rw [stats]; exact FramesMore.same rfl rfl

theorem Booked.trans {many more : Nat} {first second third : RvSession}
    (left : Booked many first second) (right : Booked more second third) :
    Booked (many + more) first third where
  cfg := right.cfg.trans left.cfg
  accepted := right.accepted.trans left.accepted
  dropped := right.dropped.trans left.dropped
  losses agree := right.losses (left.losses agree)
  frames port live := (left.frames port live).trans (right.frames port (left.cfg ▸ live))

theorem Quiet.booked (quiet : Quiet delivered before after) : Booked delivered before after := by
  induction quiet with
  | refl s => exact Booked.of_same rfl rfl
  | trans _ _ left right => exact left.trans right
  | counted s steps =>
    have same := steps.sameBooks
    exact ⟨rfl, same.accepted, same.dropped, same.losses,
      fun port _ => FramesMore.same (same.frames port).1 (same.frames port).2⟩
  | delivered s step =>
    refine ⟨rfl, ?_, ?_, fun agree => ?_, fun port live => (step.each port live).framesMore⟩
    · exact (congrArg RvStats.accepted step.rest).trans rfl
    · exact (congrArg RvStats.dropped step.rest).trans rfl
    · have lost := congrArg RvStats.lostPackets step.rest
      exact lost.trans (agree.trans (congrArg₂ Nat.add (step.lost .p).symm (step.lost .r).symm))
  | frames s frames => exact Booked.of_same rfl rfl
  | slot s idx slot stamp => exact Booked.of_same rfl rfl
  | sizes s => exact Booked.of_same rfl rfl

theorem reopened_booked (s : RvSession) (idx tmstamp : Nat) :
    Booked (completed (rvReuseSlot env s idx tmstamp).2) s
      (rvAssignFrame env (rvReuseSlot env s idx tmstamp).1 idx).1 := by
  have retired := (quiet_retireSlot env s idx).booked
  have reused : Booked 0 (rvRetireSlot env s idx).1 (rvReuseSlot env s idx tmstamp).1 :=
    Booked.of_same rfl rfl
  exact (retired.trans reused).trans (quiet_assignFrame env _ idx).booked

theorem rvSlotByTmstamp_booked (s : RvSession) (tmstamp : Nat) :
    Booked (completed (rvSlotByTmstamp env s tmstamp).events) s
      (rvSlotByTmstamp env s tmstamp).session := by
  unfold rvSlotByTmstamp
  cases rvFindSlot s tmstamp with
  | some idx => exact Booked.of_same rfl rfl
  | none =>
    dsimp only
    split
    · exact Booked.of_same rfl rfl
    · exact reopened_booked env s (rvNextSlot s) tmstamp

/-! ## Settling -/

def Settled (before after : RvStats) : Except Errno Unit -> Prop
  | .ok _ => after.accepted = before.accepted + 1 ∧ after.dropped = before.dropped
  | .error _ => after.accepted = before.accepted ∧ Exists fun reason =>
    after.dropped = Function.update before.dropped reason (before.dropped reason + 1)

/-- One packet is settled, and so many complete frames are handed over. -/
structure Outcome (delivered : Nat) (before after : RvSession) (ret : Except Errno Unit) :
    Prop where
  cfg : after.cfg = before.cfg
  losses : before.stats.LossesAgree -> after.stats.LossesAgree
  frames : ∀ port ∈ before.cfg.ops.ports,
    FramesMore delivered (before.stats.port port) (after.stats.port port)
  settled : Settled before.stats after.stats ret

section

variable {before after : RvStats} {ret : Except Errno Unit} (step : SettleStep before after ret)

include step

theorem SettleStep.settled : Settled before after ret := by
  cases step with
  | received => exact ⟨by simp only [RvStats.accepted]; omega, rfl⟩
  | redundant => exact ⟨by simp only [RvStats.accepted]; omega, rfl⟩
  | userMeta => exact ⟨by simp only [RvStats.accepted]; omega, rfl⟩
  | dropped reason errno => exact ⟨rfl, reason, rfl⟩

theorem SettleStep.ports :
    after.port = before.port ∧ after.lostPackets = before.lostPackets := by
  cases step <;> exact ⟨rfl, rfl⟩

end

theorem Settled.congr {before after first last : RvStats} {ret : Except Errno Unit}
    (settled : Settled before after ret) (firstAccepted : before.accepted = first.accepted)
    (firstDropped : before.dropped = first.dropped) (lastAccepted : last.accepted = after.accepted)
    (lastDropped : last.dropped = after.dropped) : Settled first last ret := by
  cases ret with
  | ok value =>
    exact ⟨by rw [lastAccepted, settled.1, firstAccepted],
      by rw [lastDropped, settled.2, firstDropped]⟩
  | error errno =>
    rcases settled with ⟨same, reason, one⟩
    exact ⟨by rw [lastAccepted, same, firstAccepted], reason,
      by rw [lastDropped, one, firstDropped]⟩

theorem Handled.outcome {ret : Except Errno Unit} (handled : Handled delivered before after ret)
    : Outcome delivered before after ret := by
  rcases handled.split with ⟨middle, stats, left, step, right⟩
  have first := left.booked
  have last := right.booked
  have ports := step.ports
  refine ⟨last.cfg.trans first.cfg, fun agree => last.losses ?_, fun port live => ?_,
    step.settled.congr first.accepted first.dropped last.accepted last.dropped⟩
  · have agreed := first.losses agree
    unfold RvStats.LossesAgree at agreed ⊢
    rw [RvSession.withStats, ports.1, ports.2]
    exact agreed
  · have more := (first.frames port live).trans ((FramesMore.same
      (congrArg RvPortStats.frames (congrFun ports.1 port))
      (congrArg RvPortStats.framesPartial (congrFun ports.1 port))).trans
        (last.frames port (first.cfg ▸ live)))
    rw [Nat.zero_add, Nat.zero_add] at more
    exact more

theorem Outcome.after_booked {first second third : RvSession} {ret : Except Errno Unit}
    (booked : Booked many first second) (outcome : Outcome more second third ret)
    : Outcome (many + more) first third ret where
  cfg := outcome.cfg.trans booked.cfg
  losses agree := outcome.losses (booked.losses agree)
  frames port live := (booked.frames port live).trans (outcome.frames port (booked.cfg ▸ live))
  settled := outcome.settled.congr booked.accepted booked.dropped rfl rfl

/-! ## The handlers -/

theorem Outcome.of_count {ret : Except Errno Unit} (same : many = more)
    (outcome : Outcome many before after ret) :
    Outcome more before after ret := same ▸ outcome

theorem rvCountCopy_outcome (s : RvSession) (slotIdx : Nat) (port : MtlSessionPort) (count : Nat) :
    Outcome 0 s ((rvCountRedundant s slotIdx port).setRedundant port count) (.ok ()) := by
  have counted := (rvCountRedundant_handled s slotIdx port).outcome
  exact ⟨counted.cfg, counted.losses, counted.frames, counted.settled⟩

theorem rvDmaSlotByTmstamp_booked (env : DmaEnv) (s : RvDmaSession) (tmstamp : Nat) :
    Booked (completed (rvDmaSlotByTmstamp env s tmstamp).events) s.rv
      (rvDmaSlotByTmstamp env s tmstamp).session.rv := by
  unfold rvDmaSlotByTmstamp
  cases rvFindSlot s.rv tmstamp with
  | some idx => exact Booked.of_same rfl rfl
  | none =>
    dsimp only
    split
    · exact Booked.of_same rfl rfl
    · have ready := (quiet_dmaSteps.ready env s tmstamp).booked
      generalize rvDmaReady env s tmstamp = waited at ready ⊢
      split
      · rw [completed_append]
        exact ready.trans (reopened_booked env.toRvEnv waited.session.rv (rvNextSlot waited.session.rv) tmstamp)
      · exact ready

/-- The handler as a whole: whatever the device reports meanwhile, the packet is settled once. -/
theorem rvDmaHandleFramePkt_outcome (env : DmaEnv) (s : RvDmaSession) (mbuf : RvMbuf)
    (port : MtlSessionPort) (ctrlThread : Bool) :
    let result := rvDmaHandleFramePkt env s mbuf port ctrlThread
    Outcome (completed result.events) s.rv result.session.rv result.ret := by
  have counted := (quiet_countRetransmit s.rv (rvReadLine mbuf.pkt)).booked
  unfold rvDmaHandleFramePkt
  dsimp only
  have same : (s.withRv (rvCountRetransmit s.rv (rvReadLine mbuf.pkt))).rv =
    rvCountRetransmit s.rv (rvReadLine mbuf.pkt) := rfl
  rw [← same] at counted
  generalize s.withRv (rvCountRetransmit s.rv (rvReadLine mbuf.pkt)) = first at counted ⊢
  cases rvHeaderCheck first.rv.cfg mbuf with
  | some reason => exact Outcome.after_booked counted (rvDrop_handled first.rv reason).outcome
  | none =>
    dsimp only
    have looked := counted.trans (rvDmaSlotByTmstamp_booked env first mbuf.pkt.tmstamp)
    rw [Nat.zero_add] at looked
    generalize rvDmaSlotByTmstamp env first mbuf.pkt.tmstamp = answer at looked ⊢
    have cleared : Booked 0 answer.session.rv (answer.session.rv.setRedundant port 0) :=
      Booked.of_same rfl rfl
    cases answer.slot with
    | none =>
      exact Outcome.after_booked (looked.trans cleared)
        (rvDrop_handled (answer.session.rv.setRedundant port 0) .noSlot).outcome
    | some idx =>
      dsimp only
      cases (answer.session.rv.slots idx).frame with
      | none =>
        exact Outcome.after_booked looked (rvCountCopy_outcome answer.session.rv idx port _)
      | some frame =>
        refine Outcome.of_count ?_ (Outcome.after_booked (looked.trans cleared)
          (rvDmaHandleInSlot_handled env
            (answer.session.withRv (answer.session.rv.setRedundant port 0)) idx frame mbuf
            port ctrlThread).outcome)
        exact (completed_append _ _).symm

theorem rvHandleFramePkt_outcome (s : RvSession) (mbuf : RvMbuf) (port : MtlSessionPort)
    (ctrlThread : Bool) :
    Outcome (completed (rvHandleFramePkt env s mbuf port ctrlThread).events) s
      (rvHandleFramePkt env s mbuf port ctrlThread).session
      (rvHandleFramePkt env s mbuf port ctrlThread).ret := by
  rw [rvHandleFramePkt_eq_plain]
  exact rvDmaHandleFramePkt_outcome env.refusing s.idle mbuf port ctrlThread

theorem rvHandleSt22Pkt_outcome (s : RvSession) (mbuf : Option Rfc9134Packet) (port : MtlSessionPort) :
    Outcome (completed (rvHandleSt22Pkt env s mbuf port).events) s
      (rvHandleSt22Pkt env s mbuf port).session (rvHandleSt22Pkt env s mbuf port).ret := by
  unfold rvHandleSt22Pkt
  cases mbuf with
  | none => exact (rvDrop_handled s .wrongLen).outcome
  | some pkt =>
    dsimp only
    cases rvSt22HeaderCheck s.cfg pkt with
    | some reason => exact (rvDrop_handled s reason).outcome
    | none =>
      dsimp only
      have looked := rvSlotByTmstamp_booked env s pkt.tmstamp
      generalize rvSlotByTmstamp env s pkt.tmstamp = answer at looked ⊢
      have cleared : Booked 0 answer.session (answer.session.setRedundant port 0) :=
        Booked.of_same rfl rfl
      cases answer.slot with
      | none =>
        exact Outcome.after_booked (looked.trans cleared)
          (rvDrop_handled (answer.session.setRedundant port 0) .noSlot).outcome
      | some idx =>
        dsimp only
        cases (answer.session.slots idx).frame with
        | none =>
          exact Outcome.after_booked looked (rvCountCopy_outcome answer.session idx port _)
        | some frame =>
          refine Outcome.of_count ?_ (Outcome.after_booked (looked.trans cleared)
            (rvSt22HandleInSlot_handled env _ idx frame pkt port).outcome)
          exact (completed_append _ _).symm

/-! ## All reasons and all handlers -/

/-- The reasons for which some handler drops a packet. -/
inductive RvReason where
  | shared (reason : RvDrop)
  | rtpRingFull
  | notBpm
  | wrongPayloadHdrSplit
  deriving DecidableEq, Repr

instance : Fintype RvDrop where
  elems := {.wrongPt, .wrongSsrc, .wrongInterlace, .wrongKmod, .multiSegments, .noSlot,
    .userMetaErr, .offset, .wrongLen, .idxOoBitmap, .idx}
  complete reason := by cases reason <;> decide

instance : Fintype RvReason where
  elems := Finset.univ.image RvReason.shared ∪ {.rtpRingFull, .notBpm, .wrongPayloadHdrSplit}
  complete reason := by cases reason <;> simp

/-- The packets of a session that were dropped, by reason. -/
def RvPktHandler.dropped (handler : RvPktHandler) (s : handler.Session) : RvReason -> Nat
  | .shared reason => (handler.rv s).stats.dropped reason
  | .rtpRingFull =>
    match handler, s with
    | .rtp, s => RvRtpSession.pktsRtpRingFull s
    | _, _ => 0
  | .notBpm =>
    match handler, s with
    | .hdrSplit, s => (RvHdrSplitSession.splitStats s).notBpm
    | _, _ => 0
  | .wrongPayloadHdrSplit =>
    match handler, s with
    | .hdrSplit, s => (RvHdrSplitSession.splitStats s).wrongPayloadHdrSplit
    | _, _ => 0

def OneAccount (accepted acceptedAfter : Nat) (dropped droppedAfter : RvReason -> Nat) :
    Except Errno Unit -> Prop
  | .ok _ => acceptedAfter = accepted + 1 ∧ droppedAfter = dropped
  | .error _ => acceptedAfter = accepted ∧ Exists fun reason =>
    droppedAfter = Function.update dropped reason (dropped reason + 1)

namespace RvPktHandler

variable {handler : RvPktHandler}

/-- What one handled packet does to the books of a session. -/
structure Settles (delivered : Nat) (before after : handler.Session) (ret : Except Errno Unit) :
    Prop where
  cfg : (handler.rv after).cfg = (handler.rv before).cfg
  losses : (handler.rv before).stats.LossesAgree -> (handler.rv after).stats.LossesAgree
  frames : handler ≠ .rtp -> ∀ port ∈ (handler.rv before).cfg.ops.ports,
    FramesMore delivered ((handler.rv before).stats.port port) ((handler.rv after).stats.port port)
  account : OneAccount (handler.rv before).stats.accepted (handler.rv after).stats.accepted
    (handler.dropped before) (handler.dropped after) ret

def SameOwn (before after : handler.Session) : Prop :=
  forall reason, (forall drop, reason ≠ .shared drop) ->
    handler.dropped after reason = handler.dropped before reason

theorem Settles.of_outcome {delivered : Nat} {before after : handler.Session}
    {ret : Except Errno Unit} (outcome : Outcome delivered (handler.rv before) (handler.rv after) ret)
    (own : SameOwn before after) : Settles delivered before after ret := by
  refine ⟨outcome.cfg, outcome.losses, fun _ => outcome.frames, ?_⟩
  have settled := outcome.settled
  cases ret with
  | ok value =>
    refine ⟨settled.1, funext (fun reason => ?_)⟩
    cases reason with
    | shared drop => exact congrFun settled.2 drop
    | rtpRingFull => exact own _ (fun _ absurd => by cases absurd)
    | notBpm => exact own _ (fun _ absurd => by cases absurd)
    | wrongPayloadHdrSplit => exact own _ (fun _ absurd => by cases absurd)
  | error errno =>
    rcases settled with ⟨same, drop, one⟩
    refine ⟨same, .shared drop, funext (fun reason => ?_)⟩
    by_cases equal : reason = .shared drop
    · rw [equal, Function.update_self]
      exact (congrFun one drop).trans (Function.update_self ..)
    · rw [Function.update_of_ne equal]
      cases reason with
      | shared other =>
        have differ : other ≠ drop := fun same => equal (congrArg RvReason.shared same)
        exact (congrFun one other).trans (Function.update_of_ne differ ..)
      | rtpRingFull => exact own _ (fun _ absurd => by cases absurd)
      | notBpm => exact own _ (fun _ absurd => by cases absurd)
      | wrongPayloadHdrSplit => exact own _ (fun _ absurd => by cases absurd)

theorem Settles.of_count {many more : Nat} {before after : handler.Session}
    {ret : Except Errno Unit} (same : many = more) (settles : Settles many before after ret) :
    Settles more before after ret := same ▸ settles

theorem Settles.after_booked {many more : Nat} {first second third : handler.Session}
    {ret : Except Errno Unit} (booked : Booked many (handler.rv first) (handler.rv second))
    (own : SameOwn first second) (settles : Settles more second third ret) :
    Settles (many + more) first third ret := by
  have dropped : handler.dropped second = handler.dropped first := by
    funext reason
    cases reason with
    | shared drop => exact congrFun booked.dropped drop
    | rtpRingFull => exact own _ (fun _ absurd => by cases absurd)
    | notBpm => exact own _ (fun _ absurd => by cases absurd)
    | wrongPayloadHdrSplit => exact own _ (fun _ absurd => by cases absurd)
  refine ⟨settles.cfg.trans booked.cfg, fun agree => settles.losses (booked.losses agree),
    fun looks port live => ?_, ?_⟩
  · exact (booked.frames port live).trans (settles.frames looks port (booked.cfg ▸ live))
  · have account := settles.account
    rw [dropped, booked.accepted] at account
    exact account

/-! ### Header split -/

theorem sameOwn_hdrSplit {before after : RvHdrSplitSession}
    (notBpm : after.splitStats.notBpm = before.splitStats.notBpm)
    (wrong : after.splitStats.wrongPayloadHdrSplit = before.splitStats.wrongPayloadHdrSplit) :
    @SameOwn .hdrSplit before after := by
  intro reason other
  cases reason with
  | shared drop => exact False.elim (other drop rfl)
  | rtpRingFull => rfl
  | notBpm => exact notBpm
  | wrongPayloadHdrSplit => exact wrong

theorem hdrSplit_drop_settles (s : RvHdrSplitSession) (reason : RvDrop) (errno : Errno) :
    @Settles .hdrSplit 0 s (s.drop reason).session (.error errno) :=
  @Settles.of_outcome .hdrSplit 0 s (s.drop reason).session (.error errno)
    (Handled.of_step (SettleStep.dropped s.rv.stats reason errno) (Quiet.refl _)).outcome
    (sameOwn_hdrSplit rfl rfl)

theorem hdrSplit_own_settles {before after : RvHdrSplitSession} (reason : RvReason) (errno : Errno)
    (rv : after.rv = before.rv)
    (one : @dropped .hdrSplit after = Function.update (@dropped .hdrSplit before) reason
      (@dropped .hdrSplit before reason + 1)) :
    @Settles .hdrSplit 0 before after (.error errno) := by
  have same : Booked 0 before.rv after.rv := Booked.of_same (by rw [rv]) (by rw [rv])
  exact ⟨same.cfg, same.losses, fun _ => same.frames, same.accepted, reason, one⟩

theorem rvHdrSplitStorePacket_settles (env : HdrSplitEnv) (s : RvHdrSplitSession)
    (slotIdx frame : Nat) (place : RvPlacement) (port : MtlSessionPort) :
    @Settles .hdrSplit (completed (rvHdrSplitStorePacket env s slotIdx frame place port).events) s
      (rvHdrSplitStorePacket env s slotIdx frame place port).session
      (rvHdrSplitStorePacket env s slotIdx frame place port).ret := by
  have seen : Quiet 0 s.rv s.view := Quiet.frames s.rv _
  have fresh := SettleStep.received s.view.stats
  unfold rvHdrSplitStorePacket
  dsimp only
  set counted := s.view.withStats
    { s.rv.stats with pktsReceived := s.rv.stats.pktsReceived + 1 }
  rcases rvSlices_counted counted ((s.rv.slots slotIdx).gained place.payloadLength port)
    frame place with ⟨counts, kept, noFrame⟩
  have stored := (Quiet.slot counted slotIdx _ kept).after
    (Quiet.counted (counted.setSlot slotIdx _) counts)
  split
  · have full := stored.before (quiet_slotFullFrame env.toRvEnv _ slotIdx frame)
    refine @Settles.of_outcome .hdrSplit _ s _ _
      (Handled.after_quiet seen (Handled.of_step fresh ?_)).outcome (sameOwn_hdrSplit rfl rfl)
    exact Quiet.of_count (completed_of_first noFrame).symm full
  · refine @Settles.of_outcome .hdrSplit _ s _ _
      (Handled.after_quiet seen (Handled.of_step fresh ?_)).outcome (sameOwn_hdrSplit rfl rfl)
    exact Quiet.of_count noFrame.symm stored

theorem hdrSplit_before {first second third : RvHdrSplitSession} {ret : Except Errno Unit}
    (booked : Booked 0 first.rv second.rv) (notBpm : second.splitStats.notBpm = first.splitStats.notBpm)
    (wrong : second.splitStats.wrongPayloadHdrSplit = first.splitStats.wrongPayloadHdrSplit)
    (settles : @Settles .hdrSplit delivered second third ret) :
    @Settles .hdrSplit delivered first third ret := by
  have both := @Settles.after_booked .hdrSplit 0 delivered first second third ret booked
    (sameOwn_hdrSplit notBpm wrong) settles
  rw [Nat.zero_add] at both
  exact both

section

variable (env : HdrSplitEnv) (s : RvHdrSplitSession)

theorem rvHdrSplitPlacePacket_settles
    (slotIdx frame : Nat) (mbuf : HdrSplitMbuf) (pktIdx : Nat) (port : MtlSessionPort) :
    @Settles .hdrSplit
      (completed (rvHdrSplitPlacePacket env s slotIdx frame mbuf pktIdx port).events) s
      (rvHdrSplitPlacePacket env s slotIdx frame mbuf pktIdx port).session
      (rvHdrSplitPlacePacket env s slotIdx frame mbuf pktIdx port).ret := by
  unfold rvHdrSplitPlacePacket
  dsimp only
  split
  · exact hdrSplit_drop_settles s .offset _
  · split
    · refine hdrSplit_own_settles .notBpm .io rfl (funext (fun reason => ?_))
      cases reason <;> rfl
    · cases rvHdrSplitWhere (s.info port) pktIdx mbuf.payloadAddr mbuf.pkt.marker with
      | base =>
        refine hdrSplit_before ?_ ?_ ?_ (rvHdrSplitStorePacket_settles env
          (rvHdrSplitRebase s port mbuf.payloadAddr) slotIdx frame _ port)
        · rw [rvHdrSplitRebase_rv]
          exact Booked.of_same rfl rfl
        · unfold rvHdrSplitRebase
          dsimp only
          split <;> rfl
        · unfold rvHdrSplitRebase
          dsimp only
          split <;> rfl
      | inPlace => exact rvHdrSplitStorePacket_settles env s slotIdx frame _ port
      | copy =>
        have copied : Booked 0 s.rv
            (rvHdrSplitCopy s frame mbuf.payloadAddr (rvHdrSplitPlacement s.rv.cfg mbuf.pkt)).rv :=
          Booked.of_same rfl rfl
        exact hdrSplit_before copied rfl rfl
          (rvHdrSplitStorePacket_settles env _ slotIdx frame _ port)
      | lost =>
        refine hdrSplit_own_settles .wrongPayloadHdrSplit .io rfl (funext (fun reason => ?_))
        cases reason <;> rfl

theorem rvHdrSplitHandleInSlot_settles
    (slotIdx frame : Nat) (mbuf : HdrSplitMbuf) (port : MtlSessionPort) :
    @Settles .hdrSplit (completed (rvHdrSplitHandleInSlot env s slotIdx frame mbuf port).events) s
      (rvHdrSplitHandleInSlot env s slotIdx frame mbuf port).session
      (rvHdrSplitHandleInSlot env s slotIdx frame mbuf port).ret := by
  unfold rvHdrSplitHandleInSlot
  dsimp only
  set slot := { s.rv.slots slotIdx with secondField := hasBit topBit mbuf.pkt.rowNumber }
  have flagged : Booked 0 s.rv (s.withRv (s.rv.setSlot slotIdx slot)).rv := Booked.of_same rfl rfl
  refine hdrSplit_before flagged rfl rfl ?_
  generalize s.withRv (s.rv.setSlot slotIdx slot) = first
  cases rvHdrSplitIndex first.rv.cfg slot mbuf.pkt port with
  | drop reason => exact hdrSplit_drop_settles first reason _
  | redundant =>
    exact @Settles.of_outcome .hdrSplit 0 first _ _
      (rvCountRedundant_handled first.rv slotIdx port).outcome (sameOwn_hdrSplit rfl rfl)
  | fresh pktIdx marked reordered =>
    dsimp only
    have reorder := (quiet_countReordered first.rv port reordered).booked
    have placed : Booked 0 (rvCountReordered first.rv port reordered) (first.withRv
        ((rvCountReordered first.rv port reordered).setSlot slotIdx
          (marked.advance pktIdx port))).rv := Booked.of_same rfl rfl
    exact hdrSplit_before (reorder.trans placed) rfl rfl
      (rvHdrSplitPlacePacket_settles env _ slotIdx frame mbuf pktIdx port)

theorem rvHandleHdrSplitPkt_settles (mbuf : HdrSplitMbuf) (port : MtlSessionPort) :
    @Settles .hdrSplit (completed (rvHandleHdrSplitPkt env s mbuf port).events) s
      (rvHandleHdrSplitPkt env s mbuf port).session (rvHandleHdrSplitPkt env s mbuf port).ret := by
  unfold rvHandleHdrSplitPkt
  cases rvHdrSplitHeaderCheck s.rv.cfg mbuf.pkt with
  | some reason => exact hdrSplit_drop_settles s reason _
  | none =>
    dsimp only
    split
    · exact hdrSplit_drop_settles s .noSlot .inval
    · have seen : Booked 0 s.rv s.view := Booked.of_same rfl rfl
      have looked := seen.trans (rvSlotByTmstamp_booked env.toRvEnv s.view mbuf.pkt.tmstamp)
      rw [Nat.zero_add] at looked
      generalize rvSlotByTmstamp env.toRvEnv s.view mbuf.pkt.tmstamp = answer at looked ⊢
      have cleared : Booked 0 answer.session (answer.session.setRedundant port 0) :=
        Booked.of_same rfl rfl
      have own : @SameOwn .hdrSplit s (s.withRv (answer.session.setRedundant port 0)) :=
        sameOwn_hdrSplit rfl rfl
      cases answer.slot with
      | none =>
        exact @Settles.after_booked .hdrSplit _ _ s _ _ _ (looked.trans cleared) own
          (hdrSplit_drop_settles (s.withRv (answer.session.setRedundant port 0)) .noSlot _)
      | some idx =>
        dsimp only
        cases (answer.session.slots idx).frame with
        | none =>
          exact @Settles.after_booked .hdrSplit _ 0 s (s.withRv answer.session) _ _ looked
            (sameOwn_hdrSplit rfl rfl) (@Settles.of_outcome .hdrSplit 0 _ _ _
              (rvCountCopy_outcome answer.session idx port _) (sameOwn_hdrSplit rfl rfl))
        | some frame =>
          dsimp only
          have framed : Booked 0 (s.withRv (answer.session.setRedundant port 0)).rv
              (rvHdrSplitNewFrame env (s.withRv (answer.session.setRedundant port 0))
                answer.existTs frame mbuf.payloadAddr).rv := by
            rw [rvHdrSplitNewFrame_rv]
            exact Booked.of_same rfl rfl
          have kept : @SameOwn .hdrSplit s
              (rvHdrSplitNewFrame env (s.withRv (answer.session.setRedundant port 0))
                answer.existTs frame mbuf.payloadAddr) := by
            unfold rvHdrSplitNewFrame
            split
            · exact own
            · split <;> exact sameOwn_hdrSplit rfl rfl
          have stored := @Settles.after_booked .hdrSplit _ _ s _ _ _
            ((looked.trans cleared).trans framed) kept
            (rvHdrSplitHandleInSlot_settles env _ idx frame mbuf port)
          exact @Settles.of_count .hdrSplit _ _ s _ _ (completed_append _ _).symm stored

end

/-! ### RTP level -/

theorem sameOwn_rtp {before after : RvRtpSession}
    (full : after.pktsRtpRingFull = before.pktsRtpRingFull) : @SameOwn .rtp before after := by
  intro reason other
  cases reason with
  | shared drop => exact False.elim (other drop rfl)
  | rtpRingFull => exact full
  | notBpm => rfl
  | wrongPayloadHdrSplit => rfl

theorem rtp_settles {before after : RvRtpSession} {ret : Except Errno Unit}
    (cfg : after.rv.cfg = before.rv.cfg)
    (losses : before.rv.stats.LossesAgree -> after.rv.stats.LossesAgree)
    (account : OneAccount before.rv.stats.accepted after.rv.stats.accepted
      (@dropped .rtp before) (@dropped .rtp after) ret) :
    @Settles .rtp delivered before after ret :=
  ⟨cfg, losses, fun absurd => False.elim (absurd rfl), account⟩

theorem rtp_drop_settles (reason : RvDrop) :
    @Settles .rtp 0 s (s.drop reason).session (s.drop reason).ret :=
  @Settles.of_outcome .rtp 0 s _ _
    (Handled.of_step (SettleStep.dropped s.rv.stats reason reason.errno) (Quiet.refl _)).outcome
    (sameOwn_rtp rfl)

theorem rvRtpEnqueue_settles (pkt : RvRtpPacket) :
    @Settles .rtp 0 s (rvRtpEnqueue s pkt).session (rvRtpEnqueue s pkt).ret := by
  unfold rvRtpEnqueue
  split
  · exact @Settles.of_outcome .rtp 0 s _ _
      (Handled.of_step (SettleStep.received s.rv.stats) (Quiet.refl _)).outcome (sameOwn_rtp rfl)
  · refine rtp_settles rfl (fun agree => agree) ⟨rfl, .rtpRingFull, funext (fun reason => ?_)⟩
    cases reason <;> rfl

/-- Counting a gap or a frame at the RTP level settles nothing. -/
structure RtpCounted (before after : RvStats) : Prop where
  accepted : after.accepted = before.accepted
  dropped : after.dropped = before.dropped
  losses : before.LossesAgree -> after.LossesAgree

theorem rvRtpCountGap_counted (last : Int) (pktIdx : Nat)
    : RtpCounted stats (rvRtpCountGap stats port last pktIdx) := by
  unfold rvRtpCountGap
  dsimp only
  split
  · exact ⟨rfl, rfl, fun agree => lossesAgree_lost agree port _⟩
  · split
    · exact ⟨rfl, rfl, fun agree => lossesAgree_setPort agree port rfl⟩
    · exact ⟨rfl, rfl, fun agree => agree⟩

theorem rvRtpCountFrame_counted : RtpCounted stats (rvRtpCountFrame stats port) := by
  refine ⟨rfl, rfl, fun agree => ?_⟩
  exact @lossesAgree_setPort stats agree port
    { stats.port port with frames := (stats.port port).frames + 1 } rfl

theorem rtp_after_counted {s : RvRtpSession} {stats : RvStats} (counted : RtpCounted s.rv.stats stats)
    (idx : Nat) (slot : RvSlot) (pkt : RvRtpPacket) :
    @Settles .rtp 0 s
      (rvRtpEnqueue (s.withRv ((s.rv.withStats stats).setSlot idx slot)) pkt).session
      (rvRtpEnqueue (s.withRv ((s.rv.withStats stats).setSlot idx slot)) pkt).ret := by
  have queued := rvRtpEnqueue_settles (s.withRv ((s.rv.withStats stats).setSlot idx slot)) pkt
  refine rtp_settles queued.cfg (fun agree => queued.losses (counted.losses agree)) ?_
  have dropped : @dropped .rtp (s.withRv ((s.rv.withStats stats).setSlot idx slot)) =
      @dropped .rtp s := by
    funext reason
    cases reason with
    | shared drop => exact congrFun counted.dropped drop
    | rtpRingFull => rfl
    | notBpm => rfl
    | wrongPayloadHdrSplit => rfl
  have accepted : (s.withRv ((s.rv.withStats stats).setSlot idx slot)).rv.stats.accepted =
      s.rv.stats.accepted := counted.accepted
  have account := queued.account
  rw [dropped] at account
  exact accepted ▸ account

theorem rvRtpHandleInSlot_settles (slotIdx : Nat) (pkt : RvRtpPacket) (port : MtlSessionPort) :
    @Settles .rtp 0 s (rvRtpHandleInSlot s slotIdx pkt port).session
      (rvRtpHandleInSlot s slotIdx pkt port).ret := by
  unfold rvRtpHandleInSlot
  dsimp only
  split
  · split
    · exact rtp_drop_settles s .idxOoBitmap
    · split
      · exact @Settles.of_outcome .rtp 0 s _ _
          (Handled.of_step (SettleStep.redundant s.rv.stats) (Quiet.refl _)).outcome
          (sameOwn_rtp rfl)
      · exact rtp_after_counted (rvRtpCountGap_counted s.rv.stats port _ _) slotIdx _ pkt
  · exact rtp_after_counted (rvRtpCountFrame_counted s.rv.stats port) slotIdx _ pkt

theorem rvHandleRtpPkt_settles (pkt : RvRtpPacket) (port : MtlSessionPort) :
    @Settles .rtp 0 s (rvHandleRtpPkt s pkt port).session (rvHandleRtpPkt s pkt port).ret := by
  unfold rvHandleRtpPkt
  cases rvRtpHeaderCheck s.rv.cfg pkt with
  | some reason => exact rtp_drop_settles s reason
  | none =>
    have found : Booked 0 s.rv (rvRtpSlotByTmstamp s.rv pkt.tmstamp).1 := by
      unfold rvRtpSlotByTmstamp
      cases rvRtpFindSlot s.rv pkt.tmstamp with
      | some idx => exact Booked.of_same rfl rfl
      | none => exact Booked.of_same rfl rfl
    exact @Settles.after_booked .rtp 0 0 s (s.withRv (rvRtpSlotByTmstamp s.rv pkt.tmstamp).1) _ _
      found (sameOwn_rtp rfl) (rvRtpHandleInSlot_settles _ _ pkt port)

/-! ### The family -/

theorem handle_settles (env : HdrSplitEnv) (s : handler.Session) (packet : handler.Packet)
    (port : MtlSessionPort) (ctrlThread : Bool) :
    let result := handler.handle env s packet port ctrlThread
    Settles (completed result.events) s result.session result.ret := by
  have shared (before after : handler.Session) (looks : handler = .frame ∨ handler = .st22) :
      SameOwn before after := by
    intro reason other
    rcases looks with rfl | rfl
    · cases reason with
      | shared drop => exact False.elim (other drop rfl)
      | _ => rfl
    · cases reason with
      | shared drop => exact False.elim (other drop rfl)
      | _ => rfl
  cases handler with
  | frame =>
    exact Settles.of_outcome (rvHandleFramePkt_outcome env.toRvEnv s packet port ctrlThread)
      (shared _ _ (Or.inl rfl))
  | st22 =>
    exact Settles.of_outcome (rvHandleSt22Pkt_outcome env.toRvEnv s packet port)
      (shared _ _ (Or.inr rfl))
  | hdrSplit => exact rvHandleHdrSplitPkt_settles env s packet port
  | rtp => exact rvHandleRtpPkt_settles s packet port

end RvPktHandler

end MediaTransport.Video
