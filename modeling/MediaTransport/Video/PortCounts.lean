import MediaTransport.Video.Dispatch

namespace MediaTransport.Video

open Library

/-!
# The counts of the ports

A packet that is handed to the handler is counted once, by its port and by the
handler, and with it the sum over the ports stays what the handlers accepted.
The packet lcore calls the handler without counting, so this holds in exactly
those runs in which the lcore takes no packet.
-/

namespace RvPath

/-! ## The handlers -/

/-- What one handled packet does to the books of a session. -/
structure Settles (path : RvPath) (delivered : Nat) (before after : path.Session)
    (ret : Except Errno Unit) : Prop where
  cfg : (path.rv after).cfg = (path.rv before).cfg
  frames : path ≠ .plain .rtp -> ∀ port ∈ (path.rv before).cfg.ops.ports,
    FramesMore delivered ((path.rv before).stats.port port) ((path.rv after).stats.port port)
  account : OneAccount (path.rv before).stats.accepted (path.rv after).stats.accepted
    (path.dropped before) (path.dropped after) ret

theorem handle_settles (path : RvPath) (env : path.Env) (s : path.Session) (packet : path.Packet)
    (port : MtlSessionPort) (ctrlThread : Bool) :
    let result := path.handle env s packet port ctrlThread
    path.Settles (completed result.events) s result.session result.ret := by
  cases path with
  | plain handler =>
    have settles := RvPktHandler.handle_settles env s packet port ctrlThread
    exact ⟨settles.cfg, fun looks => settles.frames (fun same => looks (congrArg plain same)),
      settles.account⟩
  | dma =>
    have outcome := rvDmaHandleFramePkt_outcome env s packet port ctrlThread
    have own : @RvPktHandler.SameOwn .frame (RvDmaSession.rv s)
        (rvDmaHandleFramePkt env s packet port ctrlThread).session.rv := by
      intro reason other
      cases reason with
      | shared drop => exact False.elim (other drop rfl)
      | _ => rfl
    have settles := RvPktHandler.Settles.of_outcome outcome own
    exact ⟨settles.cfg, fun _ => settles.frames (by decide), settles.account⟩

/-- A step that settles no packet. -/
structure Idle (path : RvPath) (delivered : Nat) (before after : path.Session) : Prop where
  frames : path ≠ .plain .rtp -> ∀ port ∈ (path.rv before).cfg.ops.ports,
    FramesMore delivered ((path.rv before).stats.port port) ((path.rv after).stats.port port)
  accepted : (path.rv after).stats.accepted = (path.rv before).stats.accepted
  dropped : path.dropped after = path.dropped before

section

variable (path : RvPath) (s : path.Session)

theorem Idle.refl : path.Idle 0 s s :=
  ⟨fun _ _ _ => FramesMore.same rfl rfl, rfl, rfl⟩

theorem returnFrames_idle (returned : List Nat) :
    path.Idle 0 s (path.returnFrames s returned) := by
  have stats (s : RvSession) : (rvReturnFrames s returned).stats = s.stats := by
    rw [rvReturnFrames_eq]
  have same : (path.rv (path.returnFrames s returned)).stats = (path.rv s).stats := by
    cases path with
    | plain handler =>
      cases handler with
      | frame => exact stats s
      | st22 => exact stats s
      | hdrSplit => exact stats (RvHdrSplitSession.rv s)
      | rtp => rfl
    | dma => exact stats (RvDmaSession.rv s)
  refine ⟨fun _ port _ => ?_, by rw [same], funext (fun reason => ?_)⟩
  · rw [same]
    exact FramesMore.same rfl rfl
  · cases reason with
    | shared drop =>
      have counts := congrFun (congrArg RvStats.dropped same) drop
      cases path <;> exact counts
    | _ =>
      cases path with
      | plain handler => cases handler <;> rfl
      | dma => rfl

theorem takeRtps_idle (count : Nat) :
    path.Idle 0 s (path.takeRtps s count) := by
  cases path with
  | plain handler =>
    cases handler with
    | rtp =>
      refine ⟨fun absurd => False.elim (absurd rfl), rfl, funext (fun reason => ?_)⟩
      cases reason <;> rfl
    | _ => exact Idle.refl _ s
  | dma => exact Idle.refl _ s

theorem dequeue_idle (env : RvEnv) (nbDq : Nat) :
    path.Idle (completed (path.dequeue s env nbDq).2) s (path.dequeue s env nbDq).1 := by
  cases path with
  | plain handler => exact Idle.refl _ s
  | dma =>
    have booked := (quiet_dmaSteps.dequeue env nbDq s).booked
    refine ⟨fun _ => booked.frames, booked.accepted, funext (fun reason => ?_)⟩
    cases reason with
    | shared drop => exact congrFun booked.dropped drop
    | _ => rfl

end

end RvPath

/-! ## The books of the ports -/

variable {path : RvPath}

/-- The ports counted what the handlers accepted, and what they dropped. -/
structure RvDispatch.Balanced (s : RvDispatch path) : Prop where
  packets : (s.port .p).packets + (s.port .r).packets = (path.rv s.session).stats.accepted
  errors : (s.port .p).errPackets + (s.port .r).errPackets =
    Finset.univ.sum (path.dropped s.session)

/-- The port counts a packet: as accepted, or as an error with one reason. -/
structure CountedOnce (port : MtlSessionPort) (before after : RvDispatch path) : Prop where
  others : ∀ other ≠ port, after.port other = before.port other
  once :
    ((after.port port).packets = (before.port port).packets + 1 ∧
      (after.port port).errPackets = (before.port port).errPackets ∧
      path.dropped after.session = path.dropped before.session) ∨
    ((after.port port).packets = (before.port port).packets ∧
      (after.port port).errPackets = (before.port port).errPackets + 1 ∧
      Exists fun reason => path.dropped after.session =
        Function.update (path.dropped before.session) reason
          (path.dropped before.session reason + 1))

def RvDispatch.lcoreTakes (s : RvDispatch path) (read : Option Rfc9134Packet -> RvMbuf) : Bool :=
  match path.lcoreHandle read, s.pktLcoreRing with
  | some _, some (_ :: _) => true
  | _, _ => false

def RvDispatch.handledFor (s : RvDispatch path) : RvTask path -> Option MtlSessionPort
  | .dispatch port arrived => if arrived.simulateLoss then none else some port
  | .lcore _ read => if s.lcoreTakes read then some .p else none
  | _ => none

/-- What is asked of a step: the packet that it hands to a handler is counted
once, the books of the ports balance after it, and every live port counts each
complete frame once, as whole or as partial. -/
structure Conserves (s : RvDispatch path) (task : RvTask path) : Prop where
  packet : forall port, s.handledFor task = some port -> CountedOnce port s (rvTaskStep s task)
  balanced : (rvTaskStep s task).Balanced
  frames : path ≠ .plain .rtp -> ∀ port ∈ (path.rv s.session).cfg.ops.ports,
    FramesMore (completed (rvPerform s task).2) ((path.rv s.session).stats.port port)
      ((path.rv (rvTaskStep s task).session).stats.port port)

def LcoreIdle (s : RvDispatch path) : RvTask path -> Prop
  | .lcore _ read => s.lcoreTakes read = false
  | _ => True

/-! ## One step -/

theorem Conserves.of_idle {s : RvDispatch path} {task : RvTask path} (balanced : s.Balanced)
    (handled : s.handledFor task = none) (port : (rvTaskStep s task).port = s.port)
    (idle : path.Idle (completed (rvPerform s task).2) s.session (rvTaskStep s task).session) :
    Conserves s task where
  packet port for' := by
    rw [handled] at for'
    cases for'
  balanced := ⟨by rw [port, idle.accepted]; exact balanced.packets,
    by rw [port, idle.dropped]; exact balanced.errors⟩
  frames := idle.frames

theorem sum_update_port (values : MtlSessionPort -> RvPortPkts) (port : MtlSessionPort)
    (value : RvPortPkts) (count : RvPortPkts -> Nat) (more : Nat)
    (grows : count value = count (values port) + more) :
    count (Function.update values port value .p) + count (Function.update values port value .r) =
      count (values .p) + count (values .r) + more := by
  cases port with
  | p =>
    rw [Function.update_self, Function.update_of_ne (by decide), grows]
    omega
  | r =>
    rw [Function.update_self, Function.update_of_ne (by decide), grows]
    omega

theorem sum_dropped_update (dropped : RvReason -> Nat) (reason : RvReason) :
    Finset.univ.sum (Function.update dropped reason (dropped reason + 1)) =
      Finset.univ.sum dropped + 1 := by
  rw [Finset.sum_update_of_mem (Finset.mem_univ reason),
    ← Finset.add_sum_erase _ dropped (Finset.mem_univ reason), Finset.sdiff_singleton_eq_erase]
  omega

/-- A round of the loop counts the packet that it hands to the handler. -/
theorem dispatch_conserves {s : RvDispatch path} (balanced : s.Balanced) (port : MtlSessionPort)
    (arrived : RvArrived path) : Conserves s (.dispatch port arrived) := by
  by_cases lost : arrived.simulateLoss = true
  · have result : rvPerform s (.dispatch port arrived) =
        ({ s with pktsSimulateLoss := s.pktsSimulateLoss + 1 }, []) := if_pos lost
    refine Conserves.of_idle balanced (if_pos lost) ?_ ?_
    · rw [rvTaskStep, result]
    · rw [rvTaskStep, result]
      exact RvPath.Idle.refl path s.session
  · have settles := path.handle_settles arrived.env s.session arrived.packet port
      s.pktLcoreRing.isNone
    generalize answer : path.handle arrived.env s.session arrived.packet port
      s.pktLcoreRing.isNone = result at settles
    have performed : (rvPerform s (.dispatch port arrived)).2 = result.events := by
      rw [← answer]
      exact congrArg Prod.snd (if_neg lost)
    have session : (rvTaskStep s (.dispatch port arrived)).session = result.session := by
      rw [← answer]
      exact congrArg (fun pair => RvDispatch.session (Prod.fst pair)) (if_neg lost)
    have ports : (rvTaskStep s (.dispatch port arrived)).port =
        Function.update s.port port ((s.port port).count arrived.pktLen result.ret) := by
      rw [← answer]
      exact congrArg (fun pair => RvDispatch.port (Prod.fst pair)) (if_neg lost)
    have account := settles.account
    refine ⟨fun other for' => ?_, ?_, ?_⟩
    · have same : port = other := Option.some.inj ((if_neg lost).symm.trans for')
      subst same
      refine ⟨fun other differ => by rw [ports, Function.update_of_ne differ], ?_⟩
      rw [ports, session, Function.update_self]
      cases code : result.ret with
      | ok value =>
        rw [code] at account
        exact Or.inl ⟨rfl, rfl, account.2⟩
      | error errno =>
        rw [code] at account
        exact Or.inr ⟨rfl, rfl, account.2⟩
    · cases code : result.ret with
      | ok value =>
        rw [code] at account ports
        have sum := sum_update_port s.port port ((s.port port).count arrived.pktLen (.ok value))
        refine ⟨?_, ?_⟩
        · rw [ports, session, account.1, ← balanced.packets]
          exact sum RvPortPkts.packets 1 rfl
        · rw [ports, session, account.2, ← balanced.errors]
          exact sum RvPortPkts.errPackets 0 rfl
      | error errno =>
        rw [code] at account ports
        rcases account with ⟨same, reason, one⟩
        have sum := sum_update_port s.port port ((s.port port).count arrived.pktLen (.error errno))
        refine ⟨?_, ?_⟩
        · rw [ports, session, same, ← balanced.packets]
          exact sum RvPortPkts.packets 0 rfl
        · rw [ports, session, one, sum_dropped_update, ← balanced.errors]
          exact sum RvPortPkts.errPackets 1 rfl
    · rw [performed, session]
      exact settles.frames

theorem rvPktLcore_idle {s : RvDispatch path} (env : path.Env)
    {read : Option Rfc9134Packet -> RvMbuf} (idle : s.lcoreTakes read = false) :
    rvPktLcore s env read = (s, []) := by
  unfold RvDispatch.lcoreTakes at idle
  unfold rvPktLcore
  cases looks : path.lcoreHandle read with
  | none => rfl
  | some handle =>
    cases queue : s.pktLcoreRing with
    | none => rfl
    | some ring =>
      cases ring with
      | nil => rfl
      | cons packet rest =>
        rw [looks, queue] at idle
        cases idle

theorem step_conserves {s : RvDispatch path} (balanced : s.Balanced) {task : RvTask path}
    (idle : LcoreIdle s task) : Conserves s task := by
  cases task with
  | enqueue burst =>
    have rest : (rvEnqueueBulk s burst).port = s.port ∧
        (rvEnqueueBulk s burst).session = s.session := by
      unfold rvEnqueueBulk
      cases s.pktLcoreRing with
      | none => exact ⟨rfl, rfl⟩
      | some ring =>
        dsimp only
        split <;> exact ⟨rfl, rfl⟩
    refine Conserves.of_idle balanced rfl rest.1 ?_
    show path.Idle 0 s.session (rvEnqueueBulk s burst).session
    rw [rest.2]
    exact RvPath.Idle.refl path s.session
  | dispatch port arrived => exact dispatch_conserves balanced port arrived
  | lcore env read =>
    have handled : s.handledFor (.lcore env read) = none := by
      have none : s.lcoreTakes read = false := idle
      rw [RvDispatch.handledFor, none]
      rfl
    have result : rvPerform s (.lcore env read) = (s, []) := rvPktLcore_idle env idle
    refine Conserves.of_idle balanced handled ?_ ?_
    · rw [rvTaskStep, result]
    · rw [rvTaskStep, result]
      exact RvPath.Idle.refl path s.session
  | putFrames returned =>
    exact Conserves.of_idle balanced rfl rfl (path.returnFrames_idle s.session returned)
  | takeRtps count => exact Conserves.of_idle balanced rfl rfl (path.takeRtps_idle s.session count)
  | dequeue env nbDq =>
    exact Conserves.of_idle balanced rfl rfl (path.dequeue_idle s.session env nbDq)

theorem rvPktLcore_port (s : RvDispatch path) (env : path.Env)
    (read : Option Rfc9134Packet -> RvMbuf) : (rvPktLcore s env read).1.port = s.port := by
  unfold rvPktLcore
  split <;> rfl

theorem lcoreIdle_of_conserves {s : RvDispatch path} {task : RvTask path}
    (conserves : Conserves s task) : LcoreIdle s task := by
  cases task with
  | lcore env read =>
    by_contra taken
    have takes : s.lcoreTakes read = true := by
      cases decided : s.lcoreTakes read with
      | true => rfl
      | false => exact False.elim (taken decided)
    have handled : s.handledFor (.lcore env read) = some .p := by
      rw [RvDispatch.handledFor, takes]
      rfl
    have ports : (rvTaskStep s (.lcore env read)).port = s.port := rvPktLcore_port s env read
    rcases (conserves.packet .p handled).once with ⟨packets, -⟩ | ⟨-, errors, -⟩
    · rw [ports] at packets
      omega
    · rw [ports] at errors
      omega
  | _ => trivial

/-! ## Runs -/

theorem attach_balanced (session : path.Session) (pktLcore : Bool) (ringRoom : Nat) :
    (rvDispatchAttach session pktLcore ringRoom : RvDispatch path).Balanced := by
  have zero : (path.rv (path.reset session)).stats = RvStats.zero := by
    cases path with
    | plain handler => cases handler <;> rfl
    | dma => rfl
  have none : path.dropped (path.reset session) = fun _ => 0 := by
    funext reason
    cases reason with
    | shared drop =>
      have counts := congrFun (congrArg RvStats.dropped zero) drop
      cases path <;> exact counts
    | _ =>
      cases path with
      | plain handler => cases handler <;> rfl
      | dma => rfl
  refine ⟨?_, ?_⟩
  · show 0 = (path.rv (path.reset session)).stats.accepted
    rw [zero]
    rfl
  · show 0 = Finset.univ.sum (path.dropped (path.reset session))
    rw [none]
    exact Finset.sum_const_zero.symm

/-- In every run, with any handler, with or without a DMA device: every packet
that is handed to a handler is counted once, the books of the ports balance
after every step, and every live port counts each complete frame once, exactly
if the packet lcore never takes a packet. -/
theorem packets_conserved_iff (session : path.Session) (pktLcore : Bool) (ringRoom : Nat)
    (tasks : List (RvTask path)) :
    Admitted rvTaskStep Conserves (rvDispatchAttach session pktLcore ringRoom) tasks ↔
      Admitted rvTaskStep LcoreIdle (rvDispatchAttach session pktLcore ringRoom) tasks := by
  constructor
  · exact admitted_of_invariant rvTaskStep Conserves (fun _ => True) (fun _ _ _ _ => trivial)
      (fun s task _ conserves => lcoreIdle_of_conserves conserves) trivial
  · exact admitted_of_invariant rvTaskStep LcoreIdle RvDispatch.Balanced
      (fun s task balanced idle => (step_conserves balanced idle).balanced)
      (fun s task balanced idle => step_conserves balanced idle)
      (attach_balanced session pktLcore ringRoom)

/-! ## A packet that no port counts -/

/-- A receiver of four lines of two pixels with a packet lcore, which gives it
two slots. -/
def lcoreConfig : RvConfig :=
  { ops :=
      { width := 2, height := 4, fmt := .yuv422Bit10, interlaced := false, linesize := 0
        payloadType := 112, ssrc := 0, numPort := 1, type := .frameLevel, framebuffCnt := 3
        sliceLines := 0, uframeSize := 0, receiveIncompleteFrame := false, enableRtcp := false
        queryExtFrame := false }
    st22 := none, st20Pg := st20GetPgroup .yuv422Bit10, st20BytesInLine := 5, st20Linesize := 5
    st20FbSize := 20, st20FrameSize := 20, st20FrameBitmapSize := 1, sliceLines := 0
    sliceSize := 0, slotMax := 2, userMetaBufferSize := 1024 }

def lcoreStart : RvDispatch (.plain .frame) := rvDispatchAttach (rvInit lcoreConfig) true 127

def lcoreLine : RvMbuf :=
  { pkt :=
      { marker := false, payloadType := 112, seqNumber := 0, seqNumberExt := 0
        tmstamp := 1000, ssrc := 0, rowLength := 5, rowNumber := 0, rowOffset := 0
        body := List.replicate 5 0 }
    multiSegment := false }

def lcoreEnv : HdrSplitEnv :=
  { notifyRecycled := 0, notifyFull := 0, queryExt := none, portDown := fun _ => false
    timeStamp := 0, missEstimate := 0, extAddr := 0 }

def lcoreTasks : List (RvTask (.plain .frame)) :=
  [.enqueue [lcoreLine], .lcore lcoreEnv (fun _ => lcoreLine)]

/-- The lcore's packet is received, and no port counts it. -/
theorem lcore_packet_uncounted :
    (rvAttach 1024 lcoreConfig.ops none).map (fun cfg => { cfg with slotMax := 2 }) =
        .ok lcoreConfig ∧
      ((run rvTaskStep lcoreStart lcoreTasks).port .p).packets +
          ((run rvTaskStep lcoreStart lcoreTasks).port .r).packets = 0 ∧
      (RvPath.rv _ (run rvTaskStep lcoreStart lcoreTasks).session).stats.accepted = 1 ∧
      ¬ Admitted rvTaskStep Conserves lcoreStart lcoreTasks := by
  refine ⟨rfl, by decide +kernel, by decide +kernel, fun conserved => ?_⟩
  have idle : RvDispatch.lcoreTakes (rvTaskStep lcoreStart (.enqueue [lcoreLine]))
      (fun _ => lcoreLine) = false := lcoreIdle_of_conserves conserved.2.1
  exact Bool.noConfusion (idle.symm.trans (by decide +kernel : _ = true))

end MediaTransport.Video
