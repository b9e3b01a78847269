import MediaTransport.Anc.Chaining
import MediaTransport.Library.PortRings

namespace MediaTransport.Anc

open Library

/-!
# What one call of the frame tasklet does

A call first prepares: packets that were kept leave, a frame is taken, the
pacing is synchronised.  It may end there.  Otherwise it tries to build one
packet, with one of five outcomes.  Every invariant of the session is proved
for these few changes, and holds after every call by the results at the end.
-/

variable {after before s start : TxAncSession} {env : TxAncEnv}

/-! ## Preparations -/

def TxAncSession.SameClock (s start : TxAncSession) : Prop :=
  s.pacing = start.pacing ∧ s.calculateTimeCursor = start.calculateTimeCursor

/-- A change that does not build a packet, in a call that starts in this state. -/
inductive TxAncPrepares (env : TxAncEnv) (start : TxAncSession) : TxAncSession -> TxAncSession -> Prop
  | coded (s : TxAncSession) (code : Option TxAncRet) :
      TxAncPrepares env start s { s with buildRetCode := code }
  | flushed {s : TxAncSession} {port : MtlSessionPort} {pkt : TxPkt}
      (kept : s.inflight port = some pkt) :
      TxAncPrepares env start s
        { s.send port pkt with inflight := Function.update s.inflight port none }
  | taken {s : TxAncSession} {idx : Nat} {tcMeta : St40TxFrameMeta} {frame : St40Frame}
      (waiting : s.frameStat = .waitFrame) (free : (s.frames idx).refcnt = 0)
      (handed : env.getNextFrame (txAncillarySessionInitNextMeta s) = some (idx, tcMeta, frame)) :
      TxAncPrepares env start s (s.take idx tcMeta frame)
  | synced {s : TxAncSession} (sending : s.frameStat = .sendingPkts)
      (due : s.calculateTimeCursor = true) (here : s.SameClock start) :
      TxAncPrepares env start s (txAncSyncFrame env s)

def TxAncPrepared (env : TxAncEnv) (start : TxAncSession) : TxAncSession -> TxAncSession -> Prop :=
  Relation.ReflTransGen (TxAncPrepares env start)

theorem TxAncPrepared.preserves {invariant : TxAncSession -> Prop}
    (preserved : forall before after, invariant before -> TxAncPrepares env start before after ->
      invariant after)
    (prepared : TxAncPrepared env start before after)
    (initially : invariant before) : invariant after := by
  induction prepared with
  | refl => exact initially
  | tail _ last ih => exact preserved _ _ ih last

theorem TxAncPrepared.fail
    (prepared : TxAncPrepared env start before after) (code : TxAncRet) :
    TxAncPrepared env start before (after.fail code) :=
  prepared.tail (.coded after (some code))

theorem flush_spec (env : TxAncEnv) (start s : TxAncSession) (port : MtlSessionPort) (takes : Bool)
    (refused : TxAncRet) :
    TxAncPrepared env start s (s.flush port takes refused).1 ∧
      (s.flush port takes refused).1.cfg = s.cfg ∧ (s.flush port takes refused).1.SameClock s ∧
      (∀ other ≠ port, (s.flush port takes refused).1.inflight other = s.inflight other) ∧
      ((s.flush port takes refused).2 = true -> (s.flush port takes refused).1.inflight port = none) := by
  unfold TxAncSession.flush
  cases kept : s.inflight port with
  | none => exact ⟨.refl, rfl, ⟨rfl, rfl⟩, fun _ _ => rfl, fun _ => kept⟩
  | some pkt =>
    cases takes with
    | true =>
      exact ⟨.single (.flushed kept), rfl, ⟨rfl, rfl⟩,
        fun other different => Function.update_of_ne different _ _,
        fun _ => by simp⟩
    | false =>
      exact ⟨.single (.coded s (some refused)), rfl, ⟨rfl, rfl⟩, fun _ _ => rfl,
        fun absurd => (by cases absurd)⟩

def TxAncSession.Clear (s : TxAncSession) : Prop :=
  s.inflight .p = none ∧ (s.cfg.ops.numPort > 1 -> s.inflight .r = none)

theorem txAncNextFrame_spec (env : TxAncEnv) (start s : TxAncSession) :
    TxAncPrepared env start s (txAncNextFrame env s).1 ∧
      (txAncNextFrame env s).1.cfg = s.cfg ∧ (txAncNextFrame env s).1.SameClock s ∧
      (txAncNextFrame env s).1.inflight = s.inflight ∧
      ((txAncNextFrame env s).2 = true -> (txAncNextFrame env s).1.frameStat = .sendingPkts) := by
  unfold txAncNextFrame
  cases status : s.frameStat with
  | sendingPkts => exact ⟨.refl, rfl, ⟨rfl, rfl⟩, rfl, fun _ => status⟩
  | waitFrame =>
    dsimp only
    cases handed : env.getNextFrame (txAncillarySessionInitNextMeta s) with
    | none => exact ⟨TxAncPrepared.fail .refl _, rfl, ⟨rfl, rfl⟩, rfl, fun absurd => (by cases absurd)⟩
    | some offer =>
      rcases offer with ⟨idx, tcMeta, frame⟩
      dsimp only
      by_cases busy : (s.frames idx).refcnt ≠ 0
      · rw [if_pos busy]
        exact ⟨TxAncPrepared.fail .refl _, rfl, ⟨rfl, rfl⟩, rfl, fun absurd => (by cases absurd)⟩
      · rw [if_neg busy]
        have taken : TxAncPrepared env start s (s.take idx tcMeta frame) :=
          .single (.taken status (Decidable.not_not.mp busy) handed)
        by_cases refused : s.cfg.refusesTotal frame = true
        · rw [if_pos refused]
          exact ⟨taken.fail _, rfl, ⟨rfl, rfl⟩, rfl, fun absurd => (by cases absurd)⟩
        · rw [if_neg refused]
          exact ⟨taken, rfl, ⟨rfl, rfl⟩, rfl, fun _ => rfl⟩

/-! ## Synchronising the pacing -/

theorem txAncillaryPacingRequiredTai_shape (s : TxAncSession) (now : Nat) (tcMeta : St40TxFrameMeta) :
    Exists fun stats => (txAncillaryPacingRequiredTai s now tcMeta).1 = { s with stats := stats } := by
  unfold txAncillaryPacingRequiredTai
  dsimp only
  split
  · exact ⟨s.stats, rfl⟩
  · split
    · by_cases exact_pacing : s.cfg.ops.exactUserPacing = true
      · rw [if_pos exact_pacing]
        exact ⟨_, rfl⟩
      · rw [if_neg exact_pacing]
        exact ⟨s.stats, rfl⟩
    · split
      · exact ⟨_, rfl⟩
      · split
        · exact ⟨_, rfl⟩
        · exact ⟨s.stats, rfl⟩

theorem txAncillaryValidateUserTimestamp_shape (s : TxAncSession) (requested current maxFuture : Nat) :
    Exists fun stats =>
      txAncillaryValidateUserTimestamp s requested current maxFuture = { s with stats := stats } := by
  unfold txAncillaryValidateUserTimestamp
  split
  · exact ⟨_, rfl⟩
  · exact ⟨s.stats, rfl⟩

theorem txAncillaryCalcEpoch_shape (s : TxAncSession) (curTai requiredTai : Nat) :
    Exists fun stats => (txAncillaryCalcEpoch s curTai requiredTai).1 = { s with stats := stats } := by
  unfold txAncillaryCalcEpoch
  dsimp only
  split
  · split
    · exact txAncillaryValidateUserTimestamp_shape s _ _ _
    · exact txAncillaryValidateUserTimestamp_shape s _ _ _
  · split
    · exact ⟨s.stats, rfl⟩
    · split
      · split
        · exact ⟨_, rfl⟩
        · exact ⟨s.stats, rfl⟩
      · exact ⟨_, rfl⟩

theorem txAncillaryCalcEpoch_stats (s : TxAncSession) (stats : TxAncStats) (curTai requiredTai : Nat) :
    (txAncillaryCalcEpoch { s with stats := stats } curTai requiredTai).2 =
      (txAncillaryCalcEpoch s curTai requiredTai).2 := by
  unfold txAncillaryCalcEpoch
  dsimp only
  split
  · rfl
  · split
    · rfl
    · split
      · split <;> rfl
      · rfl

theorem txAncillarySessionSyncPacing_shape (s : TxAncSession) (curTai curTsc requiredTai : Nat) :
    Exists fun stats => Exists fun tsc =>
      txAncillarySessionSyncPacing s curTai curTsc requiredTai =
        { s with
          stats := stats
          pacing := { s.pacing with
            curEpochs := (txAncillaryCalcEpoch s curTai requiredTai).2
            ptpTimeCursor := s.cfg.startTimeTai (txAncillaryCalcEpoch s curTai requiredTai).2 requiredTai
            tscTimeCursor := tsc } } ∧
      (curTsc ≤ uint64Max -> tsc ≤ uint64Max) := by
  unfold txAncillarySessionSyncPacing
  rcases txAncillaryCalcEpoch_shape s curTai requiredTai with ⟨stats, shape⟩
  dsimp only
  rw [shape]
  refine ⟨_, _, rfl, fun small => ?_⟩
  split
  · exact Nat.le_refl _
  · omega

/-- A synchronisation gives the frame the timestamp that its packets will carry.  Without a demand
of the application it is that of the epoch. -/
theorem txAncSyncFrame_shape (env : TxAncEnv) {s : TxAncSession} (due : s.calculateTimeCursor = true) :
    Exists fun stats => Exists fun pacing : TxAncPacing => Exists fun tcMeta : St40TxFrameMeta =>
      Exists fun second =>
      txAncSyncFrame env s =
        { s with
          stats := stats
          pacing := pacing
          frames := Function.update s.frames s.frameIdx
            { s.frames s.frameIdx with tcMeta := tcMeta }
          secondField := second
          calculateTimeCursor := false
          events := .synced :: s.events } ∧
      tcMeta.rtpTimestamp = pacing.rtpTimeStamp ∧
      (env.syncTsc ≤ uint64Max -> pacing.tscTimeCursor ≤ uint64Max) ∧
      (s.cfg.ops.userPacing = false ∧ s.cfg.ops.userTimestamp = false ->
        pacing.curEpochs = (txAncillaryCalcEpoch s env.ptpTime 0).2 ∧
        pacing.rtpTimeStamp = st10TaiToMediaClk (s.cfg.startTimeTai pacing.curEpochs 0)
          s.cfg.fps.samplingClockRate) := by
  have none_required : s.cfg.ops.userPacing = false ->
      (txAncillaryPacingRequiredTai s env.requiredTaiNow (s.frames s.frameIdx).tcMeta).2 = 0 := by
    intro off
    unfold txAncillaryPacingRequiredTai
    rw [off]
    rfl
  unfold txAncSyncFrame
  rw [if_pos due]
  dsimp only
  rcases txAncillaryPacingRequiredTai_shape s env.requiredTaiNow (s.frames s.frameIdx).tcMeta
    with ⟨requiredStats, required⟩
  rw [required]
  generalize (txAncillaryPacingRequiredTai s env.requiredTaiNow (s.frames s.frameIdx).tcMeta).2 =
    requiredTai at none_required ⊢
  have counted : Exists fun stats =>
      (if s.cfg.ops.interlaced = true then
        { s with stats := requiredStats.countField (s.frames s.frameIdx).tcMeta.secondField }
      else { s with stats := requiredStats }) = { s with stats := stats } := by
    split
    · exact ⟨_, rfl⟩
    · exact ⟨_, rfl⟩
  rcases counted with ⟨countedStats, counted⟩
  dsimp only
  rw [counted]
  rcases txAncillarySessionSyncPacing_shape { s with stats := countedStats } env.ptpTime env.syncTsc
    requiredTai with ⟨syncStats, tsc, synced, bounded⟩
  rw [synced, txAncillaryCalcEpoch_stats]
  refine ⟨_, _, _, _, rfl, rfl, bounded, ?_⟩
  rintro ⟨noPacing, noStamp⟩
  rw [none_required noPacing]
  refine ⟨rfl, ?_⟩
  unfold txAncillaryUpdateRtpTimeStamp
  dsimp only
  rw [if_neg (by rw [noStamp]; exact Bool.false_ne_true)]

theorem txAncReachFrame_spec (env : TxAncEnv) (clock : s.SameClock start) :
    TxAncPrepared env start s (txAncReachFrame env s).1 ∧
      ((txAncReachFrame env s).2 = none ->
        (txAncReachFrame env s).1.frameStat = .sendingPkts ∧
        (txAncReachFrame env s).1.calculateTimeCursor = false ∧
        (txAncReachFrame env s).1.cfg = s.cfg ∧ (txAncReachFrame env s).1.inflight = s.inflight) := by
  rcases txAncNextFrame_spec env start s with ⟨prepared, cfg, same, inflight, sends⟩
  unfold txAncReachFrame
  rcases step : txAncNextFrame env s with ⟨mid, goesOn⟩
  rw [step] at prepared cfg same inflight sends
  cases goesOn with
  | false => exact ⟨prepared, fun absurd => (by cases absurd)⟩
  | true =>
    have sending := sends rfl
    dsimp only at prepared cfg same inflight sending ⊢
    have synced : TxAncPrepared env start s (txAncSyncFrame env mid) ∧
        (txAncSyncFrame env mid).frameStat = .sendingPkts ∧
        (txAncSyncFrame env mid).calculateTimeCursor = false ∧
        (txAncSyncFrame env mid).cfg = s.cfg ∧ (txAncSyncFrame env mid).inflight = s.inflight := by
      cases due : mid.calculateTimeCursor with
      | true =>
        have moved := prepared.tail
          (.synced sending due ⟨same.1.trans clock.1, same.2.trans clock.2⟩)
        rcases txAncSyncFrame_shape env due with ⟨_, _, _, _, shape, -⟩
        rw [shape] at moved ⊢
        exact ⟨moved, sending, rfl, cfg, inflight⟩
      | false =>
        have same : txAncSyncFrame env mid = mid := by
          unfold txAncSyncFrame
          rw [if_neg (by rw [due]; exact Bool.false_ne_true)]
        rw [same]
        exact ⟨prepared, sending, due, cfg, inflight⟩
    by_cases waits : txAncWaits env (txAncSyncFrame env mid) = true
    · rw [if_pos waits]
      exact ⟨synced.1.fail _, fun absurd => (by cases absurd)⟩
    · rw [if_neg waits]
      exact ⟨synced.1, fun _ => synced.2⟩

theorem txAncFlushRedundant_spec (env : TxAncEnv) (start s : TxAncSession) :
    TxAncPrepared env start s (txAncFlushRedundant env s).1 ∧
      (txAncFlushRedundant env s).1.cfg = s.cfg ∧ (txAncFlushRedundant env s).1.SameClock s ∧
      ((txAncFlushRedundant env s).1.inflight .p = s.inflight .p) ∧
      ((txAncFlushRedundant env s).2 = true -> s.cfg.ops.numPort > 1 ->
        (txAncFlushRedundant env s).1.inflight .r = none) := by
  unfold txAncFlushRedundant
  by_cases ports : s.cfg.ops.numPort > 1
  · rw [if_pos ports]
    rcases flush_spec env start s .r (env.takesInflight .r) .inflightREnqueueFail
      with ⟨prepared, cfg, same, others, clear⟩
    exact ⟨prepared, cfg, same, others .p (by decide), fun goesOn _ => clear goesOn⟩
  · rw [if_neg ports]
    exact ⟨.refl, rfl, ⟨rfl, rfl⟩, rfl, fun _ absurd => (ports absurd).elim⟩

theorem txAncReach_spec (env : TxAncEnv) {start s : TxAncSession} (clock : s.SameClock start) :
    TxAncPrepared env start s (txAncReach env s).1 ∧
      ((txAncReach env s).2 = none ->
        (txAncReach env s).1.frameStat = .sendingPkts ∧
        (txAncReach env s).1.calculateTimeCursor = false ∧ (txAncReach env s).1.Clear) := by
  unfold txAncReach
  by_cases full : env.ringFull = true
  · rw [if_pos full]
    exact ⟨TxAncPrepared.fail .refl _, fun absurd => (by cases absurd)⟩
  · rw [if_neg full]
    rcases flush_spec env start s .p (env.takesInflight .p) .inflightEnqueueFail
      with ⟨flushed, cfg, same, -, clear⟩
    rcases step : s.flush .p (env.takesInflight .p) .inflightEnqueueFail with ⟨first, goesOn⟩
    rw [step] at flushed cfg same clear
    cases goesOn with
    | false => exact ⟨flushed, fun absurd => (by cases absurd)⟩
    | true =>
      dsimp only at flushed cfg same clear ⊢
      rcases txAncFlushRedundant_spec env start first
        with ⟨flushedR, cfgR, sameR, kept, clearR⟩
      rcases stepR : txAncFlushRedundant env first with ⟨second, goesOnR⟩
      rw [stepR] at flushedR cfgR sameR kept clearR
      cases goesOnR with
      | false => exact ⟨flushed.trans flushedR, fun absurd => (by cases absurd)⟩
      | true =>
        dsimp only at flushedR cfgR sameR kept clearR ⊢
        have here : second.SameClock start :=
          ⟨sameR.1.trans (same.1.trans clock.1), sameR.2.trans (same.2.trans clock.2)⟩
        rcases txAncReachFrame_spec env here with ⟨reached, ends⟩
        refine ⟨(flushed.trans flushedR).trans reached, fun goes => ?_⟩
        rcases ends goes with ⟨sending, done, cfgF, inflightF⟩
        refine ⟨sending, done, ?_, fun ports => ?_⟩
        · rw [inflightF, kept]
          exact clear rfl
        · rw [inflightF]
          rw [cfgF, cfgR] at ports
          exact clearR rfl ports

/-! ## Outcomes -/

/-- All that was given to a port: what its queue has taken, and the packet that waits. -/
def TxAncSession.onPort (s : TxAncSession) (port : MtlSessionPort) : List TxPkt :=
  givenTo s.wire s.inflight port

def TxAncSession.abandon (s : TxAncSession) (code : TxAncRet) : TxAncSession :=
  { (s.fail code).release with calculateTimeCursor := false }

def TxAncSession.emit (s : TxAncSession) (env : TxAncEnv) (next : Nat) (rtp : TxRtp) : TxAncSession :=
  txAncSendPkts env
    (txAncAdvancePkt env { txAncillarySeqAdvance s with ancIdx := next } (s.cfg.packets rtp).1
      (s.cfg.packets rtp).2)
    (s.cfg.packets rtp).1 (s.cfg.packets rtp).2

def TxAncConfig.HasBuffers (cfg : TxAncConfig) (env : TxAncEnv) : Prop :=
  env.allocPkt = true ∧ (cfg.txNoChain = true ∨ env.allocChain = true)

/-- What a call does that goes on to build a packet. -/
inductive TxAncOutcome (env : TxAncEnv) (s : TxAncSession) : TxAncSession -> Prop
  | unallocated : TxAncOutcome env s (s.fail .pktAllocFail)
  | refused {code : TxAncRet} (fmd : s.cfg.ops.fastMetadata = true)
      (refusal : (txAncillarySessionBuildRtpPacket s env.mbuf s.ancIdx).2 = .error code)
      (reason : TxAncRet) : TxAncOutcome env s (s.abandon reason)
  | wasted {code : TxAncRet} (buffers : s.cfg.HasBuffers env) (anc : s.cfg.ops.fastMetadata = false)
      (refusal : (txAncillarySessionBuildRtpPacket s env.mbuf s.ancIdx).2 = .error code) :
      TxAncOutcome env s ((txAncillarySeqAdvance s).abandon code)
  | lost {built : Nat × TxRtp} (buffers : s.cfg.HasBuffers env)
      (result : (txAncillarySessionBuildRtpPacket s env.mbuf s.ancIdx).2 = .ok built)
      (ports : s.cfg.ops.numPort > 1) (missing : env.allocRedundant = false) :
      TxAncOutcome env s ((txAncillarySeqAdvance s).fail .pktAllocFail)
  | sent {next : Nat} {rtp : TxRtp}
      (built : txAncillarySessionBuildRtpPacket s env.mbuf s.ancIdx =
        (txAncillarySeqAdvance s, .ok (next, rtp)))
      (base : rtp.HasBase s.rtpBase) : TxAncOutcome env s (txAncFinishFrame (s.emit env next rtp))

theorem txAncillarySessionAbortFrame_sending {s : TxAncSession} (sending : s.frameStat = .sendingPkts) :
    txAncillarySessionAbortFrame s = { s.release with calculateTimeCursor := false } := by
  unfold txAncillarySessionAbortFrame
  rw [sending]

theorem txAncBuildFailed_sending {s : TxAncSession} (sending : s.frameStat = .sendingPkts)
    (code : TxAncRet) : Exists fun reason => txAncBuildFailed s code = s.abandon reason := by
  have recorded : Exists fun reason => (if s.buildRetCode.isNone then s.fail code else s) = s.fail reason := by
    cases before : s.buildRetCode with
    | none => exact ⟨code, rfl⟩
    | some reason =>
      have same : s.fail reason = s := by
        unfold TxAncSession.fail
        rw [← before]
      exact ⟨reason, same.symm⟩
  rcases recorded with ⟨reason, recorded⟩
  refine ⟨reason, ?_⟩
  unfold txAncBuildFailed
  rw [recorded]
  exact txAncillarySessionAbortFrame_sending sending

theorem txAncillarySeqAdvance_frameStat (s : TxAncSession) :
    (txAncillarySeqAdvance s).frameStat = s.frameStat := by
  unfold txAncillarySeqAdvance
  split <;> rfl

theorem txAncSendOne_outcome (env : TxAncEnv) (level : s.cfg.ops.type = .frameLevel)
    (sending : s.frameStat = .sendingPkts) : TxAncOutcome env s (txAncSendOne env s).1 := by
  have built : txAncBuild env s = (s.fail .pktAllocFail, none) ∨
      (s.cfg.HasBuffers env ∧
        txAncBuild env s = txAncBuildPackets env.allocRedundant env.mbuf s) := by
    unfold txAncBuild
    split
    · next single =>
        rw [txAncBuildSingle_eq]
        split
        · next alloc => exact Or.inr ⟨⟨alloc, Or.inl single⟩, rfl⟩
        · exact Or.inl rfl
    · rw [txAncBuildChained_eq env level]
      split
      · next alloc => exact Or.inr ⟨⟨alloc.1, Or.inr alloc.2⟩, rfl⟩
      · exact Or.inl rfl
  unfold txAncSendOne
  rcases built with failed | ⟨buffers, packets⟩
  · rw [failed]
    exact .unallocated
  · rw [packets]
    unfold txAncBuildPackets
    have advanced := txAncillarySeqAdvance_cfg s
    have status := (txAncillarySeqAdvance_frameStat s).trans sending
    rcases txAncillarySessionBuildRtpPacket_cases s env.mbuf s.ancIdx with
      ⟨fmd, code, recorded, refused⟩ | ⟨anc, code, refused⟩ | ⟨next, rtp, built, base⟩
    · rw [refused]
      rcases @txAncBuildFailed_sending { s with buildRetCode := recorded } sending code
        with ⟨reason, abandoned⟩
      dsimp only
      rw [abandoned]
      exact .refused fmd (congrArg Prod.snd refused) reason
    · rw [refused]
      have abandoned : txAncBuildFailed ((txAncillarySeqAdvance s).fail code) code =
          (txAncillarySeqAdvance s).abandon code :=
        @txAncillarySessionAbortFrame_sending ((txAncillarySeqAdvance s).fail code) status
      dsimp only
      rw [abandoned]
      exact .wasted buffers anc (congrArg Prod.snd refused)
    · rw [built]
      dsimp only
      by_cases missing : (txAncillarySeqAdvance s).cfg.ops.numPort > 1 ∧ env.allocRedundant = false
      · rw [if_pos missing]
        rw [advanced] at missing
        exact .lost buffers (congrArg Prod.snd built) missing.1 missing.2
      · rw [if_neg missing]
        have sends := @TxAncOutcome.sent env s next rtp built base
        unfold TxAncSession.emit at sends
        rw [← advanced] at sends
        exact sends

/-! ## One call, and whole runs -/

theorem TxAncPrepares.cfg_eq
    (prepares : TxAncPrepares env start before after) : after.cfg = before.cfg := by
  cases prepares with
  | coded code => rfl
  | flushed kept => rfl
  | taken waiting free handed => rfl
  | synced sending due here =>
    rcases txAncSyncFrame_shape env due with ⟨_, _, _, _, shape, -⟩
    rw [shape]

theorem TxAncPrepared.cfg_eq
    (prepared : TxAncPrepared env start before after) : after.cfg = before.cfg := by
  induction prepared with
  | refl => rfl
  | tail _ last ih => rw [last.cfg_eq, ih]

/-- The state in which a call starts to build a packet. -/
structure TxAncReady (env : TxAncEnv) (s mid : TxAncSession) : Prop where
  reached : txAncReach env { s with buildRetCode := none } = (mid, none)
  prepared : TxAncPrepared env s s mid
  sending : mid.frameStat = .sendingPkts
  synced : mid.calculateTimeCursor = false
  clear : mid.Clear

theorem txAncStep_cases (env : TxAncEnv) (level : s.cfg.ops.type = .frameLevel) :
    TxAncPrepared env s s (txAncStep s env) ∨
      Exists fun mid => TxAncReady env s mid ∧ TxAncOutcome env mid (txAncStep s env) := by
  have start : TxAncPrepared env s s { s with buildRetCode := none } :=
    .single (.coded s none)
  rcases @txAncReach_spec env s { s with buildRetCode := none } ⟨rfl, rfl⟩ with ⟨prepared, ends⟩
  unfold txAncStep txAncillarySessionTaskletFrame
  rcases reach : txAncReach env { s with buildRetCode := none } with ⟨mid, verdict⟩
  rw [reach] at prepared ends
  have whole : TxAncPrepared env s s mid := start.trans prepared
  cases verdict with
  | some ret => exact Or.inl whole
  | none =>
    rcases ends rfl with ⟨sending, synced, clear⟩
    have midLevel : mid.cfg.ops.type = .frameLevel := by
      rw [whole.cfg_eq]
      exact level
    exact Or.inr ⟨mid, ⟨reach, whole, sending, synced, clear⟩,
      txAncSendOne_outcome env midLevel sending⟩

theorem txAncStep_preserves {invariant : TxAncSession -> Prop} {env : TxAncEnv} {s : TxAncSession}
    (level : s.cfg.ops.type = .frameLevel)
    (prepares : forall before after, invariant before ->
      TxAncPrepares env s before after -> invariant after)
    (outcome : forall mid after, TxAncReady env s mid -> invariant mid -> TxAncOutcome env mid after ->
      invariant after)
    (before : invariant s) : invariant (txAncStep s env) := by
  rcases txAncStep_cases env level with only | ⟨mid, ready, result⟩
  · exact only.preserves prepares before
  · exact outcome mid _ ready (ready.prepared.preserves prepares before) result

/-! ## What a sent packet changes -/

theorem sendOrKeep_shape (s : TxAncSession) (port : MtlSessionPort) (pkt : TxPkt) (takes : Bool)
    (refused : TxAncRet) :
    Exists fun inflight => Exists fun count => Exists fun code => Exists fun wire =>
      s.sendOrKeep port pkt takes refused =
        { s with inflight := inflight, inflightCnt := count, buildRetCode := code, wire := wire } ∧
      (∀ other ≠ port, inflight other = s.inflight other) ∧
      (s.inflight port = none ->
        givenTo wire inflight = Function.update s.onPort port (s.onPort port ++ [pkt])) := by
  unfold TxAncSession.sendOrKeep TxAncSession.send
  cases takes with
  | true => exact ⟨s.inflight, s.inflightCnt, s.buildRetCode, _, rfl, fun _ _ => rfl, givenTo_put⟩
  | false =>
    exact ⟨_, _, _, s.wire, rfl, fun other different => Function.update_of_ne different _ _, givenTo_keep⟩

def TxAncConfig.Sends (cfg : TxAncConfig) (port : MtlSessionPort) : Prop :=
  port = .p ∨ cfg.ops.numPort > 1

theorem txAncillarySeqAdvance_shape (s : TxAncSession) :
    Exists fun seqId => Exists fun extSeqId =>
      txAncillarySeqAdvance s = { s with seqId := seqId, extSeqId := extSeqId } := by
  unfold txAncillarySeqAdvance
  split
  · exact ⟨_, _, rfl⟩
  · exact ⟨_, s.extSeqId, rfl⟩

/-- The session after a packet was given to the ports, up to counters and codes. -/
theorem emit_shape (env : TxAncEnv) (next : Nat) (rtp : TxRtp) (clear : s.Clear) :
    Exists fun inflight => Exists fun count => Exists fun code => Exists fun wire =>
      Exists fun stats => Exists fun tsc =>
      s.emit env next rtp =
        { txAncillarySeqAdvance s with
          ancIdx := next
          pktIdx := s.pktIdx + 1
          calculateTimeCursor := decide (s.pktIdx + 1 ≥ s.totalPkts)
          events := .built rtp :: s.events
          pacing := { s.pacing with tscTimeCursor := tsc }
          stats := stats
          inflight := inflight
          inflightCnt := count
          buildRetCode := code
          wire := wire } ∧
      forall port, s.cfg.Sends port ->
        (givenTo wire inflight port).map TxPkt.rtp = (s.onPort port).map TxPkt.rtp ++ [rtp] := by
  unfold TxAncSession.emit txAncSendPkts TxAncConfig.packets
  rcases txAncillarySeqAdvance_shape s with ⟨seqId, extSeqId, advanced⟩
  rw [advanced]
  dsimp only
  rcases sendOrKeep_shape (txAncAdvancePkt env
      { s with seqId := seqId, extSeqId := extSeqId, ancIdx := next } (s.cfg.packets rtp).1
      (s.cfg.packets rtp).2) .p (s.cfg.packets rtp).1 (env.takes .p) .pktEnqueueFail
    with ⟨inflight, count, code, wire, shape, others, onP⟩
  have given := onP clear.1
  have primary : (givenTo wire inflight .p).map TxPkt.rtp = (s.onPort .p).map TxPkt.rtp ++ [rtp] := by
    rw [given, Function.update_self, List.map_append]
    rfl
  unfold TxAncConfig.packets at shape
  dsimp only at shape
  by_cases ports : s.cfg.ops.numPort > 1
  · rw [if_pos ports] at shape ⊢
    dsimp only
    rw [shape]
    rcases sendOrKeep_shape { txAncAdvancePkt env
        { s with seqId := seqId, extSeqId := extSeqId, ancIdx := next } (s.cfg.packets rtp).1
        (s.cfg.packets rtp).2 with
          inflight := inflight, inflightCnt := count, buildRetCode := code, wire := wire }
      .r { net := s.cfg.netHdr .r rtp.bytes.length, rtp := rtp } (env.takes .r) .pktREnqueueFail
      with ⟨inflightR, countR, codeR, wireR, shapeR, -, onR⟩
    unfold TxAncConfig.packets at shapeR
    dsimp only at shapeR
    rw [if_pos ports] at shapeR
    rw [shapeR]
    refine ⟨_, _, _, _, _, _, rfl, fun port sends => ?_⟩
    rw [onR ((others .r (by decide)).trans (clear.2 ports))]
    cases port with
    | p =>
      rw [Function.update_of_ne (by decide)]
      exact primary
    | r =>
      have untouched : givenTo wire inflight .r = s.onPort .r := by
        rw [given]
        exact Function.update_of_ne (by decide) _ _
      rw [Function.update_self, List.map_append]
      exact congrArg (fun packets => packets.map TxPkt.rtp ++ [rtp]) untouched
  · rw [if_neg ports] at shape ⊢
    dsimp only
    rw [shape]
    refine ⟨_, _, _, _, _, _, rfl, fun port sends => ?_⟩
    rcases sends with isPrimary | absurd
    · rw [isPrimary]
      exact primary
    · exact (ports absurd).elim

end MediaTransport.Anc
