import MediaTransport.Audio.Transmitter
import MediaTransport.Library.PortRings
import MediaTransport.Library.Run

namespace MediaTransport.Audio

open Library

/-!
# What one call of the audio tasklet does

A call first prepares: packets that were kept leave, a frame is taken, the
pacing is synchronised.  It may end there.  Otherwise it tries to build one
packet, with one of three outcomes.  Every invariant of the session is proved
for these few changes, and holds after every call by the results at the end.
-/

/-! ## Preparations -/

variable (s : TxAudioSession)

/-- A change that does not build a packet. -/
inductive TxAudioPrepares (env : TxAudioEnv) : TxAudioSession -> TxAudioSession -> Prop
  | coded (s : TxAudioSession) (code : Option TxAudioRet) :
      TxAudioPrepares env s { s with buildRetCode := code }
  | flushed {s : TxAudioSession} {port : MtlSessionPort} {pkt : TxAudioPkt}
      (kept : s.inflight port = some pkt) :
      TxAudioPrepares env s { s.put port pkt with inflight := Function.update s.inflight port none }
  | taken {s : TxAudioSession} {idx : Nat} {taMeta : St30TxFrameMeta} {frame : Nat -> Byte}
      (first : s.pktIdx = 0) (waiting : s.frameStat = .waitFrame)
      (free : (s.frames idx).refcnt = 0) : TxAudioPrepares env s (s.take idx taMeta frame)
  | synced {s : TxAudioSession} (sending : s.frameStat = .sendingPkts)
      (due : s.calculateTimeCursor = true) : TxAudioPrepares env s (txAudioSyncPkt env s)

def TxAudioPrepared (env : TxAudioEnv) : TxAudioSession -> TxAudioSession -> Prop :=
  Relation.ReflTransGen (TxAudioPrepares env)

variable {env : TxAudioEnv}

theorem TxAudioPrepared.preserves {invariant : TxAudioSession -> Prop}
    (preserved : forall before after, invariant before -> TxAudioPrepares env before after ->
      invariant after)
    {before after : TxAudioSession} (prepared : TxAudioPrepared env before after)
    (initially : invariant before) : invariant after := by
  induction prepared with
  | refl => exact initially
  | tail _ last ih => exact preserved _ _ ih last

def TxAudioSession.Waits : Prop :=
  s.frameStat = .waitFrame -> s.pktIdx = 0

def TxAudioSession.Clear : Prop :=
  s.inflight .p = none ∧ (s.cfg.ops.numPort > 1 -> s.inflight .r = none)

theorem flush_spec (env : TxAudioEnv) (s : TxAudioSession) (port : MtlSessionPort) (takes : Bool)
    (refused : TxAudioRet) {after : TxAudioSession} {clear : Bool}
    (flushed : s.flush port takes refused = (after, clear)) :
    TxAudioPrepared env s after ∧ after.cfg = s.cfg ∧ after.frameStat = s.frameStat ∧
      after.pktIdx = s.pktIdx ∧
      (∀ other ≠ port, after.inflight other = s.inflight other) ∧
      (clear = true -> after.inflight port = none) := by
  unfold TxAudioSession.flush at flushed
  cases kept : s.inflight port with
  | none =>
    rw [kept] at flushed
    cases flushed
    exact ⟨.refl, rfl, rfl, rfl, fun _ _ => rfl, fun _ => kept⟩
  | some pkt =>
    rw [kept] at flushed
    cases takes with
    | true =>
      cases flushed
      exact ⟨.single (.flushed kept), rfl, rfl, rfl,
        fun other different => Function.update_of_ne different _ _, fun _ => by simp⟩
    | false =>
      cases flushed
      exact ⟨.single (.coded s (some refused)), rfl, rfl, rfl, fun _ _ => rfl,
        fun absurd => (by cases absurd)⟩

theorem txAudioFlushRedundant_spec (env : TxAudioEnv) (s : TxAudioSession) {after : TxAudioSession}
    {clear : Bool} (flushed : txAudioFlushRedundant env s = (after, clear)) :
    TxAudioPrepared env s after ∧ after.cfg = s.cfg ∧ after.frameStat = s.frameStat ∧
      after.pktIdx = s.pktIdx ∧ after.inflight .p = s.inflight .p ∧
      (clear = true -> s.cfg.ops.numPort > 1 -> after.inflight .r = none) := by
  unfold txAudioFlushRedundant at flushed
  by_cases ports : s.cfg.ops.numPort > 1
  · rw [if_pos ports] at flushed
    rcases flush_spec env s .r _ _ flushed with ⟨prepared, cfg, stat, idx, others, clears⟩
    exact ⟨prepared, cfg, stat, idx, others .p (by decide), fun goesOn _ => clears goesOn⟩
  · rw [if_neg ports] at flushed
    cases flushed
    exact ⟨.refl, rfl, rfl, rfl, rfl, fun _ absurd => (ports absurd).elim⟩

theorem txAudioNextFrame_spec (env : TxAudioEnv) {s after : TxAudioSession} {goesOn : Bool}
    (waits : s.Waits) (next : txAudioNextFrame env s = (after, goesOn)) :
    TxAudioPrepared env s after ∧ after.cfg = s.cfg ∧ after.inflight = s.inflight ∧
      (goesOn = true -> after.frameStat = .sendingPkts) := by
  unfold txAudioNextFrame at next
  by_cases waiting : s.pktIdx = 0 ∧ s.frameStat = .waitFrame
  · simp only [waiting, and_self, if_true] at next
    cases handed : env.getNextFrame (txAudioSessionInitNextMeta s) with
    | none =>
      rw [handed] at next
      cases next
      exact ⟨.single (.coded s _), rfl, rfl, fun absurd => (by cases absurd)⟩
    | some answer =>
      rcases answer with ⟨idx, taMeta, frame⟩
      rw [handed] at next
      by_cases busy : (s.frames idx).refcnt ≠ 0
      · simp only [busy, ne_eq, not_false_eq_true, if_true] at next
        cases next
        exact ⟨.single (.coded s _), rfl, rfl, fun absurd => (by cases absurd)⟩
      · simp only [busy, if_false] at next
        cases next
        exact ⟨.single (.taken waiting.1 waiting.2 (not_not.mp busy)), rfl, rfl, fun _ => rfl⟩
  · rw [if_neg waiting] at next
    cases next
    refine ⟨.refl, rfl, rfl, fun _ => ?_⟩
    cases stat : s.frameStat with
    | waitFrame => exact (waiting ⟨waits stat, stat⟩).elim
    | sendingPkts => rfl

/-! ## A synchronisation -/

theorem txAudioPacingRequiredTai_shape (tfmt : Anc.St10TimestampFmt) (timestamp : Nat) :
    Exists fun count =>
      (txAudioPacingRequiredTai s tfmt timestamp).1 =
        { s with stats := { s.stats with errorUserTimestamp := count } } := by
  unfold txAudioPacingRequiredTai
  split
  · exact ⟨s.stats.errorUserTimestamp, rfl⟩
  · split
    · exact ⟨s.stats.errorUserTimestamp, rfl⟩
    · split
      · exact ⟨_, rfl⟩
      · exact ⟨s.stats.errorUserTimestamp, rfl⟩

theorem txAudioSyncPkt_shape (env : TxAudioEnv) {s : TxAudioSession}
    (due : s.calculateTimeCursor = true) :
    Exists fun stats => Exists fun pacing : TxAudioPacing => Exists fun taMeta =>
      txAudioSyncPkt env s =
        { s with
          stats := stats
          pacing := pacing
          frames := Function.update s.frames s.frameIdx
            { s.frames s.frameIdx with taMeta := taMeta }
          calculateTimeCursor := false
          events := .synced env.ptpTime pacing.curEpochs :: s.events } := by
  unfold txAudioSyncPkt
  rw [if_pos due]
  dsimp only
  generalize (if s.pktIdx ≠ 0 then Anc.St10TimestampFmt.tai else (s.frames s.frameIdx).taMeta.tfmt) =
    tfmt
  generalize (if s.pktIdx ≠ 0 then u64 s.pacing.ptpTimeCursor
    else (s.frames s.frameIdx).taMeta.timestamp) = timestamp
  rcases txAudioPacingRequiredTai_shape s tfmt timestamp with ⟨count, shape⟩
  rcases demand : txAudioPacingRequiredTai s tfmt timestamp with ⟨counted, requiredTai⟩
  rw [demand] at shape
  dsimp only at shape ⊢
  rw [shape]
  exact ⟨_, _, _, rfl⟩

theorem txAudioReachPkt_spec (env : TxAudioEnv) {s : TxAudioSession} (waits : s.Waits) :
    TxAudioPrepared env s (txAudioReachPkt env s).1 ∧
      ((txAudioReachPkt env s).2 = none ->
        (txAudioReachPkt env s).1.frameStat = .sendingPkts ∧
        (txAudioReachPkt env s).1.calculateTimeCursor = false ∧
        (txAudioReachPkt env s).1.cfg = s.cfg ∧
        (txAudioReachPkt env s).1.inflight = s.inflight) := by
  unfold txAudioReachPkt
  rcases next : txAudioNextFrame env s with ⟨mid, goesOn⟩
  rcases txAudioNextFrame_spec env waits next with ⟨prepared, cfg, inflight, sending⟩
  cases goesOn with
  | false => exact ⟨prepared, fun absurd => (by cases absurd)⟩
  | true =>
    have here := sending rfl
    have sync : TxAudioPrepared env mid (txAudioSyncPkt env mid) ∧
        (txAudioSyncPkt env mid).frameStat = .sendingPkts ∧
        (txAudioSyncPkt env mid).calculateTimeCursor = false ∧
        (txAudioSyncPkt env mid).cfg = mid.cfg ∧
        (txAudioSyncPkt env mid).inflight = mid.inflight := by
      by_cases due : mid.calculateTimeCursor = true
      · refine ⟨.single (.synced here due), ?_⟩
        rcases txAudioSyncPkt_shape env due with ⟨stats, pacing, taMeta, shape⟩
        rw [shape]
        exact ⟨here, rfl, rfl, rfl⟩
      · have same : txAudioSyncPkt env mid = mid := by
          unfold txAudioSyncPkt
          rw [if_neg due]
        rw [same]
        exact ⟨.refl, here, eq_false_of_ne_true due, rfl, rfl⟩
    rcases sync with ⟨synced, stat, flag, cfgS, inflightS⟩
    dsimp only
    by_cases wait : txAudioWaits env (txAudioSyncPkt env mid) = true
    · rw [if_pos wait]
      exact ⟨(prepared.trans synced).tail (.coded _ _), fun absurd => (by cases absurd)⟩
    · rw [if_neg wait]
      exact ⟨prepared.trans synced, fun _ =>
        ⟨stat, flag, cfgS.trans cfg, inflightS.trans inflight⟩⟩

theorem txAudioReach_spec (env : TxAudioEnv) {s : TxAudioSession} (waits : s.Waits) :
    TxAudioPrepared env s (txAudioReach env s).1 ∧
      ((txAudioReach env s).2 = none ->
        (txAudioReach env s).1.frameStat = .sendingPkts ∧
        (txAudioReach env s).1.calculateTimeCursor = false ∧ (txAudioReach env s).1.Clear) := by
  unfold txAudioReach
  by_cases full : env.ringFull = true
  · rw [if_pos full]
    exact ⟨.single (.coded s _), fun absurd => (by cases absurd)⟩
  · rw [if_neg full]
    rcases step : s.flush .p (env.takesInflight .p) .inflightEnqueueFail with ⟨first, goesOn⟩
    rcases flush_spec env s .p _ _ step with ⟨flushed, cfg, stat, idx, -, clear⟩
    cases goesOn with
    | false => exact ⟨flushed, fun absurd => (by cases absurd)⟩
    | true =>
      dsimp only
      rcases stepR : txAudioFlushRedundant env first with ⟨second, goesOnR⟩
      rcases txAudioFlushRedundant_spec env first stepR
        with ⟨flushedR, cfgR, statR, idxR, kept, clearR⟩
      cases goesOnR with
      | false => exact ⟨flushed.trans flushedR, fun absurd => (by cases absurd)⟩
      | true =>
        dsimp only
        have here : second.Waits := by
          intro waiting
          rw [statR, stat] at waiting
          rw [idxR, idx]
          exact waits waiting
        rcases txAudioReachPkt_spec env here with ⟨reached, ends⟩
        refine ⟨(flushed.trans flushedR).trans reached, fun goes => ?_⟩
        rcases ends goes with ⟨sending, synced, cfgF, inflight⟩
        refine ⟨sending, synced, ?_, fun ports => ?_⟩
        · rw [inflight, kept]
          exact clear rfl
        · rw [inflight]
          rw [cfgF, cfgR] at ports
          exact clearR rfl (cfgR ▸ ports)

/-! ## Outcomes -/

def TxAudioConfig.Sends (cfg : TxAudioConfig) (port : MtlSessionPort) : Prop :=
  port = .p ∨ cfg.ops.numPort > 1

/-- All that was given to a port: what its ring has taken, and the packet that waits. -/
def TxAudioSession.onPort (port : MtlSessionPort) : List TxAudioPkt :=
  givenTo s.wire s.inflight port

def TxAudioConfig.HasBuffers (cfg : TxAudioConfig) (env : TxAudioEnv) : Prop :=
  env.allocPkt = true ∧ (cfg.txNoChain = true ∨ env.allocChain = true)

def TxAudioSession.nextRtp : AudioRtp := (txAudioSessionBuildRtpPacket s).2

def TxAudioSession.numbered : TxAudioSession :=
  { s with seqId := u16 (s.seqId + 1 : Nat) }

def TxAudioSession.emit (env : TxAudioEnv) (pkt : TxAudioPkt) (pktR : Option TxAudioPkt)
    : TxAudioSession :=
  txAudioPutPkts env (txAudioAdvancePkt s.numbered pkt pktR) pkt pktR

/-- The packets of both ports carry this. -/
structure CarriedBy (cfg : TxAudioConfig) (rtp : AudioRtp) (pkt : TxAudioPkt)
    (pktR : Option TxAudioPkt) : Prop where
  primary : pkt.rtp = rtp
  redundant : cfg.ops.numPort > 1 -> pktR.map TxAudioPkt.rtp = some rtp
  single : ¬ cfg.ops.numPort > 1 -> pktR = none

/-- What a call does that goes on to build a packet. -/
inductive TxAudioOutcome (env : TxAudioEnv) (s : TxAudioSession) : TxAudioSession -> Prop
  | unallocated : TxAudioOutcome env s (s.fail .pktAllocFail)
  | lost (buffers : s.cfg.HasBuffers env) (ports : s.cfg.ops.numPort > 1)
      (missing : env.allocRedundant = false) :
      TxAudioOutcome env s (s.numbered.fail .pktAllocFail)
  | sent {pkt : TxAudioPkt} {pktR : Option TxAudioPkt} (carried : CarriedBy s.cfg s.nextRtp pkt pktR) :
      TxAudioOutcome env s (txAudioFinishFrame (s.emit env pkt pktR))

/-- The packets of a call, if they could be had. -/
inductive TxAudioBuilt (env : TxAudioEnv) (s : TxAudioSession) :
    TxAudioSession × Option (TxAudioPkt × Option TxAudioPkt) -> Prop
  | unallocated : TxAudioBuilt env s (s.fail .pktAllocFail, none)
  | lost (buffers : s.cfg.HasBuffers env) (ports : s.cfg.ops.numPort > 1)
      (missing : env.allocRedundant = false) :
      TxAudioBuilt env s (s.numbered.fail .pktAllocFail, none)
  | built {pkt : TxAudioPkt} {pktR : Option TxAudioPkt}
      (carried : CarriedBy s.cfg s.nextRtp pkt pktR) :
      TxAudioBuilt env s (s.numbered, some (pkt, pktR))

theorem txAudioBuildChained_spec (env : TxAudioEnv) (s : TxAudioSession) :
    TxAudioBuilt env s (txAudioBuildChained env s) := by
  unfold txAudioBuildChained
  by_cases missing : (!env.allocPkt || !env.allocChain) = true
  · rw [if_pos missing]
    exact .unallocated
  · rw [if_neg missing]
    simp only [Bool.or_eq_true, Bool.not_eq_true', not_or, Bool.not_eq_false] at missing
    change TxAudioBuilt env s (if s.cfg.ops.numPort > 1 then
      if !env.allocRedundant then (s.numbered.fail .pktAllocFail, none)
      else (s.numbered, some (txAudioSessionBuildPacketChain s.cfg s.nextRtp .p,
        some (txAudioSessionBuildPacketChain s.cfg s.nextRtp .r)))
      else (s.numbered, some (txAudioSessionBuildPacketChain s.cfg s.nextRtp .p, none)))
    by_cases ports : s.cfg.ops.numPort > 1
    · rw [if_pos ports]
      cases copy : env.allocRedundant with
      | false => exact .lost ⟨missing.1, Or.inr missing.2⟩ ports copy
      | true => exact .built ⟨rfl, fun _ => rfl, fun absurd => (absurd ports).elim⟩
    · rw [if_neg ports]
      exact .built ⟨rfl, fun absurd => (ports absurd).elim, fun _ => rfl⟩

theorem txAudioBuildSingle_spec (env : TxAudioEnv) {s : TxAudioSession}
    (unchained : s.cfg.txNoChain = true) : TxAudioBuilt env s (txAudioBuildSingle env s) := by
  unfold txAudioBuildSingle
  by_cases missing : (!env.allocPkt) = true
  · rw [if_pos missing]
    exact .unallocated
  · rw [if_neg missing]
    simp only [Bool.not_eq_true', Bool.not_eq_false] at missing
    let pkt : TxAudioPkt := { net := s.cfg.netHdr .p s.nextRtp.bytes.length, rtp := s.nextRtp }
    change TxAudioBuilt env s (if s.cfg.ops.numPort > 1 then
      if !env.allocRedundant then (s.numbered.fail .pktAllocFail, none)
      else (s.numbered, some (pkt, some (txAudioSessionUpdateRedundant s.cfg pkt)))
      else (s.numbered, some (pkt, none)))
    by_cases ports : s.cfg.ops.numPort > 1
    · rw [if_pos ports]
      cases copy : env.allocRedundant with
      | false => exact .lost ⟨missing, Or.inl unchained⟩ ports copy
      | true => exact .built ⟨rfl, fun _ => rfl, fun absurd => (absurd ports).elim⟩
    · rw [if_neg ports]
      exact .built ⟨rfl, fun absurd => (ports absurd).elim, fun _ => rfl⟩

theorem txAudioBuild_spec (env : TxAudioEnv) (s : TxAudioSession) :
    TxAudioBuilt env s (txAudioBuild env s) := by
  unfold txAudioBuild
  cases chain : s.cfg.txNoChain with
  | true => exact txAudioBuildSingle_spec env chain
  | false => exact txAudioBuildChained_spec env s

theorem txAudioSendOne_outcome (env : TxAudioEnv) (s : TxAudioSession) :
    TxAudioOutcome env s (txAudioSendOne env s).1 := by
  have result := txAudioBuild_spec env s
  unfold txAudioSendOne
  generalize txAudioBuild env s = built at result ⊢
  cases result with
  | unallocated => exact .unallocated
  | lost buffers ports missing => exact .lost buffers ports missing
  | built carried => exact .sent carried

/-! ## Calls -/

/-- The state in which a call starts to build a packet. -/
structure TxAudioReady (env : TxAudioEnv) (s mid : TxAudioSession) : Prop where
  reached : txAudioReach env { s with buildRetCode := none } = (mid, none)
  sending : mid.frameStat = .sendingPkts
  synced : mid.calculateTimeCursor = false
  clear : mid.Clear

theorem txAudioStep_preserves {invariant : TxAudioSession -> Prop} {s : TxAudioSession}
    (waits : s.Waits)
    (prepares : forall before after, invariant before -> TxAudioPrepares env before after ->
      invariant after)
    (outcome : forall mid after, TxAudioReady env s mid -> invariant mid ->
      TxAudioOutcome env mid after -> invariant after)
    (before : invariant s) : invariant (txAudioStep s env) := by
  have start : TxAudioPrepared env s { s with buildRetCode := none } := .single (.coded s none)
  rcases @txAudioReach_spec env { s with buildRetCode := none } waits with ⟨prepared, ends⟩
  unfold txAudioStep txAudioSessionTaskletFrame
  rcases reach : txAudioReach env { s with buildRetCode := none } with ⟨mid, verdict⟩
  rw [reach] at prepared ends
  have whole : TxAudioPrepared env s mid := start.trans prepared
  have there : invariant mid := whole.preserves prepares before
  cases verdict with
  | some ret => exact there
  | none =>
    rcases ends rfl with ⟨sending, synced, clear⟩
    exact outcome mid _ ⟨reach, sending, synced, clear⟩ there (txAudioSendOne_outcome env mid)

/-! ## What a sent packet changes -/

theorem putOrKeep_shape (port : MtlSessionPort) (pkt : TxAudioPkt) (takes : Bool)
    (refused : TxAudioRet) :
    Exists fun inflight => Exists fun count => Exists fun code => Exists fun wire =>
      s.putOrKeep port pkt takes refused =
        { s with inflight := inflight, inflightCnt := count, buildRetCode := code, wire := wire } ∧
      (∀ other ≠ port, inflight other = s.inflight other) ∧
      (s.inflight port = none ->
        givenTo wire inflight = Function.update s.onPort port (s.onPort port ++ [pkt])) := by
  unfold TxAudioSession.putOrKeep TxAudioSession.put
  cases takes with
  | true => exact ⟨s.inflight, s.inflightCnt, s.buildRetCode, _, rfl, fun _ _ => rfl, givenTo_put⟩
  | false =>
    exact ⟨_, _, _, s.wire, rfl, fun other different => Function.update_of_ne different _ _, givenTo_keep⟩

/-- The session after a packet was given to the ports, up to counters and codes. -/
theorem emit_shape (env : TxAudioEnv) {s : TxAudioSession} {rtp : AudioRtp} {pkt : TxAudioPkt}
    {pktR : Option TxAudioPkt} (clear : s.Clear) (carried : CarriedBy s.cfg rtp pkt pktR) :
    Exists fun inflight => Exists fun count => Exists fun code => Exists fun wire =>
      Exists fun port => Exists fun tsc =>
      s.emit env pkt pktR =
        { s.numbered with
          pktIdx := s.pktIdx + 1
          calculateTimeCursor := true
          events := .built rtp :: s.events
          pacing := { s.pacing with tscTimeCursor := tsc }
          stats := { s.stats with port := port }
          inflight := inflight
          inflightCnt := count
          buildRetCode := code
          wire := wire } ∧
      forall port, s.cfg.Sends port ->
        (givenTo wire inflight port).map TxAudioPkt.rtp =
          (s.onPort port).map TxAudioPkt.rtp ++ [rtp] := by
  unfold TxAudioSession.emit txAudioPutPkts
  rcases putOrKeep_shape (txAudioAdvancePkt s.numbered pkt pktR) .p pkt (env.takes .p)
    .pktEnqueueFail with ⟨inflight, count, code, wire, shape, others, onP⟩
  have given := onP clear.1
  have primary : (givenTo wire inflight .p).map TxAudioPkt.rtp =
      (s.onPort .p).map TxAudioPkt.rtp ++ [rtp] := by
    rw [given, Function.update_self, List.map_append, ← carried.primary]
    rfl
  dsimp only
  rw [shape]
  cases pktR with
  | none =>
    have one : ¬ s.cfg.ops.numPort > 1 := by
      intro ports
      cases carried.redundant ports
    refine ⟨_, _, _, _, _, _, by rw [← carried.primary]; rfl, fun port sends => ?_⟩
    rcases sends with rfl | ports
    · exact primary
    · exact (one ports).elim
  | some pktR =>
    have ports : s.cfg.ops.numPort > 1 := by
      by_contra one
      cases carried.single one
    rcases putOrKeep_shape { txAudioAdvancePkt s.numbered pkt (some pktR) with
        inflight := inflight, inflightCnt := count, buildRetCode := code, wire := wire }
      .r pktR (env.takes .r) .pktREnqueueFail
      with ⟨inflightR, countR, codeR, wireR, shapeR, -, onR⟩
    dsimp only
    rw [shapeR]
    refine ⟨_, _, _, _, _, _, by rw [← carried.primary]; rfl, fun port _ => ?_⟩
    rw [onR ((others .r (by decide)).trans (clear.2 ports))]
    cases port with
    | p =>
      rw [Function.update_of_ne (by decide)]
      exact primary
    | r =>
      have untouched : givenTo wire inflight .r = s.onPort .r := by
        rw [given]
        exact Function.update_of_ne (by decide) _ _
      rw [Function.update_self, List.map_append, ← Option.some.inj (carried.redundant ports)]
      exact congrArg (fun packets => packets.map TxAudioPkt.rtp ++ [pktR.rtp]) untouched

end MediaTransport.Audio
