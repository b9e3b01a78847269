import MediaTransport.Audio.EpochRule
import MediaTransport.Audio.RtpTasklet
import MediaTransport.Util.MediaTicks

namespace MediaTransport.Audio

open Library
open Anc (rtpTmstamp setRtpTmstamp)

/-!
# Epochs of the packets of the application

A session of packets follows the same rule of epochs.  The application marks an
epoch by another timestamp than before, and only then the session takes a new
timestamp; it comes from the number of the epoch, not from its time.
-/

/-! ## The timestamps of a session of packets -/

/-- The timestamps that are sent for the timestamps of the application and the epochs of its packets: a new
one of the application begins a new one, the samples of the packets before the epoch. -/
def stampRun (cfg : TxAudioConfig) : Nat -> Nat -> List (Nat × Nat) -> List Nat
  | _, _, [] => []
  | app, stamp, (next, epoch) :: rest =>
    let stamp := if next ≠ app then epoch * cfg.sampleNum % 4294967296 else stamp
    stamp :: stampRun cfg next stamp rest

theorem stampRun_concat (cfg : TxAudioConfig) (app stamp next epoch : Nat) (packets : List (Nat × Nat)) :
    stampRun cfg app stamp (packets ++ [(next, epoch)]) =
      stampRun cfg app stamp packets ++
        [if next ≠ lastEpoch app (packets.map Prod.fst) then epoch * cfg.sampleNum % 4294967296
          else lastEpoch stamp (stampRun cfg app stamp packets)] := by
  induction packets generalizing app stamp with
  | nil => rfl
  | cons packet rest ih =>
    simp only [List.cons_append, stampRun, ih, List.map_cons, lastEpoch]

theorem txAudioPacingTimeStamp_eq (cfg : TxAudioConfig) (epoch : Nat) :
    txAudioPacingTimeStamp cfg epoch = epoch * cfg.sampleNum % 4294967296 :=
  Nat.mod_mod_of_dvd _ (by decide)

/-! ## One packet -/

section Path

variable {path : TxAudioPathSession} {memory : Nat -> Byte}

/-- What the builder does to the session for a packet: its timestamp is remembered, and nothing that the
epochs rest on changes. -/
structure Stamps (path after : TxAudioPathSession) (memory : Nat -> Byte) : Prop where
  app : after.rtpTimeApp = rtpTmstamp memory
  stamp : after.rtpTime =
    if rtpTmstamp memory ≠ path.rtpTimeApp then path.session.pacing.rtpTimeStamp else path.rtpTime
  cfg : after.session.cfg = path.session.cfg
  pacing : after.session.pacing = path.session.pacing
  drop : after.session.stats.epochDrop = path.session.stats.epochDrop
  onward : after.session.stats.epochOnward = path.session.stats.epochOnward

theorem epoch_stamps (paced : path.session.cfg.SelfPaced) {count : TxAudioStats -> TxAudioStats}
    (kept : (count path.session.stats).epochDrop = path.session.stats.epochDrop ∧
      (count path.session.stats).epochOnward = path.session.stats.epochOnward) :
    Stamps path (path.epoch count memory) memory := by
  unfold TxAudioPathSession.epoch
  rw [paced.userTimestamp]
  by_cases opens : rtpTmstamp memory ≠ path.rtpTimeApp
  · rw [if_pos opens]
    exact ⟨rfl, (if_pos opens).symm, rfl, rfl, kept.1, kept.2⟩
  · rw [if_neg opens]
    exact ⟨(not_not.mp opens).symm, (if_neg opens).symm, rfl, rfl, rfl, rfl⟩

theorem Stamps.countPkt {after : TxAudioPathSession} (stamps : Stamps path after memory)
    (port : MtlSessionPort) (pkt : TxAudioRawPkt) : Stamps path (after.countPkt port pkt) memory :=
  ⟨stamps.app, stamps.stamp, stamps.cfg, stamps.pacing, stamps.drop, stamps.onward⟩

end Path

theorem rtpTmstamp_set (memory : Nat -> Byte) {stamp : Nat} (small : stamp < 4294967296) :
    rtpTmstamp (setRtpTmstamp memory stamp) = stamp := by
  unfold rtpTmstamp setRtpTmstamp
  rw [loadBe32_storeBe32, BitVec.toNat_ofNat]
  exact Nat.mod_eq_of_lt small

/-! ## The invariant -/

def TxAudioRtpSession.onPort (s : TxAudioRtpSession) (port : MtlSessionPort) : List TxAudioRawPkt :=
  givenTo s.wire s.inflight port

def TxAudioRtpSession.readings (s : TxAudioRtpSession) : List (BitVec 64) := s.syncs.map Prod.fst

def TxAudioRtpSession.epochs (s : TxAudioRtpSession) : List Nat := s.syncs.map Prod.snd

/-- The packets that were built for all ports. -/
def TxAudioRtpSession.sent (s : TxAudioRtpSession) : List TxAudioRtpMark := s.marks.filter TxAudioRtpMark.sent

def TxAudioRawPkt.tmstamp (pkt : TxAudioRawPkt) : Nat := rtpTmstamp pkt.memory

/-- The timestamps are those of the rule, and the session remembers the last ones. -/
structure Marked (cfg : TxAudioConfig) (path : TxAudioPathSession) (marks : List TxAudioRtpMark) : Prop where
  follow : marks.map TxAudioRtpMark.stamp =
    stampRun cfg 4294967295 4294967295 (marks.map fun mark => (mark.app, mark.epoch))
  app : path.rtpTimeApp = lastEpoch 4294967295 (marks.map TxAudioRtpMark.app)
  stamp : path.rtpTime = lastEpoch 4294967295 (marks.map TxAudioRtpMark.stamp)
  small : path.rtpTime < 4294967296

/-- What holds of the epochs in every state; a synchronisation without its packet has left its timestamp in
the pacing. -/
structure TxAudioRtpSession.Timed (s : TxAudioRtpSession) (cfg : TxAudioConfig) (first : Nat) : Prop where
  same : s.path.session.cfg = cfg
  rule : FollowsRule cfg first s.syncs s.path.session.pacing.curEpochs s.path.session.stats
  marked : Marked cfg s.path s.marks
  carried : forall port, cfg.Sends port ->
    (s.onPort port).map TxAudioRawPkt.tmstamp = s.sent.map TxAudioRtpMark.stamp
  due : s.path.session.pacing.tscTimeCursor = 0 -> s.epochs = s.sent.map TxAudioRtpMark.epoch
  synced : s.path.session.pacing.tscTimeCursor ≠ 0 ->
    s.epochs = s.sent.map TxAudioRtpMark.epoch ++ [s.path.session.pacing.curEpochs] ∧
    s.path.session.pacing.rtpTimeStamp =
      s.path.session.pacing.curEpochs * cfg.sampleNum % 4294967296

variable {cfg : TxAudioConfig} {first : Nat} {s : TxAudioRtpSession}

theorem TxAudioRtpSession.Timed.fail (timed : s.Timed cfg first) (code : TxAudioRtpRet) :
    (s.fail code).Timed cfg first :=
  ⟨timed.same, timed.rule, timed.marked, timed.carried, timed.due, timed.synced⟩

/-! ## Up to the packet -/

theorem flush_onPort (port : MtlSessionPort) (takes : Bool) (refused : TxAudioRtpRet) :
    (s.flush port takes refused).1.onPort = s.onPort ∧
      (s.flush port takes refused).1.path = s.path ∧ (s.flush port takes refused).1.syncs = s.syncs ∧
      (s.flush port takes refused).1.marks = s.marks ∧
      ((s.flush port takes refused).2 = true -> (s.flush port takes refused).1.inflight =
        Function.update s.inflight port none) := by
  unfold TxAudioRtpSession.flush
  rcases kept : s.inflight port with _ | pkt
  · have clear : Function.update s.inflight port none = s.inflight := by rw [← kept, Function.update_eq_self]
    exact ⟨rfl, rfl, rfl, rfl, fun _ => clear.symm⟩
  · cases takes with
    | false => exact ⟨rfl, rfl, rfl, rfl, fun absurd => by cases absurd⟩
    | true => exact ⟨givenTo_flush kept, rfl, rfl, rfl, fun _ => rfl⟩

theorem TxAudioRtpSession.Timed.moved {after : TxAudioRtpSession} (timed : s.Timed cfg first)
    (onPort : after.onPort = s.onPort) (path : after.path = s.path) (syncs : after.syncs = s.syncs)
    (marks : after.marks = s.marks) : after.Timed cfg first := by
  have epochs : after.epochs = s.epochs := congrArg (List.map Prod.snd) syncs
  have sent : after.sent = s.sent := congrArg (List.filter TxAudioRtpMark.sent) marks
  refine ⟨?_, ?_, ?_, ?_, ?_, ?_⟩
  · rw [path]
    exact timed.same
  · rw [path, syncs]
    exact timed.rule
  · rw [path, marks]
    exact timed.marked
  · rw [onPort, sent]
    exact timed.carried
  · rw [path, epochs, sent]
    exact timed.due
  · rw [path, epochs, sent]
    exact timed.synced

theorem TxAudioRtpSession.Timed.sync (timed : s.Timed cfg first) (paced : cfg.SelfPaced)
    (env : TxAudioRtpEnv) :
    (txAudioRtpSync env s).Timed cfg first ∧
      (txAudioRtpSync env s).path.session.pacing.tscTimeCursor ≠ 0 ∧
      (txAudioRtpSync env s).inflight = s.inflight := by
  unfold txAudioRtpSync
  by_cases due : s.path.session.pacing.tscTimeCursor = 0
  · rw [if_pos due]
    have undelayed : s.path.session.cfg.ops.rtpTimestampDeltaUs = 0 := timed.same ▸ paced.delta
    rcases txAudioSessionSyncPacing_spec env.ptpTime.toNat env.syncTsc undelayed timed.rule.small with
      ⟨epoch, -, stamp, cursor, drop, onward⟩
    rw [← epoch] at stamp drop onward
    rw [timed.same] at epoch stamp
    have same : (txAudioSessionSyncPacing s.path.session env.ptpTime.toNat env.syncTsc 0).cfg = cfg :=
      timed.same
    generalize txAudioSessionSyncPacing s.path.session env.ptpTime.toNat env.syncTsc 0 = session at *
    have running : session.pacing.tscTimeCursor ≠ 0 := by
      have counts := env.counts
      omega
    have grown := timed.due due
    refine ⟨⟨same, timed.rule.sync env.ptpTime epoch drop onward, ?_, timed.carried,
      fun zero => absurd zero running, fun _ => ⟨?_, ?_⟩⟩, running, rfl⟩
    · exact ⟨timed.marked.follow, timed.marked.app, timed.marked.stamp, timed.marked.small⟩
    · change List.map Prod.snd (s.syncs ++ [(env.ptpTime, session.pacing.curEpochs)]) = _
      rw [List.map_append]
      exact congrArg (· ++ [session.pacing.curEpochs]) grown
    · rw [← txAudioPacingTimeStamp_eq]
      exact stamp
  · rw [if_neg due]
    exact ⟨timed, due, rfl⟩

/-! ## The packet -/

theorem Marked.mark {path after : TxAudioPathSession} {marks : List TxAudioRtpMark} {memory : Nat -> Byte}
    (marked : Marked cfg path marks) (stamps : Stamps path after memory) (sent : Bool)
    (stamp : path.session.pacing.rtpTimeStamp =
      path.session.pacing.curEpochs * cfg.sampleNum % 4294967296) :
    Marked cfg after
      (marks ++ [⟨after.rtpTimeApp, after.session.pacing.curEpochs, after.rtpTime, sent⟩]) := by
  have chosen : after.rtpTime =
      if after.rtpTimeApp ≠ lastEpoch 4294967295 (marks.map TxAudioRtpMark.app) then
        after.session.pacing.curEpochs * cfg.sampleNum % 4294967296
      else lastEpoch 4294967295 (marks.map TxAudioRtpMark.stamp) := by
    rw [stamps.stamp, stamps.app, ← marked.app, ← marked.stamp, stamps.pacing, stamp]
  have apps : (marks.map fun mark => (mark.app, mark.epoch)).map Prod.fst = marks.map TxAudioRtpMark.app := by
    rw [List.map_map]
    rfl
  refine ⟨?_, ?_, ?_, ?_⟩
  · simp only [List.map_append, List.map_cons, List.map_nil]
    rw [stampRun_concat, apps, ← marked.follow, ← chosen]
  · simp only [List.map_append, List.map_cons, List.map_nil, lastEpoch_concat]
  · simp only [List.map_append, List.map_cons, List.map_nil, lastEpoch_concat]
  · rw [stamps.stamp, stamp]
    split
    · exact Nat.mod_lt _ (by decide)
    · exact marked.small

/-- What the builder can do with a packet of the application. -/
inductive Builds (s : TxAudioRtpSession) (memory : Nat -> Byte) :
    TxAudioRtpSession × Option (TxAudioRawPkt × Option TxAudioRawPkt) -> Prop where
  | unallocated : Builds s memory (s.fail .pktAllocFail, none)
  | lost {path : TxAudioPathSession} (stamps : Stamps s.path path memory) :
      Builds s memory ((s.built path false).fail .pktAllocFail, none)
  | built {path : TxAudioPathSession} {pkt : TxAudioRawPkt} {pktR : Option TxAudioRawPkt}
      (stamps : Stamps s.path path memory) (own : pkt.memory = setRtpTmstamp memory path.rtpTime)
      (copy : pktR.map TxAudioRawPkt.memory =
        if s.path.session.cfg.ops.numPort > 1 then some pkt.memory else none) :
      Builds s memory (s.built path true, some (pkt, pktR))

section Builds

variable (env : TxAudioRtpEnv) (memory : Nat -> Byte) (len : Nat)

theorem txAudioRtpBuildChained_spec (paced : s.path.session.cfg.SelfPaced) :
    Builds s memory (txAudioRtpBuildChained env s memory len) := by
  have stamps : Stamps s.path (s.path.epoch (fun stats => stats.countFrame .p) memory) memory :=
    epoch_stamps paced ⟨rfl, rfl⟩
  have ports := stamps.cfg
  unfold txAudioRtpBuildChained txAudioSessionChainRtp
  dsimp only
  generalize s.path.epoch (fun stats => stats.countFrame .p) memory = path at *
  by_cases primary : env.allocPkt = false
  · rw [primary]
    exact .unallocated
  · rw [Bool.not_eq_false] at primary
    rw [primary]
    by_cases redundant : s.path.session.cfg.ops.numPort > 1
    · by_cases missing : env.allocRedundant = false
      · simp only [redundant, missing, and_self, if_true, Bool.not_true, Bool.false_eq_true, if_false]
        exact .unallocated
      · simp only [redundant, missing, if_true, Bool.not_true, Bool.false_eq_true, if_false]
        refine .built ((stamps.countPkt .p _).countPkt .r _) rfl ?_
        rw [if_pos redundant]
        rfl
    · simp only [redundant, false_and, Bool.not_true, Bool.false_eq_true, if_false]
      refine .built (stamps.countPkt .p _) rfl ?_
      rw [if_neg redundant]
      rfl

theorem txAudioRtpBuildSingle_spec (paced : s.path.session.cfg.SelfPaced) :
    Builds s memory (txAudioRtpBuildSingle env s memory len) := by
  let count : TxAudioStats -> TxAudioStats := fun stats =>
    let stats := stats.countFrame .p
    if s.path.session.cfg.ops.numPort > 1 then stats.countFrame .r else stats
  have kept : (count s.path.session.stats).epochDrop = s.path.session.stats.epochDrop ∧
      (count s.path.session.stats).epochOnward = s.path.session.stats.epochOnward := by
    dsimp only [count]
    split <;> exact ⟨rfl, rfl⟩
  have stamps : Stamps s.path (s.path.epoch count memory) memory := epoch_stamps paced kept
  have ports := stamps.cfg
  unfold txAudioRtpBuildSingle txAudioSessionRtpUpdatePacket
  dsimp only
  change Builds s memory (let path := s.path.epoch count memory; _)
  generalize s.path.epoch count memory = path at *
  by_cases redundant : s.path.session.cfg.ops.numPort > 1
  · by_cases missing : env.allocRedundant = false
    · simp only [redundant, missing, if_true, Bool.not_false]
      exact .lost (stamps.countPkt .p _)
    · rw [Bool.not_eq_false] at missing
      simp only [redundant, missing, if_true, Bool.not_true, Bool.false_eq_true, if_false]
      refine .built ((stamps.countPkt .p _).countPkt .r _) rfl ?_
      rw [if_pos redundant]
      rfl
  · simp only [redundant, if_false]
    refine .built (stamps.countPkt .p _) rfl ?_
    rw [if_neg redundant]
    rfl

theorem txAudioRtpBuild_spec (paced : s.path.session.cfg.SelfPaced) :
    Builds s memory (txAudioRtpBuild env s memory len) := by
  unfold txAudioRtpBuild
  split
  · exact txAudioRtpBuildSingle_spec env memory len paced
  · exact txAudioRtpBuildChained_spec env memory len paced

end Builds

theorem putOrKeep_onPort {port : MtlSessionPort} (clear : s.inflight port = none) (pkt : TxAudioRawPkt)
    (takes : Bool) (refused : TxAudioRtpRet) :
    let after := s.putOrKeep port pkt takes refused
    after.onPort = Function.update s.onPort port (s.onPort port ++ [pkt]) ∧ after.path = s.path ∧
      after.syncs = s.syncs ∧ after.marks = s.marks ∧
      (forall other, other ≠ port -> after.inflight other = s.inflight other) := by
  intro after
  have shape : after = s.putOrKeep port pkt takes refused := rfl
  unfold TxAudioRtpSession.putOrKeep at shape
  cases takes with
  | true =>
    rw [shape, if_pos rfl]
    exact ⟨givenTo_put clear, rfl, rfl, rfl, fun _ _ => rfl⟩
  | false =>
    rw [shape, if_neg Bool.false_ne_true]
    exact ⟨givenTo_keep clear, rfl, rfl, rfl, fun other apart => Function.update_of_ne apart _ _⟩

/-- The packets go to their ports, and nothing else changes. -/
theorem txAudioRtpPutPkts_spec (env : TxAudioRtpEnv) (clear : s.inflight .p = none) (pkt : TxAudioRawPkt)
    {pktR : Option TxAudioRawPkt} (clearR : pktR.isSome = true -> s.inflight .r = none) :
    let after := txAudioRtpPutPkts env s pkt pktR
    after.onPort .p = s.onPort .p ++ [pkt] ∧ after.onPort .r = s.onPort .r ++ pktR.toList ∧
      after.path = s.path ∧ after.syncs = s.syncs ∧ after.marks = s.marks := by
  rcases putOrKeep_onPort clear pkt (env.takes .p) .pktEnqueueFail with
    ⟨onPort, path, syncs, marks, others⟩
  unfold txAudioRtpPutPkts
  dsimp only
  generalize s.putOrKeep .p pkt (env.takes .p) .pktEnqueueFail = mid at *
  have own : mid.onPort .p = s.onPort .p ++ [pkt] := by rw [onPort, Function.update_self]
  have other : mid.onPort .r = s.onPort .r := by
    rw [onPort]
    exact Function.update_of_ne (by decide) _ _
  cases pktR with
  | none => exact ⟨own, by simp [other], path, syncs, marks⟩
  | some pktR =>
    have clearMid : mid.inflight .r = none := (others .r (by decide)).trans (clearR rfl)
    rcases putOrKeep_onPort clearMid pktR (env.takes .r) .pktREnqueueFail with
      ⟨onPortR, pathR, syncsR, marksR, -⟩
    refine ⟨?_, ?_, pathR.trans path, syncsR.trans syncs, marksR.trans marks⟩
    · rw [onPortR, ← own]
      exact Function.update_of_ne (by decide) _ _
    · rw [onPortR, Function.update_self, other]
      rfl

theorem TxAudioRtpSession.Timed.lost {path : TxAudioPathSession} {memory : Nat -> Byte}
    (timed : s.Timed cfg first) (stamps : Stamps s.path path memory)
    (running : s.path.session.pacing.tscTimeCursor ≠ 0) : (s.built path false).Timed cfg first := by
  rcases timed.synced running with ⟨epochs, stamp⟩
  have sent : (s.built path false).sent = s.sent := by
    unfold TxAudioRtpSession.sent TxAudioRtpSession.built
    rw [List.filter_append]
    exact List.append_nil _
  refine ⟨stamps.cfg.trans timed.same, ?_, timed.marked.mark stamps false stamp, ?_, ?_, fun _ => ?_⟩
  · change FollowsRule cfg first s.syncs path.session.pacing.curEpochs path.session.stats
    rw [stamps.pacing]
    exact ⟨⟨timed.rule.right.follow, stamps.drop.trans timed.rule.right.drop,
      stamps.onward.trans timed.rule.right.onward⟩, timed.rule.last, timed.rule.small⟩
  · rw [sent]
    exact timed.carried
  · intro zero
    exact absurd ((congrArg TxAudioPacing.tscTimeCursor stamps.pacing).symm.trans zero) running
  · change s.epochs = _ ++ [path.session.pacing.curEpochs] ∧ path.session.pacing.rtpTimeStamp =
      path.session.pacing.curEpochs * cfg.sampleNum % 4294967296
    rw [sent, stamps.pacing]
    exact ⟨epochs, stamp⟩

/-- The packet of the epoch leaves, and the next one waits for a synchronisation. -/
theorem TxAudioRtpSession.Timed.sent {path : TxAudioPathSession} {memory : Nat -> Byte} {pkt : TxAudioRawPkt}
    {pktR : Option TxAudioRawPkt} (timed : s.Timed cfg first) (stamps : Stamps s.path path memory)
    (running : s.path.session.pacing.tscTimeCursor ≠ 0) (own : pkt.memory = setRtpTmstamp memory path.rtpTime)
    (copy : pktR.map TxAudioRawPkt.memory = if cfg.ops.numPort > 1 then some pkt.memory else none)
    (env : TxAudioRtpEnv) (clear : s.inflight .p = none)
    (clearR : cfg.ops.numPort > 1 -> s.inflight .r = none) :
    (txAudioRtpPutPkts env (s.built path true).clearCursor pkt pktR).Timed cfg first := by
  rcases timed.synced running with ⟨epochs, stamp⟩
  have marked := timed.marked.mark stamps true stamp
  have ports : pktR.isSome = true -> cfg.ops.numPort > 1 := by
    intro both
    by_contra single
    rw [if_neg single, Option.map_eq_none_iff] at copy
    rw [copy] at both
    cases both
  rcases txAudioRtpPutPkts_spec (s := (s.built path true).clearCursor) env clear pkt
    (fun both => clearR (ports both)) with ⟨onPort, onPortR, kept, syncs, marks⟩
  generalize txAudioRtpPutPkts env (s.built path true).clearCursor pkt pktR = after at *
  let mark : TxAudioRtpMark := ⟨path.rtpTimeApp, path.session.pacing.curEpochs, path.rtpTime, true⟩
  have grown : after.sent = s.sent ++ [mark] := by
    unfold TxAudioRtpSession.sent
    rw [marks]
    exact List.filter_append (p := TxAudioRtpMark.sent) s.marks [mark]
  have tmstamp : pkt.tmstamp = path.rtpTime := by
    unfold TxAudioRawPkt.tmstamp
    rw [own]
    exact rtpTmstamp_set memory marked.small
  have same : path.session.cfg = cfg := stamps.cfg.trans timed.same
  refine ⟨?_, ?_, ?_, fun port sends => ?_, fun _ => ?_, fun absurd => ?_⟩
  · rw [kept]
    exact same
  · rw [kept, syncs]
    change FollowsRule cfg first s.syncs path.session.pacing.curEpochs path.session.stats
    rw [stamps.pacing]
    exact ⟨⟨timed.rule.right.follow, stamps.drop.trans timed.rule.right.drop,
      stamps.onward.trans timed.rule.right.onward⟩, timed.rule.last, timed.rule.small⟩
  · rw [kept, marks]
    exact ⟨marked.follow, marked.app, marked.stamp, marked.small⟩
  · rw [grown, List.map_append]
    cases port with
    | p =>
      rw [onPort, List.map_append]
      exact congrArg₂ (· ++ ·) (timed.carried .p sends) (congrArg (fun stamp => [stamp]) tmstamp)
    | r =>
      have both : cfg.ops.numPort > 1 := sends.resolve_left (by decide)
      rw [if_pos both, Option.map_eq_some_iff] at copy
      rcases copy with ⟨copied, rfl, alike⟩
      have tmstampR : copied.tmstamp = path.rtpTime := by
        rw [← tmstamp]
        exact congrArg rtpTmstamp alike
      rw [onPortR, List.map_append]
      exact congrArg₂ (· ++ ·) (timed.carried .r sends) (congrArg (fun stamp => [stamp]) tmstampR)
  · have unread : after.epochs = s.epochs := congrArg (List.map Prod.snd) syncs
    rw [unread, epochs, grown, List.map_append, ← stamps.pacing]
    rfl
  · rw [kept] at absurd
    exact (absurd rfl).elim

/-! ## Runs -/

theorem TxAudioRtpSession.Timed.sendOne (timed : s.Timed cfg first) (paced : cfg.SelfPaced)
    (running : s.path.session.pacing.tscTimeCursor ≠ 0) (env : TxAudioRtpEnv) (clear : s.inflight .p = none)
    (clearR : cfg.ops.numPort > 1 -> s.inflight .r = none) : (txAudioRtpSendOne env s).1.Timed cfg first := by
  unfold txAudioRtpSendOne
  cases env.packet with
  | none => exact timed.fail _
  | some packet =>
    rcases packet with ⟨memory, len⟩
    have builds := txAudioRtpBuild_spec env memory len (s := s) (timed.same.symm ▸ paced)
    dsimp only
    generalize txAudioRtpBuild env s memory len = result at builds
    cases builds with
    | unallocated => exact timed.fail _
    | lost stamps => exact (timed.lost stamps running).fail _
    | built stamps own copy =>
      rw [timed.same] at copy
      exact timed.sent stamps running own copy env clear clearR

theorem TxAudioRtpSession.Timed.flush (timed : s.Timed cfg first) (port : MtlSessionPort) (takes : Bool)
    (refused : TxAudioRtpRet) : (s.flush port takes refused).1.Timed cfg first := by
  rcases flush_onPort (s := s) port takes refused with ⟨onPort, path, syncs, marks, -⟩
  exact timed.moved onPort path syncs marks

theorem TxAudioRtpSession.Timed.flushRedundant (timed : s.Timed cfg first) (env : TxAudioRtpEnv) :
    (txAudioRtpFlushRedundant env s).1.Timed cfg first ∧
      ((txAudioRtpFlushRedundant env s).2 = true -> s.inflight .p = none ->
        (txAudioRtpFlushRedundant env s).1.inflight .p = none ∧
        (cfg.ops.numPort > 1 -> (txAudioRtpFlushRedundant env s).1.inflight .r = none)) := by
  unfold txAudioRtpFlushRedundant
  rw [timed.same]
  by_cases both : cfg.ops.numPort > 1
  · rw [if_pos both]
    refine ⟨timed.flush .r _ _, fun clear first => ?_⟩
    have moved := (flush_onPort (s := s) .r (env.takesInflight .r) .inflightREnqueueFail).2.2.2.2 clear
    rw [moved]
    exact ⟨first, fun _ => rfl⟩
  · rw [if_neg both]
    exact ⟨timed, fun _ first => ⟨first, fun absurd => (both absurd).elim⟩⟩

theorem TxAudioRtpSession.Timed.step (timed : s.Timed cfg first) (paced : cfg.SelfPaced)
    (env : TxAudioRtpEnv) : (txAudioRtpStep s env).Timed cfg first := by
  have begun : TxAudioRtpSession.Timed { s with buildRetCode := none } cfg first :=
    ⟨timed.same, timed.rule, timed.marked, timed.carried, timed.due, timed.synced⟩
  unfold txAudioRtpStep txAudioSessionTaskletRtp
  generalize ({ s with buildRetCode := none } : TxAudioRtpSession) = s at *
  by_cases full : env.ringFull = true
  · rw [if_pos full]
    exact begun.fail _
  · rw [if_neg full]
    by_cases thresh : env.ringThresh = true
    · rw [if_pos thresh]
      exact begun.fail _
    · rw [if_neg thresh]
      have flushed := begun.flush .p (env.takesInflight .p) .inflightEnqueueFail
      have clear := (flush_onPort (s := s) .p (env.takesInflight .p) .inflightEnqueueFail).2.2.2.2
      generalize s.flush .p (env.takesInflight .p) .inflightEnqueueFail = result at *
      rcases result with ⟨mid, _ | _⟩
      · exact flushed
      · have empty : mid.inflight .p = none := by
          rw [clear rfl]
          rfl
        rcases flushed.flushRedundant env with ⟨flushedR, clearR⟩
        dsimp only at flushedR clearR ⊢
        generalize txAudioRtpFlushRedundant env mid = result at *
        rcases result with ⟨last, _ | _⟩
        · exact flushedR
        · rcases clearR rfl empty with ⟨emptyP, emptyR⟩
          rcases flushedR.sync paced env with ⟨synced, running, inflight⟩
          dsimp only
          split
          · exact synced.fail _
          · exact synced.sendOne paced running env (by rw [inflight]; exact emptyP)
              (fun both => by rw [inflight]; exact emptyR both)

theorem rtp_timed_run (cfg : TxAudioConfig) (paced : cfg.SelfPaced) (ptpTime : BitVec 64)
    (envs : List TxAudioRtpEnv) :
    (run txAudioRtpStep (txAudioRtpInit cfg ptpTime) envs).Timed cfg
      (stTaiToEpoch ptpTime.toNat cfg.fps) := by
  refine run_invariant txAudioRtpStep (fun _ _ => True)
    (fun s => s.Timed cfg (stTaiToEpoch ptpTime.toNat cfg.fps))
    (fun s env timed _ => timed.step paced env) ?_ (admitted_of_forall txAudioRtpStep (fun _ _ => trivial))
  have small : 4294967295 < 4294967296 := by decide
  exact ⟨rfl, FollowsRule.start cfg ptpTime, ⟨rfl, rfl, rfl, small⟩, fun _ _ => rfl, fun _ => rfl,
    fun absurd => (absurd rfl).elim⟩

/-! ## Epochs and timestamps -/

theorem TxAudioConfig.Reaches.pred {cfg : TxAudioConfig} {epoch : Nat}
    (reaches : cfg.Reaches (epoch + 1)) : cfg.Reaches epoch := by
  refine Nat.lt_of_le_of_lt (Nat.div_le_div_right ?_) reaches
  apply Nat.mul_le_mul_right
  exact Nat.mul_le_mul_right _ (Nat.le_succ epoch)

/-- An epoch that begins later than any time has the tick nearest to the last time there is. -/
theorem stampOf_saturated (cfg : TxAudioConfig) {epoch : Nat} (beyond : ¬ cfg.Reaches epoch) :
    cfg.stampOf epoch =
      roundHalfDown (uint64Max * st30GetSampleRate cfg.ops.sampling) nsPerS % 4294967296 := by
  rcases sampleRate_bounds cfg.ops.sampling with ⟨positive, slow⟩
  have fine : st30GetSampleRate cfg.ops.sampling ≤ nsPerS := Nat.le_trans slow (by decide)
  have time : txAudioPacingTime cfg epoch = uint64Max := by
    have order : epoch * nsPerS * cfg.sampleNum = epoch * cfg.sampleNum * nsPerS := by ring
    unfold txAudioPacingTime stEpochToTai
    dsimp only [TxAudioConfig.fps]
    rw [order, if_pos (Nat.not_lt.mp beyond)]
  unfold TxAudioConfig.stampOf
  rw [time]
  unfold st10TaiToMediaClk
  rw [if_neg (Nat.ne_of_gt positive), tick_eq positive fine (by decide)]

/-- What is promised of the timestamps of packets with these epochs: a whole number of packets' samples
while the epoch begins within the clock's range, and the nearest tick to its end from there on. -/
structure StampsOfEpochs (cfg : TxAudioConfig) (epochs stamps : List Nat) : Prop where
  place : forall (index stamp : Nat), stamps[index]? = some stamp -> Exists fun epoch =>
    epochs[index]? = some epoch ∧
      (cfg.Reaches epoch -> stamp = epoch * cfg.sampleNum % 4294967296) ∧
      (¬ cfg.Reaches epoch ->
        stamp = roundHalfDown (uint64Max * st30GetSampleRate cfg.ops.sampling) nsPerS % 4294967296)
  apart : forall (index stamp next epoch : Nat), stamps[index]? = some stamp ->
    stamps[index + 1]? = some next -> epochs[index]? = some epoch ->
    epochs[index + 1]? = some (epoch + 1) -> cfg.Reaches (epoch + 1) ->
    next = (stamp + cfg.sampleNum) % 4294967296

theorem stampsOfEpochs {cfg : TxAudioConfig} {epochs stamps : List Nat}
    (same : forall (index stamp : Nat), stamps[index]? = some stamp -> Exists fun epoch =>
      epochs[index]? = some epoch ∧ stamp = cfg.stampOf epoch) : StampsOfEpochs cfg epochs stamps := by
  refine ⟨fun index stamp found => ?_,
    fun index stamp next epoch found after place successive reaches => ?_⟩
  · rcases same index stamp found with ⟨epoch, place, rfl⟩
    exact ⟨epoch, place, stampOf_eq cfg, stampOf_saturated cfg⟩
  · rcases same index stamp found with ⟨own, placeOwn, rfl⟩
    rcases same (index + 1) next after with ⟨later, placeNext, rfl⟩
    obtain rfl : own = epoch := Option.some.inj (placeOwn.symm.trans place)
    obtain rfl : later = own + 1 := Option.some.inj (placeNext.symm.trans successive)
    rw [stampOf_eq cfg reaches, stampOf_eq cfg reaches.pred, Nat.mod_add_mod, Nat.add_mul, Nat.one_mul]

/-- In every run of a session of either type the epochs follow the rule for the readings of the clock, and
what is passed over and what is stepped back is counted.  A packet of a frame has the timestamp of its epoch.
The packets of the application, built one for each epoch, have those that its own timestamps mark. -/
theorem audio_epochs_and_stamps (cfg : TxAudioConfig) (paced : cfg.SelfPaced) (ptpTime : BitVec 64) :
    let first := stTaiToEpoch ptpTime.toNat cfg.fps
    (forall envs : List TxAudioEnv,
      let s := run txAudioStep (txAudioInit cfg ptpTime) envs
      EpochsRight cfg first s.readings s.epochs s.stats ∧
        forall port, cfg.Sends port ->
          StampsOfEpochs cfg s.epochs ((s.wire port).map fun pkt => pkt.rtp.base.tmstamp)) ∧
    forall envs : List TxAudioRtpEnv,
      let s := run txAudioRtpStep (txAudioRtpInit cfg ptpTime) envs
      EpochsRight cfg first s.readings s.epochs s.path.session.stats ∧
        s.marks.map TxAudioRtpMark.stamp =
          stampRun cfg 4294967295 4294967295 (s.marks.map fun mark => (mark.app, mark.epoch)) ∧
        s.sent.map TxAudioRtpMark.epoch <+: s.epochs ∧
        forall port, cfg.Sends port ->
          (s.wire port).map TxAudioRawPkt.tmstamp <+: s.sent.map TxAudioRtpMark.stamp := by
  intro first
  refine ⟨fun envs => ?_, fun envs => ?_⟩
  · intro s
    have timed := timed_run cfg paced ptpTime envs
    have same := (continuous_run cfg ptpTime envs).2
    refine ⟨?_, fun port sends => stampsOfEpochs fun index stamp found => ?_⟩
    · have right := timed.rule.right
      rw [same] at right
      exact right
    · rw [List.getElem?_map, Option.map_eq_some_iff] at found
      rcases found with ⟨pkt, sent, rfl⟩
      exact packet_stamp cfg paced ptpTime envs sends sent
  · intro s
    have timed : s.Timed cfg first := rtp_timed_run cfg paced ptpTime envs
    refine ⟨timed.rule.right, timed.marked.follow, ?_, fun port sends => ?_⟩
    · by_cases due : s.path.session.pacing.tscTimeCursor = 0
      · rw [timed.due due]
      · rw [(timed.synced due).1]
        exact List.prefix_append _ _
    · rw [← timed.carried port sends]
      unfold TxAudioRtpSession.onPort givenTo
      rw [List.map_append]
      exact List.prefix_append _ _

theorem stereoOnTwoPorts_selfPaced : stereoOnTwoPorts.SelfPaced := ⟨rfl, rfl, rfl⟩

/-- The application writes a packet with this timestamp. -/
def writtenPacket (stamp : Nat) : TxAudioRtpEnv :=
  { silentFrame with
    syncTsc := 1
    ringThresh := false
    packet := some (setRtpTmstamp (fun _ => 0) stamp, 36)
    counts := Nat.zero_lt_one }

/-- The packets of one frame follow each other by the samples of a packet, and so do those of the
application. -/
theorem silent_frame_stamps :
    let s := run txAudioStep (txAudioInit stereoOnTwoPorts 0) [silentFrame, silentFrame]
    let rtp := run txAudioRtpStep (txAudioRtpInit stereoOnTwoPorts 0) [writtenPacket 5, writtenPacket 7]
    s.epochs = [1, 2] ∧
      StampsOfEpochs stereoOnTwoPorts s.epochs ((s.wire .p).map fun pkt => pkt.rtp.base.tmstamp) ∧
      (rtp.wire .r).map TxAudioRawPkt.tmstamp = [6, 12] ∧
      rtp.marks.map TxAudioRtpMark.stamp =
        stampRun stereoOnTwoPorts 4294967295 4294967295 (rtp.marks.map fun mark => (mark.app, mark.epoch)) :=
  have right := audio_epochs_and_stamps stereoOnTwoPorts stereoOnTwoPorts_selfPaced 0
  ⟨by decide +kernel, (right.1 [silentFrame, silentFrame]).2 .p (Or.inl rfl), by decide +kernel,
    (right.2 [writtenPacket 5, writtenPacket 7]).2.1⟩

/-- At the end of the clock's range the next epoch begins later than any time, and the packet gets
the timestamp of the last time there is.  A packet on which the application repeats its timestamp gets that
of the epoch before. -/
theorem stamps_apart_from_epochs :
    let s := run txAudioStep (txAudioInit stereoOnTwoPorts (BitVec.allOnes 64))
      [{ silentFrame with ptpTime := BitVec.allOnes 64 }]
    let rtp := run txAudioRtpStep (txAudioRtpInit stereoOnTwoPorts 0) [writtenPacket 5, writtenPacket 5]
    s.epochs = [147573952589677] ∧
      (s.wire .p).map (fun pkt => pkt.rtp.base.tmstamp) = [1847729290] ∧
      147573952589677 * stereoOnTwoPorts.sampleNum % 4294967296 = 1847729294 ∧
      rtp.epochs = [1, 2] ∧ (rtp.wire .p).map TxAudioRawPkt.tmstamp = [6, 6] := by
  decide +kernel

end MediaTransport.Audio
