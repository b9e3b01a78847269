import MediaTransport.Audio.Continuity

namespace MediaTransport.Audio

open Library

/-!
# Epochs and timestamps of audio packets

A packet has the epoch after that of the packet before it, unless the clock
has run far ahead or has been set far back; then it has the epoch of the clock,
and the distance is counted.  The time of an epoch is rounded down to
nanoseconds, and the nearest tick of the media clock is exact again.
-/

/-! ## The rule -/

def followingEpoch (cfg : TxAudioConfig) (previous clock : Nat) : Nat :=
  if previous + 1 + cfg.maxLateEpochs.toNat ≤ clock then clock
  else if clock + cfg.maxOnwardEpochs.toNat ≤ previous then clock
  else previous + 1

def epochRun (cfg : TxAudioConfig) : Nat -> List (BitVec 64) -> List Nat
  | _, [] => []
  | previous, ptpTime :: rest =>
    let next := followingEpoch cfg previous (stTaiToEpoch ptpTime.toNat cfg.fps)
    next :: epochRun cfg next rest

def totalSkipped : Nat -> List Nat -> Nat
  | _, [] => 0
  | previous, next :: rest => (next - (previous + 1)) + totalSkipped next rest

def totalBack : Nat -> List Nat -> Nat
  | _, [] => 0
  | previous, next :: rest => (previous + 1 - next) + totalBack next rest

def lastEpoch : Nat -> List Nat -> Nat
  | first, [] => first
  | _, epoch :: rest => lastEpoch epoch rest

theorem lastEpoch_concat (first next : Nat) (epochs : List Nat) :
    lastEpoch first (epochs ++ [next]) = next := by
  induction epochs generalizing first with
  | nil => rfl
  | cons epoch rest ih => exact ih epoch

theorem epochRun_concat (cfg : TxAudioConfig) (first : Nat) (readings : List (BitVec 64))
    (ptpTime : BitVec 64) :
    epochRun cfg first (readings ++ [ptpTime]) =
      epochRun cfg first readings ++
        [followingEpoch cfg (lastEpoch first (epochRun cfg first readings))
          (stTaiToEpoch ptpTime.toNat cfg.fps)] := by
  induction readings generalizing first with
  | nil => rfl
  | cons reading rest ih => simp only [List.cons_append, epochRun, ih, lastEpoch]

theorem totalSkipped_concat (first next : Nat) (epochs : List Nat) :
    totalSkipped first (epochs ++ [next]) =
      totalSkipped first epochs + (next - (lastEpoch first epochs + 1)) := by
  induction epochs generalizing first with
  | nil => simp [totalSkipped, lastEpoch]
  | cons epoch rest ih => simp only [List.cons_append, totalSkipped, ih, lastEpoch, Nat.add_assoc]

theorem totalBack_concat (first next : Nat) (epochs : List Nat) :
    totalBack first (epochs ++ [next]) =
      totalBack first epochs + (lastEpoch first epochs + 1 - next) := by
  induction epochs generalizing first with
  | nil => simp [totalBack, lastEpoch]
  | cons epoch rest ih => simp only [List.cons_append, totalBack, ih, lastEpoch, Nat.add_assoc]

/-! ## Timestamps -/

theorem sampleRate_bounds (sampling : St30Sampling) :
    0 < st30GetSampleRate sampling ∧ st30GetSampleRate sampling ≤ 96000 := by
  cases sampling <;> decide

theorem sampleNum_ge {ptime : St30Ptime} {sampling : St30Sampling} {num : Nat}
    (defined : st30GetSampleNum ptime sampling = .ok num) : 4 ≤ num := by
  cases sampling <;> cases ptime <;> cases defined <;> decide

theorem tick_of_floor {rate ticks : Nat} (positive : 0 < rate) (slow : rate ≤ 96000) :
    st10TaiToMediaClk (ticks * nsPerS / rate) rate = ticks % 4294967296 := by
  have split := Nat.div_add_mod (ticks * nsPerS) rate
  have small := Nat.mod_lt (ticks * nsPerS) positive
  rw [Nat.mul_comm rate] at split
  unfold st10TaiToMediaClk
  rw [if_neg (Nat.ne_of_gt positive)]
  unfold stMuldivU64RoundClosest u64 nsPerS at *
  generalize ticks * 1000000000 / rate * rate = product at split ⊢
  generalize ticks * 1000000000 % rate = rest at split small
  dsimp only
  by_cases exact_time : rest = 0
  · have whole : product / 1000000000 = ticks := by omega
    rw [whole, if_neg (by omega)]
    omega
  · have below : product / 1000000000 + 1 = ticks := by omega
    rw [if_pos (by omega), below]
    omega

/-- The application controls neither pacing nor timestamps. -/
structure TxAudioConfig.SelfPaced (cfg : TxAudioConfig) : Prop where
  userPacing : cfg.ops.userPacing = false
  userTimestamp : cfg.ops.userTimestamp = false
  delta : cfg.ops.rtpTimestampDeltaUs = 0

def TxAudioConfig.stampOf (cfg : TxAudioConfig) (epoch : Nat) : Nat :=
  st10TaiToMediaClk (txAudioPacingTime cfg epoch) (st30GetSampleRate cfg.ops.sampling)

def TxAudioConfig.Reaches (cfg : TxAudioConfig) (epoch : Nat) : Prop :=
  epoch * cfg.sampleNum * nsPerS / st30GetSampleRate cfg.ops.sampling < uint64Max

theorem stampOf_eq (cfg : TxAudioConfig) {epoch : Nat} (reaches : cfg.Reaches epoch) :
    cfg.stampOf epoch = epoch * cfg.sampleNum % 4294967296 := by
  rcases sampleRate_bounds cfg.ops.sampling with ⟨positive, slow⟩
  have time : txAudioPacingTime cfg epoch =
      epoch * cfg.sampleNum * nsPerS / st30GetSampleRate cfg.ops.sampling := by
    have order : epoch * nsPerS * cfg.sampleNum = epoch * cfg.sampleNum * nsPerS := by ring
    unfold txAudioPacingTime stEpochToTai
    dsimp only [TxAudioConfig.fps]
    rw [order, if_neg (Nat.not_le.mpr reaches)]
  unfold TxAudioConfig.stampOf
  rw [time]
  exact tick_of_floor positive slow

/-! ## A synchronisation -/

theorem clockEpoch_le (cfg : TxAudioConfig) (ptpTime : BitVec 64) :
    stTaiToEpoch ptpTime.toNat cfg.fps ≤ 1000000000000000 := by
  have rate := (sampleRate_bounds cfg.ops.sampling).2
  have num := sampleNum_ge cfg.sampled
  unfold stTaiToEpoch u64
  refine Nat.le_trans (Nat.mod_le _ _) ?_
  apply Nat.div_le_of_le_mul
  have reading : ptpTime.toNat + 1 ≤ 18446744073709551616 := ptpTime.isLt
  have upper : (ptpTime.toNat + 1) * cfg.fps.mul ≤ 18446744073709551616 * 96000 :=
    Nat.mul_le_mul reading rate
  have lower : nsPerS * 4 ≤ nsPerS * cfg.fps.den := Nat.mul_le_mul_left nsPerS num
  unfold nsPerS at *
  omega

theorem followingEpoch_le (cfg : TxAudioConfig) (previous clock : Nat) :
    followingEpoch cfg previous clock ≤ clock + cfg.maxOnwardEpochs.toNat := by
  unfold followingEpoch
  split
  · exact Nat.le_add_right _ _
  · split
    · exact Nat.le_add_right _ _
    · omega

theorem txAudioNextEpoch_eq (cfg : TxAudioConfig) {curEpochs : Nat} (clock : Nat)
    (small : curEpochs + 1 < 18446744073709551616) :
    (txAudioNextEpoch cfg curEpochs clock).1 = followingEpoch cfg curEpochs clock := by
  have wrap : u64 (curEpochs + 1) = curEpochs + 1 := Nat.mod_eq_of_lt small
  unfold txAudioNextEpoch followingEpoch
  rw [wrap]
  by_cases behind : clock ≤ curEpochs
  · have noJump : ¬ curEpochs + 1 + cfg.maxLateEpochs.toNat ≤ clock := by omega
    simp only [behind, noJump, if_true, if_false]
    by_cases close : curEpochs - clock < cfg.maxOnwardEpochs.toNat
    · rw [if_pos close, if_neg (by omega)]
    · rw [if_neg close, if_pos (by omega)]
  · have noStep : ¬ clock + cfg.maxOnwardEpochs.toNat ≤ curEpochs := by omega
    simp only [behind, noStep, if_false]
    by_cases ahead : clock > curEpochs + 1
    · simp only [ahead, if_true]
      by_cases close : clock - (curEpochs + 1) < cfg.maxLateEpochs.toNat
      · rw [if_pos close, if_neg (by omega)]
      · rw [if_neg close, if_pos (by omega)]
    · have next : clock = curEpochs + 1 := by omega
      simp [next]

def SmallEpoch (epoch : Nat) : Prop := epoch ≤ 1000000000000000 + 4294967296

variable {cfg : TxAudioConfig} {env : TxAudioEnv} {s : TxAudioSession}

/-- A synchronisation without a demand of the application. -/
theorem txAudioSessionSyncPacing_spec (ptpTime tsc : Nat) (undelayed : s.cfg.ops.rtpTimestampDeltaUs = 0)
    (small : SmallEpoch s.pacing.curEpochs) :
    let epoch := followingEpoch s.cfg s.pacing.curEpochs (stTaiToEpoch ptpTime s.cfg.fps)
    let after := txAudioSessionSyncPacing s ptpTime tsc 0
    after.pacing.curEpochs = epoch ∧ after.pacing.ptpTimeCursor = txAudioPacingTime s.cfg epoch ∧
      after.pacing.rtpTimeStamp = txAudioPacingTimeStamp s.cfg epoch ∧
      tsc ≤ after.pacing.tscTimeCursor ∧
      after.stats.epochDrop = s.stats.epochDrop + (epoch - (s.pacing.curEpochs + 1)) ∧
      after.stats.epochOnward = s.stats.epochOnward + (s.pacing.curEpochs + 1 - epoch) := by
  intro epoch after
  have room : s.pacing.curEpochs + 1 < 18446744073709551616 := by
    unfold SmallEpoch at small
    omega
  have wrap : u64 (s.pacing.curEpochs + 1) = s.pacing.curEpochs + 1 := Nat.mod_eq_of_lt room
  have taken : (txAudioNextEpoch s.cfg s.pacing.curEpochs (stTaiToEpoch ptpTime s.cfg.fps)).1 = epoch :=
    txAudioNextEpoch_eq s.cfg (stTaiToEpoch ptpTime s.cfg.fps) room
  rcases move : txAudioNextEpoch s.cfg s.pacing.curEpochs (stTaiToEpoch ptpTime s.cfg.fps) with
    ⟨chosen, late⟩
  rw [move] at taken
  obtain rfl : chosen = epoch := taken
  have shape : after = txAudioSessionSyncPacing s ptpTime tsc 0 := rfl
  simp only [txAudioSessionSyncPacing, ne_eq, not_true_eq_false, if_false, move, wrap, and_true,
    undelayed] at shape
  rw [shape]
  refine ⟨rfl, rfl, rfl, Nat.le_add_right _ _, ?_, ?_⟩
  · dsimp only
    split
    · rfl
    · omega
  · dsimp only
    split
    · rfl
    · omega

theorem txAudioSyncPkt_spec (env : TxAudioEnv) (paced : s.cfg.SelfPaced)
    (small : SmallEpoch s.pacing.curEpochs) (due : s.calculateTimeCursor = true) :
    let epoch := followingEpoch s.cfg s.pacing.curEpochs
      (stTaiToEpoch env.ptpTime.toNat s.cfg.fps)
    (txAudioSyncPkt env s).pacing.curEpochs = epoch ∧
      (txAudioSyncPkt env s).pacing.rtpTimeStamp = s.cfg.stampOf epoch ∧
      (txAudioSyncPkt env s).stats.epochDrop =
        s.stats.epochDrop + (epoch - (s.pacing.curEpochs + 1)) ∧
      (txAudioSyncPkt env s).stats.epochOnward =
        s.stats.epochOnward + (s.pacing.curEpochs + 1 - epoch) := by
  intro epoch
  rcases txAudioSessionSyncPacing_spec env.ptpTime.toNat env.syncTsc paced.delta small with
    ⟨curEpochs, cursor, -, -, drop, onward⟩
  have early : u64 (txAudioPacingTime s.cfg epoch + word 64 (0 * 1000)) =
      txAudioPacingTime s.cfg epoch := by
    have bound : txAudioPacingTime s.cfg epoch < 18446744073709551616 := by
      unfold txAudioPacingTime stEpochToTai uint64Max
      dsimp only
      split <;> omega
    have none : word 64 (0 * 1000) = 0 := by decide
    rw [none, Nat.add_zero]
    exact Nat.mod_eq_of_lt bound
  have cfg : (txAudioSessionSyncPacing s env.ptpTime.toNat env.syncTsc 0).cfg = s.cfg := rfl
  simp only [txAudioSyncPkt, due, txAudioPacingRequiredTai, paced.userPacing, if_true, Bool.not_false,
    txAudioPacingUpdateRtpTimeStamp, cfg, paced.userTimestamp, Bool.false_eq_true, if_false, ne_eq,
    not_true_eq_false, paced.delta, curEpochs, cursor, drop, onward]
  rw [early]
  exact ⟨rfl, rfl, rfl, rfl⟩

/-! ## Runs -/

def syncs : List TxAudioEvent -> List (BitVec 64 × Nat)
  | [] => []
  | .synced ptpTime epoch :: older => syncs older ++ [(ptpTime, epoch)]
  | _ :: older => syncs older

def TxAudioSession.readings (s : TxAudioSession) : List (BitVec 64) := (syncs s.events).map Prod.fst

def TxAudioSession.epochs (s : TxAudioSession) : List Nat := (syncs s.events).map Prod.snd

/-- What is promised of the epochs: they follow the rule for the readings of the clock, and what is passed
over and what is stepped back is counted. -/
structure EpochsRight (cfg : TxAudioConfig) (first : Nat) (readings : List (BitVec 64)) (epochs : List Nat)
    (stats : TxAudioStats) : Prop where
  follow : epochs = epochRun cfg first readings
  drop : stats.epochDrop = totalSkipped first epochs
  onward : stats.epochOnward = totalBack first epochs

/-- The pacing follows the rule, from this epoch on. -/
structure FollowsRule (cfg : TxAudioConfig) (first : Nat) (syncs : List (BitVec 64 × Nat)) (curEpochs : Nat)
    (stats : TxAudioStats) : Prop where
  right : EpochsRight cfg first (syncs.map Prod.fst) (syncs.map Prod.snd) stats
  last : curEpochs = lastEpoch first (syncs.map Prod.snd)
  small : SmallEpoch curEpochs

variable {first : Nat}

theorem FollowsRule.start (cfg : TxAudioConfig) (ptpTime : BitVec 64) :
    FollowsRule cfg (stTaiToEpoch ptpTime.toNat cfg.fps) [] (stTaiToEpoch ptpTime.toNat cfg.fps)
      TxAudioStats.zero where
  right := ⟨rfl, rfl, rfl⟩
  last := rfl
  small := Nat.le_trans (clockEpoch_le cfg ptpTime) (by omega)

theorem FollowsRule.sync {syncs : List (BitVec 64 × Nat)} {curEpochs next : Nat} {stats after : TxAudioStats}
    (rule : FollowsRule cfg first syncs curEpochs stats) (ptpTime : BitVec 64)
    (epoch : next = followingEpoch cfg curEpochs (stTaiToEpoch ptpTime.toNat cfg.fps))
    (drop : after.epochDrop = stats.epochDrop + (next - (curEpochs + 1)))
    (onward : after.epochOnward = stats.epochOnward + (curEpochs + 1 - next)) :
    FollowsRule cfg first (syncs ++ [(ptpTime, next)]) next after := by
  refine ⟨⟨?_, ?_, ?_⟩, ?_, ?_⟩
  · simp only [List.map_append, List.map_cons, List.map_nil, epochRun_concat]
    rw [← rule.right.follow, ← rule.last, ← epoch]
  · simp only [List.map_append, List.map_cons, List.map_nil, totalSkipped_concat]
    rw [← rule.last, ← rule.right.drop, drop]
  · simp only [List.map_append, List.map_cons, List.map_nil, totalBack_concat]
    rw [← rule.last, ← rule.right.onward, onward]
  · simp only [List.map_append, List.map_cons, List.map_nil, lastEpoch_concat]
  · have clock := clockEpoch_le cfg ptpTime
    have step := followingEpoch_le cfg curEpochs (stTaiToEpoch ptpTime.toNat cfg.fps)
    unfold SmallEpoch
    rw [epoch]
    omega

/-- Packet by packet the timestamps are those of the epochs; a synchronisation without its packet
has left its timestamp in the pacing. -/
structure TxAudioSession.StampsRight (s : TxAudioSession) : Prop where
  stamps : forall (index : Nat) (rtp : AudioRtp),
    (recordedPackets (audioRecords s.events))[index]? = some rtp ->
      Exists fun epoch => s.epochs[index]? = some epoch ∧ rtp.base.tmstamp = s.cfg.stampOf epoch
  due : s.calculateTimeCursor = true ->
    s.epochs.length = (recordedPackets (audioRecords s.events)).length
  synced : s.calculateTimeCursor = false ->
    s.epochs[(recordedPackets (audioRecords s.events)).length]? = some s.pacing.curEpochs ∧
    s.epochs.length = (recordedPackets (audioRecords s.events)).length + 1 ∧
    s.pacing.rtpTimeStamp = s.cfg.stampOf s.pacing.curEpochs

/-- What holds of the epochs in every state. -/
structure TxAudioSession.Timed (s : TxAudioSession) (first : Nat) : Prop where
  paced : s.cfg.SelfPaced
  rule : FollowsRule s.cfg first (syncs s.events) s.pacing.curEpochs s.stats
  stamps : s.StampsRight

theorem TxAudioSession.Timed.sync (timed : s.Timed first) (due : s.calculateTimeCursor = true) :
    (txAudioSyncPkt env s).Timed first := by
  rcases txAudioSyncPkt_spec env timed.paced timed.rule.small due with ⟨epoch, stamp, drop, onward⟩
  rcases txAudioSyncPkt_shape env due with ⟨stats, pacing, taMeta, shape⟩
  rw [shape] at epoch stamp drop onward ⊢
  dsimp only at epoch stamp drop onward
  have grown : syncs (.synced env.ptpTime pacing.curEpochs :: s.events) =
      syncs s.events ++ [(env.ptpTime, pacing.curEpochs)] := rfl
  have count := timed.stamps.due due
  refine ⟨timed.paced, ?_, ?_, fun absurd => (by cases absurd), fun _ => ?_⟩
  · change FollowsRule s.cfg first (syncs (.synced env.ptpTime pacing.curEpochs :: s.events)) pacing.curEpochs
      stats
    rw [← epoch] at drop onward
    rw [grown]
    exact timed.rule.sync env.ptpTime epoch drop onward
  · intro index rtp found
    rcases timed.stamps.stamps index rtp found with ⟨own, place, tmstamp⟩
    refine ⟨own, ?_, tmstamp⟩
    have inside : index < s.epochs.length := (List.getElem?_eq_some_iff.mp place).1
    simp only [TxAudioSession.epochs, grown, List.map_append] at place inside ⊢
    rw [List.getElem?_append_left inside]
    exact place
  · refine ⟨?_, ?_, ?_⟩
    · change (List.map Prod.snd (syncs s.events ++ [(env.ptpTime, pacing.curEpochs)]))[_]? = _
      rw [show audioRecords (.synced env.ptpTime pacing.curEpochs :: s.events) =
        audioRecords s.events from rfl, ← count, List.map_append]
      exact List.getElem?_concat_length
    · change (List.map Prod.snd (syncs s.events ++ [(env.ptpTime, pacing.curEpochs)])).length = _
      rw [List.map_append, List.length_append]
      exact congrArg (· + 1) count
    · dsimp only
      rw [stamp, epoch]

theorem TxAudioSession.Timed.prepares {before after : TxAudioSession} (timed : before.Timed first)
    (right : before.FramesRight) (prepares : TxAudioPrepares env before after) :
    after.Timed first := by
  rcases prepares.frames right with ⟨-, -, -, packets⟩
  cases prepares with
  | coded code =>
    exact ⟨timed.paced, timed.rule, timed.stamps.stamps, timed.stamps.due, timed.stamps.synced⟩
  | flushed kept =>
    exact ⟨timed.paced, timed.rule, timed.stamps.stamps, timed.stamps.due, timed.stamps.synced⟩
  | taken none stat free =>
    refine ⟨timed.paced, timed.rule, ?_, ?_, ?_⟩
    · rw [packets]
      exact timed.stamps.stamps
    · rw [packets]
      exact timed.stamps.due
    · rw [packets]
      exact timed.stamps.synced
  | synced stat due => exact timed.sync due

theorem finish_emit_timed {pkt : TxAudioPkt} {pktR : Option TxAudioPkt} (clear : s.Clear)
    (carried : CarriedBy s.cfg s.nextRtp pkt pktR) :
    let after := txAudioFinishFrame (s.emit env pkt pktR)
    after.pacing.curEpochs = s.pacing.curEpochs ∧ after.stats.epochDrop = s.stats.epochDrop ∧
      after.stats.epochOnward = s.stats.epochOnward ∧ syncs after.events = syncs s.events ∧
      after.calculateTimeCursor = true := by
  rcases emit_shape env clear carried with ⟨_, _, _, _, _, _, shape, -⟩
  rw [shape]
  unfold txAudioFinishFrame
  split
  · dsimp only
    split <;> exact ⟨rfl, rfl, rfl, rfl, rfl⟩
  · exact ⟨rfl, rfl, rfl, rfl, rfl⟩

theorem TxAudioSession.Timed.outcome {after : TxAudioSession} (timed : s.Timed first)
    (right : s.FramesRight) (sending : s.frameStat = .sendingPkts)
    (synced : s.calculateTimeCursor = false) (clear : s.Clear) (outcome : TxAudioOutcome env s after) :
    after.Timed first := by
  cases outcome with
  | unallocated =>
    exact ⟨timed.paced, timed.rule, timed.stamps.stamps, timed.stamps.due, timed.stamps.synced⟩
  | lost buffers ports missing => exact ⟨timed.paced, timed.rule, timed.stamps.stamps, timed.stamps.due,
      timed.stamps.synced⟩
  | @sent pkt pktR carried =>
    rcases @emit_frames env s sending clear right pkt pktR carried with ⟨-, cfg, -, packets, -⟩
    rcases @finish_emit_timed env s pkt pktR clear carried with ⟨pacing, drop, onward, same, flag⟩
    rcases timed.stamps.synced synced with ⟨next, count, stamp⟩
    have epochs : (txAudioFinishFrame (s.emit env pkt pktR)).epochs = s.epochs :=
      congrArg (List.map Prod.snd) same
    generalize txAudioFinishFrame (s.emit env pkt pktR) = after at *
    refine ⟨cfg ▸ timed.paced, ?_, ?_, fun _ => ?_, fun absurd => ?_⟩
    · rw [cfg, pacing, same]
      exact ⟨⟨timed.rule.right.follow, drop.trans timed.rule.right.drop,
        onward.trans timed.rule.right.onward⟩, timed.rule.last, timed.rule.small⟩
    · rw [epochs, cfg, packets]
      exact forall_places_concat timed.stamps.stamps ⟨_, next, stamp⟩
    · rw [epochs, packets, count, List.length_append]
      rfl
    · rw [flag] at absurd
      cases absurd

theorem timed_run (cfg : TxAudioConfig) (paced : cfg.SelfPaced) (ptpTime : BitVec 64)
    (envs : List TxAudioEnv) :
    (run txAudioStep (txAudioInit cfg ptpTime) envs).Timed (stTaiToEpoch ptpTime.toNat cfg.fps) := by
  have start : (txAudioInit cfg ptpTime).Timed (stTaiToEpoch ptpTime.toNat cfg.fps) := by
    exact ⟨paced, FollowsRule.start cfg ptpTime, fun _ _ absurd => (by cases absurd), fun _ => rfl,
      fun absurd => (by cases absurd)⟩
  refine (run_invariant txAudioStep (fun _ _ => True)
    (fun s => s.Continuous ∧ s.Timed (stTaiToEpoch ptpTime.toNat cfg.fps)) ?_
    ⟨(continuous_init cfg ptpTime).1, start⟩ (admitted_of_forall txAudioStep (fun _ _ => trivial))).2
  intro s env holds _
  refine @txAudioStep_preserves env
    (fun s => s.Continuous ∧ s.Timed (stTaiToEpoch ptpTime.toNat cfg.fps)) s
    holds.1.frames.waits ?_ ?_ holds
  · intro before after there prepares
    exact ⟨there.1.prepares prepares, there.2.prepares there.1.frames prepares⟩
  · intro mid after ready there outcome
    exact ⟨(there.1.outcome ready.sending ready.clear outcome).1,
      there.2.outcome there.1.frames ready.sending ready.synced ready.clear outcome⟩

theorem packet_stamp (cfg : TxAudioConfig) (paced : cfg.SelfPaced) (ptpTime : BitVec 64)
    (envs : List TxAudioEnv) {port : MtlSessionPort} (sends : cfg.Sends port) {index : Nat}
    {pkt : TxAudioPkt}
    (found : ((run txAudioStep (txAudioInit cfg ptpTime) envs).wire port)[index]? = some pkt) :
    Exists fun epoch => (run txAudioStep (txAudioInit cfg ptpTime) envs).epochs[index]? = some epoch ∧
      pkt.rtp.base.tmstamp = cfg.stampOf epoch := by
  have timed := timed_run cfg paced ptpTime envs
  rcases continuous_run cfg ptpTime envs with ⟨continuous, same⟩
  have given := continuous.given port (same.symm ▸ sends)
  have stamps := timed.stamps.stamps index pkt.rtp (givenTo_sent given found)
  rw [same] at stamps
  exact stamps

end MediaTransport.Audio
