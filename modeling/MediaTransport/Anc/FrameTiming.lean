import MediaTransport.Anc.TxSequence
import MediaTransport.Util.MediaTicks

namespace MediaTransport.Anc

open Library

/-!
# Timestamps of frames

The pacing is synchronised for a frame when a flag says so.  The flag is set
with the last packet of a frame, and cleared when a frame is given up, so the
frame after one that was given up goes out with the timestamp of the frame
before.  All other frames are synchronised once, before their first packet.
-/

variable (cfg : TxAncConfig) (s : TxAncSession)

variable {epoch : Nat} {newer older : List TxFrameRecord} {record : TxFrameRecord} {rtp : TxRtp}

/-! ## Frames on time -/

def TxRtp.HasStamp (rtp : TxRtp) (stamp : Nat) : Prop :=
  match rtp with
  | .anc rtp => rtp.base.tmstamp = stamp
  | .fmd rtp => rtp.base.tmstamp = stamp
  | .raw _ _ => False

theorem TxRtp.HasBase.stamp {s : TxAncSession} (base : rtp.HasBase s.rtpBase) :
    rtp.HasStamp s.pacing.rtpTimeStamp := by
  cases rtp with
  | anc anc =>
    have own : anc.base = { s.rtpBase with marker := anc.base.marker } := base
    change anc.base.tmstamp = s.pacing.rtpTimeStamp
    rw [own]
    rfl
  | fmd fmd =>
    have own : fmd.base = s.rtpBase := base
    change fmd.base.tmstamp = s.pacing.rtpTimeStamp
    rw [own]
    rfl
  | raw memory len => exact base

/-- One synchronisation before the first packet, and one timestamp on the wire and in the report. -/
def OnTime (record : TxFrameRecord) : Prop :=
  record.early = 1 ∧ record.late = 0 ∧ Exists fun stamp =>
    (∀ rtp ∈ record.packets, rtp.HasStamp stamp) ∧
    forall tcMeta code, record.report = some (tcMeta, code) -> tcMeta.rtpTimestamp = stamp

def Whole (record : TxFrameRecord) : Prop :=
  record.packets.length = cfg.totalPkts record.frame

def FollowsWhole (older : List TxFrameRecord) : Prop :=
  ∀ previous ∈ older.head?, Whole cfg previous

/-- Each frame is on time exactly when the frame before it was not given up. -/
def AllTimed (cfg : TxAncConfig) : List TxFrameRecord -> Prop
  | [] => True
  | record :: older => (OnTime record <-> FollowsWhole cfg older) ∧ AllTimed cfg older

theorem AllTimed.get {cfg : TxAncConfig}
    (timed : AllTimed cfg (newer ++ record :: older)) : OnTime record <-> FollowsWhole cfg older := by
  induction newer with
  | nil => exact timed.1
  | cons newest others ih => exact ih timed.2

theorem followsWhole_cons (record : TxFrameRecord) (older : List TxFrameRecord) :
    FollowsWhole cfg (record :: older) <-> Whole cfg record := by
  constructor
  · intro follows
    exact follows record rfl
  · intro whole previous member
    cases member
    exact whole

/-- Between frames the flag tells whether the last frame was given up. -/
def TimedWaits (records : List TxFrameRecord) : Prop :=
  AllTimed s.cfg records ∧ (s.calculateTimeCursor = true <-> FollowsWhole s.cfg records)

/-- The current frame once the question of a synchronisation is settled. -/
structure Settled (s : TxAncSession) (current : TxFrameRecord) (rest : List TxFrameRecord) : Prop where
  late : current.late = 0
  stamps : ∀ rtp ∈ current.packets, rtp.HasStamp s.pacing.rtpTimeStamp
  synced : FollowsWhole s.cfg rest ->
    current.early = 1 ∧ (s.frames s.frameIdx).tcMeta.rtpTimestamp = s.pacing.rtpTimeStamp
  unsynced : ¬ FollowsWhole s.cfg rest -> current.early = 0

def TimedSends (current : TxFrameRecord) (rest : List TxFrameRecord) : Prop :=
  AllTimed s.cfg rest ∧
    (s.calculateTimeCursor = true -> current.early = 0 ∧ current.late = 0 ∧ current.packets = [] ∧
      FollowsWhole s.cfg rest) ∧
    (s.calculateTimeCursor = false -> Settled s current rest)

theorem Settled.onTime_iff {s : TxAncSession} {current : TxFrameRecord} {rest : List TxFrameRecord}
    (settled : Settled s current rest) {packets : List TxRtp} {report : Option (St40TxFrameMeta × Option TxAncRet)}
    (stamps : ∀ rtp ∈ packets, rtp.HasStamp s.pacing.rtpTimeStamp)
    (reports : forall tcMeta code, report = some (tcMeta, code) -> tcMeta = (s.frames s.frameIdx).tcMeta) :
    OnTime { current with packets := packets, report := report } <-> FollowsWhole s.cfg rest := by
  constructor
  · intro onTime
    by_contra given_up
    have never := settled.unsynced given_up
    have once : current.early = 1 := onTime.1
    rw [never] at once
    cases once
  · intro follows
    refine ⟨(settled.synced follows).1, settled.late, s.pacing.rtpTimeStamp, stamps, ?_⟩
    intro tcMeta code reported
    rw [reports tcMeta code reported]
    exact (settled.synced follows).2

theorem timedRule (env : TxAncEnv) (start : TxAncSession) : RecordRule env start TimedWaits TimedSends where
  stillWaits := by
    intro before after records quiet waits
    rcases quiet.same with ⟨_, _, _, _, _, _, _, rfl⟩
    exact waits
  stillSends := by
    intro before after current rest quiet sends
    rcases quiet.same with ⟨_, _, _, _, _, _, _, rfl⟩
    exact ⟨sends.1, sends.2.1, fun clear =>
      ⟨(sends.2.2 clear).late, (sends.2.2 clear).stamps, (sends.2.2 clear).synced,
        (sends.2.2 clear).unsynced⟩⟩
  taken := by
    intro s idx tcMeta frame records _ waits
    refine ⟨waits.1, fun due => ⟨rfl, rfl, rfl, waits.2.mp due⟩, fun clear => ?_⟩
    have given_up : ¬ FollowsWhole s.cfg records := by
      intro follows
      have due := waits.2.mpr follows
      have off : s.calculateTimeCursor = false := clear
      rw [off] at due
      cases due
    exact ⟨rfl, fun rtp absurd => (by cases absurd), fun follows => (given_up follows).elim, fun _ => rfl⟩
  synced := by
    intro s current rest _ due _ sends
    rcases sends.2.1 due with ⟨early, late, packets, follows⟩
    rcases txAncSyncFrame_shape env due with ⟨_, pacing, tcMeta, _, shape, same, -⟩
    rw [shape]
    refine ⟨sends.1, fun absurd => (by cases absurd), fun _ => ?_⟩
    have noted : current.note .synced = { current with early := current.early + 1 } := by
      unfold TxFrameRecord.note
      exact if_pos packets
    rw [noted]
    refine ⟨late, ?_, fun _ => ⟨?_, ?_⟩, fun given_up => (given_up follows).elim⟩
    · intro rtp member
      have inside : rtp ∈ current.packets := member
      rw [packets] at inside
      cases inside
    · change current.early + 1 = 1
      rw [early]
    · dsimp only
      rw [Function.update_self]
      exact same
  sent := by
    intro s next rtp current rest clear noInflight _ base frame more sends
    rcases emit_shape env next rtp noInflight with ⟨_, _, _, _, _, _, shape, -⟩
    rcases txAncillarySeqAdvance_shape s with ⟨_, _, advanced⟩
    have settled := sends.2.2 clear
    rw [shape, advanced]
    refine ⟨sends.1, fun due => ?_, fun _ => ⟨settled.late, ?_, settled.synced, settled.unsynced⟩⟩
    · exact absurd (of_decide_eq_true due) (Nat.not_le.mpr more)
    · intro packet member
      rcases List.mem_append.mp member with earlier | last
      · exact settled.stamps packet earlier
      · rw [List.mem_singleton.mp last]
        exact base.stamp
  finished := by
    intro s next rtp current rest clear noInflight _ base frame last sends
    rcases emit_shape env next rtp noInflight with ⟨_, _, code, _, _, _, shape, -⟩
    rcases txAncillarySeqAdvance_shape s with ⟨_, _, advanced⟩
    have settled := sends.2.2 clear
    have whole : (current.packets ++ [rtp]).length = s.cfg.totalPkts current.frame := by
      rw [List.length_append, frame.sent, List.length_singleton, last, frame.total]
    have flag : decide (s.pktIdx + 1 ≥ s.totalPkts) = true := decide_eq_true (Nat.le_of_eq last.symm)
    have cfg : (s.emit env next rtp).release.cfg = s.cfg := by
      rw [shape, advanced]
      rfl
    unfold TimedWaits
    rw [cfg]
    refine ⟨⟨?_, sends.1⟩, ?_⟩
    · refine @Settled.onTime_iff s current rest settled (current.packets ++ [rtp]) _ ?_ ?_
      · intro packet member
        rcases List.mem_append.mp member with earlier | here
        · exact settled.stamps packet earlier
        · rw [List.mem_singleton.mp here]
          exact base.stamp
      · rintro tcMeta reason reported
        cases reported
        rfl
    · rw [followsWhole_cons, shape, advanced]
      exact ⟨fun _ => whole, fun _ => flag⟩
  abandoned := by
    intro s refusal code current rest clear _ frame sends
    have settled := sends.2.2 clear
    have partly : ¬ current.packets.length = s.cfg.totalPkts current.frame := by
      rw [frame.sent, ← frame.total]
      exact Nat.ne_of_lt frame.more
    refine ⟨⟨?_, sends.1⟩, ?_⟩
    · refine @Settled.onTime_iff s current rest settled current.packets _ settled.stamps ?_
      rintro tcMeta reason reported
      cases reported
      rfl
    · rw [followsWhole_cons]
      exact ⟨fun absurd => (by cases absurd), fun whole => (partly whole).elim⟩

/-! ## Timestamps of epochs -/

def TxAncConfig.stampOf (epoch : Nat) : Nat :=
  st10TaiToMediaClk (cfg.startTimeTai epoch 0) cfg.fps.samplingClockRate

/-- The timing of a video frame rate, with the limit of a second ahead; the application controls
neither pacing nor timestamps. -/
structure TxAncConfig.SelfPaced (cfg : TxAncConfig) : Prop where
  userPacing : cfg.ops.userPacing = false
  userTimestamp : cfg.ops.userTimestamp = false
  rate : cfg.fps.samplingClockRate = 90000
  positive : 0 < cfg.fps.mul
  longer : 22223 * cfg.fps.mul ≤ nsPerS * cfg.fps.den
  shorter : nsPerS * cfg.fps.den ≤ 47721857999999 * cfg.fps.mul
  onward : 1 ≤ cfg.maxOnwardEpochs

theorem stampOf_eq {cfg : TxAncConfig} (paced : cfg.SelfPaced)
    (early : stEpochToTai epoch cfg.fps < 9223372036854775808) :
    cfg.stampOf epoch =
      stMuldivU64RoundClosest (stEpochToTai epoch cfg.fps) 90000 nsPerS % 4294967296 := by
  unfold TxAncConfig.stampOf TxAncConfig.startTimeTai
  dsimp only
  rw [paced.userTimestamp, paced.rate, decide_eq_false (fun absurd => absurd rfl), Bool.and_false,
    if_neg Bool.false_ne_true, if_pos (by decide)]
  rw [st10TaiToMediaClk, if_neg (by decide), tick_of_round (by decide) (by decide) (by omega)]

theorem stEpochToTai_early {fps : FpsTiming}
    (early : stEpochToTai epoch fps < 9223372036854775808) :
    stEpochToTai epoch fps = epoch * nsPerS * fps.den / fps.mul := by
  unfold stEpochToTai uint64Max at early ⊢
  dsimp only at early ⊢
  by_cases saturated : epoch * nsPerS * fps.den / fps.mul ≥ 18446744073709551615
  · rw [if_pos saturated] at early
    exact absurd early (by decide)
  · rw [if_neg saturated]

theorem stampOf_succ_ne {cfg : TxAncConfig} (paced : cfg.SelfPaced)
    (early : stEpochToTai (epoch + 1) cfg.fps < 9223372036854775808) :
    cfg.stampOf epoch ≠ cfg.stampOf (epoch + 1) := by
  have next := stEpochToTai_early early
  have sum : (epoch + 1) * nsPerS * cfg.fps.den =
      epoch * nsPerS * cfg.fps.den + nsPerS * cfg.fps.den := by ring
  have after : epoch * nsPerS * cfg.fps.den / cfg.fps.mul + 22223 ≤ stEpochToTai (epoch + 1) cfg.fps := by
    rw [next, sum, ← Nat.add_mul_div_right _ _ paced.positive]
    exact Nat.div_le_div_right (Nat.add_le_add_left paced.longer _)
  have near : stEpochToTai (epoch + 1) cfg.fps ≤
      epoch * nsPerS * cfg.fps.den / cfg.fps.mul + 47721857999999 := by
    rw [next, sum, ← Nat.add_mul_div_right _ _ paced.positive]
    exact Nat.div_le_div_right (Nat.add_le_add_left paced.shorter _)
  have here : stEpochToTai epoch cfg.fps = epoch * nsPerS * cfg.fps.den / cfg.fps.mul := by
    unfold stEpochToTai uint64Max
    dsimp only
    rw [if_neg (by omega)]
  rw [← here] at after near
  rw [stampOf_eq paced early, stampOf_eq paced (Nat.lt_of_le_of_lt (by omega) early)]
  exact ticks_differ early after (by omega)

/-! ## Successive frames -/

/-- Before the end of the clock's range, the next epoch in turn and the epoch of the clock both have
another timestamp than the epoch of the last frame, unless the clock's epoch is that one. -/
def SteadyClock (env : TxAncEnv) : Prop :=
  s.calculateTimeCursor = true ->
    stEpochToTai (s.pacing.curEpochs + 1) s.cfg.fps < 9223372036854775808 ∧
    (stTaiToEpoch env.ptpTime s.cfg.fps ≠ s.pacing.curEpochs ->
      s.cfg.stampOf s.pacing.curEpochs ≠ s.cfg.stampOf (stTaiToEpoch env.ptpTime s.cfg.fps))

theorem txAncillaryCalcEpoch_free (curTai : Nat) (onward : 1 ≤ s.cfg.maxOnwardEpochs)
    (inside : s.pacing.curEpochs ≠ uint64Max) :
    (txAncillaryCalcEpoch s curTai 0).2 = s.pacing.curEpochs + 1 ∨
      ((txAncillaryCalcEpoch s curTai 0).2 = stTaiToEpoch curTai s.cfg.fps ∧
        stTaiToEpoch curTai s.cfg.fps ≠ s.pacing.curEpochs) := by
  unfold txAncillaryCalcEpoch
  dsimp only
  rw [if_neg (fun absurd => absurd rfl), if_neg inside]
  by_cases ahead : stTaiToEpoch curTai s.cfg.fps ≤ s.pacing.curEpochs + 1
  · rw [if_pos ahead]
    by_cases far : s.pacing.curEpochs + 1 - stTaiToEpoch curTai s.cfg.fps > s.cfg.maxOnwardEpochs
    · rw [if_pos far]
      exact Or.inr ⟨rfl, by omega⟩
    · rw [if_neg far]
      exact Or.inl rfl
  · rw [if_neg ahead]
    exact Or.inr ⟨rfl, by omega⟩

theorem TxRtp.HasStamp.unique {first second : Nat} (one : rtp.HasStamp first)
    (other : rtp.HasStamp second) : first = second := by
  cases rtp with
  | anc anc => exact Eq.trans (Eq.symm one) other
  | fmd fmd => exact Eq.trans (Eq.symm one) other
  | raw memory len => exact one.elim

/-- The packets share no timestamp with the frame before, unless that one was given up. -/
def Apart (cfg : TxAncConfig) (packets : List TxRtp) (older : List TxFrameRecord) : Prop :=
  ∀ previous ∈ older.head?, Whole cfg previous -> ∀ rtp ∈ packets,
    ∀ other ∈ previous.packets, forall stamp, rtp.HasStamp stamp -> ¬ other.HasStamp stamp

def Distinct (cfg : TxAncConfig) : List TxFrameRecord -> Prop
  | [] => True
  | record :: older => Apart cfg record.packets older ∧ Distinct cfg older

theorem Distinct.get {cfg : TxAncConfig}
    (distinct : Distinct cfg (newer ++ record :: older)) : Apart cfg record.packets older := by
  induction newer with
  | nil => exact distinct.1
  | cons newest others ih => exact ih distinct.2

/-- The pacing still holds the timestamp of the last frame, which is that of its epoch. -/
def Stamped (older : List TxFrameRecord) : Prop :=
  ∀ previous ∈ older.head?,
    s.pacing.rtpTimeStamp = cfg.stampOf s.pacing.curEpochs ∧
    ∀ other ∈ previous.packets, other.HasStamp s.pacing.rtpTimeStamp

def DistinctWaits (records : List TxFrameRecord) : Prop :=
  s.cfg = cfg ∧ Distinct cfg records ∧ Stamped cfg s records ∧
    (s.calculateTimeCursor = false -> ¬ FollowsWhole cfg records)

/-- The timestamp of the current frame is that of its epoch and new. -/
structure NewStamp (cfg : TxAncConfig) (s : TxAncSession) (current : TxFrameRecord)
    (rest : List TxFrameRecord) : Prop where
  epoch : s.pacing.rtpTimeStamp = cfg.stampOf s.pacing.curEpochs
  stamps : ∀ rtp ∈ current.packets, rtp.HasStamp s.pacing.rtpTimeStamp
  fresh : ∀ previous ∈ rest.head?, Whole cfg previous ->
    ∀ other ∈ previous.packets, ¬ other.HasStamp s.pacing.rtpTimeStamp

def DistinctSends (current : TxFrameRecord) (rest : List TxFrameRecord) : Prop :=
  s.cfg = cfg ∧ Distinct cfg rest ∧
    (s.calculateTimeCursor = true -> current.packets = [] ∧ Stamped cfg s rest) ∧
    (s.calculateTimeCursor = false -> NewStamp cfg s current rest)

section

variable {cfg : TxAncConfig} {s : TxAncSession} {current : TxFrameRecord}
    {rest : List TxFrameRecord} (stamp : NewStamp cfg s current rest)

include stamp

theorem NewStamp.apart : Apart cfg current.packets rest := by
  intro previous member whole rtp inside other before shared first second
  have own := (stamp.stamps rtp inside).unique first
  rw [← own] at second
  exact stamp.fresh previous member whole other before second

theorem NewStamp.next
    (base : rtp.HasBase s.rtpBase) : NewStamp cfg s (current.note (.built rtp)) rest := by
  refine ⟨stamp.epoch, fun packet member => ?_, stamp.fresh⟩
  rcases List.mem_append.mp member with earlier | last
  · exact stamp.stamps packet earlier
  · rw [List.mem_singleton.mp last]
    exact base.stamp

end

section

variable {cfg : TxAncConfig} (paced : cfg.SelfPaced)

include paced

theorem epoch_inside
    (early : stEpochToTai (epoch + 1) cfg.fps < 9223372036854775808) : epoch ≠ uint64Max := by
  intro last
  have value := stEpochToTai_early early
  have large : (epoch + 1) * 22223 ≤ stEpochToTai (epoch + 1) cfg.fps := by
    rw [value, Nat.le_div_iff_mul_le paced.positive, Nat.mul_assoc, Nat.mul_assoc]
    exact Nat.mul_le_mul_left _ paced.longer
  rw [last] at large early
  unfold uint64Max at large early
  omega

theorem sync_stamp_ne {env : TxAncEnv}
    {start s : TxAncSession} (steady : SteadyClock start env) (startCfg : start.cfg = cfg)
    (same : s.cfg = cfg) (due : s.calculateTimeCursor = true) (here : s.SameClock start) :
    cfg.stampOf s.pacing.curEpochs ≠ cfg.stampOf (txAncillaryCalcEpoch s env.ptpTime 0).2 := by
  have now := steady (here.2 ▸ due)
  rw [startCfg, ← here.1] at now
  have onward : 1 ≤ s.cfg.maxOnwardEpochs := by
    rw [same]
    exact paced.onward
  rcases txAncillaryCalcEpoch_free s env.ptpTime onward (epoch_inside paced now.1) with
    next | ⟨clock, moved⟩
  · rw [next]
    exact stampOf_succ_ne paced now.1
  · rw [clock]
    rw [same] at moved ⊢
    exact now.2 moved

theorem distinctRule {env : TxAncEnv} {start : TxAncSession}
    (steady : SteadyClock start env) (startCfg : start.cfg = cfg) :
    RecordRule env start (DistinctWaits cfg) (DistinctSends cfg) where
  stillWaits := by
    intro before after records quiet waits
    rcases quiet.same with ⟨_, _, _, _, _, _, _, rfl⟩
    exact waits
  stillSends := by
    intro before after current rest quiet sends
    rcases quiet.same with ⟨_, _, _, _, _, _, _, rfl⟩
    exact ⟨sends.1, sends.2.1, sends.2.2.1, fun clear =>
      ⟨(sends.2.2.2 clear).epoch, (sends.2.2.2 clear).stamps, (sends.2.2.2 clear).fresh⟩⟩
  taken := by
    intro s idx tcMeta frame records _ waits
    rcases waits with ⟨same, distinct, stamped, flag⟩
    refine ⟨same, distinct, fun due => ⟨rfl, stamped⟩, fun clear => ?_⟩
    have given_up := flag clear
    cases records with
    | nil => exact (given_up (fun _ absurd => (by cases absurd))).elim
    | cons previous older =>
      refine ⟨(stamped previous rfl).1, fun rtp absurd => (by cases absurd), ?_⟩
      intro other member whole
      cases member
      exact (given_up ((followsWhole_cons cfg previous older).mpr whole)).elim
  synced := by
    intro s current rest _ due here sends
    rcases sends with ⟨same, distinct, before, -⟩
    rcases before due with ⟨packets, stamped⟩
    have moved := sync_stamp_ne paced steady startCfg same due here
    rcases txAncSyncFrame_shape env due with ⟨_, pacing, _, _, shape, -, -, free⟩
    rw [same] at free
    rcases free ⟨paced.userPacing, paced.userTimestamp⟩ with ⟨epoch, stamp⟩
    have stampEq : pacing.rtpTimeStamp = cfg.stampOf pacing.curEpochs := stamp
    rw [shape]
    refine ⟨same, distinct, fun absurd => (by cases absurd), fun _ => ⟨stampEq, ?_, ?_⟩⟩
    · intro rtp member
      rw [(note_synced current).2.2, packets] at member
      cases member
    · intro previous member whole other inside shared
      rcases stamped previous member with ⟨old, carried⟩
      have equal := (carried other inside).unique shared
      change s.pacing.rtpTimeStamp = pacing.rtpTimeStamp at equal
      rw [old, stampEq, epoch] at equal
      exact moved equal
  sent := by
    intro s next rtp current rest clear noInflight _ base frame more sends
    rcases emit_shape env next rtp noInflight with ⟨_, _, _, _, _, _, shape, -⟩
    rcases txAncillarySeqAdvance_shape s with ⟨_, _, advanced⟩
    have stamp := (sends.2.2.2 clear).next base
    rw [shape, advanced]
    refine ⟨sends.1, sends.2.1, fun due => ?_, fun _ => ⟨stamp.epoch, stamp.stamps, stamp.fresh⟩⟩
    exact absurd (of_decide_eq_true due) (Nat.not_le.mpr more)
  finished := by
    intro s next rtp current rest clear noInflight _ base frame last sends
    rcases emit_shape env next rtp noInflight with ⟨_, _, _, _, _, _, shape, -⟩
    rcases txAncillarySeqAdvance_shape s with ⟨_, _, advanced⟩
    have stamp := (sends.2.2.2 clear).next base
    have flag : decide (s.pktIdx + 1 ≥ s.totalPkts) = true := decide_eq_true (Nat.le_of_eq last.symm)
    rw [shape, advanced]
    refine ⟨sends.1, ⟨stamp.apart, sends.2.1⟩, ?_, fun off => ?_⟩
    · intro previous member
      cases member
      exact ⟨stamp.epoch, stamp.stamps⟩
    · exact absurd (flag.symm.trans off) (by decide)
  abandoned := by
    intro s refusal code current rest clear _ frame sends
    have stamp := sends.2.2.2 clear
    have partly : ¬ current.packets.length = s.cfg.totalPkts current.frame := by
      rw [frame.sent, ← frame.total]
      exact Nat.ne_of_lt frame.more
    rw [sends.1] at partly
    refine ⟨sends.1, ⟨stamp.apart, sends.2.1⟩, ?_, fun _ => ?_⟩
    · intro previous member
      cases member
      exact ⟨stamp.epoch, stamp.stamps⟩
    · rw [followsWhole_cons]
      exact partly

end

/-! ## Whole runs -/

theorem timed_of_recorded {s : TxAncSession} (recorded : Recorded TimedWaits TimedSends s)
    (place : frameRecords s.events = newer ++ record :: older)
    (begun : record.packets ≠ [] ∨ record.report.isSome = true) :
    OnTime record <-> FollowsWhole s.cfg older := by
  cases status : s.frameStat with
  | waitFrame =>
    have timed := (recorded.1 status).1
    rw [place] at timed
    exact timed.get
  | sendingPkts =>
    rcases recorded.2 status with ⟨current, rest, frame, timed, before, settled⟩
    have records := frame.records.symm.trans place
    cases newer with
    | cons newest others =>
      rw [(List.cons.inj records).2] at timed
      exact timed.get
    | nil =>
      rcases List.cons.inj records with ⟨head, tail⟩
      rw [← head] at begun ⊢
      rw [← tail]
      have sending : current.packets ≠ [] := by
        rcases begun with some_packets | reported
        · exact some_packets
        · rw [frame.unreported] at reported
          cases reported
      cases flag : s.calculateTimeCursor with
      | true => exact absurd (before flag).2.2.1 sending
      | false =>
        refine (settled flag).onTime_iff (settled flag).stamps ?_
        intro tcMeta code reported
        rw [frame.unreported] at reported
        cases reported

theorem distinct_of_recorded {cfg : TxAncConfig} {s : TxAncSession}
    (recorded : Recorded (DistinctWaits cfg) (DistinctSends cfg) s)
    (place : frameRecords s.events = newer ++ record :: older) : Apart cfg record.packets older := by
  cases status : s.frameStat with
  | waitFrame =>
    have distinct := (recorded.1 status).2.1
    rw [place] at distinct
    exact distinct.get
  | sendingPkts =>
    rcases recorded.2 status with ⟨current, rest, frame, -, distinct, before, stamp⟩
    have records := frame.records.symm.trans place
    cases newer with
    | cons newest others =>
      rw [(List.cons.inj records).2] at distinct
      exact distinct.get
    | nil =>
      rcases List.cons.inj records with ⟨head, tail⟩
      rw [← head, ← tail]
      cases flag : s.calculateTimeCursor with
      | true =>
        rw [(before flag).1]
        exact fun _ _ _ _ absurd => (by cases absurd)
      | false => exact (stamp flag).apart

/-- In every run: a frame is synchronised once, before its first packet, and has one timestamp on the
wire and in its report, exactly when the frame before it was not given up.  Without user timestamps,
and with a steady clock, such a frame has another timestamp than the frame before. -/
theorem frames_on_time_iff (cfg : TxAncConfig) (level : cfg.ops.type = .frameLevel) (ptpTime : Nat)
    (envs : List TxAncEnv) :
    let records := frameRecords (run txAncStep (txAncInit cfg ptpTime) envs).events
    (forall newer record older, records = newer ++ record :: older ->
      record.packets ≠ [] ∨ record.report.isSome = true ->
      (OnTime record <-> FollowsWhole cfg older)) ∧
    (cfg.SelfPaced -> Admitted txAncStep SteadyClock (txAncInit cfg ptpTime) envs ->
      forall newer record previous older, records = newer ++ record :: previous :: older ->
      Whole cfg previous -> ∀ rtp ∈ record.packets, ∀ other ∈ previous.packets,
      forall stamp, rtp.HasStamp stamp -> ¬ other.HasStamp stamp) := by
  intro records
  refine ⟨fun newer record older place begun => ?_, ?_⟩
  · have history := recorded_run level (fun s env _ _ => timedRule env s)
      (show TimedWaits (txAncInit cfg ptpTime) [] from
        ⟨trivial, fun _ _ absurd => (by cases absurd), fun _ => rfl⟩)
      (admitted_of_forall txAncStep (fun env _ => trivial : ∀ env ∈ envs, True))
    have timed := timed_of_recorded history.2 place begun
    rw [history.1] at timed
    exact timed
  · intro paced steady newer record previous older place whole rtp inside other before
    have history := recorded_run level
      (fun s env calm same => distinctRule paced calm same)
      (show DistinctWaits cfg (txAncInit cfg ptpTime) [] from
        ⟨rfl, trivial, fun _ absurd => (by cases absurd), fun absurd => (by cases absurd)⟩)
      steady
    exact distinct_of_recorded history.2 place previous rfl whole rtp inside other before

instance SteadyClock.decidable (s : TxAncSession) (env : TxAncEnv) : Decidable (SteadyClock s env) :=
  inferInstanceAs (Decidable (_ -> _ ∧ (_ -> _)))

theorem twoPorts_selfPaced : twoPorts.SelfPaced where
  userPacing := rfl
  userTimestamp := rfl
  rate := rfl
  positive := by decide
  longer := by decide
  shorter := by decide
  onward := by decide

/-- Two frames in two calls are both on time, with different timestamps. -/
theorem two_frames_on_time :
    let records := frameRecords (run txAncStep (txAncInit twoPorts 0) [emptyFrame, emptyFrame]).events
    (forall newer record older, records = newer ++ record :: older ->
      record.packets ≠ [] ∨ record.report.isSome = true ->
      (OnTime record <-> FollowsWhole twoPorts older)) ∧
    forall newer record previous older, records = newer ++ record :: previous :: older ->
      Whole twoPorts previous -> ∀ rtp ∈ record.packets,
      ∀ other ∈ previous.packets, forall stamp, rtp.HasStamp stamp ->
      ¬ other.HasStamp stamp :=
  ⟨(frames_on_time_iff twoPorts rfl 0 [emptyFrame, emptyFrame]).1,
    (frames_on_time_iff twoPorts rfl 0 [emptyFrame, emptyFrame]).2 twoPorts_selfPaced
      (by decide +kernel)⟩

def refusedFrame : TxAncEnv :=
  { emptyFrame with
    getNextFrame := fun tcMeta =>
      some (0, tcMeta, ⟨[⟨0, 0, 0, 0, 0, 0, 0, 300, 0⟩], fun _ => 0, 0⟩) }

def TxRtp.stamp : TxRtp -> Option Nat
  | .anc rtp => some rtp.base.tmstamp
  | .fmd rtp => some rtp.base.tmstamp
  | .raw _ _ => none

/-- After a frame that was given up the next one is not synchronised: its packet has the timestamp of
the frame before, and its report another one. -/
theorem next_frame_not_synced :
    (frameRecords (run txAncStep (txAncInit twoPorts 0) [refusedFrame, emptyFrame]).events).map
      (fun record => (record.early, record.packets.map TxRtp.stamp,
        record.report.map (fun report => report.1.rtpTimestamp))) =
      [(0, [some 90000], some 0), (1, [], some 90000)] := by
  decide +kernel

end MediaTransport.Anc
