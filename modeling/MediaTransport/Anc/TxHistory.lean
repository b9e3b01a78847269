import MediaTransport.Anc.TxMoves
import MediaTransport.Library.Run

namespace MediaTransport.Anc

open Library

/-!
# The frames of a transmit session

What happened to a session is read off its events as one record for each frame
it was handed.  At every time all frames but the current one are reported to
the application, and what a port was given is what the records hold.
-/

variable {after before s : TxAncSession}

/-- What happened to one frame.  `early` counts the synchronisations before its first packet, `late`
those after it. -/
structure TxFrameRecord where
  frame : St40Frame
  early : Nat
  late : Nat
  packets : List TxRtp
  report : Option (St40TxFrameMeta × Option TxAncRet)

def TxFrameRecord.start (frame : St40Frame) : TxFrameRecord := ⟨frame, 0, 0, [], none⟩

/-- The frame as an event leaves it. -/
def TxFrameRecord.note (record : TxFrameRecord) : TxAncEvent -> TxFrameRecord
  | .handed _ _ => record
  | .synced =>
    if record.packets = [] then { record with early := record.early + 1 }
    else { record with late := record.late + 1 }
  | .built rtp => { record with packets := record.packets ++ [rtp] }
  | .done _ tcMeta code => { record with report := some (tcMeta, code) }

/-- The records of the frames, the newest first like the events. -/
def frameRecords : List TxAncEvent -> List TxFrameRecord
  | [] => []
  | .handed _ frame :: older => TxFrameRecord.start frame :: frameRecords older
  | event :: older =>
    match frameRecords older with
    | [] => []
    | current :: rest => current.note event :: rest

variable {events : List TxAncEvent} {current : TxFrameRecord} {rest : List TxFrameRecord}

section

variable (records : frameRecords events = current :: rest)

include records

theorem frameRecords_synced :
    frameRecords (.synced :: events) = current.note .synced :: rest := by
  rw [frameRecords, records]
  intro _ _ absurd
  cases absurd

theorem frameRecords_built (rtp : TxRtp) :
    frameRecords (.built rtp :: events) = current.note (.built rtp) :: rest := by
  rw [frameRecords, records]
  intro _ _ absurd
  cases absurd

theorem frameRecords_done (idx : Nat)
    (tcMeta : St40TxFrameMeta) (code : Option TxAncRet) :
    frameRecords (.done idx tcMeta code :: events) = current.note (.done idx tcMeta code) :: rest := by
  rw [frameRecords, records]
  intro _ _ absurd
  cases absurd

end

/-! ## The current frame -/

/-- The record of the frame that is being sent, and those of the frames before it. -/
structure Sending (s : TxAncSession) (current : TxFrameRecord) (rest : List TxFrameRecord) : Prop where
  records : frameRecords s.events = current :: rest
  frame : current.frame = (s.frames s.frameIdx).addr
  unreported : current.report = none
  sent : current.packets.length = s.pktIdx
  total : s.totalPkts = s.cfg.totalPkts current.frame
  more : s.pktIdx < s.totalPkts

/-- A property of the records while the session waits, and another while it sends a frame. -/
def Recorded (waits : TxAncSession -> List TxFrameRecord -> Prop)
    (sends : TxAncSession -> TxFrameRecord -> List TxFrameRecord -> Prop) (s : TxAncSession) : Prop :=
  (s.frameStat = .waitFrame -> waits s (frameRecords s.events)) ∧
    (s.frameStat = .sendingPkts -> Exists fun current => Exists fun rest =>
      Sending s current rest ∧ sends s current rest)

/-- A change that no frame notices. -/
structure Unnoticed (before after : TxAncSession) : Prop where
  same : Exists fun code => Exists fun inflight => Exists fun count => Exists fun wire =>
    Exists fun seqId => Exists fun extSeqId => Exists fun stats =>
      after = { before with
        buildRetCode := code
        inflight := inflight
        inflightCnt := count
        wire := wire
        seqId := seqId
        extSeqId := extSeqId
        stats := stats }

/-- What is to be shown for a property of the records, one case for each change of a frame in
a call that starts in this state. -/
structure RecordRule (env : TxAncEnv) (start : TxAncSession) (waits : TxAncSession -> List TxFrameRecord -> Prop)
    (sends : TxAncSession -> TxFrameRecord -> List TxFrameRecord -> Prop) : Prop where
  stillWaits : forall before after records, Unnoticed before after -> waits before records ->
    waits after records
  stillSends : forall before after current rest, Unnoticed before after -> sends before current rest ->
    sends after current rest
  taken : forall s idx tcMeta frame records,
    env.getNextFrame (txAncillarySessionInitNextMeta s) = some (idx, tcMeta, frame) ->
    waits s records -> sends (s.take idx tcMeta frame) (.start frame) records
  synced : forall s current rest, Sending s current rest -> s.calculateTimeCursor = true ->
    s.SameClock start -> sends s current rest -> sends (txAncSyncFrame env s) (current.note .synced) rest
  sent : forall s next rtp current rest, s.calculateTimeCursor = false -> s.Clear ->
    txAncillarySessionBuildRtpPacket s env.mbuf s.ancIdx = (txAncillarySeqAdvance s, .ok (next, rtp)) ->
    rtp.HasBase s.rtpBase -> Sending s current rest -> s.pktIdx + 1 < s.totalPkts ->
    sends s current rest -> sends (s.emit env next rtp) (current.note (.built rtp)) rest
  finished : forall s next rtp current rest, s.calculateTimeCursor = false -> s.Clear ->
    txAncillarySessionBuildRtpPacket s env.mbuf s.ancIdx = (txAncillarySeqAdvance s, .ok (next, rtp)) ->
    rtp.HasBase s.rtpBase -> Sending s current rest -> s.pktIdx + 1 = s.totalPkts ->
    sends s current rest ->
    waits (s.emit env next rtp).release
      ((current.note (.built rtp)).note
        (.done s.frameIdx (s.frames s.frameIdx).tcMeta (s.emit env next rtp).buildRetCode) :: rest)
  abandoned : forall s refusal code current rest, s.calculateTimeCursor = false ->
    (txAncillarySessionBuildRtpPacket s env.mbuf s.ancIdx).2 = .error refusal ->
    Sending s current rest -> sends s current rest ->
    waits (s.abandon code)
      (current.note (.done s.frameIdx (s.frames s.frameIdx).tcMeta (some code)) :: rest)

/-! ## Every call -/

theorem Unnoticed.sending (quiet : Unnoticed before after)
    (sending : Sending before current rest) : Sending after current rest := by
  rcases quiet.same with ⟨_, _, _, _, _, _, _, rfl⟩
  exact ⟨sending.records, sending.frame, sending.unreported, sending.sent, sending.total, sending.more⟩

variable {env : TxAncEnv} {start : TxAncSession} {waits : TxAncSession -> List TxFrameRecord -> Prop}
  {sends : TxAncSession -> TxFrameRecord -> List TxFrameRecord -> Prop}

theorem Recorded.unnoticed (rule : RecordRule env start waits sends)
    (quiet : Unnoticed before after) (recorded : Recorded waits sends before) :
    Recorded waits sends after := by
  have status : after.frameStat = before.frameStat ∧ after.events = before.events := by
    rcases quiet.same with ⟨_, _, _, _, _, _, _, rfl⟩
    exact ⟨rfl, rfl⟩
  refine ⟨fun waiting => ?_, fun sending => ?_⟩
  · rw [status.1] at waiting
    rw [status.2]
    exact rule.stillWaits before after _ quiet (recorded.1 waiting)
  · rw [status.1] at sending
    rcases recorded.2 sending with ⟨current, rest, frame, holds⟩
    exact ⟨current, rest, quiet.sending frame, rule.stillSends before after _ _ quiet holds⟩

theorem TxAncConfig.totalPkts_pos (cfg : TxAncConfig) (frame : St40Frame) : 0 < cfg.totalPkts frame := by
  unfold TxAncConfig.totalPkts
  dsimp only
  split
  · exact Nat.one_pos
  · split
    · split
      · exact Nat.one_pos
      · next some_entries => exact Nat.pos_of_ne_zero some_entries
    · generalize frame_pkts : (List.map _ _).sum * 10 / 8 / cfg.maxPktLen + _ = pkts
      split
      · exact Nat.one_pos
      · next some_pkts => exact Nat.pos_of_ne_zero some_pkts

theorem sending_take (s : TxAncSession) (idx : Nat) (tcMeta : St40TxFrameMeta) (frame : St40Frame) :
    Sending (s.take idx tcMeta frame) (.start frame) (frameRecords s.events) where
  records := rfl
  frame := by
    unfold TxAncSession.take
    dsimp only
    rw [Function.update_self]
    rfl
  unreported := rfl
  sent := rfl
  total := rfl
  more := s.cfg.totalPkts_pos frame

theorem note_synced (record : TxFrameRecord) :
    (record.note .synced).frame = record.frame ∧ (record.note .synced).report = record.report ∧
      (record.note .synced).packets = record.packets := by
  unfold TxFrameRecord.note
  dsimp only
  split
  · exact ⟨rfl, rfl, rfl⟩
  · exact ⟨rfl, rfl, rfl⟩

theorem Sending.sync (sending : Sending s current rest)
    (due : s.calculateTimeCursor = true) :
    Sending (txAncSyncFrame env s) (current.note .synced) rest := by
  rcases txAncSyncFrame_shape env due with ⟨_, _, _, _, shape, -⟩
  rcases note_synced current with ⟨frame, report, packets⟩
  rw [shape]
  refine ⟨frameRecords_synced sending.records, ?_, ?_, ?_, ?_, sending.more⟩
  · dsimp only
    rw [Function.update_self, frame]
    exact sending.frame
  · rw [report]
    exact sending.unreported
  · rw [packets]
    exact sending.sent
  · rw [frame]
    exact sending.total

theorem Recorded.prepares (rule : RecordRule env start waits sends)
    (prepares : TxAncPrepares env start before after) (recorded : Recorded waits sends before) :
    Recorded waits sends after := by
  cases prepares with
  | coded code =>
    exact recorded.unnoticed rule ⟨_, _, _, _, _, _, _, rfl⟩
  | @flushed port pkt kept =>
    have quiet : Unnoticed before
        { before.send port pkt with inflight := Function.update before.inflight port none } :=
      ⟨_, _, _, _, _, _, _, rfl⟩
    exact recorded.unnoticed rule quiet
  | taken waiting free handed =>
    refine ⟨fun absurd => (by cases absurd), fun _ => ?_⟩
    exact ⟨_, _, sending_take before _ _ _,
      rule.taken before _ _ _ _ handed (recorded.1 waiting)⟩
  | synced sending due here =>
    rcases recorded.2 sending with ⟨current, rest, frame, holds⟩
    have status : (txAncSyncFrame env before).frameStat = .sendingPkts := by
      rcases txAncSyncFrame_shape env due with ⟨_, _, _, _, shape, -⟩
      rw [shape]
      exact sending
    refine ⟨fun absurd => ?_, fun _ => ?_⟩
    · rw [status] at absurd
      cases absurd
    · exact ⟨_, _, frame.sync due, rule.synced before current rest frame due here holds⟩

theorem Sending.emit (sending : Sending s current rest) (clear : s.Clear)
    (next : Nat) (rtp : TxRtp) (more : s.pktIdx + 1 < s.totalPkts) :
    Sending (s.emit env next rtp) (current.note (.built rtp)) rest := by
  rcases emit_shape env next rtp clear with ⟨_, _, _, _, _, _, shape, -⟩
  rcases txAncillarySeqAdvance_shape s with ⟨_, _, advanced⟩
  rw [shape, advanced]
  refine ⟨frameRecords_built sending.records rtp, sending.frame, sending.unreported, ?_,
    sending.total, more⟩
  unfold TxFrameRecord.note
  dsimp only
  rw [List.length_append, sending.sent]
  rfl

theorem emit_fields (env : TxAncEnv) (clear : s.Clear) (next : Nat) (rtp : TxRtp) :
    (s.emit env next rtp).events = .built rtp :: s.events ∧ (s.emit env next rtp).pktIdx = s.pktIdx + 1 ∧
      (s.emit env next rtp).totalPkts = s.totalPkts ∧ (s.emit env next rtp).frameIdx = s.frameIdx ∧
      (s.emit env next rtp).frames = s.frames ∧ (s.emit env next rtp).frameStat = s.frameStat := by
  rcases emit_shape env next rtp clear with ⟨_, _, _, _, _, _, shape, -⟩
  rcases txAncillarySeqAdvance_shape s with ⟨_, _, advanced⟩
  rw [shape, advanced]
  exact ⟨rfl, rfl, rfl, rfl, rfl, rfl⟩

theorem Recorded.outcome (rule : RecordRule env start waits sends)
    (ready : TxAncReady env start s) (outcome : TxAncOutcome env s after)
    (recorded : Recorded waits sends s) : Recorded waits sends after := by
  have ends : forall refusal code,
      (txAncillarySessionBuildRtpPacket s env.mbuf s.ancIdx).2 = .error refusal ->
      Recorded waits sends (s.abandon code) := by
    intro refusal code refused
    rcases recorded.2 ready.sending with ⟨current, rest, frame, holds⟩
    refine ⟨fun _ => ?_, fun absurd => (by cases absurd)⟩
    have records := frameRecords_done frame.records s.frameIdx (s.frames s.frameIdx).tcMeta (some code)
    have last := rule.abandoned s refusal code current rest ready.synced refused frame holds
    rw [← records] at last
    exact last
  rcases txAncillarySeqAdvance_shape s with ⟨seqId, extSeqId, advanced⟩
  cases outcome with
  | unallocated => exact recorded.unnoticed rule ⟨_, _, _, _, _, _, _, rfl⟩
  | refused fmd refusal reason => exact ends _ reason refusal
  | @wasted code buffers anc refusal =>
    have quiet : Unnoticed (s.abandon code) ((txAncillarySeqAdvance s).abandon code) := by
      rw [advanced]
      exact ⟨_, _, _, _, _, _, _, rfl⟩
    exact (ends code code refusal).unnoticed rule quiet
  | lost buffers result ports missing =>
    have quiet : Unnoticed s ((txAncillarySeqAdvance s).fail .pktAllocFail) := by
      rw [advanced]
      exact ⟨_, _, _, _, _, _, _, rfl⟩
    exact recorded.unnoticed rule quiet
  | @sent next rtp built base =>
    rcases recorded.2 ready.sending with ⟨current, rest, frame, holds⟩
    rcases emit_fields env ready.clear next rtp with ⟨events, pktIdx, totalPkts, frameIdx, frames, status⟩
    unfold txAncFinishFrame
    rw [pktIdx, totalPkts]
    by_cases last : s.pktIdx + 1 ≥ s.totalPkts
    · rw [if_pos last]
      have exactly : s.pktIdx + 1 = s.totalPkts := Nat.le_antisymm frame.more last
      have finished := rule.finished s next rtp current rest ready.synced ready.clear built base frame
        exactly holds
      have released : Recorded waits sends (s.emit env next rtp).release := by
        refine ⟨fun _ => ?_, fun absurd => (by cases absurd)⟩
        have records := frameRecords_done (frameRecords_built frame.records rtp) s.frameIdx
          (s.frames s.frameIdx).tcMeta (s.emit env next rtp).buildRetCode
        have history : (s.emit env next rtp).release.events = .done s.frameIdx
            (s.frames s.frameIdx).tcMeta (s.emit env next rtp).buildRetCode :: .built rtp ::
              s.events := by
          unfold TxAncSession.release
          dsimp only
          rw [events, frameIdx, frames]
        rw [history, records]
        exact finished
      exact released.unnoticed rule ⟨_, _, _, _, _, _, _, rfl⟩
    · rw [if_neg last]
      have more := Nat.not_le.mp last
      refine ⟨fun absurd => ?_, fun _ => ?_⟩
      · rw [status, ready.sending] at absurd
        cases absurd
      · exact ⟨_, _, frame.emit ready.clear next rtp more,
          rule.sent s next rtp current rest ready.synced ready.clear built base frame more holds⟩

theorem Recorded.step {s : TxAncSession} (rule : RecordRule env s waits sends)
    (level : s.cfg.ops.type = .frameLevel) (recorded : Recorded waits sends s) :
    Recorded waits sends (txAncStep s env) :=
  txAncStep_preserves level (fun _ _ before prepares => before.prepares rule prepares)
    (fun _ _ ready before outcome => before.outcome rule ready outcome) recorded

/-! ## The configuration -/

theorem TxAncOutcome.cfg_eq (outcome : TxAncOutcome env s after)
    (clear : s.Clear) : after.cfg = s.cfg := by
  have advanced := txAncillarySeqAdvance_cfg s
  cases outcome with
  | unallocated => rfl
  | refused fmd refusal reason => rfl
  | wasted buffers anc refusal => exact advanced
  | lost buffers result ports missing => exact advanced
  | @sent next rtp built base =>
    have kept : (s.emit env next rtp).cfg = s.cfg := by
      rcases emit_shape env next rtp clear with ⟨_, _, _, _, _, _, shape, -⟩
      rw [shape]
      exact advanced
    unfold txAncFinishFrame
    split
    · exact kept
    · exact kept

theorem txAncStep_cfg (env : TxAncEnv) (level : s.cfg.ops.type = .frameLevel) :
    (txAncStep s env).cfg = s.cfg :=
  @txAncStep_preserves (fun after => after.cfg = s.cfg) env s level
    (fun _ _ before prepares => prepares.cfg_eq.trans before)
    (fun _ _ ready before outcome => (outcome.cfg_eq ready.clear).trans before) rfl

theorem recorded_run {cfg : TxAncConfig} (level : cfg.ops.type = .frameLevel)
    {guard : TxAncSession -> TxAncEnv -> Prop}
    (rule : forall s env, guard s env -> s.cfg = cfg -> RecordRule env s waits sends) {ptpTime : Nat}
    {envs : List TxAncEnv} (initially : waits (txAncInit cfg ptpTime) [])
    (admitted : Admitted txAncStep guard (txAncInit cfg ptpTime) envs) :
    (run txAncStep (txAncInit cfg ptpTime) envs).cfg = cfg ∧
      Recorded waits sends (run txAncStep (txAncInit cfg ptpTime) envs) := by
  refine run_invariant txAncStep guard (fun s => s.cfg = cfg ∧ Recorded waits sends s) ?_ ?_ admitted
  · rintro s env ⟨same, recorded⟩ holds
    have frames : s.cfg.ops.type = .frameLevel := by
      rw [same]
      exact level
    exact ⟨(txAncStep_cfg env frames).trans same, recorded.step (rule s env holds same) frames⟩
  · exact ⟨rfl, fun _ => initially, fun absurd => (by cases absurd)⟩

/-! ## What the ports were given -/

def recordedPackets (records : List TxFrameRecord) : List TxRtp :=
  records.reverse.flatMap TxFrameRecord.packets

theorem recordedPackets_cons (current : TxFrameRecord) (rest : List TxFrameRecord) :
    recordedPackets (current :: rest) = recordedPackets rest ++ current.packets := by
  unfold recordedPackets
  rw [List.reverse_cons, List.flatMap_append, List.flatMap_cons, List.flatMap_nil, List.append_nil]

theorem recordRule_trivial (env : TxAncEnv) (start : TxAncSession) :
    RecordRule env start (fun _ _ => True) (fun _ _ _ => True) where
  stillWaits := fun _ _ _ _ _ => trivial
  stillSends := fun _ _ _ _ _ _ => trivial
  taken := fun _ _ _ _ _ _ _ => trivial
  synced := fun _ _ _ _ _ _ _ => trivial
  sent := fun _ _ _ _ _ _ _ _ _ _ _ _ => trivial
  finished := fun _ _ _ _ _ _ _ _ _ _ _ _ => trivial
  abandoned := fun _ _ _ _ _ _ _ _ _ => trivial

def HasRecord (s : TxAncSession) : Prop := Recorded (fun _ _ => True) (fun _ _ _ => True) s

theorem TxAncPrepares.packets_eq (prepares : TxAncPrepares env start before after)
    (record : HasRecord before) :
    recordedPackets (frameRecords after.events) = recordedPackets (frameRecords before.events) := by
  cases prepares with
  | coded code => rfl
  | flushed kept => rfl
  | taken waiting free handed =>
    unfold TxAncSession.take
    dsimp only
    rw [frameRecords, recordedPackets_cons]
    exact List.append_nil _
  | synced sending due here =>
    rcases record.2 sending with ⟨current, rest, frame, -⟩
    have synced : Sending (txAncSyncFrame env before) (current.note .synced) rest := frame.sync due
    rw [synced.records, frame.records, recordedPackets_cons, (note_synced current).2.2,
      ← recordedPackets_cons]

theorem release_packets (records : frameRecords s.events = current :: rest) :
    recordedPackets (frameRecords s.release.events) = recordedPackets (frameRecords s.events) := by
  have done := frameRecords_done records s.frameIdx (s.frames s.frameIdx).tcMeta s.buildRetCode
  unfold TxAncSession.release
  dsimp only
  rw [done, records, recordedPackets_cons, recordedPackets_cons]
  rfl

theorem advance_events (s : TxAncSession) : (txAncillarySeqAdvance s).events = s.events := by
  rcases txAncillarySeqAdvance_shape s with ⟨_, _, advanced⟩
  rw [advanced]

theorem emit_packets {s : TxAncSession} (clear : s.Clear) (frame : Sending s current rest) (next : Nat)
    (rtp : TxRtp) :
    recordedPackets (frameRecords (s.emit env next rtp).events) =
      recordedPackets (frameRecords s.events) ++ [rtp] := by
  rw [(emit_fields env clear next rtp).1, frameRecords_built frame.records, recordedPackets_cons,
    frame.records, recordedPackets_cons, List.append_assoc]
  rfl

def Emitted (s : TxAncSession) : Prop :=
  forall port, s.cfg.Sends port -> (s.onPort port).map TxPkt.rtp = recordedPackets (frameRecords s.events)

theorem Emitted.prepares (prepares : TxAncPrepares env start before after)
    (record : HasRecord before) (emitted : Emitted before) : Emitted after := by
  intro port sends
  rw [prepares.cfg_eq] at sends
  rw [prepares.packets_eq record, ← emitted port sends]
  cases prepares with
  | coded code => rfl
  | taken waiting free handed => rfl
  | synced sending due here =>
    rcases txAncSyncFrame_shape env due with ⟨_, _, _, _, shape, -⟩
    rw [shape]
    rfl
  | @flushed other pkt kept =>
    exact congrArg (List.map TxPkt.rtp) (congrFun (givenTo_flush kept) port)

theorem Emitted.release {s : TxAncSession} (records : frameRecords s.events = current :: rest)
    (emitted : Emitted s) : Emitted s.release := by
  intro port sends
  rw [release_packets records]
  exact emitted port sends

theorem Emitted.advance (emitted : Emitted s) : Emitted (txAncillarySeqAdvance s) := by
  rcases txAncillarySeqAdvance_shape s with ⟨_, _, advanced⟩
  rw [advanced]
  exact emitted

theorem Emitted.emit (clear : s.Clear) (frame : Sending s current rest) (next : Nat)
    (rtp : TxRtp) (emitted : Emitted s) : Emitted (s.emit env next rtp) := by
  intro port sends
  rw [emit_packets clear frame]
  rcases emit_shape env next rtp clear with ⟨inflight, _, _, wire, _, _, shape, given⟩
  rw [shape] at sends ⊢
  dsimp only at sends
  rw [txAncillarySeqAdvance_cfg] at sends
  rw [← emitted port sends]
  exact given port sends

theorem Emitted.outcome (ready : TxAncReady env start s)
    (outcome : TxAncOutcome env s after) (record : HasRecord s) (emitted : Emitted s) :
    Emitted after := by
  rcases record.2 ready.sending with ⟨current, rest, frame, -⟩
  cases outcome with
  | unallocated => exact emitted
  | @refused _ fmd refusal reason =>
    exact @Emitted.release current rest (s.fail reason) frame.records emitted
  | @wasted code buffers anc refusal =>
    have records : frameRecords ((txAncillarySeqAdvance s).fail code).events = current :: rest :=
      (congrArg frameRecords (advance_events s)).trans frame.records
    exact @Emitted.release current rest ((txAncillarySeqAdvance s).fail code) records emitted.advance
  | lost buffers result ports missing => exact emitted.advance
  | @sent next rtp built base =>
    have given : Emitted (s.emit env next rtp) := emitted.emit ready.clear frame next rtp
    unfold txAncFinishFrame
    split
    · rcases emit_fields env ready.clear next rtp with ⟨events, -⟩
      have records := frameRecords_built frame.records rtp
      rw [← events] at records
      exact given.release records
    · exact given

theorem emitted_run {cfg : TxAncConfig} (level : cfg.ops.type = .frameLevel) (ptpTime : Nat)
    (envs : List TxAncEnv) : Emitted (run txAncStep (txAncInit cfg ptpTime) envs) := by
  have whole := run_invariant txAncStep (fun _ _ => True)
    (fun s => s.cfg.ops.type = .frameLevel ∧ HasRecord s ∧ Emitted s) ?_
    (show (txAncInit cfg ptpTime).cfg.ops.type = .frameLevel ∧ HasRecord (txAncInit cfg ptpTime) ∧
      Emitted (txAncInit cfg ptpTime) from
        ⟨level, ⟨fun _ => trivial, fun absurd => (by cases absurd)⟩, fun _ _ => rfl⟩)
    (admitted_of_forall txAncStep (fun env _ => trivial : ∀ env ∈ envs, True))
  · exact whole.2.2
  · rintro s env ⟨frames, record, emitted⟩ -
    have rule := recordRule_trivial env s
    refine ⟨?_, record.step rule frames, ?_⟩
    · rw [txAncStep_cfg env frames]
      exact frames
    · have both := @txAncStep_preserves (fun s => HasRecord s ∧ Emitted s) env s frames
        (fun _ _ before prepares => ⟨before.1.prepares rule prepares, before.2.prepares prepares before.1⟩)
        (fun _ _ ready before outcome =>
          ⟨before.1.outcome rule ready outcome, before.2.outcome ready outcome before.1⟩)
        ⟨record, emitted⟩
      exact both.2

end MediaTransport.Anc
