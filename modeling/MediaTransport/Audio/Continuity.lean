import MediaTransport.Audio.TxMoves

namespace MediaTransport.Audio

open Library

/-!
# Continuity of the audio transmit session

Each frame leaves piece by piece, and is reported once, behind its last piece.
Both ports are given the same packets.  The number of a packet is used up when
the packet is built; when the copy for the second port cannot be had, the
packet is built again with the next number.  Calls without such a loss number
the packets from zero on.
-/

variable {after before start : TxAudioSession} {record : TxAudioRecord}

/-! ## Records of frames -/

/-- What happened to a frame: its packets, and the reports of it with the number of packets that were
built before. -/
structure TxAudioRecord where
  idx : Nat
  frame : Nat -> Byte
  packets : List AudioRtp
  reports : List (Nat × Nat)

/-- One record for each frame that was handed over, the newest first. -/
def audioRecords : List TxAudioEvent -> List TxAudioRecord
  | [] => []
  | .handed idx frame :: older => ⟨idx, frame, [], []⟩ :: audioRecords older
  | .synced _ _ :: older => audioRecords older
  | .built rtp :: older =>
    match audioRecords older with
    | [] => []
    | current :: rest => { current with packets := current.packets ++ [rtp] } :: rest
  | .done idx _ :: older =>
    match audioRecords older with
    | [] => []
    | current :: rest =>
      { current with reports := current.reports ++ [(idx, current.packets.length)] } :: rest

def recordedPackets (records : List TxAudioRecord) : List AudioRtp :=
  (records.reverse.map TxAudioRecord.packets).flatten

theorem recordedPackets_cons (current : TxAudioRecord) (rest : List TxAudioRecord) :
    recordedPackets (current :: rest) = recordedPackets rest ++ current.packets := by
  simp [recordedPackets]

variable {cfg : TxAudioConfig} {env : TxAudioEnv} {s : TxAudioSession}
variable {current : TxAudioRecord} {rest : List TxAudioRecord}

theorem audioRecords_built (records : audioRecords s.events = current :: rest) (rtp : AudioRtp) :
    audioRecords (.built rtp :: s.events) =
      { current with packets := current.packets ++ [rtp] } :: rest := by
  simp [audioRecords, records]

theorem audioRecords_done (records : audioRecords s.events = current :: rest) (idx : Nat)
    (taMeta : St30TxFrameMeta) :
    audioRecords (.done idx taMeta :: s.events) =
      { current with reports := current.reports ++ [(idx, current.packets.length)] } :: rest := by
  simp [audioRecords, records]

/-! ## Frames in pieces -/

def TxAudioRecord.Pieces (cfg : TxAudioConfig) (record : TxAudioRecord) (count : Nat) : Prop :=
  record.packets.map AudioRtp.payload = (List.range count).map (cfg.piece record.frame)

/-- All pieces of the frame have left, and then it was reported. -/
structure TxAudioRecord.Finished (cfg : TxAudioConfig) (record : TxAudioRecord) : Prop where
  pieces : record.Pieces cfg cfg.totalPkts
  reports : record.reports = [(record.idx, cfg.totalPkts)]

/-- A frame that is not reported, of which so many pieces have left. -/
structure TxAudioRecord.Partial (cfg : TxAudioConfig) (record : TxAudioRecord) (idx : Nat)
    (frame : Nat -> Byte) (count : Nat) : Prop where
  idx : record.idx = idx
  frame : record.frame = frame
  pieces : record.Pieces cfg count
  unreported : record.reports = []

def HeldOnly (frames : Nat -> TxAudioFrame) (idx : Nat) : Prop :=
  forall other, (frames other).refcnt = if other = idx then 1 else 0

/-- Between frames all frames are free and finished; otherwise one is being sent. -/
structure TxAudioSession.FramesRight (s : TxAudioSession) : Prop where
  waiting : s.frameStat = .waitFrame -> s.pktIdx = 0 ∧ (forall idx, (s.frames idx).refcnt = 0) ∧
    ∀ record ∈ audioRecords s.events, record.Finished s.cfg
  sending : s.frameStat = .sendingPkts -> Exists fun current => Exists fun rest =>
    audioRecords s.events = current :: rest ∧
    current.Partial s.cfg s.frameIdx (s.frames s.frameIdx).addr s.pktIdx ∧
    s.pktIdx < s.cfg.totalPkts ∧ HeldOnly s.frames s.frameIdx ∧
    ∀ record ∈ rest, record.Finished s.cfg

theorem TxAudioRecord.Pieces.length {count : Nat}
    (pieces : record.Pieces cfg count) : record.packets.length = count := by
  have lengths := congrArg List.length pieces
  simpa using lengths

theorem TxAudioSession.FramesRight.waits (right : s.FramesRight) : s.Waits :=
  fun stat => (right.waiting stat).1

theorem TxAudioPrepares.frames
    (prepares : TxAudioPrepares env before after) (right : before.FramesRight) :
    after.FramesRight ∧ after.cfg = before.cfg ∧ after.seqId = before.seqId ∧
      recordedPackets (audioRecords after.events) = recordedPackets (audioRecords before.events) := by
  cases prepares with
  | coded code => exact ⟨⟨right.waiting, right.sending⟩, rfl, rfl, rfl⟩
  | flushed kept => exact ⟨⟨right.waiting, right.sending⟩, rfl, rfl, rfl⟩
  | @taken idx taMeta frame first stat free =>
    rcases right.waiting stat with ⟨zero, unused, finished⟩
    have more : (before.take idx taMeta frame).pktIdx < before.cfg.totalPkts := by
      rw [show (before.take idx taMeta frame).pktIdx = 0 from first]
      exact before.cfg.totalPkts_pos
    refine ⟨⟨fun absurd => (by cases absurd), fun _ => ?_⟩, rfl, rfl, ?_⟩
    · refine ⟨_, _, rfl, ⟨rfl, ?_, ?_, rfl⟩, more, fun other => ?_, finished⟩
      · simp [TxAudioSession.take]
      · simp [TxAudioRecord.Pieces, TxAudioSession.take, first]
      · by_cases same : other = idx
        · simp [TxAudioSession.take, same, free]
        · simp [TxAudioSession.take, same, unused]
    · change recordedPackets (⟨idx, frame, [], []⟩ :: audioRecords before.events) = _
      rw [recordedPackets_cons, List.append_nil]
  | synced stat due =>
    rcases txAudioSyncPkt_shape env due with ⟨stats, pacing, taMeta, shape⟩
    rcases right.sending stat with ⟨current, rest, records, part, more, held, finished⟩
    rw [shape]
    refine ⟨⟨fun waiting => ?_, fun _ => ?_⟩, rfl, rfl, rfl⟩
    · exact absurd (stat.symm.trans waiting) (by decide)
    · refine ⟨current, rest, records, ⟨part.idx, ?_, part.pieces, part.unreported⟩, more,
        fun other => ?_, finished⟩
      · simp [part.frame]
      · rw [← held other]
        by_cases same : other = before.frameIdx
        · simp [same]
        · simp [same]

theorem finish_frames (sending : s.frameStat = .sendingPkts)
    (records : audioRecords s.events = current :: rest)
    (part : current.Partial s.cfg s.frameIdx (s.frames s.frameIdx).addr s.pktIdx)
    (within : s.pktIdx ≤ s.cfg.totalPkts) (held : HeldOnly s.frames s.frameIdx)
    (finished : ∀ record ∈ rest, record.Finished s.cfg) :
    (txAudioFinishFrame s).FramesRight ∧ (txAudioFinishFrame s).cfg = s.cfg ∧
      (txAudioFinishFrame s).seqId = s.seqId ∧ (txAudioFinishFrame s).onPort = s.onPort ∧
      recordedPackets (audioRecords (txAudioFinishFrame s).events) =
        recordedPackets (audioRecords s.events) := by
  unfold txAudioFinishFrame
  by_cases last : s.pktIdx ≥ s.cfg.totalPkts
  · rw [if_pos last]
    have all : s.pktIdx = s.cfg.totalPkts := Nat.le_antisymm within last
    have after := audioRecords_done records s.frameIdx (s.frames s.frameIdx).taMeta
    have done : TxAudioRecord.Finished s.cfg
        { current with
          reports := current.reports ++ [(s.frameIdx, current.packets.length)] } := by
      refine ⟨?_, ?_⟩
      · rw [← all]
        exact part.pieces
      · simp [part.unreported, part.idx, part.pieces.length, all]
    refine ⟨⟨fun _ => ⟨rfl, fun other => ?_, ?_⟩, fun absurd => (by cases absurd)⟩, rfl, rfl, rfl, ?_⟩
    · by_cases same : other = s.frameIdx
      · simp [TxAudioSession.release, same, held s.frameIdx]
      · simp [TxAudioSession.release, same, held other]
    · change ∀ record ∈ audioRecords (.done _ _ :: s.events), record.Finished s.cfg
      rw [after]
      intro record member
      rcases List.mem_cons.mp member with rfl | older
      · exact done
      · exact finished record older
    · change recordedPackets (audioRecords (.done _ _ :: s.events)) = _
      rw [after, records, recordedPackets_cons, recordedPackets_cons]
  · rw [if_neg last]
    refine ⟨⟨fun waiting => ?_, fun _ => ?_⟩, rfl, rfl, rfl, rfl⟩
    · exact absurd (sending.symm.trans waiting) (by decide)
    · exact ⟨current, rest, records, part, Nat.not_le.mp last, held, finished⟩

theorem emit_frames (ready : s.frameStat = .sendingPkts) (clear : s.Clear) (right : s.FramesRight)
    {pkt : TxAudioPkt} {pktR : Option TxAudioPkt} (carried : CarriedBy s.cfg s.nextRtp pkt pktR) :
    (txAudioFinishFrame (s.emit env pkt pktR)).FramesRight ∧
      (txAudioFinishFrame (s.emit env pkt pktR)).cfg = s.cfg ∧
      (txAudioFinishFrame (s.emit env pkt pktR)).seqId = s.numbered.seqId ∧
      recordedPackets (audioRecords (txAudioFinishFrame (s.emit env pkt pktR)).events) =
        recordedPackets (audioRecords s.events) ++ [s.nextRtp] ∧
      forall port, s.cfg.Sends port ->
        ((txAudioFinishFrame (s.emit env pkt pktR)).onPort port).map TxAudioPkt.rtp =
          (s.onPort port).map TxAudioPkt.rtp ++ [s.nextRtp] := by
  rcases right.sending ready with ⟨current, rest, records, part, more, held, finished⟩
  rcases emit_shape env clear carried with ⟨_, _, _, _, _, _, shape, given⟩
  have grown : audioRecords (s.emit env pkt pktR).events =
      { current with packets := current.packets ++ [s.nextRtp] } :: rest := by
    rw [shape]
    exact audioRecords_built records s.nextRtp
  have pieces : TxAudioRecord.Pieces s.cfg
      { current with packets := current.packets ++ [s.nextRtp] } (s.pktIdx + 1) := by
    have earlier : current.packets.map AudioRtp.payload = _ := part.pieces
    unfold TxAudioRecord.Pieces
    rw [List.map_append, earlier, List.range_succ, List.map_append, part.frame]
    rfl
  have whole := @finish_frames (s.emit env pkt pktR) _ rest (by rw [shape]; exact ready) grown
    (by rw [shape]; exact ⟨part.idx, part.frame, pieces, part.unreported⟩)
    (by rw [shape]; exact more) (by rw [shape]; exact held) (by rw [shape]; exact finished)
  rcases whole with ⟨frames, cfg, seqId, onPort, packets⟩
  refine ⟨frames, ?_, ?_, ?_, fun port sends => ?_⟩
  · rw [cfg, shape]
    rfl
  · rw [seqId, shape]
  · rw [packets, grown, records, recordedPackets_cons, recordedPackets_cons, List.append_assoc]
  · rw [onPort, shape]
    exact given port sends

/-! ## Numbers -/

/-- A call that builds a packet has a buffer for the copy on the second port. -/
def LosesNoNumber (s : TxAudioSession) (env : TxAudioEnv) : Prop :=
  forall mid, txAudioReach env { s with buildRetCode := none } = (mid, none) ->
    mid.cfg.HasBuffers env -> mid.cfg.ops.numPort > 1 -> env.allocRedundant = true

/-- All packets so far are numbered in order, and the next one will be. -/
structure TxAudioSession.Numbered (s : TxAudioSession) : Prop where
  seqId : s.seqId = (recordedPackets (audioRecords s.events)).length % 65536
  numbers : forall (index : Nat) (rtp : AudioRtp),
    (recordedPackets (audioRecords s.events))[index]? = some rtp -> rtp.base.seqNumber = index % 65536

def TxAudioSession.Given (s : TxAudioSession) : Prop :=
  forall port, s.cfg.Sends port ->
    (s.onPort port).map TxAudioPkt.rtp = recordedPackets (audioRecords s.events)

/-- What holds of the session in every state. -/
structure TxAudioSession.Continuous (s : TxAudioSession) : Prop where
  frames : s.FramesRight
  given : s.Given

theorem TxAudioPrepares.onPort
    (prepares : TxAudioPrepares env before after) : after.onPort = before.onPort := by
  cases prepares with
  | coded code => rfl
  | flushed kept => exact givenTo_flush kept
  | taken first stat free => rfl
  | synced stat due =>
    rcases txAudioSyncPkt_shape env due with ⟨_, _, _, shape⟩
    rw [shape]
    rfl

theorem TxAudioSession.Continuous.prepares
    (continuous : before.Continuous) (prepares : TxAudioPrepares env before after) :
    after.Continuous := by
  rcases prepares.frames continuous.frames with ⟨frames, cfg, -, packets⟩
  refine ⟨frames, fun port sends => ?_⟩
  rw [prepares.onPort, packets]
  exact continuous.given port (cfg ▸ sends)

theorem TxAudioSession.Continuous.outcome (continuous : s.Continuous)
    (sending : s.frameStat = .sendingPkts) (clear : s.Clear) (outcome : TxAudioOutcome env s after) :
    after.Continuous ∧ after.cfg = s.cfg := by
  have right := continuous.frames
  cases outcome with
  | unallocated => exact ⟨⟨⟨right.waiting, right.sending⟩, continuous.given⟩, rfl⟩
  | lost buffers ports missing => exact ⟨⟨⟨right.waiting, right.sending⟩, continuous.given⟩, rfl⟩
  | @sent pkt pktR carried =>
    rcases @emit_frames env s sending clear right pkt pktR carried
      with ⟨frames, cfg, -, packets, given⟩
    refine ⟨⟨frames, fun port sends => ?_⟩, cfg⟩
    rw [cfg] at sends
    rw [given port sends, continuous.given port sends, packets]

theorem TxAudioSession.Numbered.prepares (numbered : before.Numbered)
    (right : before.FramesRight) (prepares : TxAudioPrepares env before after) : after.Numbered := by
  rcases prepares.frames right with ⟨-, -, seqId, packets⟩
  refine ⟨?_, ?_⟩
  · rw [seqId, packets]
    exact numbered.seqId
  · rw [packets]
    exact numbered.numbers

theorem TxAudioSession.Numbered.outcome (numbered : s.Numbered)
    (right : s.FramesRight) (ready : TxAudioReady env start s) (keeps : LosesNoNumber start env)
    (outcome : TxAudioOutcome env s after) : after.Numbered := by
  cases outcome with
  | unallocated => exact ⟨numbered.seqId, numbered.numbers⟩
  | lost buffers ports missing =>
    have had := keeps s ready.reached buffers ports
    rw [missing] at had
    cases had
  | @sent pkt pktR carried =>
    rcases @emit_frames env s ready.sending ready.clear right pkt pktR carried
      with ⟨-, -, seqId, packets, -⟩
    refine ⟨?_, ?_⟩
    · have count := numbered.seqId
      rw [seqId, packets, List.length_append, List.length_singleton]
      change u16 ((s.seqId + 1 : Nat) : Int) = _
      rw [u16_eq]
      omega
    · rw [packets]
      exact forall_places_concat numbered.numbers numbered.seqId

/-! ## Whole runs -/

theorem piece_eq (cfg : TxAudioConfig) (frame : Nat -> Byte) {idx : Nat} (inside : idx < cfg.totalPkts) :
    cfg.piece frame idx =
      (List.range cfg.pktLen).map (fun position => frame (idx * cfg.pktLen + position)) := by
  have room : idx * cfg.pktLen < 4294967296 := by
    apply Nat.lt_of_le_of_lt (Nat.mul_le_mul_right cfg.pktLen (Nat.le_of_lt inside))
    rw [cfg.totalPkts_mul]
    exact cfg.sized
  unfold TxAudioConfig.piece
  rw [u32_of_lt room]

/-- So many pieces of the frame have left, in order and each once; the frame was reported once, when
all of them had left. -/
structure TxAudioRecord.InPieces (cfg : TxAudioConfig) (record : TxAudioRecord) (count : Nat) : Prop where
  within : count ≤ cfg.totalPkts
  payloads : record.packets.map AudioRtp.payload = (List.range count).map (fun idx =>
    (List.range cfg.pktLen).map (fun position => record.frame (idx * cfg.pktLen + position)))
  reports : record.reports = if count = cfg.totalPkts then [(record.idx, cfg.totalPkts)] else []

theorem TxAudioRecord.Pieces.payloads {count : Nat}
    (pieces : record.Pieces cfg count) (within : count ≤ cfg.totalPkts) :
    record.packets.map AudioRtp.payload = (List.range count).map (fun idx =>
      (List.range cfg.pktLen).map (fun position => record.frame (idx * cfg.pktLen + position))) := by
  have own : record.packets.map AudioRtp.payload = _ := pieces
  rw [own]
  apply List.map_congr_left
  intro idx member
  exact piece_eq cfg record.frame (Nat.lt_of_lt_of_le (List.mem_range.mp member) within)

theorem TxAudioRecord.Finished.inPieces (finished : record.Finished cfg) :
    record.InPieces cfg cfg.totalPkts := by
  refine ⟨Nat.le_refl _, finished.pieces.payloads (Nat.le_refl _), ?_⟩
  rw [if_pos rfl]
  exact finished.reports

def unreported (records : List TxAudioRecord) (idx : Nat) : List TxAudioRecord :=
  records.filter (fun record => record.idx = idx ∧ record.reports = [])

theorem unreported_finished {records : List TxAudioRecord} (idx : Nat)
    (finished : ∀ record ∈ records, record.Finished cfg) : unreported records idx = [] := by
  apply List.filter_eq_nil_iff.mpr
  intro record member
  simp [(finished record member).reports]

theorem TxAudioSession.FramesRight.refcnt (right : s.FramesRight) (idx : Nat) :
    (s.frames idx).refcnt = (unreported (audioRecords s.events) idx).length := by
  cases stat : s.frameStat with
  | waitFrame =>
    rcases right.waiting stat with ⟨-, unused, finished⟩
    rw [unused idx, unreported_finished idx finished]
    rfl
  | sendingPkts =>
    rcases right.sending stat with ⟨current, rest, records, part, -, held, finished⟩
    have others : unreported rest idx = [] := unreported_finished idx finished
    unfold unreported at others ⊢
    rw [held idx, records, List.filter_cons, others]
    by_cases same : idx = s.frameIdx
    · simp [same, part.idx, part.unreported]
    · simp [same, part.idx, Ne.symm same]

theorem TxAudioSession.FramesRight.inPieces (right : s.FramesRight) {newer older : List TxAudioRecord}
    (place : audioRecords s.events = newer ++ record :: older) :
    Exists fun count => record.InPieces s.cfg count ∧ (newer ≠ [] -> count = s.cfg.totalPkts) := by
  cases stat : s.frameStat with
  | waitFrame =>
    have finished := (right.waiting stat).2.2 record (by rw [place]; simp)
    exact ⟨_, finished.inPieces, fun _ => rfl⟩
  | sendingPkts =>
    rcases right.sending stat with ⟨current, rest, records, part, more, -, finished⟩
    rw [records] at place
    cases newer with
    | nil =>
      rcases List.cons.inj place with ⟨head, -⟩
      rw [← head]
      refine ⟨s.pktIdx, ⟨Nat.le_of_lt more, part.pieces.payloads (Nat.le_of_lt more), ?_⟩,
        fun absurd => (absurd rfl).elim⟩
      rw [if_neg (Nat.ne_of_lt more)]
      exact part.unreported
    | cons newest others =>
      rcases List.cons.inj place with ⟨-, tail⟩
      have done := finished record (by rw [tail]; simp)
      exact ⟨_, done.inPieces, fun _ => rfl⟩

theorem continuous_init (cfg : TxAudioConfig) (ptpTime : BitVec 64) :
    (txAudioInit cfg ptpTime).Continuous ∧ (txAudioInit cfg ptpTime).Numbered := by
  refine ⟨⟨⟨fun _ => ⟨rfl, fun _ => rfl, fun _ absurd => (by cases absurd)⟩,
    fun absurd => (by cases absurd)⟩, fun _ _ => rfl⟩, rfl, fun _ _ absurd => (by cases absurd)⟩

theorem continuous_step (continuous : start.Continuous) :
    (txAudioStep start env).Continuous ∧ (txAudioStep start env).cfg = start.cfg := by
  refine @txAudioStep_preserves env (fun s => s.Continuous ∧ s.cfg = start.cfg) start
    continuous.frames.waits ?_ ?_ ⟨continuous, rfl⟩
  · intro before after holds prepares
    exact ⟨holds.1.prepares prepares, (prepares.frames holds.1.frames).2.1.trans holds.2⟩
  · intro mid after ready holds outcome
    rcases holds.1.outcome ready.sending ready.clear outcome with ⟨next, cfg⟩
    exact ⟨next, cfg.trans holds.2⟩

theorem numbered_step (continuous : start.Continuous)
    (numbered : start.Numbered) (keeps : LosesNoNumber start env) :
    (txAudioStep start env).Numbered := by
  refine (@txAudioStep_preserves env (fun s => s.Continuous ∧ s.Numbered) start
    continuous.frames.waits ?_ ?_ ⟨continuous, numbered⟩).2
  · intro before after holds prepares
    exact ⟨holds.1.prepares prepares, holds.2.prepares holds.1.frames prepares⟩
  · intro mid after ready holds outcome
    exact ⟨(holds.1.outcome ready.sending ready.clear outcome).1,
      holds.2.outcome holds.1.frames ready keeps outcome⟩

theorem continuous_run (cfg : TxAudioConfig) (ptpTime : BitVec 64) (envs : List TxAudioEnv) :
    (run txAudioStep (txAudioInit cfg ptpTime) envs).Continuous ∧
      (run txAudioStep (txAudioInit cfg ptpTime) envs).cfg = cfg := by
  refine run_invariant txAudioStep (fun _ _ => True) (fun s => s.Continuous ∧ s.cfg = cfg) ?_
    ⟨(continuous_init cfg ptpTime).1, rfl⟩ (admitted_of_forall txAudioStep (fun _ _ => trivial))
  intro s env holds _
  exact ⟨(continuous_step holds.1).1, (continuous_step holds.1).2.trans holds.2⟩

theorem audio_numbered_run {cfg : TxAudioConfig} {ptpTime : BitVec 64} {envs : List TxAudioEnv}
    (keeps : Admitted txAudioStep LosesNoNumber (txAudioInit cfg ptpTime) envs) :
    (run txAudioStep (txAudioInit cfg ptpTime) envs).Numbered := by
  refine (run_invariant txAudioStep LosesNoNumber (fun s => s.Continuous ∧ s.Numbered) ?_
    (continuous_init cfg ptpTime) keeps).2
  intro s env holds kept
  exact ⟨(continuous_step holds.1).1, numbered_step holds.1 holds.2 kept⟩

/-- In every run both ports are given the packets of the frames, each frame leaves in its pieces, is
reported once behind the last of them and is held exactly until then.  The packets are numbered in
order when no call uses up a number in vain. -/
theorem audio_transmit_continuous (cfg : TxAudioConfig) (ptpTime : BitVec 64)
    (envs : List TxAudioEnv) :
    let s := run txAudioStep (txAudioInit cfg ptpTime) envs
    let records := audioRecords s.events
    (forall port, cfg.Sends port ->
      (s.wire port ++ (s.inflight port).toList).map TxAudioPkt.rtp = recordedPackets records) ∧
    (forall newer record older, records = newer ++ record :: older -> Exists fun count =>
      record.InPieces cfg count ∧ (newer ≠ [] -> count = cfg.totalPkts)) ∧
    (forall idx, (s.frames idx).refcnt = (unreported records idx).length) ∧
    (Admitted txAudioStep LosesNoNumber (txAudioInit cfg ptpTime) envs ->
      forall port, cfg.Sends port -> forall (index : Nat) (pkt : TxAudioPkt),
        (s.wire port)[index]? = some pkt -> pkt.rtp.base.seqNumber = index % 65536) := by
  intro s records
  rcases continuous_run cfg ptpTime envs with ⟨continuous, same⟩
  refine ⟨fun port sends => ?_, fun newer record older place => ?_, ?_, fun keeps => ?_⟩
  · exact continuous.given port (same.symm ▸ sends)
  · have pieces := continuous.frames.inPieces place
    rw [same] at pieces
    exact pieces
  · exact continuous.frames.refcnt
  · intro port sends index pkt found
    have given := continuous.given port (same.symm ▸ sends)
    exact (audio_numbered_run keeps).numbers index pkt.rtp (givenTo_sent given found)

/-- Two ports with frames of two packets. -/
def stereoOnTwoPorts : TxAudioConfig where
  ops :=
    { numPort := 2, fmt := .pcm16, channel := 2, sampling := .s48k, ptime := .p125us
      framebuffSize := 48, userPacing := false, userTimestamp := false, rtpTimestampDeltaUs := 0 }
  hdr := fun _ => List.replicate 42 0
  payloadType := 111
  ssrc := 2241616
  cksumOffload := fun _ => true
  rteIpv4Cksum := fun _ => 0
  txNoChain := false
  pacingInBuild := false
  sampleNum := 6
  pktLen := 24
  maxOnwardEpochs := 8000
  maxLateEpochs := 80
  cursorAfterTai := fun tai => tai + 125000
  timeStampOfTai := fun tai => tai * 6 / 125000
  deltaTicks := 0
  cursorAfterPkt := fun tsc => tsc + 125000
  st10MediaClkToTai := fun anchor _ => anchor
  sampled := rfl
  packed := rfl
  fits := by decide
  framed := by decide
  sized := by decide
  whole := by decide

/-- A call in which the application has a frame, the rings have room and the pools have buffers. -/
def silentFrame : TxAudioEnv where
  ringFull := false
  takesInflight := fun _ => true
  takes := fun _ => true
  getNextFrame := fun taMeta => some (0, taMeta, fun _ => 0)
  ptpTime := 0
  syncTsc := 0
  curTsc := 0
  schScheduleNs := 0
  allocPkt := true
  allocChain := true
  allocRedundant := true

/-- Two calls send a frame on two ports. -/
theorem silent_frame_continuous :
    Admitted txAudioStep LosesNoNumber (txAudioInit stereoOnTwoPorts 0) [silentFrame, silentFrame] ∧
      stereoOnTwoPorts.Sends .r ∧
      (forall (index : Nat) (pkt : TxAudioPkt),
        ((run txAudioStep (txAudioInit stereoOnTwoPorts 0) [silentFrame, silentFrame]).wire .r)[index]? =
          some pkt -> pkt.rtp.base.seqNumber = index % 65536) ∧
      ((run txAudioStep (txAudioInit stereoOnTwoPorts 0) [silentFrame, silentFrame]).wire .r).length =
        2 := by
  have keeps : Admitted txAudioStep LosesNoNumber (txAudioInit stereoOnTwoPorts 0)
      [silentFrame, silentFrame] :=
    ⟨fun _ _ _ _ => rfl, fun _ _ _ _ => rfl, trivial⟩
  have sends : stereoOnTwoPorts.Sends .r := Or.inr (by decide)
  exact ⟨keeps, sends,
    (audio_transmit_continuous stereoOnTwoPorts 0 [silentFrame, silentFrame]).2.2.2 keeps .r sends,
    by decide +kernel⟩

/-- The copy of the second packet cannot be had at first: its number is used up, and the packet
leaves with the next one. -/
theorem lost_audio_copy_leaves_gap :
    let numbers := ((run txAudioStep (txAudioInit stereoOnTwoPorts 0)
      [silentFrame, { silentFrame with allocRedundant := false }, silentFrame]).wire .p).map
        (fun pkt => pkt.rtp.base.seqNumber)
    numbers = [0, 2] ∧
      ¬ List.IsChain (fun first second => second = (first + 1) % 65536) numbers := by
  have numbers : ((run txAudioStep (txAudioInit stereoOnTwoPorts 0)
      [silentFrame, { silentFrame with allocRedundant := false }, silentFrame]).wire .p).map
        (fun pkt => pkt.rtp.base.seqNumber) = [0, 2] := by
    decide +kernel
  dsimp only
  rw [numbers]
  exact ⟨rfl, by decide⟩

end MediaTransport.Audio
