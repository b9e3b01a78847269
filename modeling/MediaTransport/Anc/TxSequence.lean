import MediaTransport.Anc.TxHistory

namespace MediaTransport.Anc

open Library

/-!
# Sequence numbers of the transmit session

The number of a packet is used up when the packet is built.  When the packet
is then lost, because its entries are refused or because the copy for the
second port cannot be had, the next one leaves a gap.  Calls without such a
loss number the packets of both ports from zero on.
-/

/-! ## Numbers -/

variable {s : TxAncSession}

/-- The packet with this index in the order of sending.  Fast metadata has no extended number. -/
def TxRtp.HasNumber (rtp : TxRtp) (index : Nat) : Prop :=
  match rtp with
  | .anc rtp => rtp.base.seqNumber = index % 65536 ∧ rtp.seqNumberExt = index / 65536 % 65536
  | .fmd rtp => rtp.base.seqNumber = index % 65536
  | .raw _ _ => False

/-- The session has sent so many packets. -/
structure CountsTo (s : TxAncSession) (count : Nat) : Prop where
  seqId : s.seqId = count % 65536
  extSeqId : s.extSeqId = count / 65536 % 65536

theorem CountsTo.advance {count : Nat} (counts : CountsTo s count) :
    CountsTo (txAncillarySeqAdvance s) (count + 1) := by
  have low := counts.seqId
  have high := counts.extSeqId
  unfold txAncillarySeqAdvance
  by_cases wraps : s.seqId + 1 > 65535
  · rw [if_pos wraps]
    refine ⟨?_, ?_⟩
    · change s.seqId + 1 - 65536 = (count + 1) % 65536
      omega
    · change (s.extSeqId + 1) % 65536 = (count + 1) / 65536 % 65536
      omega
  · rw [if_neg wraps]
    refine ⟨?_, ?_⟩
    · change s.seqId + 1 = (count + 1) % 65536
      omega
    · change s.extSeqId = (count + 1) / 65536 % 65536
      omega

theorem build_seqNumberExt {mbuf : Nat -> Byte} {ancIdx next : Nat} {after : TxAncSession}
    {rtp : AncRtp}
    (built : txAncillarySessionBuildRtpPacket s mbuf ancIdx = (after, .ok (next, .anc rtp))) :
    rtp.seqNumberExt = s.extSeqId := by
  unfold txAncillarySessionBuildRtpPacket at built
  split at built
  · split at built
    · cases built
    · cases built
  · unfold ancBuildRtp at built
    dsimp only at built
    split at built
    · cases built
    · next inner =>
        cases built
        split at inner
        · cases inner
        · cases inner
          rfl

theorem build_number {mbuf : Nat -> Byte} {next count : Nat} {rtp : TxRtp} (counts : CountsTo s count)
    (built : txAncillarySessionBuildRtpPacket s mbuf s.ancIdx = (txAncillarySeqAdvance s, .ok (next, rtp)))
    (base : rtp.HasBase s.rtpBase) : rtp.HasNumber count := by
  cases rtp with
  | anc anc =>
    refine ⟨?_, (build_seqNumberExt built).trans counts.extSeqId⟩
    have own : anc.base = { s.rtpBase with marker := anc.base.marker } := base
    rw [own]
    exact counts.seqId
  | fmd fmd =>
    have own : fmd.base = s.rtpBase := base
    change fmd.base.seqNumber = count % 65536
    rw [own]
    exact counts.seqId
  | raw memory len => exact base

/-! ## Calls that lose no number -/

/-- A call that gets so far does not use up a number in vain: it builds a packet, and has a buffer
for the copy on the second port. -/
def LosesNoNumber (s : TxAncSession) (env : TxAncEnv) : Prop :=
  forall mid, txAncReach env { s with buildRetCode := none } = (mid, none) -> mid.cfg.HasBuffers env ->
    (mid.cfg.ops.fastMetadata = false ->
      Exists fun built => (txAncillarySessionBuildRtpPacket mid env.mbuf mid.ancIdx).2 = .ok built) ∧
    (mid.cfg.ops.numPort > 1 ->
      (Exists fun built => (txAncillarySessionBuildRtpPacket mid env.mbuf mid.ancIdx).2 = .ok built) ->
      env.allocRedundant = true)

/-- All packets so far are numbered in order, and the next one will be. -/
structure Numbered (s : TxAncSession) : Prop where
  counts : CountsTo s (recordedPackets (frameRecords s.events)).length
  numbers : forall (index : Nat) (rtp : TxRtp), (recordedPackets (frameRecords s.events))[index]? = some rtp ->
    rtp.HasNumber index

variable {env : TxAncEnv} {start : TxAncSession}

theorem Numbered.prepares {before after : TxAncSession} (prepares : TxAncPrepares env start before after)
    (record : HasRecord before) (numbered : Numbered before) : Numbered after := by
  have kept : after.seqId = before.seqId ∧ after.extSeqId = before.extSeqId := by
    cases prepares with
    | coded code => exact ⟨rfl, rfl⟩
    | flushed kept => exact ⟨rfl, rfl⟩
    | taken waiting free handed => exact ⟨rfl, rfl⟩
    | synced sending due here =>
      rcases txAncSyncFrame_shape env due with ⟨_, _, _, _, shape, -⟩
      rw [shape]
      exact ⟨rfl, rfl⟩
  have packets := prepares.packets_eq record
  refine ⟨⟨?_, ?_⟩, ?_⟩
  · rw [kept.1, packets]
    exact numbered.counts.seqId
  · rw [kept.2, packets]
    exact numbered.counts.extSeqId
  · rw [packets]
    exact numbered.numbers

section

variable {s : TxAncSession} {current : TxFrameRecord} {rest : List TxFrameRecord}

theorem Numbered.release
    (records : frameRecords s.events = current :: rest) (numbered : Numbered s) : Numbered s.release := by
  have packets := release_packets records
  refine ⟨⟨?_, ?_⟩, ?_⟩
  · rw [packets]
    exact numbered.counts.seqId
  · rw [packets]
    exact numbered.counts.extSeqId
  · rw [packets]
    exact numbered.numbers

theorem Numbered.emit (clear : s.Clear) (frame : Sending s current rest) {next : Nat} {rtp : TxRtp}
    (built : txAncillarySessionBuildRtpPacket s env.mbuf s.ancIdx =
      (txAncillarySeqAdvance s, .ok (next, rtp)))
    (base : rtp.HasBase s.rtpBase) (numbered : Numbered s) : Numbered (s.emit env next rtp) := by
  have packets := @emit_packets current rest env s clear frame next rtp
  have advanced := numbered.counts.advance
  rcases emit_shape env next rtp clear with ⟨_, _, _, _, _, _, shape, -⟩
  refine ⟨?_, ?_⟩
  · rw [packets, List.length_append, List.length_singleton, shape]
    exact ⟨advanced.seqId, advanced.extSeqId⟩
  · rw [packets]
    exact forall_places_concat numbered.numbers (build_number numbered.counts built base)

end

theorem Numbered.outcome {s after : TxAncSession} (ready : TxAncReady env start s)
    (outcome : TxAncOutcome env s after) (keeps : LosesNoNumber start env) (record : HasRecord s)
    (numbered : Numbered s) : Numbered after := by
  rcases record.2 ready.sending with ⟨current, rest, frame, -⟩
  cases outcome with
  | unallocated => exact ⟨⟨numbered.counts.seqId, numbered.counts.extSeqId⟩, numbered.numbers⟩
  | @refused _ fmd refusal reason =>
    have coded : Numbered (s.fail reason) :=
      ⟨⟨numbered.counts.seqId, numbered.counts.extSeqId⟩, numbered.numbers⟩
    have released := @Numbered.release (s.fail reason) current rest frame.records coded
    exact ⟨⟨released.counts.seqId, released.counts.extSeqId⟩, released.numbers⟩
  | wasted buffers anc refusal =>
    rcases (keeps s ready.reached buffers).1 anc with ⟨built, result⟩
    rw [refusal] at result
    cases result
  | lost buffers result ports missing =>
    have had := (keeps s ready.reached buffers).2 ports ⟨_, result⟩
    rw [missing] at had
    cases had
  | @sent next rtp built base =>
    have given : Numbered (s.emit env next rtp) := numbered.emit ready.clear frame built base
    unfold txAncFinishFrame
    split
    · have records := frameRecords_built frame.records rtp
      rw [← (emit_fields env ready.clear next rtp).1] at records
      have released := given.release records
      exact ⟨⟨released.counts.seqId, released.counts.extSeqId⟩, released.numbers⟩
    · exact given

/-! ## Whole runs -/

theorem numbered_init (cfg : TxAncConfig) (ptpTime : Nat) : Numbered (txAncInit cfg ptpTime) := by
  refine ⟨⟨rfl, ?_⟩, fun index rtp absurd => (by cases absurd)⟩
  change 0 = 0 / 65536 % 65536
  decide

theorem numbered_run {cfg : TxAncConfig} (level : cfg.ops.type = .frameLevel) {ptpTime : Nat}
    {envs : List TxAncEnv} (keeps : Admitted txAncStep LosesNoNumber (txAncInit cfg ptpTime) envs) :
    (run txAncStep (txAncInit cfg ptpTime) envs).cfg = cfg ∧
      Numbered (run txAncStep (txAncInit cfg ptpTime) envs) := by
  have whole := run_invariant txAncStep LosesNoNumber
    (fun s => s.cfg = cfg ∧ HasRecord s ∧ Numbered s) ?_
    (show (txAncInit cfg ptpTime).cfg = cfg ∧ HasRecord (txAncInit cfg ptpTime) ∧
      Numbered (txAncInit cfg ptpTime) from
        ⟨rfl, ⟨fun _ => trivial, fun absurd => (by cases absurd)⟩, numbered_init cfg ptpTime⟩)
    keeps
  · exact ⟨whole.1, whole.2.2⟩
  · rintro s env ⟨same, record, numbered⟩ kept
    have frames : s.cfg.ops.type = .frameLevel := by
      rw [same]
      exact level
    have rule := recordRule_trivial env s
    exact ⟨(txAncStep_cfg env frames).trans same,
      @txAncStep_preserves (fun s => HasRecord s ∧ Numbered s) env s frames
        (fun _ _ before prepares => ⟨before.1.prepares rule prepares, before.2.prepares prepares before.1⟩)
        (fun _ _ ready before outcome =>
          ⟨before.1.outcome rule ready outcome, before.2.outcome ready outcome kept before.1⟩)
        ⟨record, numbered⟩⟩

/-- In every run in which no call uses up a number in vain, the packets that have left on a port are
numbered from zero on, with the extended number counting the wraps, and both ports carry the same
packets. -/
theorem sequence_numbers_consecutive (cfg : TxAncConfig) (level : cfg.ops.type = .frameLevel)
    (ptpTime : Nat) (envs : List TxAncEnv)
    (keeps : Admitted txAncStep LosesNoNumber (txAncInit cfg ptpTime) envs) :
    let s := run txAncStep (txAncInit cfg ptpTime) envs
    (forall (port : MtlSessionPort) (index : Nat) (pkt : TxPkt), cfg.Sends port ->
      (s.wire port)[index]? = some pkt -> pkt.rtp.HasNumber index) ∧
    (cfg.ops.numPort > 1 -> forall (index : Nat) (pkt pktR : TxPkt), (s.wire .p)[index]? = some pkt ->
      (s.wire .r)[index]? = some pktR -> pkt.rtp = pktR.rtp) := by
  intro s
  rcases numbered_run level keeps with ⟨same, numbered⟩
  have given : forall port, cfg.Sends port ->
      (s.onPort port).map TxPkt.rtp = recordedPackets (frameRecords s.events) := by
    intro port sends
    refine emitted_run level ptpTime envs port ?_
    rw [same]
    exact sends
  refine ⟨fun port index pkt sends found => ?_, fun ports index pkt pktR found foundR => ?_⟩
  · exact numbered.numbers index pkt.rtp (givenTo_sent (given port sends) found)
  · have first := givenTo_sent (given .p (Or.inl rfl)) found
    have second := givenTo_sent (given .r (Or.inr ports)) foundR
    exact Option.some.inj (first.symm.trans second)

def twoPorts : TxAncConfig := plainConfig { packetOps .frameLevel false with numPort := 2 }

def emptyFrame : TxAncEnv :=
  { plainEnv with
    getNextFrame := fun tcMeta => some (0, tcMeta, ⟨[], fun _ => 0, 0⟩)
    curTsc := uint64Max }

theorem emptyFrame_losesNoNumber (builds : (txAncillarySessionBuildRtpPacket
      (txAncReach emptyFrame { s with buildRetCode := none }).1 emptyFrame.mbuf
      (txAncReach emptyFrame { s with buildRetCode := none }).1.ancIdx).2.toBool = true) :
    LosesNoNumber s emptyFrame := by
  intro mid reached _
  rw [reached] at builds
  refine ⟨fun _ => ?_, fun _ _ => rfl⟩
  cases result : (txAncillarySessionBuildRtpPacket mid emptyFrame.mbuf mid.ancIdx).2 with
  | ok built => exact ⟨built, rfl⟩
  | error code =>
    rw [result] at builds
    cases builds

/-- Two frames on two ports. -/
theorem two_frames_numbered :
    Admitted txAncStep LosesNoNumber (txAncInit twoPorts 0) [emptyFrame, emptyFrame] ∧
      (forall (port : MtlSessionPort) (index : Nat) (pkt : TxPkt), twoPorts.Sends port ->
        ((run txAncStep (txAncInit twoPorts 0) [emptyFrame, emptyFrame]).wire port)[index]? = some pkt ->
        pkt.rtp.HasNumber index) := by
  have keeps : Admitted txAncStep LosesNoNumber (txAncInit twoPorts 0) [emptyFrame, emptyFrame] :=
    ⟨emptyFrame_losesNoNumber (by decide +kernel), emptyFrame_losesNoNumber (by decide +kernel),
      trivial⟩
  exact ⟨keeps, (sequence_numbers_consecutive twoPorts rfl 0 [emptyFrame, emptyFrame] keeps).1⟩

def TxAncSession.seqNumbers (s : TxAncSession) (port : MtlSessionPort) : List Nat :=
  (s.wire port).filterMap (fun pkt =>
    match pkt.rtp with
    | .anc rtp => some rtp.base.seqNumber
    | .fmd rtp => some rtp.base.seqNumber
    | .raw _ _ => none)

/-- The copy of the second packet cannot be had at first: its number is used up, and the packet
leaves with the next one. -/
theorem lost_copy_leaves_gap :
    let s := run txAncStep (txAncInit twoPorts 0)
      [emptyFrame, { emptyFrame with allocRedundant := false }, emptyFrame]
    s.seqNumbers .p = [0, 2] ∧
      ¬ List.IsChain (fun first second => second = (first + 1) % 65536) (s.seqNumbers .p) := by
  have numbers : (run txAncStep (txAncInit twoPorts 0)
      [emptyFrame, { emptyFrame with allocRedundant := false }, emptyFrame]).seqNumbers .p = [0, 2] := by
    decide +kernel
  dsimp only
  rw [numbers]
  exact ⟨rfl, by decide⟩

end MediaTransport.Anc
