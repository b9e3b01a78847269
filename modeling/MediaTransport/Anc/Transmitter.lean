import MediaTransport.Anc.TxPacket

namespace MediaTransport.Anc

open Library

/-!
# The tasklets of the ancillary transmit session

In frame level mode the tasklet takes frames from the application, packs their
entries into packets and hands each packet to the queues of one or two ports.
A call of the tasklet sends one packet at most and may end early at every
resource it needs; what it leaves behind is what the next call starts from.
-/

/-! ## Queues -/

variable (cfg : TxAncConfig) (env : TxAncEnv) (s : TxAncSession)

variable (port : MtlSessionPort) (memory : Nat -> Byte) (pkt : TxPkt)

def TxAncSession.send : TxAncSession :=
  { s with wire := Function.update s.wire port (s.wire port ++ [pkt]) }

/-- The packet is sent, or kept for the next call. -/
def TxAncSession.sendOrKeep (takes : Bool) (refused : TxAncRet) : TxAncSession :=
  if takes then
    s.send port pkt
  else
    { s with
      inflight := Function.update s.inflight port (some pkt)
      inflightCnt := Function.update s.inflightCnt port (s.inflightCnt port + 1)
      buildRetCode := some refused }

/-- The packet a port kept is sent first; the flag says whether the port is clear. -/
def TxAncSession.flush (takes : Bool) (refused : TxAncRet) : TxAncSession × Bool :=
  match s.inflight port with
  | none => (s, true)
  | some pkt =>
    if takes then
      ({ s.send port pkt with inflight := Function.update s.inflight port none }, true)
    else
      ({ s with buildRetCode := some refused }, false)

/-! ## The frame tasklet -/

/-- `tx_ancillary_session_init_next_meta` -/
def txAncillarySessionInitNextMeta : St40TxFrameMeta :=
  let epoch := u64 (s.pacing.curEpochs + 1)
  { tfmt := .tai
    timestamp := stEpochToTai epoch s.cfg.fps
    epoch := epoch
    secondField := s.cfg.ops.interlaced && s.secondField
    rtpTimestamp := 0 }

/-- The number of packets for a frame, estimated from its user data words. -/
def TxAncConfig.totalPkts (frame : St40Frame) : Nat :=
  if cfg.ops.fastMetadata then
    1
  else if cfg.ops.splitAncByPkt then
    if frame.metas.length = 0 then 1 else frame.metas.length
  else
    let totalUdw := (frame.metas.map (fun entry => entry.udwSize.toNat)).sum
    let totalSize := totalUdw * 10 / 8
    let pkts := totalSize / cfg.maxPktLen + (if totalSize % cfg.maxPktLen ≠ 0 then 1 else 0)
    if pkts = 0 then 1 else pkts

/-- The estimate is refused, and the frame stays current all the same. -/
def TxAncConfig.refusesTotal (frame : St40Frame) : Bool :=
  !cfg.ops.fastMetadata && !cfg.ops.splitAncByPkt && decide (cfg.totalPkts frame > 1)

/-- A frame of the application becomes the current one. -/
def TxAncSession.take (idx : Nat) (tcMeta : St40TxFrameMeta) (frame : St40Frame) : TxAncSession :=
  { s with
    frames := Function.update s.frames idx
      { refcnt := (s.frames idx).refcnt + 1, tcMeta := tcMeta, addr := frame }
    frameIdx := idx
    frameStat := .sendingPkts
    pktIdx := 0
    ancIdx := 0
    totalPkts := s.cfg.totalPkts frame
    events := .handed idx frame :: s.events }

def TxAncSession.fail (code : TxAncRet) : TxAncSession :=
  { s with buildRetCode := some code }

/-- The part of the tasklet that waits for a frame; the flag says whether it goes on. -/
def txAncNextFrame : TxAncSession × Bool :=
  match s.frameStat with
  | .sendingPkts => (s, true)
  | .waitFrame =>
    match env.getNextFrame (txAncillarySessionInitNextMeta s) with
    | none => (s.fail .appGetFrameBusy, false)
    | some (idx, tcMeta, frame) =>
      if (s.frames idx).refcnt ≠ 0 then
        (s.fail .appErrTxFrame, false)
      else if s.cfg.refusesTotal frame then
        ((s.take idx tcMeta frame).fail .appErrTxFrame, false)
      else
        (s.take idx tcMeta frame, true)

/-- The part of the tasklet that synchronises the pacing for a frame. -/
def txAncSyncFrame : TxAncSession :=
  if s.calculateTimeCursor then
    let frame := s.frames s.frameIdx
    let (s, requiredTai) := txAncillaryPacingRequiredTai s env.requiredTaiNow frame.tcMeta
    let secondField := frame.tcMeta.secondField
    let s :=
      if s.cfg.ops.interlaced then { s with stats := s.stats.countField secondField } else s
    let s := txAncillarySessionSyncPacing s env.ptpTime env.syncTsc requiredTai
    let (s, rtpTsTai) := txAncillaryUpdateRtpTimeStamp s frame.tcMeta.tfmt frame.tcMeta.timestamp
    let tcMeta : St40TxFrameMeta :=
      { tfmt := .tai
        timestamp := rtpTsTai
        epoch := s.pacing.curEpochs
        secondField := secondField
        rtpTimestamp := s.pacing.rtpTimeStamp }
    { s with
      frames := Function.update s.frames s.frameIdx { frame with tcMeta := tcMeta }
      secondField := if s.cfg.ops.interlaced then !secondField else s.secondField
      calculateTimeCursor := false
      events := .synced :: s.events }
  else
    s

/-- The frame goes back to the application. -/
def TxAncSession.release : TxAncSession :=
  let frame := s.frames s.frameIdx
  { s with
    frames := Function.update s.frames s.frameIdx { frame with refcnt := frame.refcnt - 1 }
    frameStat := .waitFrame
    pktIdx := 0
    ancIdx := 0
    pacing := { s.pacing with tscTimeCursor := 0 }
    events := .done s.frameIdx frame.tcMeta s.buildRetCode :: s.events }

/-- `tx_ancillary_session_abort_frame` -/
def txAncillarySessionAbortFrame : TxAncSession :=
  match s.frameStat with
  | .waitFrame => s
  | .sendingPkts => { s.release with calculateTimeCursor := false }

def txAncBuildFailed (code : TxAncRet) : TxAncSession :=
  txAncillarySessionAbortFrame (if s.buildRetCode.isNone then s.fail code else s)

/-- The packets of both ports with a header buffer each and one buffer for the rest. -/
def txAncBuildChained : TxAncSession × Option (TxPkt × Option TxPkt) :=
  if !env.allocPkt || !env.allocChain then
    (s.fail .pktAllocFail, none)
  else
    match txAncillarySessionBuildRtpPacket s env.mbuf s.ancIdx with
    | (s, .error code) => (txAncBuildFailed s code, none)
    | (s, .ok (nextAncIdx, rtp)) =>
      let (s, pkt) := txAncillarySessionBuildPacketChain env s rtp .p
      if s.cfg.ops.numPort > 1 then
        if !env.allocRedundant then
          (s.fail .pktAllocFail, none)
        else
          let (s, pktR) := txAncillarySessionBuildPacketChain env s pkt.rtp .r
          ({ s with ancIdx := nextAncIdx }, some (pkt, some pktR))
      else
        ({ s with ancIdx := nextAncIdx }, some (pkt, none))

/-- The packets of both ports in one buffer each. -/
def txAncBuildSingle : TxAncSession × Option (TxPkt × Option TxPkt) :=
  if !env.allocPkt then
    (s.fail .pktAllocFail, none)
  else
    match txAncillarySessionBuildPacket s env.mbuf with
    | (s, .error code) => (txAncBuildFailed s code, none)
    | (s, .ok (nextAncIdx, pkt)) =>
      if s.cfg.ops.numPort > 1 then
        if !env.allocRedundant then
          (s.fail .pktAllocFail, none)
        else
          ({ s with ancIdx := nextAncIdx },
            some (pkt, some (txAncillarySessionUpdateRedundant s.cfg pkt)))
      else
        ({ s with ancIdx := nextAncIdx }, some (pkt, none))

def txAncBuild : TxAncSession × Option (TxPkt × Option TxPkt) :=
  if s.cfg.txNoChain then txAncBuildSingle env s else txAncBuildChained env s

/-- The counters and the cursor after a packet was built. -/
def txAncAdvancePkt (pktR : Option TxPkt) : TxAncSession :=
  let stats := s.stats.countBuild .p pkt.bytes.length
  let stats :=
    match pktR with
    | some pktR => stats.countBuild .r pktR.bytes.length
    | none => stats
  { s with
    stats := stats
    pktIdx := s.pktIdx + 1
    pacing := { s.pacing with tscTimeCursor := env.cursorAfter s.pacing.tscTimeCursor s.totalPkts }
    calculateTimeCursor := decide (s.pktIdx + 1 ≥ s.totalPkts)
    events := .built pkt.rtp :: s.events }

def txAncSendPkts (pktR : Option TxPkt) : TxAncSession :=
  let s := s.sendOrKeep .p pkt (env.takes .p) .pktEnqueueFail
  match pktR with
  | some pktR => s.sendOrKeep .r pktR (env.takes .r) .pktREnqueueFail
  | none => s

/-- The frame is done with its last packet. -/
def txAncFinishFrame : TxAncSession :=
  if s.pktIdx ≥ s.totalPkts then
    let stats := s.stats.countFrame .p
    let stats := if s.cfg.ops.numPort > 1 then stats.countFrame .r else stats
    { s.release with stats := stats }
  else
    s

/-- One packet of the current frame. -/
def txAncSendOne : TxAncSession × TaskletRet :=
  match txAncBuild env s with
  | (s, none) => (s, .allDone)
  | (s, some (pkt, pktR)) =>
    let refused := !env.takes .p || (pktR.isSome && !env.takes .r)
    (txAncFinishFrame (txAncSendPkts env (txAncAdvancePkt env s pkt pktR) pkt pktR),
      if refused then .allDone else .hasPending)

/-- The wait for the time of a packet.  A target more than a second away is not believed. -/
def txAncWaits : Bool :=
  decide (env.curTsc < s.pacing.tscTimeCursor) &&
    decide (s.pacing.tscTimeCursor - env.curTsc ≤ nsPerS)

/-- The frame and its pacing, up to the time of its next packet.  The answer is the result of the
tasklet when it ends here. -/
def txAncReachFrame : TxAncSession × Option TaskletRet :=
  match txAncNextFrame env s with
  | (s, false) => (s, some .allDone)
  | (s, true) =>
    let s := txAncSyncFrame env s
    if txAncWaits env s then
      (s.fail .targetTscNotReach,
        some (if s.pacing.tscTimeCursor - env.curTsc < env.schScheduleNs then .hasPending
          else .allDone))
    else
      (s, none)

def txAncFlushRedundant : TxAncSession × Bool :=
  if s.cfg.ops.numPort > 1 then s.flush .r (env.takesInflight .r) .inflightREnqueueFail
  else (s, true)

/-- The tasklet up to the allocation of a packet. -/
def txAncReach : TxAncSession × Option TaskletRet :=
  if env.ringFull then
    (s.fail .ringFull, some .allDone)
  else
    match s.flush .p (env.takesInflight .p) .inflightEnqueueFail with
    | (s, false) => (s, some .allDone)
    | (s, true) =>
      match txAncFlushRedundant env s with
      | (s, false) => (s, some .allDone)
      | (s, true) => txAncReachFrame env s

/-- `tx_ancillary_session_tasklet_frame` -/
def txAncillarySessionTaskletFrame : TxAncSession × TaskletRet :=
  match txAncReach env s with
  | (s, some ret) => (s, ret)
  | (s, none) => txAncSendOne env s

/-- `tx_ancillary_sessions_tasklet_handler` on a frame level session. -/
def txAncStep (env : TxAncEnv) : TxAncSession :=
  (txAncillarySessionTaskletFrame env { s with buildRetCode := none }).1

/-! ## The packet tasklet -/

/-- The packets of both ports from a packet of the application, with a header buffer each. -/
def txAncRtpChained (len : Nat) : TxAncSession × Option (TxPkt × Option TxPkt) :=
  if !env.allocPkt || (decide (s.cfg.ops.numPort > 1) && !env.allocRedundant) then
    (s.fail .rtpPktAllocFail, none)
  else
    let (s, pkt) := txAncillarySessionBuildPacketChain env s (.raw memory len) .p
    let s := { s with stats := s.stats.countBuild .p pkt.bytes.length }
    if s.cfg.ops.numPort > 1 then
      let (s, pktR) := txAncillarySessionBuildPacketChain env s pkt.rtp .r
      ({ s with stats := s.stats.countBuild .r pktR.bytes.length }, some (pkt, some pktR))
    else
      (s, some (pkt, none))

/-- The packets of both ports from a packet of the application, in the application's buffer and a
copy of it. -/
def txAncRtpSingle (len : Nat) : TxAncSession × Option (TxPkt × Option TxPkt) :=
  let (s, pkt) := txAncillarySessionRtpUpdatePacket env s memory len
  let s := { s with stats := s.stats.countBuild .p pkt.bytes.length }
  if s.cfg.ops.numPort > 1 then
    if !env.allocRedundant then
      (s.fail .rtpPktAllocFail, none)
    else
      let pktR := txAncillarySessionUpdateRedundant s.cfg pkt
      ({ s with stats := s.stats.countBuild .r pktR.bytes.length }, some (pkt, some pktR))
  else
    (s, some (pkt, none))

/-! ## A session at its start -/

def TxAncStats.zero : TxAncStats where
  port := fun _ => ⟨0, 0, 0, 0⟩
  epochDrop := 0
  epochOnward := 0
  epochMismatch := 0
  errorUserTimestamp := 0
  interlaceFirstField := 0
  interlaceSecondField := 0

def St40TxFrameMeta.zero : St40TxFrameMeta := ⟨.tai, 0, 0, false, 0⟩

/-- A session after `tx_ancillary_session_attach` at a time of the clock. -/
def txAncInit (ptpTime : Nat) : TxAncSession where
  cfg := cfg
  secondField := false
  inflight := fun _ => none
  inflightCnt := fun _ => 0
  frames := fun _ => { refcnt := 0, tcMeta := St40TxFrameMeta.zero, addr := ⟨[], fun _ => 0, 0⟩ }
  frameIdx := 0
  frameStat := .waitFrame
  pacing :=
    { curEpochs := stTaiToEpoch ptpTime cfg.fps, rtpTimeStamp := 0, ptpTimeCursor := 0
      tscTimeCursor := 0 }
  calculateTimeCursor := true
  seqId := 0
  extSeqId := 0
  totalPkts := 0
  pktIdx := 0
  ancIdx := 0
  rtpTime := 4294967295
  buildRetCode := none
  stats := TxAncStats.zero
  wire := fun _ => []
  events := []

end MediaTransport.Anc
