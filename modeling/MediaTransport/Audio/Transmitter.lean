import MediaTransport.Audio.TxPacket

namespace MediaTransport.Audio

open Library
open Anc (St10TimestampFmt TaskletRet TxPortStats)

/-!
# The tasklet of the audio transmit session

The tasklet takes frames from the application, builds one packet in a call and
puts it on the rings of one or two ports.  A call may end early at every
resource it needs; what it leaves behind is what the next call starts from.
-/

/-! ## Rings -/

variable (env : TxAudioEnv) (s : TxAudioSession)

variable (port : MtlSessionPort) (pkt : TxAudioPkt)

def TxAudioSession.put : TxAudioSession :=
  { s with wire := Function.update s.wire port (s.wire port ++ [pkt]) }

/-- The packet goes on the ring, or is kept for the next call. -/
def TxAudioSession.putOrKeep (takes : Bool) (refused : TxAudioRet) : TxAudioSession :=
  if takes then
    s.put port pkt
  else
    { s with
      inflight := Function.update s.inflight port (some pkt)
      inflightCnt := Function.update s.inflightCnt port (s.inflightCnt port + 1)
      buildRetCode := some refused }

/-- The packet a port kept goes first; the flag says whether the port is clear. -/
def TxAudioSession.flush (takes : Bool) (refused : TxAudioRet) : TxAudioSession × Bool :=
  match s.inflight port with
  | none => (s, true)
  | some pkt =>
    if takes then
      ({ s.put port pkt with inflight := Function.update s.inflight port none }, true)
    else
      ({ s with buildRetCode := some refused }, false)

/-! ## The frame tasklet -/

def TxAudioSession.fail (code : TxAudioRet) : TxAudioSession :=
  { s with buildRetCode := some code }

/-- A frame of the application becomes the current one. -/
def TxAudioSession.take (idx : Nat) (taMeta : St30TxFrameMeta) (frame : Nat -> Byte) : TxAudioSession :=
  { s with
    frames := Function.update s.frames idx
      { refcnt := (s.frames idx).refcnt + 1, taMeta := taMeta, addr := frame }
    frameIdx := idx
    frameStat := .sendingPkts
    events := .handed idx frame :: s.events }

/-- The part of the tasklet that waits for a frame; the flag says whether it goes on. -/
def txAudioNextFrame : TxAudioSession × Bool :=
  if s.pktIdx = 0 ∧ s.frameStat = .waitFrame then
    match env.getNextFrame (txAudioSessionInitNextMeta s) with
    | none => (s.fail .appGetFrameBusy, false)
    | some (idx, taMeta, frame) =>
      if (s.frames idx).refcnt ≠ 0 then (s.fail .appErrTxFrame, false)
      else (s.take idx taMeta frame, true)
  else
    (s, true)

/-- The part of the tasklet that synchronises the pacing for a packet. -/
def txAudioSyncPkt : TxAudioSession :=
  if s.calculateTimeCursor then
    let frame := s.frames s.frameIdx
    let tfmt := if s.pktIdx ≠ 0 then .tai else frame.taMeta.tfmt
    let timestamp := if s.pktIdx ≠ 0 then u64 s.pacing.ptpTimeCursor else frame.taMeta.timestamp
    let (s, requiredTai) := txAudioPacingRequiredTai s tfmt timestamp
    let s := txAudioSessionSyncPacing s env.ptpTime.toNat env.syncTsc requiredTai
    let epoch := s.pacing.curEpochs
    let (s, reported) := txAudioPacingUpdateRtpTimeStamp s tfmt timestamp requiredTai
    let taMeta : St30TxFrameMeta :=
      { frame.taMeta with
        tfmt := .tai
        timestamp := reported
        rtpTimestamp := s.pacing.rtpTimeStamp }
    { s with
      frames := Function.update s.frames s.frameIdx { frame with taMeta := taMeta }
      calculateTimeCursor := false
      events := .synced env.ptpTime epoch :: s.events }
  else
    s

/-- The wait for the time of a packet.  A target a second away or more is not believed. -/
def txAudioWaits : Bool :=
  s.cfg.pacingInBuild && decide (env.curTsc < s.pacing.tscTimeCursor) &&
    decide (s.pacing.tscTimeCursor - env.curTsc < nsPerS)

/-- The packets of both ports with a header buffer each and one buffer for the rest. -/
def txAudioBuildChained : TxAudioSession × Option (TxAudioPkt × Option TxAudioPkt) :=
  if !env.allocPkt || !env.allocChain then
    (s.fail .pktAllocFail, none)
  else
    let (s, rtp) := txAudioSessionBuildRtpPacket s
    let pkt := txAudioSessionBuildPacketChain s.cfg rtp .p
    if s.cfg.ops.numPort > 1 then
      if !env.allocRedundant then
        (s.fail .pktAllocFail, none)
      else
        (s, some (pkt, some (txAudioSessionBuildPacketChain s.cfg rtp .r)))
    else
      (s, some (pkt, none))

/-- The packets of both ports in one buffer each. -/
def txAudioBuildSingle : TxAudioSession × Option (TxAudioPkt × Option TxAudioPkt) :=
  if !env.allocPkt then
    (s.fail .pktAllocFail, none)
  else
    let (s, pkt) := txAudioSessionBuildPacket s
    if s.cfg.ops.numPort > 1 then
      if !env.allocRedundant then
        (s.fail .pktAllocFail, none)
      else
        (s, some (pkt, some (txAudioSessionUpdateRedundant s.cfg pkt)))
    else
      (s, some (pkt, none))

def txAudioBuild : TxAudioSession × Option (TxAudioPkt × Option TxAudioPkt) :=
  if s.cfg.txNoChain then txAudioBuildSingle env s else txAudioBuildChained env s

def TxAudioStats.countPkt (stats : TxAudioStats) (port : MtlSessionPort) (bytes : Nat) : TxAudioStats :=
  let own := stats.port port
  let own := { own with packets := own.packets + 1, bytes := own.bytes + bytes }
  { stats with port := Function.update stats.port port own }

def TxAudioStats.countFrame (stats : TxAudioStats) (port : MtlSessionPort) : TxAudioStats :=
  let own := stats.port port
  let own := { own with frames := own.frames + 1 }
  { stats with port := Function.update stats.port port own }

/-- The counters and the cursor after a packet was built. -/
def txAudioAdvancePkt (pktR : Option TxAudioPkt) : TxAudioSession :=
  let stats := s.stats.countPkt .p pkt.bytes.length
  let stats :=
    match pktR with
    | some pktR => stats.countPkt .r pktR.bytes.length
    | none => stats
  { s with
    stats := stats
    pktIdx := s.pktIdx + 1
    pacing := { s.pacing with tscTimeCursor := s.cfg.cursorAfterPkt s.pacing.tscTimeCursor }
    calculateTimeCursor := true
    events := .built pkt.rtp :: s.events }

def txAudioPutPkts (pktR : Option TxAudioPkt) : TxAudioSession :=
  let s := s.putOrKeep .p pkt (env.takes .p) .pktEnqueueFail
  match pktR with
  | some pktR => s.putOrKeep .r pktR (env.takes .r) .pktREnqueueFail
  | none => s

/-- The frame goes back to the application. -/
def TxAudioSession.release : TxAudioSession :=
  let frame := s.frames s.frameIdx
  { s with
    frames := Function.update s.frames s.frameIdx { frame with refcnt := frame.refcnt - 1 }
    frameStat := .waitFrame
    pktIdx := 0
    events := .done s.frameIdx frame.taMeta :: s.events }

/-- The frame is done with its last packet. -/
def txAudioFinishFrame : TxAudioSession :=
  if s.pktIdx ≥ s.cfg.totalPkts then
    let stats := s.stats.countFrame .p
    let stats := if s.cfg.ops.numPort > 1 then stats.countFrame .r else stats
    { s.release with stats := stats }
  else
    s

/-- One packet of the current frame. -/
def txAudioSendOne : TxAudioSession × TaskletRet :=
  match txAudioBuild env s with
  | (s, none) => (s, .allDone)
  | (s, some (pkt, pktR)) =>
    let refused := !env.takes .p || (pktR.isSome && !env.takes .r)
    (txAudioFinishFrame (txAudioPutPkts env (txAudioAdvancePkt s pkt pktR) pkt pktR),
      if refused then .allDone else .hasPending)

/-- The frame and the pacing of its next packet, up to the time of the packet.  The answer is the
result of the tasklet when it ends here. -/
def txAudioReachPkt : TxAudioSession × Option TaskletRet :=
  match txAudioNextFrame env s with
  | (s, false) => (s, some .allDone)
  | (s, true) =>
    let s := txAudioSyncPkt env s
    if txAudioWaits env s then
      (s.fail .targetTscNotReach,
        some (if s.pacing.tscTimeCursor - env.curTsc < env.schScheduleNs then .hasPending
          else .allDone))
    else
      (s, none)

def txAudioFlushRedundant : TxAudioSession × Bool :=
  if s.cfg.ops.numPort > 1 then s.flush .r (env.takesInflight .r) .inflightREnqueueFail
  else (s, true)

/-- The tasklet up to the allocation of a packet. -/
def txAudioReach : TxAudioSession × Option TaskletRet :=
  if env.ringFull then
    (s.fail .ringFull, some .allDone)
  else
    match s.flush .p (env.takesInflight .p) .inflightEnqueueFail with
    | (s, false) => (s, some .allDone)
    | (s, true) =>
      match txAudioFlushRedundant env s with
      | (s, false) => (s, some .allDone)
      | (s, true) => txAudioReachPkt env s

/-- `tx_audio_session_tasklet_frame` -/
def txAudioSessionTaskletFrame : TxAudioSession × TaskletRet :=
  match txAudioReach env s with
  | (s, some ret) => (s, ret)
  | (s, none) => txAudioSendOne env s

/-- `tx_audio_sessions_tasklet_handler` on a frame level session. -/
def txAudioStep (env : TxAudioEnv) : TxAudioSession :=
  (txAudioSessionTaskletFrame env { s with buildRetCode := none }).1

/-! ## A session at its start -/

def TxAudioStats.zero : TxAudioStats where
  port := fun _ => ⟨0, 0, 0, 0⟩
  epochLate := 0
  epochDrop := 0
  epochOnward := 0
  epochMismatch := 0
  errorUserTimestamp := 0

def St30TxFrameMeta.zero : St30TxFrameMeta := ⟨.tai, 0, 0, 0⟩

/-- A session after `tx_audio_session_attach` at a time of the clock. -/
def txAudioInit (cfg : TxAudioConfig) (ptpTime : BitVec 64) : TxAudioSession where
  cfg := cfg
  inflight := fun _ => none
  inflightCnt := fun _ => 0
  frames := fun _ => { refcnt := 0, taMeta := St30TxFrameMeta.zero, addr := fun _ => 0 }
  frameIdx := 0
  frameStat := .waitFrame
  pacing :=
    { curEpochs := stTaiToEpoch ptpTime.toNat cfg.fps, rtpTimeStamp := 0, ptpTimeCursor := 0
      tscTimeCursor := 0 }
  calculateTimeCursor := true
  pktIdx := 0
  seqId := 0
  buildRetCode := none
  stats := TxAudioStats.zero
  wire := fun _ => []
  events := []

end MediaTransport.Audio
