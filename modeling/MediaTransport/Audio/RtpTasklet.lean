import MediaTransport.Audio.Chaining

namespace MediaTransport.Audio

open Library
open Anc (TaskletRet rtpTmstamp)

/-!
# The tasklet of an audio session of packets

The application hands packets with their RTP headers; the tasklet gives them the
headers of the ports and the timestamp of the session.  The pacing is
synchronised for a packet before the packet is there, and its cursor is zero
again when the packet has left.
-/

/-- The values of `stat_build_ret_code`. -/
inductive TxAudioRtpRet where
  | rtpRingFull
  | frameRingFull
  | inflightEnqueueFail
  | inflightREnqueueFail
  | targetTscNotReach
  | appDequeueFail
  | pktAllocFail
  | pktEnqueueFail
  | pktREnqueueFail
  deriving DecidableEq, Repr

/-- What an observer notes of a packet that is built: the timestamp that the application wrote, the epoch of
the pacing and the timestamp it got; it is not sent where the copy for the redundant port fails. -/
structure TxAudioRtpMark where
  app : Nat
  epoch : Nat
  stamp : Nat
  sent : Bool
  deriving DecidableEq, Repr

/-- `struct st_tx_audio_session_impl` of a session of packets.  The last three fields are for an observer,
oldest first: the packets that the rings have taken, the readings of the clock with the epochs they led to,
and the packets that were built. -/
structure TxAudioRtpSession where
  path : TxAudioPathSession
  inflight : MtlSessionPort -> Option TxAudioRawPkt
  inflightCnt : MtlSessionPort -> Nat
  buildRetCode : Option TxAudioRtpRet
  wire : MtlSessionPort -> List TxAudioRawPkt
  syncs : List (BitVec 64 × Nat)
  marks : List TxAudioRtpMark

/-- The surroundings of one call, with the packet of the application; nobody asks for frames or chained
buffers.  The counter of the CPU runs, so that a cursor is never the zero that stands for none. -/
structure TxAudioRtpEnv extends TxAudioEnv where
  ringThresh : Bool
  packet : Option ((Nat -> Byte) × Nat)
  counts : 0 < syncTsc

variable (env : TxAudioRtpEnv) (s : TxAudioRtpSession)

variable (port : MtlSessionPort) (pkt : TxAudioRawPkt)

def TxAudioRtpSession.fail (code : TxAudioRtpRet) : TxAudioRtpSession :=
  { s with buildRetCode := some code }

def TxAudioRtpSession.put : TxAudioRtpSession :=
  { s with wire := Function.update s.wire port (s.wire port ++ [pkt]) }

/-- The packet goes on the ring, or is kept for the next call. -/
def TxAudioRtpSession.putOrKeep (takes : Bool) (refused : TxAudioRtpRet) : TxAudioRtpSession :=
  if takes then
    s.put port pkt
  else
    { s with
      inflight := Function.update s.inflight port (some pkt)
      inflightCnt := Function.update s.inflightCnt port (s.inflightCnt port + 1)
      buildRetCode := some refused }

/-- The packet a port kept goes first; the flag says whether the port is clear. -/
def TxAudioRtpSession.flush (takes : Bool) (refused : TxAudioRtpRet) : TxAudioRtpSession × Bool :=
  match s.inflight port with
  | none => (s, true)
  | some pkt =>
    if takes then
      ({ s.put port pkt with inflight := Function.update s.inflight port none }, true)
    else
      (s.fail refused, false)

def txAudioRtpFlushRedundant : TxAudioRtpSession × Bool :=
  if s.path.session.cfg.ops.numPort > 1 then s.flush .r (env.takesInflight .r) .inflightREnqueueFail
  else (s, true)

/-- The pacing is synchronised unless that was done for a packet that did not come yet. -/
def txAudioRtpSync : TxAudioRtpSession :=
  if s.path.session.pacing.tscTimeCursor = 0 then
    let session := txAudioSessionSyncPacing s.path.session env.ptpTime.toNat env.syncTsc 0
    { s with
      path := { s.path with session := session }
      syncs := s.syncs ++ [(env.ptpTime, session.pacing.curEpochs)] }
  else
    s

/-- An observer notes the packet that the builder made of one of the application. -/
def TxAudioRtpSession.built (path : TxAudioPathSession) (sent : Bool) : TxAudioRtpSession :=
  { s with
    path := path
    marks := s.marks ++ [⟨path.rtpTimeApp, path.session.pacing.curEpochs, path.rtpTime, sent⟩] }

/-- The packets of both ports with a header buffer each in front of the buffer of the application. -/
def txAudioRtpBuildChained (memory : Nat -> Byte) (len : Nat)
    : TxAudioRtpSession × Option (TxAudioRawPkt × Option TxAudioRawPkt) :=
  let redundant := s.path.session.cfg.ops.numPort > 1
  if !env.allocPkt then
    (s.fail .pktAllocFail, none)
  else if redundant ∧ env.allocRedundant = false then
    (s.fail .pktAllocFail, none)
  else
    let (path, pkt) := txAudioSessionChainRtp s.path memory len .p
    let path := path.countPkt .p pkt
    if redundant then
      let (path, pktR) := txAudioSessionChainRtp path pkt.memory len .r
      (s.built (path.countPkt .r pktR) true, some (pkt, some pktR))
    else
      (s.built path true, some (pkt, none))

/-- The packets of both ports in one buffer each. -/
def txAudioRtpBuildSingle (memory : Nat -> Byte) (len : Nat)
    : TxAudioRtpSession × Option (TxAudioRawPkt × Option TxAudioRawPkt) :=
  let (path, pkt) := txAudioSessionRtpUpdatePacket s.path memory len
  let path := path.countPkt .p pkt
  if s.path.session.cfg.ops.numPort > 1 then
    if !env.allocRedundant then
      ((s.built path false).fail .pktAllocFail, none)
    else
      let pktR := txAudioSessionUpdateRedundantRtp s.path.session.cfg pkt
      (s.built (path.countPkt .r pktR) true, some (pkt, some pktR))
  else
    (s.built path true, some (pkt, none))

def txAudioRtpBuild (memory : Nat -> Byte) (len : Nat)
    : TxAudioRtpSession × Option (TxAudioRawPkt × Option TxAudioRawPkt) :=
  if s.path.session.cfg.txNoChain then txAudioRtpBuildSingle env s memory len
  else txAudioRtpBuildChained env s memory len

/-- The packet has left the pacing. -/
def TxAudioRtpSession.clearCursor : TxAudioRtpSession :=
  let session := s.path.session
  { s with
    path := { s.path with session := { session with pacing := { session.pacing with tscTimeCursor := 0 } } } }

def txAudioRtpPutPkts (pktR : Option TxAudioRawPkt) : TxAudioRtpSession :=
  let s := s.putOrKeep .p pkt (env.takes .p) .pktEnqueueFail
  match pktR with
  | some pktR => s.putOrKeep .r pktR (env.takes .r) .pktREnqueueFail
  | none => s

/-- One packet of the application. -/
def txAudioRtpSendOne : TxAudioRtpSession × TaskletRet :=
  match env.packet with
  | none => (s.fail .appDequeueFail, .allDone)
  | some (memory, len) =>
    match txAudioRtpBuild env s memory len with
    | (s, none) => (s, .allDone)
    | (s, some (pkt, pktR)) =>
      let refused := !env.takes .p || (pktR.isSome && !env.takes .r)
      (txAudioRtpPutPkts env s.clearCursor pkt pktR, if refused then .hasPending else .allDone)

/-- `tx_audio_session_tasklet_rtp` -/
def txAudioSessionTaskletRtp : TxAudioRtpSession × TaskletRet :=
  if env.ringFull then
    (s.fail .rtpRingFull, .allDone)
  else if env.ringThresh then
    (s.fail .frameRingFull, .allDone)
  else
    match s.flush .p (env.takesInflight .p) .inflightEnqueueFail with
    | (s, false) => (s, .allDone)
    | (s, true) =>
      match txAudioRtpFlushRedundant env s with
      | (s, false) => (s, .allDone)
      | (s, true) =>
        let s := txAudioRtpSync env s
        let session := s.path.session
        if txAudioWaits env.toTxAudioEnv session then
          (s.fail .targetTscNotReach,
            if session.pacing.tscTimeCursor - env.curTsc < env.schScheduleNs then .hasPending else .allDone)
        else
          txAudioRtpSendOne env s

/-- `tx_audio_sessions_tasklet_handler` on a session of packets. -/
def txAudioRtpStep (env : TxAudioRtpEnv) : TxAudioRtpSession :=
  (txAudioSessionTaskletRtp env { s with buildRetCode := none }).1

/-- A session of packets after `tx_audio_session_attach` at a time of the clock. -/
def txAudioRtpInit (cfg : TxAudioConfig) (ptpTime : BitVec 64) : TxAudioRtpSession where
  path :=
    { session := txAudioInit cfg ptpTime, type := .rtpLevel, rtpTime := 4294967295, rtpTimeApp := 4294967295 }
  inflight := fun _ => none
  inflightCnt := fun _ => 0
  buildRetCode := none
  wire := fun _ => []
  syncs := []
  marks := []

end MediaTransport.Audio
