import MediaTransport.Audio.Format
import MediaTransport.Library.Memory
import MediaTransport.Util.Bitmap
import MediaTransport.Util.Session

namespace MediaTransport.Audio

open Library Util

/-!
# The audio receive session

A session filters the packets of up to two redundant ports by timestamp.  In
frame level mode it places the packets it accepts into one open frame by their
timestamps; frames lie on a grid of the media clock, and the field `tmstamp`
is one tick before the open frame or before the next one.  In RTP level mode
it hands the packets to a ring.  The application may return frames while the
session searches for a free one and while it is told of a frame.
-/

/-! ## Data -/

/-- The part of `struct st30_rx_ops` that the session reads. -/
structure St30RxOps where
  numPort : Nat
  payloadType : Nat
  ssrc : Nat
  type : St30Type
  receiveIncompleteFrame : Bool
  fmt : St30Fmt
  ptime : St30Ptime
  sampling : St30Sampling
  channel : Nat
  framebuffCnt : Nat
  framebuffSize : Nat
  framebuffSizeWord : framebuffSize < 4294967296

/-- The fields of a received packet.  `payload` are the bytes behind the headers, and
`dataLen` counts the bytes of the packet with its headers. -/
structure AudioPkt where
  payloadType : Nat
  ssrc : Nat
  seqNumber : Nat
  seqNumberWord : seqNumber < 65536
  tmstamp : Nat
  tmstampWord : tmstamp < 4294967296
  dataLen : Nat
  pktLen : Nat
  payload : Nat -> Byte
  recvTs : Nat

/-- `struct st_frame_trans` -/
structure AudioFrameTrans where
  refcnt : Int
  addr : Nat -> Byte

inductive FrameStatus where
  | complete
  | corrupted
  deriving DecidableEq, Repr

/-- `struct st30_rx_frame_meta` -/
structure St30RxFrameMeta where
  timestamp : Nat
  timestampFirstPkt : Nat
  fmt : St30Fmt
  sampling : St30Sampling
  channel : Nat
  rtpTimestamp : Nat
  frameRecvSize : Nat
  status : FrameStatus

/-- A frame at the moment it is closed; `delivered` says whether `notify_frame_ready` is called. -/
structure ClosedFrame where
  addr : Nat -> Byte
  info : St30RxFrameMeta
  delivered : Bool

/-- What the session does with frames, as an observer sees it. -/
inductive AudioEvent where
  | opened (base : Nat)
  | accepted (pkt : AudioPkt)
  | closed (frame : ClosedFrame)

structure AudioPortStats where
  packets : Nat
  bytes : Nat
  frames : Nat
  lostPackets : Nat
  reorderedPackets : Nat
  duplicatesSamePort : Nat
  deriving DecidableEq

structure AudioStats where
  port : MtlSessionPort -> AudioPortStats
  wrongPtDropped : Nat
  wrongSsrcDropped : Nat
  lenMismatchDropped : Nat
  lostPackets : Nat
  pktsReceived : Nat
  pktsRedundant : Nat
  pktsUnrecovered : Nat
  slotGetFrameFail : Nat
  framesIncomplete : Nat
  framesReceived : Nat

/-- `struct st_rx_audio_session_impl`.  Frames are named by their index.  `events` is what the
session did so far, newest first. -/
structure RxAudioSession where
  ops : St30RxOps
  pktLen : Nat
  totalPkts : Nat
  frameSize : Nat
  rtpTicksPerFrame : Nat
  samplesPerPkt : Nat
  frames : Nat -> AudioFrameTrans
  framesCnt : Nat
  curFrame : Option Nat
  frameBitmap : List Byte
  frameRecvSize : Nat
  firstPktRtpTs : Nat
  firstPktPtpTs : Nat
  tmstamp : Int
  sessionSeqId : Int
  latestSeqId : MtlSessionPort -> Int
  redundantErrorCnt : MtlSessionPort -> Nat
  stats : AudioStats
  events : List AudioEvent

/-- What the application does while it is told of a frame. -/
structure NotifyAnswer where
  refused : Bool
  puts : List Nat

/-- The surroundings of one packet: whether the ring takes it, the answers to the first and the
second call of `notify_frame_ready`, and the frames returned just before the load of a frame's
reference count in the first or the second search for a free frame. -/
structure AudioEnv where
  ringTakes : Bool
  notify : Nat -> NotifyAnswer
  racing : Nat -> Nat -> List Nat

variable (env : AudioEnv) (ops : St30RxOps) (s : RxAudioSession)

inductive AudioReturn where
  | ok
  | inval
  | again
  | io
  deriving DecidableEq, Repr

variable (idx : Nat) (pkt : AudioPkt) (port : MtlSessionPort)

def RxAudioSession.setFrame (frame : AudioFrameTrans) : RxAudioSession :=
  { s with frames := Function.update s.frames idx frame }

def RxAudioSession.log (event : AudioEvent) : RxAudioSession :=
  { s with events := event :: s.events }

def AudioStats.setPort (stats : AudioStats) (port : MtlSessionPort) (values : AudioPortStats) :
    AudioStats :=
  { stats with port := Function.update stats.port port values }

/-! ## Frames of the pool -/

/-- `rx_audio_session_put_frame` -/
def rxAudioSessionPutFrame : RxAudioSession :=
  s.setFrame idx { s.frames idx with refcnt := (s.frames idx).refcnt - 1 }

/-- `st30_rx_put_framebuff`: other frames are refused. -/
def st30RxPutFramebuff : RxAudioSession :=
  if idx < s.framesCnt then rxAudioSessionPutFrame s idx else s

def putFramebuffs (frames : List Nat) : RxAudioSession :=
  frames.foldl st30RxPutFramebuff s

/-- The loop of `rx_audio_session_get_frame` from frame `idx` on. -/
def rxAudioScanFrames (racing : Nat -> List Nat) :
    RxAudioSession -> (idx left : Nat) -> RxAudioSession × Option Nat
  | s, _, 0 => (s, none)
  | s, idx, left + 1 =>
    let s := putFramebuffs s (racing idx)
    if (s.frames idx).refcnt = 0 then
      (s.setFrame idx { s.frames idx with refcnt := (s.frames idx).refcnt + 1 }, some idx)
    else
      rxAudioScanFrames racing s (idx + 1) left

/-- `rx_audio_session_get_frame` -/
def rxAudioSessionGetFrame (racing : Nat -> List Nat) (s : RxAudioSession) :
    RxAudioSession × Option Nat :=
  rxAudioScanFrames racing s 0 s.framesCnt

/-! ## Opening and closing a frame -/

/-- The base that `rx_audio_session_open_frame` computes: the timestamp is moved down onto the
grid that `tmstamp` carries. -/
def rxAudioFrameBase (tmstamp : Nat) : Nat :=
  let ticks : Int := if s.rtpTicksPerFrame ≠ 0 then s.rtpTicksPerFrame else 1
  let gridBase : Int := u32 (s.tmstamp + 1)
  let delta := int32 (tmstamp - gridBase)
  let frames := delta.tdiv ticks - (if delta.tmod ticks < 0 then 1 else 0)
  u32 (gridBase + u32 (frames * ticks))

/-- `rx_audio_session_open_frame`; the flag says whether a frame was free. -/
def rxAudioSessionOpenFrame (racing : Nat -> List Nat) (s : RxAudioSession) (port : MtlSessionPort)
    (tmstamp ptpTs : Nat) : RxAudioSession × Bool :=
  match rxAudioSessionGetFrame racing s with
  | (s, none) =>
    ({ s with
        curFrame := none
        stats := { s.stats with slotGetFrameFail := s.stats.slotGetFrameFail + 1 } }, false)
  | (s, some idx) =>
    let base := rxAudioFrameBase s tmstamp
    let values := s.stats.port port
    ({ s with
        curFrame := some idx
        frameBitmap := List.replicate s.frameBitmap.length 0
        frameRecvSize := 0
        firstPktRtpTs := base
        firstPktPtpTs := ptpTs
        tmstamp := u32 ((base : Int) - 1)
        stats := s.stats.setPort port { values with frames := values.frames + 1 }
        events := .opened base :: s.events }, true)

/-- `rx_audio_session_zero_frame_gaps`: the slots from `0` to `count` that never arrived are
zeroed. -/
def rxAudioSessionZeroFrameGaps (s : RxAudioSession) (addr : Nat -> Byte) : (count : Nat) -> Nat -> Byte
  | 0 => addr
  | count + 1 =>
    let addr := rxAudioSessionZeroFrameGaps s addr count
    if mtBitmapTest s.frameBitmap count then
      addr
    else
      store addr (count * s.pktLen) (List.replicate s.pktLen 0)

def RxAudioSession.incomplete : Bool := decide (s.frameRecvSize < s.frameSize)

/-- The metadata that `rx_audio_session_frame_notify` fills in. -/
def rxAudioFrameMeta : St30RxFrameMeta where
  timestamp := s.firstPktRtpTs
  timestampFirstPkt := s.firstPktPtpTs
  fmt := s.ops.fmt
  sampling := s.ops.sampling
  channel := s.ops.channel
  rtpTimestamp := s.firstPktRtpTs
  frameRecvSize := s.frameRecvSize
  status := if s.incomplete then .corrupted else .complete

/-- The gaps of an incomplete frame are filled with silence. -/
def rxAudioSilence : RxAudioSession :=
  if s.incomplete then
    let frame := s.frames idx
    { s.setFrame idx { frame with addr := rxAudioSessionZeroFrameGaps s frame.addr s.totalPkts } with
      stats := { s.stats with framesIncomplete := s.stats.framesIncomplete + 1 } }
  else
    s

/-- An incomplete frame is discarded unless the application opted in. -/
def rxAudioDeliver : Bool := !s.incomplete || s.ops.receiveIncompleteFrame

def rxAudioClosedFrame : ClosedFrame where
  addr := (s.frames idx).addr
  info := rxAudioFrameMeta s
  delivered := rxAudioDeliver s

/-- The frame is handed to the application, or put back when it is refused or not wanted. -/
def rxAudioHandOff (answer : NotifyAnswer) (s : RxAudioSession) (idx : Nat) : RxAudioSession :=
  let deliver := rxAudioDeliver s
  let s := s.log (.closed (rxAudioClosedFrame s idx))
  if !deliver then
    rxAudioSessionPutFrame s idx
  else
    let received := if s.incomplete then s.stats.framesReceived else s.stats.framesReceived + 1
    let s := { s with stats := { s.stats with framesReceived := received } }
    let s := putFramebuffs s answer.puts
    if answer.refused then rxAudioSessionPutFrame s idx else s

/-- `rx_audio_session_frame_notify`; the callers have an open frame. -/
def rxAudioSessionFrameNotify (answer : NotifyAnswer) (s : RxAudioSession) : RxAudioSession :=
  match s.curFrame with
  | none => s
  | some idx =>
    let s := rxAudioHandOff answer (rxAudioSilence s idx) idx
    { s with
      tmstamp := u32 ((s.firstPktRtpTs : Int) + s.rtpTicksPerFrame - 1)
      curFrame := none }

/-! ## Header checks, port counters and the redundancy filter -/

/-- The payload type and source checks: the counters of a packet they drop. -/
def rxAudioWrongHeader : Option AudioStats :=
  if s.ops.payloadType ≠ 0 ∧ pkt.payloadType ≠ s.ops.payloadType then
    some { s.stats with wrongPtDropped := s.stats.wrongPtDropped + 1 }
  else if s.ops.ssrc ≠ 0 ∧ pkt.ssrc ≠ s.ops.ssrc then
    some { s.stats with wrongSsrcDropped := s.stats.wrongSsrcDropped + 1 }
  else
    none

/-- The size of `struct st_rfc3550_audio_hdr`. -/
def rfc3550AudioHdrSize : Nat := 54

def rxAudioWrongLen : Option AudioStats :=
  if u32 ((pkt.dataLen : Int) - rfc3550AudioHdrSize) ≠ s.pktLen then
    some { s.stats with lenMismatchDropped := s.stats.lenMismatchDropped + 1 }
  else
    none

/-- The first packet of a session or a port sets what it is compared with. -/
def rxAudioStart : RxAudioSession :=
  { s with
    latestSeqId :=
      if s.latestSeqId port = -1 then Function.update s.latestSeqId port ((pkt.seqNumber : Int) - 1)
      else s.latestSeqId
    sessionSeqId := if s.sessionSeqId = -1 then (pkt.seqNumber : Int) - 1 else s.sessionSeqId
    tmstamp := if s.tmstamp = -1 then (u32 ((pkt.tmstamp : Int) - 1) : Int) else s.tmstamp }

/-- The losses, duplicates and reorderings of one port. -/
def rxAudioCountPort : RxAudioSession :=
  let latest := s.latestSeqId port
  let values := s.stats.port port
  let newer := mtSeq16Greater pkt.seqNumber latest
  let gap := u16 ((pkt.seqNumber : Int) - latest - 1)
  let hole := decide (pkt.seqNumber ≠ u16 (latest + 1)) && newer
  let values :=
    if hole then
      { values with lostPackets := values.lostPackets + gap }
    else if pkt.seqNumber = u16 latest then
      { values with duplicatesSamePort := values.duplicatesSamePort + 1 }
    else if !newer then
      { values with reorderedPackets := values.reorderedPackets + 1 }
    else
      values
  let stats :=
    if hole then { s.stats with lostPackets := s.stats.lostPackets + gap } else s.stats
  { s with
    stats := stats.setPort port
      { values with packets := values.packets + 1, bytes := values.bytes + pkt.pktLen }
    latestSeqId :=
      if newer then Function.update s.latestSeqId port (pkt.seqNumber : Int) else s.latestSeqId }

/-- `ST_SESSION_REDUNDANT_ERROR_THRESHOLD` -/
def redundantErrorThreshold : Nat := 20

def St30RxOps.ports : List MtlSessionPort :=
  if ops.numPort > 1 then [.p, .r] else [.p]

/-- Every port has seen so many redundant packets that the next one is taken. -/
def rxAudioThresholdReached : Bool :=
  s.ops.ports.all (fun port => decide (redundantErrorThreshold ≤ s.redundantErrorCnt port))

/-- A packet that is not newer than `tmstamp` is counted on its port. -/
def rxAudioCountRedundant : RxAudioSession :=
  { s with
    redundantErrorCnt := Function.update s.redundantErrorCnt port (s.redundantErrorCnt port + 1)
    stats := { s.stats with pktsRedundant := s.stats.pktsRedundant + 1 } }

def rxAudioUndoRedundant : RxAudioSession :=
  { s with stats := { s.stats with pktsRedundant := s.stats.pktsRedundant - 1 } }

/-- The redundancy filter; the flag says whether the packet passes. -/
def rxAudioFilter : RxAudioSession × Bool :=
  if mtSeq32Greater pkt.tmstamp s.tmstamp then
    (s, true)
  else
    let counted := rxAudioCountRedundant s port
    if rxAudioThresholdReached counted then (rxAudioUndoRedundant counted, true)
    else (counted, false)

/-- The session's number after a packet that passed the filter. -/
def rxAudioAdvance : RxAudioSession :=
  let newer := mtSeq16Greater pkt.seqNumber s.sessionSeqId
  let stats :=
    if pkt.seqNumber ≠ u16 (s.sessionSeqId + 1) ∧ newer then
      { s.stats with
        pktsUnrecovered :=
          s.stats.pktsUnrecovered + u16 ((pkt.seqNumber : Int) - s.sessionSeqId - 1) }
    else
      s.stats
  { s with
    redundantErrorCnt := Function.update s.redundantErrorCnt port 0
    stats := stats
    sessionSeqId := if newer then (pkt.seqNumber : Int) else s.sessionSeqId }

/-! ## Placement -/

def rxAudioSlot (tmstamp : Nat) : Nat :=
  u32 ((tmstamp : Int) - s.firstPktRtpTs) / (if s.samplesPerPkt ≠ 0 then s.samplesPerPkt else 1)

def AudioPkt.data (len : Nat) : List Byte := (List.range len).map pkt.payload

def rxAudioCopy (cur idx : Nat) (pkt : AudioPkt) : RxAudioSession :=
  let frame := s.frames cur
  { s.setFrame cur { frame with addr := store frame.addr (idx * s.pktLen) (pkt.data s.pktLen) } with
    frameRecvSize := s.frameRecvSize + s.pktLen
    stats := { s.stats with pktsReceived := s.stats.pktsReceived + 1 } }

/-- The end of `rx_audio_session_handle_frame_pkt`: the packet belongs to slot `idx` of the open
frame `cur`. -/
def rxAudioPlace (cur idx : Nat) (pkt : AudioPkt) : RxAudioSession :=
  let s := s.log (.accepted pkt)
  match mtBitmapTestAndSet s.frameBitmap idx with
  | (true, _) => { s with stats := { s.stats with pktsRedundant := s.stats.pktsRedundant + 1 } }
  | (false, bitmap) =>
    let s := rxAudioCopy { s with frameBitmap := bitmap } cur idx pkt
    if s.frameRecvSize ≥ s.frameSize then rxAudioSessionFrameNotify (env.notify 1) s else s

def rxAudioPlaceOpen : RxAudioSession × AudioReturn :=
  match s.curFrame with
  | none => (s, .io)
  | some cur => (rxAudioPlace env s cur (rxAudioSlot s pkt.tmstamp) pkt, .ok)

/-- The packet is not of the open frame, which is closed; another one is opened. -/
def rxAudioReopen : RxAudioSession × AudioReturn :=
  let s := rxAudioSessionFrameNotify (env.notify 0) s
  match rxAudioSessionOpenFrame (env.racing 1) s port pkt.tmstamp pkt.recvTs with
  | (s, false) => (s, .io)
  | (s, true) => rxAudioPlaceOpen env s pkt

def rxAudioLocate : RxAudioSession × AudioReturn :=
  if s.totalPkts ≤ rxAudioSlot s pkt.tmstamp then
    rxAudioReopen env s pkt port
  else
    rxAudioPlaceOpen env s pkt

/-- `rx_audio_session_handle_frame_pkt` from the search for a frame on. -/
def rxAudioAssemble : RxAudioSession × AudioReturn :=
  match s.curFrame with
  | some _ => rxAudioLocate env s pkt port
  | none =>
    match rxAudioSessionOpenFrame (env.racing 0) s port pkt.tmstamp pkt.recvTs with
    | (s, false) => (s, .io)
    | (s, true) => rxAudioLocate env s pkt port

/-! ## Handlers -/

def rxAudioPrepare : RxAudioSession :=
  rxAudioCountPort (rxAudioStart s pkt port) pkt port

/-- `rx_audio_session_handle_frame_pkt` -/
def rxAudioSessionHandleFramePkt : RxAudioSession × AudioReturn :=
  match rxAudioWrongHeader s pkt with
  | some stats => ({ s with stats := stats }, .inval)
  | none =>
    match rxAudioWrongLen s pkt with
    | some stats => ({ s with stats := stats }, .inval)
    | none =>
      match rxAudioFilter (rxAudioPrepare s pkt port) pkt port with
      | (s, false) => (s, .again)
      | (s, true) => rxAudioAssemble env (rxAudioAdvance s pkt port) pkt port

/-- The end of `rx_audio_session_handle_rtp_pkt`: the packet goes to the application's ring. -/
def rxAudioEnqueue : RxAudioSession × AudioReturn :=
  if env.ringTakes then
    ({ s with stats := { s.stats with pktsReceived := s.stats.pktsReceived + 1 } }, .ok)
  else
    ({ s with stats := { s.stats with slotGetFrameFail := s.stats.slotGetFrameFail + 1 } }, .io)

/-- `rx_audio_session_handle_rtp_pkt` -/
def rxAudioSessionHandleRtpPkt : RxAudioSession × AudioReturn :=
  match rxAudioWrongHeader s pkt with
  | some stats => ({ s with stats := stats }, .inval)
  | none =>
    match rxAudioFilter (rxAudioPrepare s pkt port) pkt port with
    | (s, false) => (s, .again)
    | (s, true) => rxAudioEnqueue env (rxAudioAdvance { s with tmstamp := pkt.tmstamp } pkt port)

/-- The handler that `rx_audio_session_handle_mbuf` chooses. -/
def rxAudioSessionHandlePkt : RxAudioSession × AudioReturn :=
  match s.ops.type with
  | .frameLevel => rxAudioSessionHandleFramePkt env s pkt port
  | .rtpLevel => rxAudioSessionHandleRtpPkt env s pkt port

/-! ## Attaching a session -/

/-- The checks of `rx_audio_ops_check` on the values that the session uses. -/
def rxAudioOpsCheck : Except Errno Unit :=
  if ops.numPort > 2 ∨ ops.numPort = 0 then .error .inval
  else if ops.type = .frameLevel ∧ ops.framebuffCnt < 1 then .error .inval
  else if ops.type = .frameLevel ∧ ops.framebuffSize = 0 then .error .inval
  else if ops.payloadType > 127 then .error .inval
  else .ok ()

/-- `ST_PKT_MAX_ETHER_BYTES` -/
def stPktMaxEtherBytes : Nat := 1494

def AudioStats.zero : AudioStats where
  port := fun _ => ⟨0, 0, 0, 0, 0, 0⟩
  wrongPtDropped := 0
  wrongSsrcDropped := 0
  lenMismatchDropped := 0
  lostPackets := 0
  pktsReceived := 0
  pktsRedundant := 0
  pktsUnrecovered := 0
  slotGetFrameFail := 0
  framesIncomplete := 0
  framesReceived := 0

/-- A session after `rx_audio_session_reset` on the frames of `rx_audio_session_alloc_frames`. -/
def rxAudioInit (pktLen : Nat) : RxAudioSession where
  ops := ops
  pktLen := pktLen
  totalPkts := ops.framebuffSize / pktLen
  frameSize := ops.framebuffSize
  rtpTicksPerFrame := ops.framebuffSize / (st30GetSampleSize ops.fmt * ops.channel)
  samplesPerPkt := pktLen / (st30GetSampleSize ops.fmt * ops.channel)
  frames := fun _ => { refcnt := 0, addr := fun _ => 0 }
  framesCnt := ops.framebuffCnt
  curFrame := none
  frameBitmap := List.replicate ((ops.framebuffSize / pktLen + 7) / 8) 0
  frameRecvSize := 0
  firstPktRtpTs := 0
  firstPktPtpTs := 0
  tmstamp := -1
  sessionSeqId := -1
  latestSeqId := fun _ => -1
  redundantErrorCnt := fun _ => 0
  stats := AudioStats.zero
  events := []

/-- `rx_audio_session_attach` -/
def rxAudioSessionAttach : Except Errno RxAudioSession :=
  match rxAudioOpsCheck ops with
  | .error code => .error code
  | .ok _ =>
    match st30GetPacketSize ops.fmt ops.ptime ops.sampling ops.channel with
    | .error code => .error code
    | .ok pktLen =>
      if pktLen > stPktMaxEtherBytes - rfc3550AudioHdrSize then .error .io
      else if ops.framebuffSize % pktLen ≠ 0 then .error .io
      else .ok (rxAudioInit ops pktLen)

/-- A packet of a run with the port it arrives on and its surroundings. -/
structure AudioArrival where
  env : AudioEnv
  pkt : AudioPkt
  port : MtlSessionPort

def audioRxStep (arrival : AudioArrival) : RxAudioSession :=
  (rxAudioSessionHandlePkt arrival.env s arrival.pkt arrival.port).1

end MediaTransport.Audio
