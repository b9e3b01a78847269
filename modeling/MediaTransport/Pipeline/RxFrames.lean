import MediaTransport.Library.CircularScan
import MediaTransport.Util.Errno

namespace MediaTransport.Pipeline

open Library

/-!
# Frames of the receive pipelines

A pipeline keeps a ring of frames between the transport, which brings buffers
with received frames, and the application, which gets the frames and puts them
back.  The transport and the application walk the ring on their own, each from
an index behind the frame it took last, and take the first frame in the state
they want.  The source loads the states one by one and claims a frame by an
exchange; a walk with its claim is one step here.
-/

/-! ## Rings of frames -/

/-- `struct st20p_rx_frame` and `struct st30p_rx_frame`: the state of a frame, the buffer of the
transport in it, and what is known of the received frame. -/
structure RxFramebuff (Stat : Type) where
  stat : Stat
  addr : Nat
  timestamp : Nat
  corrupted : Bool

/-- The counters of a pipeline. -/
structure RxPipelineStats where
  busy : Nat
  framesDropped : Nat
  framesReceived : Nat
  framesCorrupted : Nat
  getFrameTry : Nat
  getFrameSucc : Nat
  putFrame : Nat
  deriving DecidableEq

/-- `struct st20p_rx_ctx` and `struct st30p_rx_ctx`.  The last three fields are what an observer saw,
the oldest first: the buffers the transport was told are accepted, those of the frames the application
got, and those the transport got back. -/
structure RxCtx (Stat : Type) where
  ready : Bool
  framebuffCnt : Nat
  framebuffs : Nat -> RxFramebuff Stat
  framebuffProducerIdx : Nat
  framebuffConsumerIdx : Nat
  stats : RxPipelineStats
  accepted : List Nat
  delivered : List Nat
  givenBack : List Nat

/-- The part of `struct st20_rx_frame_meta` and `struct st30_rx_frame_meta` that the pipelines act on. -/
structure RxFrameMeta where
  timestamp : Nat
  corrupted : Bool
  deriving DecidableEq

variable {Stat : Type} [DecidableEq Stat]

/-- `rx_st20p_next_available` and `rx_st30p_next_available` -/
def RxCtx.nextAvailable (s : RxCtx Stat) (idxStart : Nat) (desired : Stat) : Option Nat :=
  scan s.framebuffCnt (fun idx => decide ((s.framebuffs idx).stat = desired)) idxStart

def RxCtx.setStat (s : RxCtx Stat) (idx : Nat) (stat : Stat) : RxCtx Stat :=
  { s with framebuffs := Function.update s.framebuffs idx { s.framebuffs idx with stat := stat } }

def RxCtx.countBusy (s : RxCtx Stat) : RxCtx Stat :=
  { s with stats := { s.stats with
      busy := s.stats.busy + 1, framesDropped := s.stats.framesDropped + 1 } }

/-- A frame takes the buffer, and the transport goes on behind it. -/
def RxCtx.accept (s : RxCtx Stat) (idx : Nat) (stat : Stat) (addr : Nat) (fm : RxFrameMeta) :
    RxCtx Stat :=
  { s with
    framebuffs := Function.update s.framebuffs idx
      { stat := stat, addr := addr, timestamp := fm.timestamp, corrupted := fm.corrupted }
    framebuffProducerIdx := nextSlot s.framebuffCnt idx
    accepted := s.accepted ++ [addr] }

/-- The application gets the frame, and goes on behind it. -/
def RxCtx.take (s : RxCtx Stat) (idx : Nat) (inUser : Stat) : RxCtx Stat :=
  let frame := s.framebuffs idx
  { s.setStat idx inUser with
    framebuffConsumerIdx := nextSlot s.framebuffCnt idx
    stats :=
      { s.stats with
        getFrameSucc := s.stats.getFrameSucc + 1
        framesReceived := s.stats.framesReceived + 1
        framesCorrupted := s.stats.framesCorrupted + (if frame.corrupted then 1 else 0) }
    delivered := s.delivered ++ [frame.addr] }

def RxCtx.giveBack (s : RxCtx Stat) (idx : Nat) (free : Stat) : RxCtx Stat :=
  { s.setStat idx free with givenBack := s.givenBack ++ [(s.framebuffs idx).addr] }

/-- The frames of the application: the first wanted one from its index on. -/
def RxCtx.getFrame (s : RxCtx Stat) (desired inUser : Stat) : RxCtx Stat × Option Nat :=
  if !s.ready then
    (s, none)
  else
    let s := { s with stats := { s.stats with getFrameTry := s.stats.getFrameTry + 1 } }
    match s.nextAvailable s.framebuffConsumerIdx desired with
    | none => (s, none)
    | some idx => (s.take idx inUser, some idx)

def RxCtx.putFrame (s : RxCtx Stat) (idx : Nat) (inUser free : Stat) : RxCtx Stat × Except Errno Unit :=
  if (s.framebuffs idx).stat ≠ inUser then
    (s, .error .io)
  else
    let s := s.giveBack idx free
    ({ s with stats := { s.stats with putFrame := s.stats.putFrame + 1 } }, .ok ())

/-- A pipeline after its creation, with all frames free. -/
def RxCtx.init (framebuffCnt : Nat) (free : Stat) : RxCtx Stat where
  ready := true
  framebuffCnt := framebuffCnt
  framebuffs := fun _ => ⟨free, 0, 0, false⟩
  framebuffProducerIdx := 0
  framebuffConsumerIdx := 0
  stats := ⟨0, 0, 0, 0, 0, 0, 0⟩
  accepted := []
  delivered := []
  givenBack := []

/-! ## Video -/

/-- `enum st20p_rx_frame_status` -/
inductive St20pRxFrameStatus where
  | free
  | ready
  | inConverting
  | converted
  | inUser
  deriving DecidableEq, Repr

/-- The kind of a session: frames as the transport has them, packets that are converted as they
come, or frames that are converted when the application gets them. -/
structure St20pRxConfig where
  framebuffCnt : Nat
  derive : Bool
  pktConvert : Bool
  internalConverter : Bool
  dynamicExtFrame : Bool
  framed : 0 < framebuffCnt
  converts : internalConverter = true -> derive = false ∧ pktConvert = false

abbrev St20pRxCtx := RxCtx St20pRxFrameStatus

variable (cfg : St20pRxConfig) (s : St20pRxCtx)

/-- A frame for a packet or a received frame. -/
inductive RxPick where
  | none
  | wrong
  | slot (idx : Nat)
  deriving DecidableEq

/-- The frame whose packets are converted: the first one that is, or the first one from there on. -/
def rxSt20pConvertingFrame (timestamp : Nat) : RxPick :=
  match s.nextAvailable s.framebuffProducerIdx .inConverting with
  | none => .none
  | some idx =>
    if (s.framebuffs idx).timestamp ≠ timestamp then
      match s.nextAvailable idx .inConverting with
      | none => .none
      | some other => if (s.framebuffs other).timestamp ≠ timestamp then .wrong else .slot other
    else
      .slot idx

/-- `rx_st20p_packet_convert`, up to the conversion; the flag says that the packet is the first one
of its frame. -/
def rxSt20pPacketConvert (first : Bool) (timestamp : Nat) : St20pRxCtx × Except Errno Unit :=
  if first then
    match s.nextAvailable s.framebuffProducerIdx .free with
    | none => (s.countBusy, .error .busy)
    | some idx =>
      let frame : RxFramebuff St20pRxFrameStatus :=
        { s.framebuffs idx with stat := .inConverting, timestamp := timestamp }
      ({ s with framebuffs := Function.update s.framebuffs idx frame }, .ok ())
  else
    match rxSt20pConvertingFrame s timestamp with
    | .none => (s.countBusy, .error .busy)
    | .wrong => (s, .error .io)
    | .slot _ => (s, .ok ())

/-- The frame that takes the next buffer of the transport. -/
def rxSt20pPick (fm : RxFrameMeta) : RxPick :=
  if cfg.pktConvert then
    rxSt20pConvertingFrame s fm.timestamp
  else
    match s.nextAvailable s.framebuffProducerIdx .free with
    | none => .none
    | some idx => .slot idx

def St20pRxConfig.waiting : St20pRxFrameStatus :=
  if cfg.derive || cfg.pktConvert then .converted else .ready

/-- `rx_st20p_frame_ready`; `ext` is the answer to the query for an external frame and its check. -/
def rxSt20pFrameReady (addr : Nat) (fm : RxFrameMeta) (ext : Except Errno Unit)
    : St20pRxCtx × Except Errno Unit :=
  if !s.ready then
    (s, .error .busy)
  else
    match rxSt20pPick cfg s fm with
    | .none => (s.countBusy, .error .busy)
    -- the error is kept from the transport, which takes the buffer for accepted
    | .wrong => ({ s with accepted := s.accepted ++ [addr] }, .ok ())
    | .slot idx =>
      if cfg.dynamicExtFrame && !cfg.derive then
        match ext with
        | .error code => (s, .error code)
        | .ok () => (s.accept idx cfg.waiting addr fm, .ok ())
      else
        (s.accept idx cfg.waiting addr fm, .ok ())

def St20pRxConfig.wanted : St20pRxFrameStatus :=
  if cfg.internalConverter then .ready else .converted

/-- `st20p_rx_get_frame` -/
def st20pRxGetFrame : St20pRxCtx × Option Nat :=
  s.getFrame cfg.wanted .inUser

/-- `st20p_rx_put_frame` -/
def st20pRxPutFrame (idx : Nat) : St20pRxCtx × Except Errno Unit :=
  s.putFrame idx .inUser .free

/-- What the transport and the application do. -/
inductive St20pRxInput where
  | packet (first : Bool) (timestamp : Nat)
  | frameReady (addr : Nat) (fm : RxFrameMeta) (ext : Except Errno Unit)
  | getFrame
  | putFrame (idx : Nat)

def rxSt20pStep : St20pRxInput -> St20pRxCtx
  | .packet first timestamp =>
    -- the transport converts packets only when it was asked to
    if cfg.pktConvert then (rxSt20pPacketConvert s first timestamp).1 else s
  | .frameReady addr fm ext => (rxSt20pFrameReady cfg s addr fm ext).1
  | .getFrame => (st20pRxGetFrame cfg s).1
  | .putFrame idx => (st20pRxPutFrame s idx).1

def rxSt20pInit : St20pRxCtx := RxCtx.init cfg.framebuffCnt .free

/-! ## Audio -/

/-- `enum st30p_rx_frame_status` -/
inductive St30pRxFrameStatus where
  | free
  | ready
  | inUser
  deriving DecidableEq, Repr

abbrev St30pRxCtx := RxCtx St30pRxFrameStatus

/-- `rx_st30p_frame_ready` -/
def rxSt30pFrameReady (s : St30pRxCtx) (addr : Nat) (fm : RxFrameMeta) :
    St30pRxCtx × Except Errno Unit :=
  if !s.ready then
    (s, .error .busy)
  else
    match s.nextAvailable s.framebuffProducerIdx .free with
    | none => (s.countBusy, .error .busy)
    | some idx => (s.accept idx .ready addr fm, .ok ())

/-- `st30p_rx_get_frame` -/
def st30pRxGetFrame (s : St30pRxCtx) : St30pRxCtx × Option Nat := s.getFrame .ready .inUser

/-- `st30p_rx_put_frame` -/
def st30pRxPutFrame (s : St30pRxCtx) (idx : Nat) : St30pRxCtx × Except Errno Unit :=
  s.putFrame idx .inUser .free

inductive St30pRxInput where
  | frameReady (addr : Nat) (fm : RxFrameMeta)
  | getFrame
  | putFrame (idx : Nat)

def rxSt30pStep (s : St30pRxCtx) : St30pRxInput -> St30pRxCtx
  | .frameReady addr fm => (rxSt30pFrameReady s addr fm).1
  | .getFrame => (st30pRxGetFrame s).1
  | .putFrame idx => (st30pRxPutFrame s idx).1

def rxSt30pInit (framebuffCnt : Nat) : St30pRxCtx := RxCtx.init framebuffCnt .free

end MediaTransport.Pipeline
