import MediaTransport.Library.Run
import MediaTransport.Video.PacketLedger

namespace MediaTransport.Video

open Library

/-!
# Dispatching packets

`rv_handle_mbuf` passes the packets of a burst to the handler of the session
and counts each for its port, accepted or in error.  A session for the highest
rates has a packet lcore: the burst goes to a ring, and `rv_pkt_lcore_func`
takes the packets from it.  Here the handlers run under both, and the counts
of the ports are compared with what the handlers made of the packets.
-/

/-! ## What a session receives with -/

/-- A session has one of the handlers; that of ST 2110-20 may have a DMA
device. -/
inductive RvPath where
  | plain (handler : RvPktHandler)
  | dma
  deriving DecidableEq, Repr

namespace RvPath

def Session : RvPath -> Type
  | .plain handler => handler.Session
  | .dma => RvDmaSession

def Packet : RvPath -> Type
  | .plain handler => handler.Packet
  | .dma => RvMbuf

def Env : RvPath -> Type
  | .plain _ => HdrSplitEnv
  | .dma => DmaEnv

structure Result (path : RvPath) where
  session : path.Session
  ret : Except Errno Unit
  events : List RvEvent

def rv : (path : RvPath) -> path.Session -> RvSession
  | .plain handler, s => handler.rv s
  | .dma, s => RvDmaSession.rv s

def dropped : (path : RvPath) -> path.Session -> RvReason -> Nat
  | .plain handler, s => handler.dropped s
  | .dma, s => RvPktHandler.dropped .frame (RvDmaSession.rv s)

/-- The handler of the session. -/
def handle : (path : RvPath) -> path.Env -> path.Session -> path.Packet -> MtlSessionPort -> Bool ->
    path.Result
  | .plain handler, env, s, packet, port, ctrlThread =>
    let result := handler.handle env s packet port ctrlThread
    ⟨result.session, result.ret, result.events⟩
  | .dma, env, s, packet, port, ctrlThread =>
    let result := rvDmaHandleFramePkt env s packet port ctrlThread
    ⟨result.session, result.ret, result.events⟩

/-- What the packet lcore calls, whatever the handler of the session: the
handler of ST 2110-20, to which `read` says what the bytes of another packet
mean.  Sessions with header split or at the RTP level have no packet lcore. -/
def lcoreHandle (read : Option Rfc9134Packet -> RvMbuf) : (path : RvPath) ->
    Option (path.Env -> path.Session -> path.Packet -> path.Result)
  | .plain .frame => some (fun env s mbuf =>
    let result := rvHandleFramePkt (HdrSplitEnv.toRvEnv env) s mbuf .p true
    ⟨result.session, result.ret, result.events⟩)
  | .plain .st22 => some (fun env s mbuf =>
    let result := rvHandleFramePkt (HdrSplitEnv.toRvEnv env) s (read mbuf) .p true
    ⟨result.session, result.ret, result.events⟩)
  | .dma => some (fun env s mbuf =>
    let result := rvDmaHandleFramePkt env s mbuf .p true
    ⟨result.session, result.ret, result.events⟩)
  | .plain .hdrSplit => none
  | .plain .rtp => none

def returnFrames : (path : RvPath) -> path.Session -> List Nat -> path.Session
  | .plain handler, s, returned => handler.returnFrames s returned
  | .dma, s, returned =>
    RvDmaSession.withRv s (rvReturnFrames (RvDmaSession.rv s) returned)

def takeRtps : (path : RvPath) -> path.Session -> Nat -> path.Session
  | .plain .rtp, s, count =>
    { s with rtpsRing := (RvRtpSession.rtpsRing s).drop count : RvRtpSession }
  | _, s, _ => s

/-- `rv_session_reset`, which sets all counters to zero. -/
def reset : (path : RvPath) -> path.Session -> path.Session
  | .plain .frame, s => rvSessionReset s
  | .plain .st22, s => rvSessionReset s
  | .plain .hdrSplit, s =>
    { s with
      rv := rvSessionReset (RvHdrSplitSession.rv s)
      splitStats := ⟨0, 0, 0, 0⟩ : RvHdrSplitSession }
  | .plain .rtp, s =>
    { s with rv := rvSessionReset (RvRtpSession.rv s), pktsRtpRingFull := 0 : RvRtpSession }
  | .dma, s => rvDmaSessionReset s

def dequeue : (path : RvPath) -> path.Session -> RvEnv -> Nat -> path.Session × List RvEvent
  | .dma, s, env, nbDq => rvDmaDequeue env nbDq s
  | .plain _, s, _, _ => (s, [])

end RvPath

/-! ## The counts of the ports -/

/-- The part of the statistics of a port that `rv_handle_mbuf` keeps. -/
structure RvPortPkts where
  packets : Nat
  errPackets : Nat
  bytes : Nat
  deriving DecidableEq, Repr

/-- The session with what `rv_handle_mbuf` adds; `pktLcoreRing` is there when
the session has a packet lcore. -/
structure RvDispatch (path : RvPath) where
  session : path.Session
  pktLcoreRing : Option (List path.Packet)
  /-- The packets that the ring can hold. -/
  ringRoom : Nat
  port : MtlSessionPort -> RvPortPkts
  bytesReceived : Nat
  pktsEnqueueFallback : Nat
  pktsSimulateLoss : Nat

/-- A packet of a burst, and what is answered while it is dispatched. -/
structure RvArrived (path : RvPath) where
  env : path.Env
  packet : path.Packet
  pktLen : Nat
  /-- `rv_simulate_pkt_loss` drops the packet. -/
  simulateLoss : Bool

variable {path : RvPath}

variable (s : RvDispatch path)

variable (port : MtlSessionPort)

def RvPortPkts.count (values : RvPortPkts) (pktLen : Nat) : Except Errno Unit -> RvPortPkts
  | .ok _ => { values with packets := values.packets + 1, bytes := values.bytes + pktLen }
  | .error _ => { values with errPackets := values.errPackets + 1 }

/-- A round of the loop of `rv_handle_mbuf`. -/
def rvDispatchPkt (arrived : RvArrived path) : RvDispatch path × List RvEvent :=
  if arrived.simulateLoss then
    ({ s with pktsSimulateLoss := s.pktsSimulateLoss + 1 }, [])
  else
    let ctlThread := s.pktLcoreRing.isNone
    let result := path.handle arrived.env s.session arrived.packet port ctlThread
    ({ s with
        session := result.session
        port := Function.update s.port port ((s.port port).count arrived.pktLen result.ret)
        bytesReceived := s.bytesReceived +
          match result.ret with
          | .ok _ => arrived.pktLen
          | .error _ => 0 },
      result.events)

def rvDispatchPkts (s : RvDispatch path) (port : MtlSessionPort) :
    List (RvArrived path) -> RvDispatch path × List RvEvent
  | [] => (s, [])
  | arrived :: rest =>
    let (s, events) := rvDispatchPkt s port arrived
    let (s, more) := rvDispatchPkts s port rest
    (s, events ++ more)

/-- The burst goes to the ring of the packet lcore, which takes all of it or
nothing; without a ring nothing happens. -/
def rvEnqueueBulk (burst : List path.Packet) : RvDispatch path :=
  match s.pktLcoreRing with
  | none => s
  | some ring =>
    if ring.length + burst.length ≤ s.ringRoom then
      { s with pktLcoreRing := some (ring ++ burst) }
    else
      { s with pktsEnqueueFallback := s.pktsEnqueueFallback + burst.length }

def RvDispatch.ringTakes (burst : List path.Packet) : Bool :=
  match s.pktLcoreRing with
  | none => false
  | some ring => decide (ring.length + burst.length ≤ s.ringRoom)

/-- `rv_handle_mbuf` of an attached session. -/
def rvHandleMbuf (burst : List (RvArrived path)) : RvDispatch path × List RvEvent :=
  let packets := burst.map RvArrived.packet
  let queued := rvEnqueueBulk s packets
  if s.ringTakes packets then (queued, []) else rvDispatchPkts queued port burst

/-- A round of `rv_pkt_lcore_func`. -/
def rvPktLcore (env : path.Env) (read : Option Rfc9134Packet -> RvMbuf) :
    RvDispatch path × List RvEvent :=
  match path.lcoreHandle read, s.pktLcoreRing with
  | some handle, some (packet :: rest) =>
    let result := handle env s.session packet
    ({ s with session := result.session, pktLcoreRing := some rest }, result.events)
  | _, _ => (s, [])

/-- The session when it is attached, with or without a packet lcore. -/
def rvDispatchAttach (session : path.Session) (pktLcore : Bool) (ringRoom : Nat) :
    RvDispatch path :=
  { session := path.reset session
    pktLcoreRing := if pktLcore then some [] else none
    ringRoom := ringRoom
    port := fun _ => ⟨0, 0, 0⟩
    bytesReceived := 0
    pktsEnqueueFallback := 0
    pktsSimulateLoss := 0 }

/-! ## Runs -/

/-- What happens to a session.  The tasklet and the packet lcore are two
threads, so the rounds of `rv_handle_mbuf` are steps of their own. -/
inductive RvTask (path : RvPath) where
  | enqueue (burst : List path.Packet)
  | dispatch (port : MtlSessionPort) (arrived : RvArrived path)
  | lcore (env : path.Env) (read : Option Rfc9134Packet -> RvMbuf)
  | putFrames (returned : List Nat)
  | takeRtps (count : Nat)
  | dequeue (env : RvEnv) (nbDq : Nat)

/-- One step, with what the application is told in it. -/
def rvPerform : RvTask path -> RvDispatch path × List RvEvent
  | .enqueue burst => (rvEnqueueBulk s burst, [])
  | .dispatch port arrived => rvDispatchPkt s port arrived
  | .lcore env read => rvPktLcore s env read
  | .putFrames returned => ({ s with session := path.returnFrames s.session returned }, [])
  | .takeRtps count => ({ s with session := path.takeRtps s.session count }, [])
  | .dequeue env nbDq =>
    let (session, events) := path.dequeue s.session env nbDq
    ({ s with session := session }, events)

def rvTaskStep (task : RvTask path) : RvDispatch path := (rvPerform s task).1

theorem rvDispatchPkts_run (burst : List (RvArrived path)) :
    (rvDispatchPkts s port burst).1 = run rvTaskStep s (burst.map (RvTask.dispatch port)) := by
  induction burst generalizing s with
  | nil => rfl
  | cons arrived rest ih => exact ih (rvDispatchPkt s port arrived).1

theorem rvHandleMbuf_run (burst : List (RvArrived path)) :
    (rvHandleMbuf s port burst).1 = run rvTaskStep s
      (.enqueue (burst.map RvArrived.packet) ::
        if s.ringTakes (burst.map RvArrived.packet) then []
        else burst.map (RvTask.dispatch port)) := by
  unfold rvHandleMbuf
  dsimp only
  rw [run_cons]
  split
  · rfl
  · exact rvDispatchPkts_run _ port burst

end MediaTransport.Video
