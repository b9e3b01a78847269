import MediaTransport.Video.HdrSplitPacket
import MediaTransport.Video.RtpPacket

namespace MediaTransport.Video

/-!
# The handlers of a receive session

`rv_init_pkt_handler` gives a session one of four packet handlers.  They work
on different states and packets and share a core; what is said about all of
them is said about this family.
-/

variable (s : RvSession)

/-- The handlers that `rv_init_pkt_handler` chooses from once a session knows
its format. -/
inductive RvPktHandler where
  | frame
  | st22
  | hdrSplit
  | rtp
  deriving DecidableEq, Repr

def rvReturnFrames (returned : List Nat) : RvSession := returned.foldl rvPutFrame s

theorem rvReturnFrames_eq (returned : List Nat) :
    rvReturnFrames s returned = { s with frames := (rvReturnFrames s returned).frames } := by
  induction returned generalizing s with
  | nil => rfl
  | cons frame rest ih => exact ih (rvPutFrame s frame)

theorem rvReturnFrames_cfg (returned : List Nat) :
    (rvReturnFrames s returned).cfg = s.cfg := by rw [rvReturnFrames_eq]

namespace RvPktHandler

def Session : RvPktHandler -> Type
  | .frame => RvSession
  | .st22 => RvSession
  | .hdrSplit => RvHdrSplitSession
  | .rtp => RvRtpSession

def Packet : RvPktHandler -> Type
  | .frame => RvMbuf
  | .st22 => Option Rfc9134Packet
  | .hdrSplit => HdrSplitMbuf
  | .rtp => RvRtpPacket

/-- A packet that is dispatched to the handler, the frames that the
application gave back before it, and the answers during its handling. -/
structure Arrival (handler : RvPktHandler) where
  env : HdrSplitEnv
  returned : List Nat
  packet : handler.Packet
  port : MtlSessionPort
  ctrlThread : Bool

structure Result (handler : RvPktHandler) where
  session : handler.Session
  ret : Except Errno Unit
  events : List RvEvent

def rv : (handler : RvPktHandler) -> handler.Session -> RvSession
  | .frame, s => s
  | .st22, s => s
  | .hdrSplit, s => RvHdrSplitSession.rv s
  | .rtp, s => RvRtpSession.rv s

def returnFrames : (handler : RvPktHandler) -> handler.Session -> List Nat -> handler.Session
  | .frame, s, returned => rvReturnFrames s returned
  | .st22, s, returned => rvReturnFrames s returned
  | .hdrSplit, s, returned =>
    RvHdrSplitSession.withRv s (rvReturnFrames (RvHdrSplitSession.rv s) returned)
  | .rtp, s, _ => s

def tmstamp : (handler : RvPktHandler) -> handler.Packet -> Nat
  | .frame, mbuf => RvMbuf.pkt mbuf |>.tmstamp
  | .st22, some pkt => Rfc9134Packet.tmstamp pkt
  | .st22, none => 0
  | .hdrSplit, mbuf => HdrSplitMbuf.pkt mbuf |>.tmstamp
  | .rtp, pkt => RvRtpPacket.tmstamp pkt

/-- The packet passes the checks before the slot lookup. -/
def accepts : (handler : RvPktHandler) -> handler.Session -> handler.Packet -> MtlSessionPort -> Bool
  | .frame, s, mbuf, _ => (rvHeaderCheck (RvSession.cfg s) mbuf).isNone
  | .st22, s, some pkt, _ => (rvSt22HeaderCheck (RvSession.cfg s) pkt).isNone
  | .st22, _, none, _ => false
  | .hdrSplit, s, mbuf, port =>
    (rvHdrSplitHeaderCheck (RvHdrSplitSession.rv s).cfg (HdrSplitMbuf.pkt mbuf)).isNone &&
      (RvHdrSplitSession.info s port).mbufPoolReady
  | .rtp, s, pkt, _ => (rvRtpHeaderCheck (RvRtpSession.rv s).cfg pkt).isNone

/-- `pkt_handler`. -/
def handle : (handler : RvPktHandler) -> HdrSplitEnv -> handler.Session -> handler.Packet ->
    MtlSessionPort -> Bool -> handler.Result
  | .frame, env, s, mbuf, port, ctrlThread =>
    let result := rvHandleFramePkt env.toRvEnv s mbuf port ctrlThread
    ⟨result.session, result.ret, result.events⟩
  | .st22, env, s, mbuf, port, _ =>
    let result := rvHandleSt22Pkt env.toRvEnv s mbuf port
    ⟨result.session, result.ret, result.events⟩
  | .hdrSplit, env, s, mbuf, port, _ =>
    let result := rvHandleHdrSplitPkt env s mbuf port
    ⟨result.session, result.ret, result.events⟩
  | .rtp, _, s, pkt, port, _ =>
    let result := rvHandleRtpPkt s pkt port
    ⟨result.session, result.ret, []⟩

def arrive (handler : RvPktHandler) (s : handler.Session) (arrival : handler.Arrival) :
    handler.Result :=
  handler.handle arrival.env (handler.returnFrames s arrival.returned) arrival.packet arrival.port
    arrival.ctrlThread

end RvPktHandler

end MediaTransport.Video
