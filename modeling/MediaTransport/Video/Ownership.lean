import MediaTransport.Library.Run
import MediaTransport.Video.CustodyMoves

namespace MediaTransport.Video

open Library

/-!
# Who owns a frame during a run

The moves of one packet make up whole runs, with the frames that the
application returns and with resets.  A session with a DMA device and one with
split headers have runs of their own.
-/

/-- What happens to a receive session: packets, frames that the application
returns, and resets. -/
inductive RvCall where
  | framePkt (env : RvEnv) (mbuf : RvMbuf) (port : MtlSessionPort) (ctrlThread : Bool)
  | st22Pkt (env : RvEnv) (mbuf : Option Rfc9134Packet) (port : MtlSessionPort)
  | putFramebuff (frame : Nat)
  | reset

/-- A session and the frames that the application has. -/
structure PoolState where
  session : RvSession
  app : List Nat

def RvCall.apply (state : PoolState) : RvCall -> PoolState
  | .framePkt env mbuf port ctrlThread =>
    let result := rvHandleFramePkt env state.session mbuf port ctrlThread
    { session := result.session, app := state.app ++ handed result.events }
  | .st22Pkt env mbuf port =>
    let result := rvHandleSt22Pkt env state.session mbuf port
    { session := result.session, app := state.app ++ handed result.events }
  | .putFramebuff frame =>
    { session := rvPutFrame state.session frame, app := state.app.erase frame }
  | .reset =>
    -- A reset is part of attaching, so the buffers handed out before are gone.
    { session := rvSessionReset state.session, app := [] }

def RvCall.Legal (state : PoolState) : RvCall -> Prop
  | .putFramebuff frame => frame ∈ state.app
  | _ => True

/-- The packet does not make the session announce an incomplete frame that the
application refuses. -/
def RvCall.Accepted (state : PoolState) : RvCall -> Prop
  | .framePkt env mbuf _ _ =>
    rvHeaderCheck state.session.cfg mbuf = none ->
    rvOpens state.session mbuf.pkt.tmstamp = true ->
    refusesIncomplete env state.session (rvNextSlot state.session) = false
  | .st22Pkt env (some pkt) _ =>
    rvSt22HeaderCheck state.session.cfg pkt = none ->
    rvOpens state.session pkt.tmstamp = true ->
    refusesIncomplete env state.session (rvNextSlot state.session) = false
  | _ => True

/-- A frame is free, or belongs to exactly one slot, or to the application
once; its reference count says whether it is free. -/
def OneOwner (state : PoolState) (frame : Nat) : Prop :=
  let custody := state.session.custody
  (custody.refcnt frame = 0 ∧ (forall idx, custody.held idx ≠ some frame) ∧
    state.app.count frame = 0) ∨
  (custody.refcnt frame = 1 ∧ (ExistsUnique fun idx => custody.held idx = some frame) ∧
    state.app.count frame = 0) ∨
  (custody.refcnt frame = 1 ∧ (forall idx, custody.held idx ≠ some frame) ∧
    state.app.count frame = 1)

/-- The session has the given configuration and its frames have owners. -/
def PoolState.Owned (cfg : RvConfig) (state : PoolState) : Prop :=
  state.session.cfg = cfg ∧
    Exists fun owner => state.session.custody.Agrees cfg.ops.framebuffCnt state.app owner

theorem PoolState.Owned.oneOwner {cfg : RvConfig} {state : PoolState} (owned : state.Owned cfg)
    {frame : Nat} (inside : frame < cfg.ops.framebuffCnt) : OneOwner state frame := by
  rcases owned with ⟨-, owner, agrees⟩
  have refcnt := agrees.refcnt frame inside
  have held := fun idx => agrees.held idx frame
  have counted := agrees.app frame
  cases owns : owner frame with
  | free =>
    rw [owns] at refcnt counted
    refine Or.inl ⟨refcnt.trans (if_pos rfl), fun idx holds => ?_, counted.trans (if_neg ?_)⟩
    · have both := ((held idx).mp holds).2
      rw [owns] at both
      cases both
    · exact fun absurd => by cases absurd.2
  | slot idx =>
    rw [owns] at refcnt counted
    refine Or.inr (Or.inl ⟨refcnt.trans (if_neg ?_), ⟨idx, (held idx).mpr ⟨inside, owns⟩, ?_⟩,
      counted.trans (if_neg ?_)⟩)
    · exact fun absurd => by cases absurd
    · intro other holds
      have both := ((held other).mp holds).2
      rw [owns] at both
      exact (Owner.slot.inj both).symm
    · exact fun absurd => by cases absurd.2
  | app =>
    rw [owns] at refcnt counted
    refine Or.inr (Or.inr ⟨refcnt.trans (if_neg ?_), fun idx holds => ?_,
      counted.trans (if_pos ⟨inside, rfl⟩)⟩)
    · exact fun absurd => by cases absurd
    · have both := ((held idx).mp holds).2
      rw [owns] at both
      cases both

theorem rvSessionReset_owned (s : RvSession) :
    PoolState.Owned s.cfg ⟨rvSessionReset s, []⟩ := by
  refine ⟨rfl, fun _ => .free, ?_, ?_, ?_⟩
  · intro frame inside
    simp only [RvSession.custody, rvSessionReset, if_pos inside, if_true]
  · intro idx frame
    exact ⟨fun absurd => (by cases absurd), fun absurd => (by cases absurd.2)⟩
  · intro frame
    exact (if_neg (fun absurd => by cases absurd.2)).symm

theorem PoolState.Owned.passes {cfg : RvConfig} {s after : RvSession} {app : List Nat} {events : List RvEvent}
    (owned : PoolState.Owned cfg ⟨s, app⟩) (passes : Passes s after events) :
    PoolState.Owned cfg ⟨after, app ++ handed events⟩ := by
  rcases owned with ⟨rfl, owner, agrees⟩
  exact ⟨passes.cfg, passes.owners app owner agrees⟩

theorem PoolState.Owned.put {cfg : RvConfig} {s : RvSession} {app : List Nat}
    (owned : PoolState.Owned cfg ⟨s, app⟩) {frame : Nat} (legal : frame ∈ app) :
    PoolState.Owned cfg ⟨rvPutFrame s frame, app.erase frame⟩ := by
  rcases owned with ⟨same, owner, agrees⟩
  refine ⟨same, Function.update owner frame .free, ?_⟩
  rw [custody_putFrame]
  exact agrees.appPut legal

theorem RvCall.apply_owned {cfg : RvConfig} {state : PoolState} {call : RvCall}
    (owned : state.Owned cfg) (legal : call.Legal state) (accepted : call.Accepted state) :
    (RvCall.apply state call).Owned cfg := by
  cases call with
  | framePkt env mbuf port ctrlThread =>
    exact owned.passes (passes_framePkt env state.session mbuf port ctrlThread accepted)
  | st22Pkt env mbuf port =>
    refine owned.passes (passes_st22Pkt env state.session mbuf port ?_)
    rintro pkt ⟨⟩
    exact accepted
  | putFramebuff frame => exact owned.put legal
  | reset =>
    rw [← owned.1]
    exact rvSessionReset_owned state.session

/-- In every run in which the application returns only frames that it has and
refuses no incomplete frame, every frame always has exactly one owner. -/
theorem frames_owned_once {cfg : RvConfig} {calls : List RvCall}
    (admitted : Admitted RvCall.apply (fun state call => call.Legal state ∧ call.Accepted state)
      ⟨rvInit cfg, []⟩ calls)
    {frame : Nat} (inside : frame < cfg.ops.framebuffCnt) :
    OneOwner (run RvCall.apply ⟨rvInit cfg, []⟩ calls) frame := by
  refine @PoolState.Owned.oneOwner cfg _ ?_ frame inside
  exact run_invariant RvCall.apply _ (PoolState.Owned cfg)
    (fun state call owned guard => RvCall.apply_owned owned guard.1 guard.2)
    (rvSessionReset_owned _) admitted

/-- A receiver of four lines of two pixels that asks for incomplete frames. -/
def incompleteRxOps : St20RxOps :=
  { width := 2, height := 4, fmt := .yuv422Bit10, interlaced := false, linesize := 0
    payloadType := 112, ssrc := 0, numPort := 1, type := .frameLevel, framebuffCnt := 3
    sliceLines := 0, uframeSize := 0, receiveIncompleteFrame := true, enableRtcp := false
    queryExtFrame := false }

def incompleteConfig : RvConfig :=
  { ops := incompleteRxOps, st22 := none, st20Pg := st20GetPgroup .yuv422Bit10
    st20BytesInLine := 5, st20Linesize := 5, st20FbSize := 20, st20FrameSize := 20
    st20FrameBitmapSize := 1, sliceLines := 0, sliceSize := 0, slotMax := 1
    userMetaBufferSize := 1024 }

def firstLine (tmstamp : Nat) : RvMbuf :=
  { pkt :=
      { marker := false, payloadType := 112, seqNumber := 0, seqNumberExt := 0
        tmstamp := tmstamp, ssrc := 0, rowLength := 5, rowNumber := 0, rowOffset := 0
        body := List.replicate 5 0 }
    multiSegment := false }

/-- An application that answers every notification with `ret`. -/
def answering (ret : Int) : RvEnv :=
  { notifyRecycled := ret, notifyFull := ret, queryExt := none, portDown := fun _ => false
    timeStamp := 0, missEstimate := 0 }

/-- The incomplete frame of the first timestamp is handed over and returned. -/
theorem frames_owned_returned :
    OneOwner (run RvCall.apply ⟨rvInit incompleteConfig, []⟩
      [.framePkt (answering 0) (firstLine 1000) .p true,
        .framePkt (answering 0) (firstLine 2000) .p true, .putFramebuff 0]) 0 := by
  refine frames_owned_once ?_ (by decide)
  refine ⟨⟨trivial, fun _ _ => ?_⟩, ⟨trivial, fun _ _ => ?_⟩, ⟨?_, trivial⟩, trivial⟩
  · decide +kernel
  · decide +kernel
  · show 0 ∈ _
    decide +kernel

/-- When the application refuses the incomplete frame instead, the frame has a
reference and no owner. -/
theorem refused_incomplete_leaks :
    rvAttach 1024 incompleteRxOps none = .ok incompleteConfig ∧
    Admitted RvCall.apply (fun state call => call.Legal state) ⟨rvInit incompleteConfig, []⟩
      [.framePkt (answering 0) (firstLine 1000) .p true,
        .framePkt (answering (-1)) (firstLine 2000) .p true] ∧
    ¬ OneOwner (run RvCall.apply ⟨rvInit incompleteConfig, []⟩
      [.framePkt (answering 0) (firstLine 1000) .p true,
        .framePkt (answering (-1)) (firstLine 2000) .p true]) 0 := by
  refine ⟨rfl, ⟨trivial, trivial, trivial⟩, ?_⟩
  generalize stateEq : run RvCall.apply ⟨rvInit incompleteConfig, []⟩
    [.framePkt (answering 0) (firstLine 1000) .p true,
      .framePkt (answering (-1)) (firstLine 2000) .p true] = state
  have refcnt : state.session.custody.refcnt 0 = 1 := by
    rw [← stateEq]
    decide +kernel
  have app : state.app = [] := by
    rw [← stateEq]
    decide +kernel
  have held : forall idx, state.session.custody.held idx ≠ some 0 := by
    intro idx
    rw [← stateEq]
    cases idx with
    | zero => decide +kernel
    | succ idx =>
      intro absurd
      cases absurd
  rintro (⟨zero, -⟩ | ⟨-, ⟨idx, holds, -⟩, -⟩ | ⟨-, -, counted⟩)
  · rw [refcnt] at zero
    cases zero
  · exact held idx holds
  · rw [app] at counted
    cases counted

/-! ## A DMA device -/

/-- What happens to a session with a DMA device, which also reports copies between packets. -/
inductive RvDmaCall where
  | framePkt (env : DmaEnv) (mbuf : RvMbuf) (port : MtlSessionPort) (ctrlThread : Bool)
  | dequeue (env : RvEnv) (nbDq : Nat)
  | putFramebuff (frame : Nat)
  | reset

def RvDmaCall.apply (state : RvDmaSession × List Nat) : RvDmaCall -> RvDmaSession × List Nat
  | .framePkt env mbuf port ctrlThread =>
    let result := rvDmaHandleFramePkt env state.1 mbuf port ctrlThread
    (result.session, state.2 ++ handed result.events)
  | .dequeue env nbDq =>
    let (session, events) := rvDmaDequeue env nbDq state.1
    (session, state.2 ++ handed events)
  | .putFramebuff frame => (state.1.withRv (rvPutFrame state.1.rv frame), state.2.erase frame)
  | .reset => (rvDmaSessionReset state.1, [])

/-- The application returns only frames that it has, and refuses no incomplete one. -/
def RvDmaCall.Fair (state : RvDmaSession × List Nat) : RvDmaCall -> Prop
  | .framePkt env mbuf _ _ =>
    rvHeaderCheck state.1.rv.cfg mbuf = none ->
    rvDmaAccepted env (state.1.withRv (rvCountRetransmit state.1.rv (rvReadLine mbuf.pkt))) mbuf.pkt.tmstamp
  | .putFramebuff frame => frame ∈ state.2
  | _ => True

theorem RvDmaCall.apply_owned {cfg : RvConfig} {state : RvDmaSession × List Nat} {call : RvDmaCall}
    (owned : PoolState.Owned cfg ⟨state.1.rv, state.2⟩) (fair : call.Fair state) :
    PoolState.Owned cfg ⟨(RvDmaCall.apply state call).1.rv, (RvDmaCall.apply state call).2⟩ := by
  cases call with
  | framePkt env mbuf port ctrlThread =>
    exact owned.passes (passes_dmaFramePkt env state.1 mbuf port ctrlThread fair)
  | dequeue env nbDq => exact owned.passes (passes_dmaSteps.dequeue env nbDq state.1)
  | putFramebuff frame => exact owned.put fair
  | reset =>
    rw [← owned.1]
    exact rvSessionReset_owned state.1.rv

theorem dma_frames_owned_once {cfg : RvConfig} {start : RvDmaSession} (fresh : start.rv = rvInit cfg)
    {calls : List RvDmaCall} (admitted : Admitted RvDmaCall.apply RvDmaCall.Fair (start, []) calls)
    {frame : Nat} (inside : frame < cfg.ops.framebuffCnt) :
    let state := run RvDmaCall.apply (start, []) calls
    OneOwner ⟨state.1.rv, state.2⟩ frame := by
  have started : PoolState.Owned cfg ⟨start.rv, []⟩ := fresh ▸ rvSessionReset_owned _
  exact (run_invariant RvDmaCall.apply _ (fun state => PoolState.Owned cfg ⟨state.1.rv, state.2⟩)
    (fun _ _ => RvDmaCall.apply_owned) started admitted).oneOwner inside

/-! ## Split headers -/

inductive RvHdrSplitCall where
  | framePkt (env : HdrSplitEnv) (mbuf : HdrSplitMbuf) (port : MtlSessionPort)
  | putFramebuff (frame : Nat)
  | reset

def RvHdrSplitCall.apply (state : RvHdrSplitSession × List Nat) :
    RvHdrSplitCall -> RvHdrSplitSession × List Nat
  | .framePkt env mbuf port =>
    let result := rvHandleHdrSplitPkt env state.1 mbuf port
    (result.session, state.2 ++ handed result.events)
  | .putFramebuff frame => (state.1.withRv (rvPutFrame state.1.rv frame), state.2.erase frame)
  | .reset => (state.1.withRv (rvSessionReset state.1.rv), [])

def RvHdrSplitCall.Fair (state : RvHdrSplitSession × List Nat) : RvHdrSplitCall -> Prop
  | .framePkt env mbuf _ =>
    rvOpens state.1.rv mbuf.pkt.tmstamp = true ->
    refusesIncomplete env.toRvEnv state.1.rv (rvNextSlot state.1.rv) = false
  | .putFramebuff frame => frame ∈ state.2
  | .reset => True

theorem RvHdrSplitCall.apply_owned {cfg : RvConfig} {state : RvHdrSplitSession × List Nat}
    {call : RvHdrSplitCall} (owned : PoolState.Owned cfg ⟨state.1.rv, state.2⟩) (fair : call.Fair state) :
    PoolState.Owned cfg ⟨(RvHdrSplitCall.apply state call).1.rv, (RvHdrSplitCall.apply state call).2⟩ := by
  cases call with
  | framePkt env mbuf port => exact owned.passes (passes_hdrSplitPkt env state.1 mbuf port fair)
  | putFramebuff frame => exact owned.put fair
  | reset =>
    rw [← owned.1]
    exact rvSessionReset_owned state.1.rv

theorem hdr_split_frames_owned_once {cfg : RvConfig} {start : RvHdrSplitSession}
    (fresh : start.rv = rvInit cfg) {calls : List RvHdrSplitCall}
    (admitted : Admitted RvHdrSplitCall.apply RvHdrSplitCall.Fair (start, []) calls)
    {frame : Nat} (inside : frame < cfg.ops.framebuffCnt) :
    let state := run RvHdrSplitCall.apply (start, []) calls
    OneOwner ⟨state.1.rv, state.2⟩ frame := by
  have started : PoolState.Owned cfg ⟨start.rv, []⟩ := fresh ▸ rvSessionReset_owned _
  exact (run_invariant RvHdrSplitCall.apply _ (fun state => PoolState.Owned cfg ⟨state.1.rv, state.2⟩)
    (fun _ _ => RvHdrSplitCall.apply_owned) started admitted).oneOwner inside

end MediaTransport.Video
