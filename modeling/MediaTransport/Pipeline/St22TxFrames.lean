import MediaTransport.Pipeline.TxFrames

namespace MediaTransport.Pipeline

/-!
# Frames of the compressed video transmit pipeline

A frame goes from the application over an encoder to the transport and back.
As in the raw pipeline the calls run at the same time, and the transport's
search is interrupted wherever it stores the state of a late frame.  The loads
of a search and the exchange that claims its frame are one step here too.
-/

/-- `enum st22p_tx_frame_status` -/
inductive St22pTxFrameStatus where
  | free
  | inUser
  | ready
  | inEncoding
  | encoded
  | dropped
  | inTransmitting
  deriving DecidableEq, Repr

/-- `struct st22p_tx_frame`, with what decides whether the frame is late. -/
structure St22pTxFrame where
  stat : St22pTxFrameStatus
  seqNumber : Nat
  frameDoneCbCalled : Bool
  tfmt : Anc.St10TimestampFmt
  timestamp : Nat

/-- The part of `struct st22p_tx_ops` and of the encoder that decides what becomes of a frame. -/
structure St22pTxConfig where
  framebuffCnt : Nat
  derive : Bool
  extFrame : Bool
  dropWhenLate : Bool
  userPacing : Bool
  notifyFrameDone : Bool
  framePeriodNs : Nat
  codestreamMaxSize : Nat

/-- What the transport's search has still to do, with the late frames it dropped so far: to look for a
frame, to tell the application of a late one, or to recycle it. -/
inductive St22NextStage where
  | scan (dropCnt : Nat)
  | late (idx dropCnt : Nat)
  | settle (idx dropCnt : Nat)
  deriving DecidableEq

/-- `struct st22p_tx_ctx` -/
structure St22pTxCtx where
  ready : Bool
  framebuffs : Nat -> St22pTxFrame
  framebuffSequenceNumber : Nat
  next : Option St22NextStage

variable (cfg : St22pTxConfig) (s : St22pTxCtx)

variable (idx : Nat)

/-- `ST22_ENCODE_MIN_FRAME_SZ`: five packets of at most 1352 bytes. -/
def st22EncodeMinFrameSz : Nat := (4 + 1) * 1352

def St22pTxCtx.setFrame (frame : St22pTxFrame) : St22pTxCtx :=
  { s with framebuffs := Function.update s.framebuffs idx frame }

def St22pTxCtx.setStat (stat : St22pTxFrameStatus) : St22pTxCtx :=
  s.setFrame idx { s.framebuffs idx with stat := stat }

/-- `tx_st22p_next_available` -/
def txSt22pNextAvailable (desired : St22pTxFrameStatus) : Option Nat :=
  (List.range cfg.framebuffCnt).find? (fun idx => decide ((s.framebuffs idx).stat = desired))

/-- `tx_st22p_newest_available`: in spite of its name the one with the oldest number. -/
def txSt22pNewestAvailable (desired : St22pTxFrameStatus) : Option Nat :=
  (List.range cfg.framebuffCnt).foldl
    (fun newest idx =>
      if (s.framebuffs idx).stat = desired ∧
          (newest.all fun other =>
            !mtSeq32Greater (s.framebuffs idx).seqNumber (s.framebuffs other).seqNumber) = true then
        some idx
      else
        newest)
    none

/-- `tx_st22p_claim_available` -/
def txSt22pClaimAvailable (desired claimed : St22pTxFrameStatus) : St22pTxCtx × Option Nat :=
  match txSt22pNextAvailable cfg s desired with
  | none => (s, none)
  | some idx => (s.setStat idx claimed, some idx)

/-! ## Calls of the application -/

/-- `st22p_tx_get_frame` -/
def st22pTxGetFrame : St22pTxCtx × Option Nat :=
  if !s.ready then
    (s, none)
  else
    match txSt22pClaimAvailable cfg s .free .inUser with
    | (s, none) => (s, none)
    | (s, some idx) =>
      let framebuff :=
        { s.framebuffs idx with
          frameDoneCbCalled := false
          seqNumber := s.framebuffSequenceNumber }
      ({ s.setFrame idx framebuff with
          framebuffSequenceNumber := (s.framebuffSequenceNumber + 1) % 4294967296 },
        some idx)

/-- `st22p_tx_put_frame`, with the time that the application wrote to the frame. -/
def st22pTxPutFrame (tfmt : Anc.St10TimestampFmt) (timestamp : Nat) : St22pTxCtx × Except Errno Unit :=
  let framebuff := s.framebuffs idx
  if framebuff.stat ≠ .inUser then
    (s, .error .io)
  else if cfg.extFrame then
    (s, .error .io)
  else
    let stat := if cfg.derive then .encoded else .ready
    (s.setFrame idx { framebuff with stat := stat, tfmt := tfmt, timestamp := timestamp }, .ok ())

/-- `st22p_tx_put_frame_abort` -/
def st22pTxPutFrameAbort : St22pTxCtx × Except Errno Unit :=
  if (s.framebuffs idx).stat ≠ .inUser then (s, .error .io) else (s.setStat idx .free, .ok ())

/-- `st22p_tx_put_ext_frame`; `insane` says that `st_frame_sanity_check` refuses the external frame. -/
def st22pTxPutExtFrame (tfmt : Anc.St10TimestampFmt) (timestamp : Nat) (insane : Bool)
    : St22pTxCtx × Except Errno Unit :=
  let framebuff := s.framebuffs idx
  if !cfg.extFrame then
    (s, .error .io)
  else if cfg.derive then
    (s, .error .io)
  else if framebuff.stat ≠ .inUser then
    (s, .error .io)
  else if insane then
    (s, .error .inval)
  else
    (s.setFrame idx { framebuff with stat := .ready, tfmt := tfmt, timestamp := timestamp }, .ok ())

/-! ## Calls of an encoder -/

/-- `tx_st22p_encode_get_frame` -/
def txSt22pEncodeGetFrame : St22pTxCtx × Option Nat :=
  if !s.ready then (s, none) else txSt22pClaimAvailable cfg s .ready .inEncoding

/-- `tx_st22p_encode_put_frame` -/
def txSt22pEncodePutFrame (result : Int) (dataSize : Nat) : St22pTxCtx × Except Errno Unit :=
  if (s.framebuffs idx).stat ≠ .inEncoding then
    (s, .error .io)
  else if result < 0 ∨ dataSize ≤ st22EncodeMinFrameSz ∨ dataSize > cfg.codestreamMaxSize then
    (s.setStat idx .free, .ok ())
  else
    (s.setStat idx .encoded, .ok ())

/-! ## Calls of the transport -/

/-- The test of `tx_st22p_if_frame_late` -/
def txSt22pIfFrameLate (frame : St22pTxFrame) (curTai : Nat) : Bool :=
  cfg.dropWhenLate && cfg.userPacing && decide (frame.tfmt = .tai) &&
    !decide (curTai < (frame.timestamp + cfg.framePeriodNs) % 18446744073709551616)

/-- A round of `tx_st22p_next_frame`: the frame to send, or a late one to drop first. -/
def txSt22pNextScan (dropCnt curTai : Nat) : St22pTxCtx × Option Nat :=
  match txSt22pNewestAvailable cfg s .encoded with
  | none => ({ s with next := none }, none)
  | some idx =>
    if txSt22pIfFrameLate cfg (s.framebuffs idx) curTai then
      ({ s.setStat idx .dropped with next := some (.late idx dropCnt) }, none)
    else
      ({ s.setStat idx .inTransmitting with next := none }, some idx)

/-- `tx_st22p_next_frame`, called while no other search is running -/
def txSt22pNextFrame (curTai : Nat) : St22pTxCtx × Option Nat :=
  if !s.ready || s.next.isSome then (s, none) else txSt22pNextScan cfg s 0 curTai

/-- The search goes on: the rest of `tx_st22p_if_frame_late`, or the next round. -/
def txSt22pNextResume (curTai : Nat) : St22pTxCtx × Option Nat :=
  match s.next with
  | none => (s, none)
  | some (.scan dropCnt) => txSt22pNextScan cfg s dropCnt curTai
  | some (.late idx dropCnt) =>
    let framebuff := s.framebuffs idx
    let called := framebuff.frameDoneCbCalled || cfg.notifyFrameDone
    let told := s.setFrame idx { framebuff with frameDoneCbCalled := called }
    ({ told with next := some (.settle idx dropCnt) }, none)
  | some (.settle idx dropCnt) =>
    let dropCnt := dropCnt + 1
    ({ s.setStat idx .free with
        next := if dropCnt ≥ stTxDropMaxBatch then none else some (.scan dropCnt) }, none)

/-- `tx_st22p_frame_done`; the transport gives its time with the frame. -/
def txSt22pFrameDone (tfmt : Anc.St10TimestampFmt) (timestamp : Nat) : St22pTxCtx × Except Errno Unit :=
  let framebuff := s.framebuffs idx
  let framebuff :=
    { framebuff with
      tfmt := tfmt
      timestamp := timestamp
      frameDoneCbCalled := framebuff.frameDoneCbCalled || cfg.notifyFrameDone }
  if framebuff.stat = .inTransmitting then
    (s.setFrame idx { framebuff with stat := .free }, .ok ())
  else
    (s.setFrame idx framebuff, .error .io)

/-! ## Runs -/

/-- The calls, and the points where the transport's search goes on. -/
inductive St22pTxInput where
  | getFrame
  | putFrame (idx : Nat) (tfmt : Anc.St10TimestampFmt) (timestamp : Nat)
  | putFrameAbort (idx : Nat)
  | putExtFrame (idx : Nat) (tfmt : Anc.St10TimestampFmt) (timestamp : Nat) (insane : Bool)
  | encodeGet
  | encodePut (idx : Nat) (result : Int) (dataSize : Nat)
  | nextFrame (curTai : Nat)
  | nextResume (curTai : Nat)
  | frameDone (idx : Nat) (tfmt : Anc.St10TimestampFmt) (timestamp : Nat)

def txSt22pStep : St22pTxInput -> St22pTxCtx
  | .getFrame => (st22pTxGetFrame cfg s).1
  | .putFrame idx tfmt timestamp => (st22pTxPutFrame cfg s idx tfmt timestamp).1
  | .putFrameAbort idx => (st22pTxPutFrameAbort s idx).1
  | .putExtFrame idx tfmt timestamp insane => (st22pTxPutExtFrame cfg s idx tfmt timestamp insane).1
  | .encodeGet => (txSt22pEncodeGetFrame cfg s).1
  | .encodePut idx result dataSize => (txSt22pEncodePutFrame cfg s idx result dataSize).1
  | .nextFrame curTai => (txSt22pNextFrame cfg s curTai).1
  | .nextResume curTai => (txSt22pNextResume cfg s curTai).1
  | .frameDone idx tfmt timestamp => (txSt22pFrameDone cfg s idx tfmt timestamp).1

def txSt22pInit : St22pTxCtx where
  ready := true
  framebuffs := fun _ => ⟨.free, 0, false, .tai, 0⟩
  framebuffSequenceNumber := 0
  next := none

end MediaTransport.Pipeline
