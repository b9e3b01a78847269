import MediaTransport.Anc.TxPacket

namespace MediaTransport.Pipeline

/-!
# Frames of the video transmit pipeline

A frame goes from the application over a converter to the transport and back.
The calls of the three run at the same time, and a call is interrupted wherever
it stores the state of a frame and where it calls the application, which may
call back.  What such a call has still to do is kept with the frame, or with the
pipeline for the transport's search of its next frame.  A search for a frame
loads the states one by one and claims what it finds by an exchange, and begins
again where the exchange fails; here the search and its claim are one step, the
one at which the exchange succeeds.
-/

/-- `enum st20p_tx_frame_status` -/
inductive St20pTxFrameStatus where
  | free
  | ready
  | inConverting
  | converted
  | dropped
  | inUser
  | inTransmitting
  deriving DecidableEq, Repr

/-- The calls that tell the application of a frame only after they have stored its state. -/
inductive NotifyCall where
  | frameDone
  | convertPut
  | putExt
  deriving DecidableEq, Repr

/-- `struct st20p_tx_frame`.  The fields from `use` on are what an observer knows: how often the frame
was got, whether the application and the transport have it, the running calls that have still to tell
the application, and the uses that were put, of which the application was told, and which it released. -/
structure St20pTxFrame where
  stat : St20pTxFrameStatus
  seqNumber : Nat
  frameDoneCbCalled : Bool
  tfmt : Anc.St10TimestampFmt
  timestamp : Nat
  use : Nat
  held : Bool
  sending : Bool
  toNotify : List (NotifyCall × Nat)
  puts : List Nat
  dones : List Nat
  released : List Nat

variable (frame : St20pTxFrame)

/-- The part of `struct st20p_tx_ops` and of the converter that decides what becomes of a frame;
`notifyFrameDone` says that the application has the callback. -/
structure St20pTxConfig where
  framebuffCnt : Nat
  derive : Bool
  internalConverter : Bool
  extFrame : Bool
  manualRelease : Bool
  dropWhenLate : Bool
  userPacing : Bool
  notifyFrameDone : Bool
  framePeriodNs : Nat
  converts : internalConverter = true -> derive = false

/-- What the transport's search for a frame has still to do, with the late frames it dropped so far: to
look for one, to tell the application of a late one, or to recycle it. -/
inductive NextStage where
  | scan (dropCnt : Nat)
  | late (idx : Nat) (needInUser : Bool) (dropCnt : Nat)
  | settle (idx : Nat) (needInUser : Bool) (dropCnt : Nat)
  deriving DecidableEq

/-- `struct st20p_tx_ctx` -/
structure St20pTxCtx where
  ready : Bool
  framebuffs : Nat -> St20pTxFrame
  framebuffSequenceNumber : Nat
  next : Option NextStage

variable (cfg : St20pTxConfig) (s : St20pTxCtx)

variable (idx : Nat)

/-- `ST_TX_DROP_MAX_BATCH` -/
def stTxDropMaxBatch : Nat := 80

def St20pTxCtx.setFrame (frame : St20pTxFrame) : St20pTxCtx :=
  { s with framebuffs := Function.update s.framebuffs idx frame }

/-- `tx_st20p_next_available` -/
def txSt20pNextAvailable (desired : St20pTxFrameStatus) : Option Nat :=
  (List.range cfg.framebuffCnt).find? (fun idx => decide ((s.framebuffs idx).stat = desired))

/-- `tx_st20p_newest_available`: in spite of its name the one with the oldest number. -/
def txSt20pNewestAvailable (desired : St20pTxFrameStatus) : Option Nat :=
  (List.range cfg.framebuffCnt).foldl
    (fun newest idx =>
      if (s.framebuffs idx).stat = desired ∧
          (newest.all fun other =>
            !mtSeq32Greater (s.framebuffs idx).seqNumber (s.framebuffs other).seqNumber) = true then
        some idx
      else
        newest)
    none

/-! ## Calls of the application -/

/-- The application gets a free frame. -/
def St20pTxFrame.claim (seqNumber : Nat) : St20pTxFrame :=
  { frame with
    stat := .inUser
    frameDoneCbCalled := false
    seqNumber := seqNumber
    use := frame.use + 1
    held := true }

/-- `st20p_tx_get_frame` -/
def st20pTxGetFrame : St20pTxCtx × Option Nat :=
  if !s.ready then
    (s, none)
  else
    match txSt20pNextAvailable cfg s .free with
    | none => (s, none)
    | some idx =>
      let claimed := s.setFrame idx ((s.framebuffs idx).claim s.framebuffSequenceNumber)
      ({ claimed with framebuffSequenceNumber := (s.framebuffSequenceNumber + 1) % 4294967296 },
        some idx)

/-- The frame leaves the application for the transport, with the time the application wants. -/
def St20pTxFrame.put (stat : St20pTxFrameStatus) (tfmt : Anc.St10TimestampFmt) (timestamp : Nat)
    : St20pTxFrame :=
  { frame with
    stat := stat
    tfmt := tfmt
    timestamp := timestamp
    held := false
    puts := frame.puts ++ [frame.use] }

def St20pTxFrame.discard : St20pTxFrame :=
  { frame with stat := .free, held := false }

/-- `st20p_tx_put_frame`; `userMetaTooLarge` says that the user meta exceeds its buffer. -/
def st20pTxPutFrame (tfmt : Anc.St10TimestampFmt) (timestamp : Nat) (userMetaTooLarge : Bool)
    : St20pTxCtx × Except Errno Unit :=
  let framebuff := s.framebuffs idx
  if framebuff.stat ≠ .inUser then
    (s, .error .io)
  else if cfg.extFrame then
    (s, .error .io)
  else if userMetaTooLarge then
    (s.setFrame idx framebuff.discard, .error .io)
  else
    let stat := if cfg.internalConverter || cfg.derive then .converted else .ready
    (s.setFrame idx (framebuff.put stat tfmt timestamp), .ok ())

/-- `st20p_tx_put_frame_abort` -/
def st20pTxPutFrameAbort : St20pTxCtx × Except Errno Unit :=
  let framebuff := s.framebuffs idx
  if framebuff.stat ≠ .inUser then (s, .error .io) else (s.setFrame idx framebuff.discard, .ok ())

/-- A running call has still to tell the application of this use of the frame. -/
def St20pTxFrame.oweNotify (call : NotifyCall) : St20pTxFrame :=
  { frame with toNotify := (call, frame.use) :: frame.toNotify }

/-- `st20p_tx_put_ext_frame` up to the callback; `refused` says that the transport or the check of the
external frame refuses it. -/
def st20pTxPutExtFrame (tfmt : Anc.St10TimestampFmt) (timestamp : Nat) (refused : Bool)
    : St20pTxCtx × Except Errno Unit :=
  let framebuff := s.framebuffs idx
  if !cfg.extFrame then
    (s, .error .io)
  else if framebuff.stat ≠ .inUser then
    (s, .error .io)
  else if refused then
    (s, .error .io)
  else if cfg.derive then
    (s.setFrame idx (framebuff.put .converted tfmt timestamp), .ok ())
  else if cfg.internalConverter then
    (s.setFrame idx ((framebuff.put .converted tfmt timestamp).oweNotify .putExt), .ok ())
  else
    (s.setFrame idx (framebuff.put .ready tfmt timestamp), .ok ())

/-- `st20p_tx_notify_ext_frame_free`; `use` is the use of the frame that the application releases. -/
def st20pTxNotifyExtFrameFree (idx use : Nat) : St20pTxCtx × Except Errno Unit :=
  let framebuff := s.framebuffs idx
  let framebuff := { framebuff with released := framebuff.released ++ [use] }
  if !cfg.manualRelease then
    (s.setFrame idx framebuff, .ok ())
  else if cfg.internalConverter then
    (s.setFrame idx framebuff, .ok ())
  else if framebuff.stat ≠ .inUser then
    (s.setFrame idx framebuff, .error .io)
  else
    (s.setFrame idx { framebuff with stat := .free }, .ok ())

/-! ## Callbacks to the application -/

/-- The application is told that a use of the frame is done, unless it was told before. -/
def St20pTxFrame.notifyDone (frame : St20pTxFrame) (use : Nat) : St20pTxFrame :=
  if cfg.notifyFrameDone && !frame.frameDoneCbCalled then
    { frame with frameDoneCbCalled := true, dones := frame.dones ++ [use] }
  else
    frame

/-- A call that stored the state of a frame goes on and tells the application. -/
def txSt20pNotifyFrameDone (call : NotifyCall × Nat) : St20pTxCtx :=
  let framebuff := s.framebuffs idx
  if call ∈ framebuff.toNotify then
    let framebuff := { framebuff with toNotify := framebuff.toNotify.erase call }
    s.setFrame idx (framebuff.notifyDone cfg call.2)
  else
    s

/-! ## Calls of a converter -/

/-- `tx_st20p_convert_get_frame` -/
def txSt20pConvertGetFrame : St20pTxCtx × Option Nat :=
  if !s.ready then
    (s, none)
  else
    match txSt20pNewestAvailable cfg s .ready with
    | none => (s, none)
    | some idx => (s.setFrame idx { s.framebuffs idx with stat := .inConverting }, some idx)

/-- `tx_st20p_convert_put_frame` up to the callbacks -/
def txSt20pConvertPutFrame (failed : Bool) : St20pTxCtx × Except Errno Unit :=
  let framebuff := s.framebuffs idx
  if framebuff.stat ≠ .inConverting then
    (s, .error .io)
  else
    let stat := if failed then .free else .converted
    (s.setFrame idx ({ framebuff with stat := stat }.oweNotify .convertPut), .ok ())

/-! ## Calls of the transport -/

/-- A frame waits for its release only where the application asked for it and was not told yet. -/
def St20pTxFrame.needInUser (frame : St20pTxFrame) : Bool :=
  cfg.manualRelease && !frame.frameDoneCbCalled

/-- The test of `tx_st20p_if_frame_late` -/
def txSt20pIfFrameLate (frame : St20pTxFrame) (curTai : Nat) : Bool :=
  cfg.dropWhenLate && cfg.userPacing && decide (frame.tfmt = .tai) &&
    !decide (curTai < (frame.timestamp + cfg.framePeriodNs) % 18446744073709551616)

/-- A round of `tx_st20p_next_frame`: the frame to send, or a late one to drop first. -/
def txSt20pNextScan (dropCnt curTai : Nat) : St20pTxCtx × Option Nat :=
  match txSt20pNewestAvailable cfg s .converted with
  | none => ({ s with next := none }, none)
  | some idx =>
    let framebuff := s.framebuffs idx
    if txSt20pIfFrameLate cfg framebuff curTai then
      let s := s.setFrame idx { framebuff with stat := .dropped }
      ({ s with next := some (.late idx (framebuff.needInUser cfg) dropCnt) }, none)
    else
      let s := s.setFrame idx { framebuff with stat := .inTransmitting, sending := true }
      ({ s with next := none }, some idx)

/-- `tx_st20p_next_frame`, called while no other search is running -/
def txSt20pNextFrame (curTai : Nat) : St20pTxCtx × Option Nat :=
  if !s.ready || s.next.isSome then (s, none) else txSt20pNextScan cfg s 0 curTai

/-- The search goes on: the rest of `tx_st20p_if_frame_late`, or the next round. -/
def txSt20pNextResume (curTai : Nat) : St20pTxCtx × Option Nat :=
  match s.next with
  | none => (s, none)
  | some (.scan dropCnt) => txSt20pNextScan cfg s dropCnt curTai
  | some (.late idx needInUser dropCnt) =>
    let framebuff := s.framebuffs idx
    let told := s.setFrame idx (framebuff.notifyDone cfg framebuff.use)
    ({ told with next := some (.settle idx needInUser dropCnt) }, none)
  | some (.settle idx needInUser dropCnt) =>
    let stat := if needInUser then .inUser else .free
    let s := s.setFrame idx { s.framebuffs idx with stat := stat }
    let dropCnt := dropCnt + 1
    ({ s with next := if dropCnt ≥ stTxDropMaxBatch then none else some (.scan dropCnt) }, none)

/-- `tx_st20p_frame_done` up to the callbacks; the transport gives its time with the frame. -/
def txSt20pFrameDone (tfmt : Anc.St10TimestampFmt) (timestamp : Nat) : St20pTxCtx × Except Errno Unit :=
  let framebuff := s.framebuffs idx
  let needInUser := framebuff.needInUser cfg
  let framebuff := { framebuff with tfmt := tfmt, timestamp := timestamp, sending := false }
  if framebuff.stat = .inTransmitting then
    let stat := if needInUser then .inUser else .free
    (s.setFrame idx ({ framebuff with stat := stat }.oweNotify .frameDone), .ok ())
  else
    (s.setFrame idx (framebuff.oweNotify .frameDone), .error .io)

/-! ## Runs -/

/-- The calls, and the points where a running call goes on. -/
inductive St20pTxInput where
  | getFrame
  | putFrame (idx : Nat) (tfmt : Anc.St10TimestampFmt) (timestamp : Nat) (userMetaTooLarge : Bool)
  | putFrameAbort (idx : Nat)
  | putExtFrame (idx : Nat) (tfmt : Anc.St10TimestampFmt) (timestamp : Nat) (refused : Bool)
  | notifyExtFrameFree (idx use : Nat)
  | convertGet
  | convertPut (idx : Nat) (failed : Bool)
  | nextFrame (curTai : Nat)
  | nextResume (curTai : Nat)
  | frameDone (idx : Nat) (tfmt : Anc.St10TimestampFmt) (timestamp : Nat)
  | notifyDone (idx : Nat) (call : NotifyCall × Nat)

def txSt20pStep : St20pTxInput -> St20pTxCtx
  | .getFrame => (st20pTxGetFrame cfg s).1
  | .putFrame idx tfmt timestamp tooLarge => (st20pTxPutFrame cfg s idx tfmt timestamp tooLarge).1
  | .putFrameAbort idx => (st20pTxPutFrameAbort s idx).1
  | .putExtFrame idx tfmt timestamp refused => (st20pTxPutExtFrame cfg s idx tfmt timestamp refused).1
  | .notifyExtFrameFree idx use => (st20pTxNotifyExtFrameFree cfg s idx use).1
  | .convertGet => (txSt20pConvertGetFrame cfg s).1
  | .convertPut idx failed => (txSt20pConvertPutFrame s idx failed).1
  | .nextFrame curTai => (txSt20pNextFrame cfg s curTai).1
  | .nextResume curTai => (txSt20pNextResume cfg s curTai).1
  | .frameDone idx tfmt timestamp => (txSt20pFrameDone cfg s idx tfmt timestamp).1
  | .notifyDone idx call => txSt20pNotifyFrameDone cfg s idx call

def txSt20pInit : St20pTxCtx where
  ready := true
  framebuffs := fun _ => ⟨.free, 0, false, .tai, 0, 0, false, false, [], [], [], []⟩
  framebuffSequenceNumber := 0
  next := none

/-- The application puts the frames it has, and releases a use once after it was told that it is done;
the transport is done with the frames it has. -/
def St20pTxDisciplined : St20pTxInput -> Prop
  | .putFrame idx _ _ _ => (s.framebuffs idx).held = true
  | .putFrameAbort idx => (s.framebuffs idx).held = true
  | .putExtFrame idx _ _ _ => (s.framebuffs idx).held = true
  | .notifyExtFrameFree idx use =>
    use ∈ (s.framebuffs idx).dones ∧ use ∉ (s.framebuffs idx).released
  | .frameDone idx _ _ => (s.framebuffs idx).sending = true
  | _ => True

instance (s : St20pTxCtx) (input : St20pTxInput) : Decidable (St20pTxDisciplined s input) := by
  cases input <;> dsimp only [St20pTxDisciplined] <;> infer_instance

end MediaTransport.Pipeline
