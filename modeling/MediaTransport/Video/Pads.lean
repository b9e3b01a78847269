import Mathlib.Data.Rat.Floor
import MediaTransport.Video.Tasklets

namespace MediaTransport.Video

/-!
# The pads of the rate limit tasklet

All pads of a port are the same few buffers, given to the queue again and again, each
time with a reference of its own.  Pads are due in front of a frame, to warm the shaper
up or to arm it, and behind some bulks; what the queue refuses is owed as one more
normal pad.  A time of type `long double` is a rational number here.
-/

/-! ## Pads -/

/-- The pads of a port: `pad[ST20_PKT_TYPE_NORMAL]` and the two of `trim_pad`. -/
inductive RlPadKind where
  | normal
  | coarse
  | fine
  deriving DecidableEq, Repr

/-- What a pad is queued for. -/
inductive RlPadUse where
  | warmUp
  | preArm
  | interval
  deriving DecidableEq, Repr

structure RlPad where
  kind : RlPadKind
  use : RlPadUse
  deriving DecidableEq, Repr

def RlPad.inFront (pad : RlPad) : Bool := decide (pad.use ≠ .interval)

/-- The buffer of a pad: its reference count, and how often the queue has accepted it. -/
structure RlPadBuf where
  refs : Int
  accepted : Nat
  deriving DecidableEq

/-- The constants of a port with the ones of its pads: `pacing->trs`, `pacing->warm_pkts` and `rl_plan`. -/
structure RlPadConfig extends TrsConfig where
  trs : Rat
  warmPkts : Nat
  padNs : Rat
  bucketNs : Rat
  padSize : Nat
  trs_pos : 0 < trs
  warmUp_eq : warmUpNs = ⌊warmPkts * trs⌋.toNat
  padNs_pos : armed = true -> 0 < padNs

/-- A port with its pads.  `refused`, `retried` and `waiting` are the pads that the queue refused, those of
them that it accepted later, and those that are still owed; `jumped` says whether the first packet of a frame
was given to the queue while a pad queued in front of a frame was owed. -/
structure RlPadPort where
  port : TrsPort
  normal : RlPadBuf
  coarse : RlPadBuf
  fine : RlPadBuf
  troffsetMismatch : Nat
  recalculateWarmup : Nat
  refused : List RlPad
  retried : List RlPad
  waiting : List RlPad
  jumped : Bool

variable (cfg : RlPadConfig) (s : RlPadPort)

/-- `video_trs_rl_pads_ref` -/
def RlPadPort.padsRef (coarse fine normal : Int) : RlPadPort :=
  { s with
    coarse := { s.coarse with refs := s.coarse.refs + coarse }
    fine := { s.fine with refs := s.fine.refs + fine }
    normal := { s.normal with refs := s.normal.refs + normal } }

def RlPadPort.accept (pads : List RlPad) : RlPadPort :=
  let count (kind : RlPadKind) := (pads.filter fun pad => decide (pad.kind = kind)).length
  { s with
    coarse := { s.coarse with accepted := s.coarse.accepted + count .coarse }
    fine := { s.fine with accepted := s.fine.accepted + count .fine }
    normal := { s.normal with accepted := s.normal.accepted + count .normal } }

/-- `video_trs_burst_pad`: the queue accepts the first pads, as many as it answers. -/
def RlPadPort.burstPads (pads : List RlPad) (answer : Nat) : RlPadPort × Nat :=
  let tx := min answer pads.length
  let s := s.accept (pads.take tx)
  ({ s with
      refused := s.refused ++ pads.drop tx
      waiting := s.waiting ++ pads.drop tx }, tx)

def RlPadPort.owe (n : Nat) : RlPadPort :=
  { s with port := { s.port with trsPadInflightNum := s.port.trsPadInflightNum + n } }

def RlPadPort.handOver (pkts : List TrsMbuf) : RlPadPort :=
  { s with jumped := s.jumped || (pkts.any TrsMbuf.first && s.waiting.any RlPad.inFront) }

/-- `stat_trans_recalculate_warmup` counts the times that a plan is made again. -/
def RlPadPort.recalculate (again : Bool) : RlPadPort :=
  if again then { s with recalculateWarmup := s.recalculateWarmup + 1 } else s

/-! ## Warm-up -/

/-- A number of type `long double` as an `int64_t` -/
def truncRat (value : Rat) : Int := value.num.tdiv value.den

/-- The difference of two times, as an `int64_t`. -/
def tscDelta (targetTsc tsc : Nat) : Int := Int.bmod ((targetTsc : Int) - tsc) 18446744073709551616

/-- What the clock and the queue answer during a warm-up: the time before each pad, and the pad. -/
structure RlWarmUpAnswers where
  tsc : Nat -> Nat
  padTx : Nat -> Nat

/-- `video_trs_rl_pkts_needed` -/
def videoTrsRlPktsNeeded (targetTsc tsc : Nat) : Int :=
  truncRat ((tscDelta targetTsc tsc + cfg.trs - 1) / cfg.trs)

def RlPadPort.burstNormal (use : RlPadUse) (answer : Nat) : RlPadPort :=
  let s := s.padsRef 0 0 1
  let (s, tx) := s.burstPads [⟨.normal, use⟩] answer
  if tx < 1 then s.owe 1 else s

/-- The loop of `video_trs_rl_warm_up`; each round takes one of the pads that are needed. -/
def videoTrsRlWarmUpLoop (cfg : RlPadConfig) (targetTsc : Nat) (a : RlWarmUpAnswers) :
    Nat -> Nat -> Int -> RlPadPort -> RlPadPort
  | 0, _, _, s => s
  | fuel + 1, sent, pktsNeeded, s =>
    if pktsNeeded > 0 then
      let s := s.burstNormal .warmUp (a.padTx sent)
      let remaining := videoTrsRlPktsNeeded cfg targetTsc (a.tsc (sent + 1))
      let s := s.recalculate (decide (remaining < pktsNeeded - 1))
      videoTrsRlWarmUpLoop cfg targetTsc a fuel (sent + 1) (min (pktsNeeded - 1) remaining) s
    else
      s

/-- `video_trs_rl_warm_up` -/
def videoTrsRlWarmUp (a : RlWarmUpAnswers) : RlPadPort :=
  let targetTsc := s.port.trsTargetTsc
  if targetTsc = 0 then
    s
  else
    let pktsNeeded := videoTrsRlPktsNeeded cfg targetTsc (a.tsc 0)
    if pktsNeeded < 0 ∨ pktsNeeded > cfg.warmPkts then
      { s with troffsetMismatch := s.troffsetMismatch + 1 }
    else
      videoTrsRlWarmUpLoop cfg targetTsc a pktsNeeded.toNat 0 pktsNeeded s

/-! ## Pre-arm -/

/-- `ST_TX_VIDEO_RL_STALL_NS` -/
def stTxVideoRlStallNs : Nat := 2000

/-- `ST_TX_VIDEO_RL_TRIM_COARSE` and `ST_TX_VIDEO_RL_TRIM_FINE` -/
def stTxVideoRlTrimCoarse : Nat := 64

def stTxVideoRlTrimFine : Nat := 8

/-- `st_tx_video_rl_trim_pads` -/
def stTxVideoRlTrimPads (padSize : Nat) : Int :=
  min (padSize / stTxVideoRlTrimCoarse + stTxVideoRlTrimCoarse / stTxVideoRlTrimFine : Nat)
    stTxVideoRlMaxPadsPerBurst

/-- `struct st_tx_video_rl_burst` -/
structure StTxVideoRlBurst where
  n : Nat
  coarse : Nat
  fine : Nat
  last : Bool
  deriving DecidableEq

variable (b : StTxVideoRlBurst) (pkts : List TrsMbuf) (answer : Nat)

/-- `st_tx_video_rl_next_burst` -/
def stTxVideoRlNextBurst (drain : Rat) (padSize : Nat) (trimPads : Int) (launch drained : Rat) :
    StTxVideoRlBurst :=
  let needed := ⌈(launch - drained) / drain⌉
  if needed ≤ trimPads then
    let n := needed.toNat
    let cut := ⌊(n * drain - (launch - drained)) * padSize / drain⌋.toNat
    let coarse := min (cut / stTxVideoRlTrimCoarse) n
    { n := n
      coarse := coarse
      fine := min ((cut - coarse * stTxVideoRlTrimCoarse) / stTxVideoRlTrimFine) (n - coarse)
      last := true }
  else
    { n := (min (needed - trimPads) stTxVideoRlMaxPadsPerBurst).toNat, coarse := 0, fine := 0, last := false }

/-- `st_tx_video_rl_burst_ns` -/
def StTxVideoRlBurst.ns (drain : Rat) (padSize : Nat) : Rat :=
  let cut := b.coarse * stTxVideoRlTrimCoarse + b.fine * stTxVideoRlTrimFine
  b.n * drain - cut * drain / padSize

/-- The pads of a burst, trimmed by `video_trs_rl_trim`. -/
def StTxVideoRlBurst.pads : List RlPad :=
  List.replicate b.coarse ⟨.coarse, .preArm⟩ ++ List.replicate b.fine ⟨.fine, .preArm⟩ ++
    List.replicate (b.n - b.coarse - b.fine) ⟨.normal, .preArm⟩

/-- A burst of `video_trs_rl_pre_arm`; a trim pad that is refused is owed as a normal one. -/
def RlPadPort.preArmBurst : RlPadPort × Nat :=
  let s := s.padsRef b.coarse b.fine ((b.n - b.coarse - b.fine : Nat) : Int)
  let (s, tx) := s.burstPads b.pads answer
  let s :=
    if tx < b.coarse + b.fine then
      let coarse : Int := b.coarse - min b.coarse tx
      let fine : Int := b.coarse + b.fine - max b.coarse tx
      s.padsRef (-coarse) (-fine) (coarse + fine)
    else
      s
  (s.owe (b.n - tx), tx)

/-- What the clock and the queue answer during a pre-arm: the time at first, and of each round the time at
its start, the pads that are accepted and the time behind them. -/
structure RlPreArmAnswers where
  entryTsc : Nat
  startTsc : Nat -> Nat
  burstTx : Nat -> Nat
  succTsc : Nat -> Nat

def tooFewPads (targetTsc : Nat) (drained : Rat) : Bool :=
  decide (⌈(targetTsc - drained) / cfg.padNs⌉ < stTxVideoRlTrimPads cfg.padSize)

def caughtUp (drained start : Rat) : Rat := if drained < start then start else drained

/-- The loop of `video_trs_rl_pre_arm`, with `hold`. -/
def videoTrsRlPreArmLoop (cfg : RlPadConfig) (targetTsc : Nat) (a : RlPreArmAnswers) :
    Nat -> Nat -> RlPadPort -> Rat -> Nat -> Bool -> RlPadPort × Bool
  | 0, _, s, _, _, hold => (s, hold)
  | fuel + 1, round, s, drained, sent, hold =>
    let start : Rat := a.startTsc round - cfg.bucketNs
    let idle := decide (drained < start) && decide (sent ≠ 0)
    let drained := caughtUp drained start
    let s := s.recalculate idle
    if idle && tooFewPads cfg targetTsc drained then
      (s, true)
    else if targetTsc ≤ drained then
      (s, hold)
    else
      let b := stTxVideoRlNextBurst cfg.padNs cfg.padSize (stTxVideoRlTrimPads cfg.padSize) targetTsc drained
      let (s, tx) := s.preArmBurst b (a.burstTx round)
      let latest : Rat := a.succTsc round - cfg.bucketNs
      let stalled := decide (tx ≠ 0) && decide (drained + stTxVideoRlStallNs < latest)
      let s := s.recalculate stalled
      let drained := (if stalled then latest else drained) + b.ns cfg.padNs cfg.padSize
      if b.last then
        (s, hold || stalled)
      else
        videoTrsRlPreArmLoop cfg targetTsc a fuel (round + 1) s drained (sent + b.n) (hold || stalled)

def preArmRounds (targetTsc : Nat) (drained : Rat) : Nat :=
  ⌈(targetTsc - drained) / cfg.padNs⌉.toNat

/-- `video_trs_rl_pre_arm` -/
def videoTrsRlPreArm (a : RlPreArmAnswers) : RlPadPort × Bool :=
  let targetTsc := s.port.trsTargetTsc
  if targetTsc = 0 then
    (s, false)
  else
    let gap := tscDelta targetTsc a.entryTsc
    if gap > cfg.warmPkts * cfg.trs ∨ gap ≤ 1 - 2 * cfg.trs then
      ({ s with troffsetMismatch := s.troffsetMismatch + 1 }, false)
    else if gap ≤ 0 then
      (s, false)
    else
      let drained : Rat := (((targetTsc : Int) - gap) % 18446744073709551616 : Int) - cfg.bucketNs
      if tooFewPads cfg targetTsc drained then
        (s, false)
      else
        let (s, hold) :=
          videoTrsRlPreArmLoop cfg targetTsc a (preArmRounds cfg targetTsc drained + 1) 0 s drained 0 false
        (s, !hold)

/-! ## Passes -/

/-- What the clock and the queue answer in a pass, in the order of the calls. -/
structure RlPadAnswers where
  inflight2Tx : Nat
  warmUpTsc : Nat
  warmUp : RlWarmUpAnswers
  preArm : RlPreArmAnswers
  padTx : Nat
  targetTsc : Nat
  inflightTx : Nat
  curTsc : Nat
  beforeTx : Nat
  beforePadTx : Nat
  late : RlWarmUpAnswers
  bulkTx : Nat
  bulkPadTx : Nat

/-- The padding packet of `video_burst_packet`. -/
def RlPadPort.insertPad : RlPadPort :=
  match pkts with
  | [] => s
  | pkt :: _ => if cfg.padDue pkt.idx pkts.length then s.burstNormal .interval answer else s

/-- `video_burst_packet` -/
def RlPadPort.burstPacket (useTwo : Bool) (answer padAnswer : Nat) : RlPadPort :=
  let s := s.handOver pkts
  let (port, tx) := videoTrsBurst s.port pkts answer
  let port :=
    if tx < pkts.length then
      if useTwo then port.saveInflight2 (pkts.drop tx) else port.saveInflight (pkts.drop tx)
    else
      port
  RlPadPort.insertPad cfg { s with port := port } pkts padAnswer

/-- `video_trs_rl_frame_start`, with the state that the port goes to. -/
def RlPadPort.frameStart (a : RlPadAnswers) : RlPadPort :=
  if !cfg.armed then
    let s := videoTrsRlWarmUp cfg s a.warmUp
    { s with port := { s.port with rlState := .waitTarget } }
  else
    let (s, armed) := videoTrsRlPreArm cfg s a.preArm
    if !armed then
      { s with port := { s.port with rlState := .waitTarget } }
    else
      { s with port := { s.port with rlState := .idle, trsTargetTsc := 0 } }

/-- The pads that are owed are sent again, all as normal ones. -/
def RlPadPort.retryPads : RlPadPort × Nat :=
  let n := if cfg.armed then min s.port.trsPadInflightNum stTxVideoRlMaxPadsPerBurst else 1
  let tx := min answer n
  ({ s with
      port := { s.port with trsPadInflightNum := s.port.trsPadInflightNum - tx }
      normal := { s.normal with accepted := s.normal.accepted + tx }
      retried := s.retried ++ s.waiting.take tx
      waiting := s.waiting.drop tx }, tx)

/-- `video_trs_rl_set_idle` -/
def RlPadPort.setIdle : RlPadPort :=
  { s with port := { s.port with rlState := .idle, trsTargetTsc := 0 } }

/-- A bulk from the ring. -/
def RlPadPort.sendBulk (a : RlPadAnswers) : RlPadPort × Bool :=
  let before := pkts.takeWhile (fun pkt => !(pkt.first || pkt.dummy))
  match pkts.dropWhile (fun pkt => !(pkt.first || pkt.dummy)) with
  -- the bulk goes on with a frame
  | [] => (s.burstPacket cfg pkts false a.bulkTx a.bulkPadTx, true)
  | pkt :: rest =>
    if pkt.dummy then
      let s := s.burstPacket cfg before false a.beforeTx a.beforePadTx
      ({ s with port := s.port.free (pkt :: rest) }, false)
    else
      let s := if before.length ≠ 0 then s.burstPacket cfg before true a.beforeTx a.beforePadTx else s
      let targetTsc := pkt.tscTimeStamp
      if a.curTsc < targetTsc ∨ 0 < s.port.trsInflight2.num then
        if tscDelta targetTsc a.curTsc ≤ nsPerS ∨ 0 < s.port.trsInflight2.num then
          let port := { s.port with trsTargetTsc := targetTsc, rlState := .waitWarmup }
          ({ s with port := port.saveInflight (pkt :: rest) }, false)
        else
          -- a target too far away is an error, and the frame is sent at once
          (s.burstPacket cfg (pkt :: rest) false a.bulkTx a.bulkPadTx, true)
      else
        let s := videoTrsRlWarmUp cfg { s with port := { s.port with trsTargetTsc := targetTsc } } a.late
        (s.setIdle.burstPacket cfg (pkt :: rest) false a.bulkTx a.bulkPadTx, true)

/-- What waits, or a bulk from the ring. -/
def RlPadPort.send (a : RlPadAnswers) : RlPadPort × Bool :=
  if 0 < s.port.trsInflight.num then
    let s := s.handOver s.port.trsInflight.unsent
    let (port, tx) := s.port.retryInflight a.inflightTx
    ({ s with port := port }, decide (0 < tx))
  else
    match s.port.dequeueBulk cfg.bulk with
    | none => (s, false)
    | some (pkts, port) => RlPadPort.sendBulk cfg { s with port := port } pkts a

/-- The pads that are owed, and the target. -/
def RlPadPort.target (targetTsc : Nat) (a : RlPadAnswers) : RlPadPort × Bool :=
  if 0 < s.port.trsPadInflightNum then
    let (s, tx) := s.retryPads cfg a.padTx
    (s, decide (0 < tx))
  else if s.port.rlState = .waitTarget then
    if !videoTrsRlTargetReached a.targetTsc targetTsc then
      (s, false)
    else
      s.setIdle.send cfg a
  else
    s.send cfg a

/-- `_video_trs_rl_tasklet`; the flag is a positive `ret_status`. -/
def RlPadPort.taskletOnce (a : RlPadAnswers) : RlPadPort × Bool :=
  if 0 < s.port.trsInflight2.num then
    let s := s.handOver s.port.trsInflight2.unsent
    let (port, tx) := s.port.retryInflight2 a.inflight2Tx
    ({ s with port := port }, decide (0 < tx))
  else
    let targetTsc := s.port.trsTargetTsc
    if s.port.rlState = .waitWarmup then
      let warmUpTsc := if targetTsc > cfg.warmUpNs then targetTsc - cfg.warmUpNs else 0
      if !videoTrsRlTargetReached a.warmUpTsc warmUpTsc then
        (s, false)
      else
        (s.frameStart cfg a).target cfg targetTsc a
    else
      s.target cfg targetTsc a

/-- `video_trs_rl_tasklet`: a pass that sent something is followed by another one. -/
def RlPadPort.tasklet (a again : RlPadAnswers) : RlPadPort :=
  let (s, more) := s.taskletOnce cfg a
  if more then (s.taskletOnce cfg again).1 else s

/-- The builder puts a bulk in the ring, or the tasklet makes a pass. -/
inductive RlPadInput where
  | enqueue (pkts : List TrsMbuf)
  | pass (a again : RlPadAnswers)

def rlPadStep : RlPadInput -> RlPadPort
  | .enqueue pkts =>
    { s with port := { s.port with ring := s.port.ring ++ pkts, enqueued := s.port.enqueued ++ pkts } }
  | .pass a again => s.tasklet cfg a again

def rlPadInit : RlPadPort where
  port := trsInit
  normal := ⟨1, 0⟩
  coarse := ⟨1, 0⟩
  fine := ⟨1, 0⟩
  troffsetMismatch := 0
  recalculateWarmup := 0
  refused := []
  retried := []
  waiting := []
  jumped := false

end MediaTransport.Video
