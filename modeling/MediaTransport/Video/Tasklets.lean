import MediaTransport.Util.MediaClock

namespace MediaTransport.Video

/-!
# The pacing tasklets of the video transmitter

A tasklet takes bulks of packets from the ring of its session and gives them to
the queue of the port, which accepts the first so many of a burst.  What is
refused, or not due yet, waits in a buffer of the session for a later pass.
What the clocks and the queue answer during a pass is given with the pass.
-/

/-- A packet of the ring: its number in the frame and its times.  `serial` tells packets apart. -/
structure TrsMbuf where
  serial : Nat
  idx : Nat
  tscTimeStamp : Nat
  ptpTimeStamp : Nat
  deriving DecidableEq

/-- `ST_TX_DUMMY_PKT_IDX` -/
def stTxDummyPktIdx : Nat := 0xFFFFFFFF

def TrsMbuf.dummy (pkt : TrsMbuf) : Bool := decide (pkt.idx = stTxDummyPktIdx)

def TrsMbuf.first (pkt : TrsMbuf) : Bool := decide (pkt.idx = 0)

/-- `trs_inflight` with `trs_inflight_num` and `trs_inflight_idx`, and the same for `trs_inflight2`. -/
structure TrsInflight where
  pkts : List TrsMbuf
  num : Nat
  idx : Nat

def TrsInflight.unsent (inflight : TrsInflight) : List TrsMbuf :=
  (inflight.pkts.drop inflight.idx).take inflight.num

/-- `enum st_tx_video_rl_state` -/
inductive RlState where
  | idle
  | waitWarmup
  | waitTarget
  deriving DecidableEq, Repr

/-- `enum st21_tx_pacing_way`, by the tasklets that `st_video_resolve_pacing_tasklet` chooses. -/
inductive PacingTasklet where
  | rl
  | tsc (bestEffort : Bool)
  | launchTime
  | ptp
  deriving DecidableEq, Repr

/-- The constants of a port.  `warmUpNs` is the length of its warm-up, `padDue` says after which bulks
a padding packet is due. -/
structure TrsConfig where
  tasklet : PacingTasklet
  bulk : Nat
  armed : Bool
  warmUpNs : Nat
  padDue : Nat -> Nat -> Bool
  bulk_pos : 0 < bulk
  bulk_le : bulk ≤ 4

/-- The part of `struct st_tx_video_session_impl` that the tasklets keep for a port.  The fields from
`enqueued` on are what an observer saw: the packets that were put in the ring, those that the queue
accepted, those that were freed, and whether a buffer was written while it held unsent packets. -/
structure TrsPort where
  ring : List TrsMbuf
  trsTargetTsc : Nat
  rlState : RlState
  trsPadInflightNum : Nat
  trsInflight : TrsInflight
  trsInflight2 : TrsInflight
  enqueued : List TrsMbuf
  sent : List TrsMbuf
  freed : List TrsMbuf
  overwritten : Bool

/-! ## Bursts and buffers -/

variable (cfg : TrsConfig) (s : TrsPort)

variable (pkts : List TrsMbuf) (answer : Nat)

/-- `video_trs_burst`: the queue accepts the first packets, as many as it answers. -/
def videoTrsBurst : TrsPort × Nat :=
  let tx := min answer pkts.length
  ({ s with sent := s.sent ++ pkts.take tx }, tx)

/-- The packets wait in `trs_inflight`. -/
def TrsPort.saveInflight : TrsPort :=
  { s with
    trsInflight := ⟨pkts, pkts.length, 0⟩
    overwritten := s.overwritten || decide (0 < s.trsInflight.num) }

/-- The packets wait in `trs_inflight2`. -/
def TrsPort.saveInflight2 : TrsPort :=
  { s with
    trsInflight2 := ⟨pkts, pkts.length, 0⟩
    overwritten := s.overwritten || decide (0 < s.trsInflight2.num) }

/-- The queue gets the packets that wait in `trs_inflight`. -/
def TrsPort.retryInflight : TrsPort × Nat :=
  let (s, tx) := videoTrsBurst s s.trsInflight.unsent answer
  let inflight := s.trsInflight
  ({ s with trsInflight := { inflight with num := inflight.num - tx, idx := inflight.idx + tx } }, tx)

/-- The queue gets the packets that wait in `trs_inflight2`. -/
def TrsPort.retryInflight2 : TrsPort × Nat :=
  let (s, tx) := videoTrsBurst s s.trsInflight2.unsent answer
  let inflight := s.trsInflight2
  ({ s with trsInflight2 := { inflight with num := inflight.num - tx, idx := inflight.idx + tx } }, tx)

/-- `rte_pktmbuf_free_bulk` -/
def TrsPort.free : TrsPort := { s with freed := s.freed ++ pkts }

/-- `mt_rte_ring_sc_dequeue_bulk`: all or nothing. -/
def TrsPort.dequeueBulk (bulk : Nat) : Option (List TrsMbuf × TrsPort) :=
  if s.ring.length < bulk then none else some (s.ring.take bulk, { s with ring := s.ring.drop bulk })

/-- The queue gets the packets, and what it refuses waits in `trs_inflight`. -/
def TrsPort.burstOrSave : TrsPort :=
  let (s, tx) := videoTrsBurst s pkts answer
  if tx < pkts.length then s.saveInflight (pkts.drop tx) else s

/-! ## Rate limit -/

/-- What the clock and the queue answer in a pass of the rate limit tasklet, in the order of the calls:
`warmUpPads` and `latePads` are the padding packets of a warm-up that were refused, `preArmed` says that
the shaper could be armed. -/
structure RlAnswers where
  inflight2Tx : Nat
  warmUpTsc : Nat
  preArmed : Bool
  warmUpPads : Nat
  padTx : Nat
  targetTsc : Nat
  inflightTx : Nat
  curTsc : Nat
  beforeTx : Nat
  beforePadTx : Nat
  latePads : Nat
  bulkTx : Nat
  bulkPadTx : Nat

/-- A padding packet behind a bulk where one is due; one that is refused is sent later. -/
def TrsPort.insertPad (padAnswer : Nat) : TrsPort :=
  match pkts with
  | [] => s
  | pkt :: _ =>
    if cfg.padDue pkt.idx pkts.length && decide (padAnswer < 1) then
      { s with trsPadInflightNum := s.trsPadInflightNum + 1 }
    else
      s

/-- `video_burst_packet`: what is refused waits in one of the buffers; then a padding packet may be due. -/
def videoBurstPacket (useTwo : Bool) (answer padAnswer : Nat) : TrsPort :=
  let (s, tx) := videoTrsBurst s pkts answer
  let s :=
    if tx < pkts.length then
      if useTwo then s.saveInflight2 (pkts.drop tx) else s.saveInflight (pkts.drop tx)
    else
      s
  s.insertPad cfg pkts padAnswer

/-- `video_trs_rl_target_reached`: the time is there, or may not be waited for in this pass. -/
def videoTrsRlTargetReached (curTsc targetTsc : Nat) : Bool := decide (curTsc ≥ targetTsc)

/-- `video_trs_rl_frame_start`, with the padding packets that were refused. -/
def videoTrsRlFrameStart (preArmed : Bool) (refused : Nat) : TrsPort :=
  let s := { s with trsPadInflightNum := s.trsPadInflightNum + refused }
  if !cfg.armed then
    { s with rlState := .waitTarget }
  else if !preArmed then
    { s with rlState := .waitTarget }
  else
    { s with rlState := .idle, trsTargetTsc := 0 }

/-- `ST_TX_VIDEO_RL_MAX_PADS_PER_BURST` -/
def stTxVideoRlMaxPadsPerBurst : Nat := 32

/-- The padding packets that were refused are sent again; the queue may accept some. -/
def videoTrsRlRetryPads : TrsPort × Nat :=
  let n := if cfg.armed then min s.trsPadInflightNum stTxVideoRlMaxPadsPerBurst else 1
  let tx := min answer n
  ({ s with trsPadInflightNum := s.trsPadInflightNum - tx }, tx)

/-- The part of `_video_trs_rl_tasklet` that sends a bulk from the ring; the flag says that the pass
may go on with another one. -/
def videoTrsRlBulk (a : RlAnswers) : TrsPort × Bool :=
  let before := pkts.takeWhile (fun pkt => !(pkt.first || pkt.dummy))
  match pkts.dropWhile (fun pkt => !(pkt.first || pkt.dummy)) with
  -- the bulk goes on with a frame
  | [] => (videoBurstPacket cfg s pkts false a.bulkTx a.bulkPadTx, true)
  | pkt :: rest =>
    if pkt.dummy then
      let s := videoBurstPacket cfg s before false a.beforeTx a.beforePadTx
      (s.free (pkt :: rest), false)
    else
      let s :=
        if before.length ≠ 0 then videoBurstPacket cfg s before true a.beforeTx a.beforePadTx else s
      let targetTsc := pkt.tscTimeStamp
      if a.curTsc < targetTsc ∨ 0 < s.trsInflight2.num then
        let delta := Int.bmod ((targetTsc : Int) - a.curTsc) 18446744073709551616
        if delta ≤ nsPerS ∨ 0 < s.trsInflight2.num then
          let s := { s with trsTargetTsc := targetTsc, rlState := .waitWarmup }
          (s.saveInflight (pkt :: rest), false)
        else
          -- a target too far away is an error, and the frame is sent at once
          (videoBurstPacket cfg s (pkt :: rest) false a.bulkTx a.bulkPadTx, true)
      else
        let s := { s with trsPadInflightNum := s.trsPadInflightNum + a.latePads }
        let s := { s with rlState := .idle, trsTargetTsc := 0 }
        (videoBurstPacket cfg s (pkt :: rest) false a.bulkTx a.bulkPadTx, true)

/-- The part of `_video_trs_rl_tasklet` behind the wait for the target: what waits, or a new bulk. -/
def videoTrsRlSend (a : RlAnswers) : TrsPort × Bool :=
  if 0 < s.trsInflight.num then
    let (s, tx) := s.retryInflight a.inflightTx
    (s, decide (0 < tx))
  else
    match s.dequeueBulk cfg.bulk with
    | none => (s, false)
    | some (pkts, s) => videoTrsRlBulk cfg s pkts a

/-- The part of `_video_trs_rl_tasklet` behind the warm-up: the padding packets, and the target. -/
def videoTrsRlTarget (targetTsc : Nat) (a : RlAnswers) : TrsPort × Bool :=
  if 0 < s.trsPadInflightNum then
    let (s, tx) := videoTrsRlRetryPads cfg s a.padTx
    (s, decide (0 < tx))
  else if s.rlState = .waitTarget then
    if !videoTrsRlTargetReached a.targetTsc targetTsc then
      (s, false)
    else
      videoTrsRlSend cfg { s with rlState := .idle, trsTargetTsc := 0 } a
  else
    videoTrsRlSend cfg s a

/-- `_video_trs_rl_tasklet`; the flag is a positive `ret_status`. -/
def videoTrsRlTaskletOnce (a : RlAnswers) : TrsPort × Bool :=
  if 0 < s.trsInflight2.num then
    let (s, tx) := s.retryInflight2 a.inflight2Tx
    (s, decide (0 < tx))
  else
    let targetTsc := s.trsTargetTsc
    if s.rlState = .waitWarmup then
      let warmUpTsc := if targetTsc > cfg.warmUpNs then targetTsc - cfg.warmUpNs else 0
      if !videoTrsRlTargetReached a.warmUpTsc warmUpTsc then
        (s, false)
      else
        videoTrsRlTarget cfg (videoTrsRlFrameStart cfg s a.preArmed a.warmUpPads) targetTsc a
    else
      videoTrsRlTarget cfg s targetTsc a

/-- `video_trs_rl_tasklet`: a pass that sent something is followed by another one. -/
def videoTrsRlTasklet (a again : RlAnswers) : TrsPort :=
  let (s, more) := videoTrsRlTaskletOnce cfg s a
  if more then (videoTrsRlTaskletOnce cfg s again).1 else s

/-! ## Clocks -/

/-- What the clock and the queue answer in a pass of the other tasklets. -/
structure TrsAnswers where
  pending : Nat
  inflightTx : Nat
  cur : Nat
  bulkTx : Nat

def notReached (cur target : Nat) : Bool :=
  decide (cur < target) && decide (target - cur ≤ nsPerS)

/-- The bulk without its dummies, with its time: `video_trs_tsc_tasklet` and `video_trs_ptp_tasklet`
behind the dequeue.  `anyTime` says that a bulk that does not begin a frame is sent at any time. -/
def videoTrsClockBulk (timeOf : TrsMbuf -> Nat) (anyTime : Bool) (s : TrsPort) (pkts : List TrsMbuf)
    (a : TrsAnswers) : TrsPort :=
  let valid := pkts.takeWhile (fun pkt => !pkt.dummy)
  let s := s.free (pkts.dropWhile (fun pkt => !pkt.dummy))
  match pkts with
  | [] => s
  | pkt :: _ =>
    if (!anyTime || pkt.first) && notReached a.cur (timeOf pkt) then
      ({ s with trsTargetTsc := timeOf pkt }).saveInflight valid
    else
      s.burstOrSave valid a.bulkTx

/-- `video_trs_tsc_tasklet` and `video_trs_ptp_tasklet`, which differ in their clock and in the bulks of
the best effort pacing. -/
def videoTrsClockTasklet (timeOf : TrsMbuf -> Nat) (anyTime : Bool) (bulk : Nat) (s : TrsPort)
    (a : TrsAnswers) : TrsPort :=
  if s.trsTargetTsc ≠ 0 ∧ notReached a.pending s.trsTargetTsc = true then
    s
  else
    let s := { s with trsTargetTsc := 0 }
    if 0 < s.trsInflight.num then
      (s.retryInflight a.inflightTx).1
    else
      match s.dequeueBulk bulk with
      | none => s
      | some (pkts, s) => videoTrsClockBulk timeOf anyTime s pkts a

/-- `video_trs_tsc_tasklet`; the best effort pacing takes single packets. -/
def videoTrsTscTasklet (bestEffort : Bool) (s : TrsPort) (a : TrsAnswers) : TrsPort :=
  videoTrsClockTasklet TrsMbuf.tscTimeStamp bestEffort (if bestEffort then 1 else cfg.bulk) s a

/-- `video_trs_ptp_tasklet` -/
def videoTrsPtpTasklet (a : TrsAnswers) : TrsPort :=
  videoTrsClockTasklet TrsMbuf.ptpTimeStamp false cfg.bulk s a

/-- `video_trs_launch_time_tasklet` -/
def videoTrsLaunchTimeTasklet (a : TrsAnswers) : TrsPort :=
  if 0 < s.trsInflight.num then
    (s.retryInflight a.inflightTx).1
  else
    match s.dequeueBulk cfg.bulk with
    | none => s
    | some (pkts, s) =>
      let valid := pkts.takeWhile (fun pkt => !pkt.dummy)
      let s := s.free (pkts.dropWhile (fun pkt => !pkt.dummy))
      if valid.length > 0 then s.burstOrSave valid a.bulkTx else s

/-! ## Runs -/

/-- The builder puts a bulk in the ring, or the tasklet of the port makes a pass. -/
inductive TrsInput where
  | enqueue (pkts : List TrsMbuf)
  | rlPass (a again : RlAnswers)
  | pass (a : TrsAnswers)

def trsStep : TrsInput -> TrsPort
  | .enqueue pkts => { s with ring := s.ring ++ pkts, enqueued := s.enqueued ++ pkts }
  | .rlPass a again =>
    match cfg.tasklet with
    | .rl => videoTrsRlTasklet cfg s a again
    | _ => s
  | .pass a =>
    match cfg.tasklet with
    | .rl => s
    | .tsc bestEffort => videoTrsTscTasklet cfg bestEffort s a
    | .launchTime => videoTrsLaunchTimeTasklet cfg s a
    | .ptp => videoTrsPtpTasklet cfg s a

def trsInit : TrsPort where
  ring := []
  trsTargetTsc := 0
  rlState := .idle
  trsPadInflightNum := 0
  trsInflight := ⟨[], 0, 0⟩
  trsInflight2 := ⟨[], 0, 0⟩
  enqueued := []
  sent := []
  freed := []
  overwritten := false

/-- The builder puts in whole bulks, in which all packets behind a dummy are dummies. -/
def BuilderBulk : Prop :=
  pkts.length = cfg.bulk ∧
    (pkts.dropWhile (fun pkt => !pkt.dummy)).all (fun pkt => pkt.dummy) = true

instance (cfg : TrsConfig) (pkts : List TrsMbuf) : Decidable (BuilderBulk cfg pkts) :=
  inferInstanceAs (Decidable (_ ∧ _))

def TrsBuilt : TrsInput -> Prop
  | .enqueue pkts => BuilderBulk cfg pkts
  | _ => True

instance (cfg : TrsConfig) (input : TrsInput) : Decidable (TrsBuilt cfg input) := by
  cases input <;> dsimp only [TrsBuilt] <;> infer_instance

end MediaTransport.Video
