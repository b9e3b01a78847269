import MediaTransport.Anc.TxPacket
import MediaTransport.Library.Run

namespace MediaTransport.Audio

open Anc (TaskletRet)

/-!
# The rate limited transmit of an audio session

Each packet goes to a queue of its port with three pads behind it, and after so many
packets the other queue has its turn.  The first packet of a turn waits for its time,
and pads that warm the queue up go ahead of it.  A packet that is refused waits, and so
do refused pads; what the clock and the queues answer is given with the pass.
-/

/-- A packet of the ring with its time and its length; `serial` tells packets apart. -/
structure RlAudioPkt where
  serial : Nat
  tsc : Nat
  pktLen : Nat
  deriving DecidableEq

/-- `ST30_TX_RL_QUEUES_USED` -/
def st30TxRlQueuesUsed : Nat := 2

/-- `ST30_TX_RL_PADS_PER_PKT` -/
def st30TxRlPadsPerPkt : Nat := 3

/-- `struct st_tx_audio_session_rl_info`, with the time of a packet and the offset that the user has set. -/
structure TxAudioRlInfo where
  padPktLen : Nat
  pktsPerSync : Nat
  pktsPrepareWarmup : Nat
  requiredAccuracyNs : Nat
  maxWarmupTrs : Nat
  trs : Nat
  rlOffsetNs : Int
  sync_pos : 0 < pktsPerSync
  trs_pos : 0 < trs

variable (rl : TxAudioRlInfo)

/-- What a burst consists of: a packet, the pads behind it or one of them again, a pad of the preparation,
or a packet of the warm-up pattern and the pads behind it. -/
inductive RlBurstKind where
  | packet (pkt : RlAudioPkt)
  | pads
  | retry
  | prepare
  | pattern
  | patternPad
  deriving DecidableEq

/-- A call of `mt_txq_burst`: the queue accepts `tx` of what it gets. -/
structure RlBurst where
  queue : Nat
  kind : RlBurstKind
  tried : Nat
  tx : Nat
  deriving DecidableEq

/-- `stat_transmit_ret_code` -/
inductive RlTrsRet where
  | burstInflightFail
  | burstPadInflightFail
  | dequeueFail
  | burstFail
  deriving DecidableEq, Repr

/-- `struct st_tx_audio_session_rl_port`, with the ring of the port and its counters.  `kept` are packets that
the builder could not put in the ring yet; `built` and `bursts` are what an observer saw. -/
structure TxAudioRlPort where
  curQueue : Nat
  curPktIdx : Nat
  trsTargetTsc : Nat
  trsPadInflightNum : Nat
  forceSyncFirstTsc : Bool
  statPktsBurst : Nat
  statPadPktsBurst : Nat
  statWarmupPktsBurst : Nat
  statMismatchSyncPoint : Nat
  statRecalculateWarmup : Nat
  statHitBackupCp : Nat
  packets : Nat
  bytes : Nat
  padRefs : Nat
  patternRefs : Nat
  transRingInflight : Option RlAudioPkt
  ring : List RlAudioPkt
  kept : List RlAudioPkt
  retCode : Option RlTrsRet
  built : List RlAudioPkt
  bursts : List RlBurst
  deriving DecidableEq

variable (port : TxAudioRlPort)

/-- What the queue answers during a call of `tx_audio_session_rl_warmup_pkt`, burst by burst. -/
structure RlWarmupAnswers where
  prepareTx : Nat -> Nat
  patternTx : Nat -> Nat
  patternPadTx : Nat -> Nat -> Nat

/-- What the clock and the queue answer while one packet is tried: the time at first, the preparation, the
rounds of the warm-up with the time behind each, the packet, and its pads. -/
structure RlSendAnswers where
  curTsc : Nat
  prepare : RlWarmupAnswers
  round : Nat -> RlWarmupAnswers
  roundTsc : Nat -> Nat
  pktTx : Nat
  padsTx : Nat

/-- The answers of a pass: for the packet that waits, for a pad that waits, and for a packet of the ring. -/
structure RlPassAnswers where
  pending : RlSendAnswers
  retryTx : Nat
  fresh : RlSendAnswers

/-! ## Bursts -/

/-- `mt_txq_burst` to the queue in turn -/
def TxAudioRlPort.burst (kind : RlBurstKind) (n answer : Nat) : TxAudioRlPort × Nat :=
  let tx := min answer n
  ({ port with bursts := port.bursts ++ [⟨port.curQueue, kind, n, tx⟩] }, tx)

/-- `tx_audio_session_rl_switch_queue` -/
def TxAudioRlPort.switchQueue : TxAudioRlPort :=
  let curQueue := port.curQueue + 1
  { port with curQueue := if curQueue ≥ st30TxRlQueuesUsed then 0 else curQueue }

/-- `tx_audio_session_rl_inc_pkt_idx` -/
def txAudioSessionRlIncPktIdx (port : TxAudioRlPort) : TxAudioRlPort :=
  let port := { port with curPktIdx := port.curPktIdx + 1 }
  if port.curPktIdx ≥ rl.pktsPerSync then
    { port with curPktIdx := 0 }.switchQueue
  else
    port

/-- `tx_audio_session_rl_tx_pkt`; the flag is what it returns. -/
def txAudioSessionRlTxPkt (port : TxAudioRlPort) (pkt : RlAudioPkt) (a : RlSendAnswers) :
    TxAudioRlPort × Bool :=
  let (port, tx) := port.burst (.packet pkt) 1 a.pktTx
  if tx < 1 then
    (port, false)
  else
    let port :=
      { port with
        statPktsBurst := port.statPktsBurst + 1
        packets := port.packets + 1
        bytes := port.bytes + pkt.pktLen
        padRefs := port.padRefs + st30TxRlPadsPerPkt }
    let (port, tx) := port.burst .pads st30TxRlPadsPerPkt a.padsTx
    let port :=
      { port with
        statPadPktsBurst := port.statPadPktsBurst + tx
        packets := port.packets + tx
        bytes := port.bytes + rl.padPktLen * tx }
    if tx ≠ st30TxRlPadsPerPkt then
      ({ port with trsPadInflightNum := st30TxRlPadsPerPkt - tx }, true)
    else
      (txAudioSessionRlIncPktIdx rl port, true)

/-- Single pads, one burst each; what the queue answers is not looked at. -/
def TxAudioRlPort.burstPads (kind : RlBurstKind) (n : Nat) (answers : Nat -> Nat) : TxAudioRlPort :=
  (List.range n).foldl (fun port k => (port.burst kind 1 (answers k)).1) port

def TxAudioRlPort.burstPattern (a : RlWarmupAnswers) (k : Nat) : TxAudioRlPort :=
  let port := { port with patternRefs := port.patternRefs + 1 }
  let port := (port.burst .pattern 1 (a.patternTx k)).1
  let port := { port with padRefs := port.padRefs + st30TxRlPadsPerPkt }
  port.burstPads .patternPad st30TxRlPadsPerPkt (a.patternPadTx k)

def TxAudioRlPort.countWarmup (port : TxAudioRlPort) (n : Nat) : TxAudioRlPort :=
  { port with
    statWarmupPktsBurst := port.statWarmupPktsBurst + n
    packets := port.packets + n
    bytes := port.bytes + rl.padPktLen * n }

/-- `tx_audio_session_rl_warmup_pkt` -/
def txAudioSessionRlWarmupPkt (port : TxAudioRlPort) (pre pkts : Nat) (a : RlWarmupAnswers)
    : TxAudioRlPort :=
  let port := { port with padRefs := port.padRefs + pre }
  let port := (port.burstPads .prepare pre a.prepareTx).countWarmup rl pre
  let port := (List.range pkts).foldl (fun port k => port.burstPattern a k) port
  port.countWarmup rl (pkts * st30TxRlPadsPerPkt)

/-! ## The first packet -/

/-- `target_tsc` of `tx_audio_session_rl_first_pkt` -/
def TxAudioRlPort.targetTsc (port : TxAudioRlPort) : Nat :=
  (((port.trsTargetTsc : Int) + rl.rlOffsetNs) % 18446744073709551616).toNat

def deltaTsc (targetTsc tsc : Nat) : Nat := (((targetTsc : Int) - tsc) % 4294967296).toNat

/-- What the time says about the first packet: it is late, it waits, or it is warmed up for in so many
rounds. -/
inductive RlFirstPlan where
  | late
  | wait
  | warmup (rounds : Nat)
  deriving DecidableEq

/-- The checks of `tx_audio_session_rl_first_pkt`. -/
def TxAudioRlPort.firstPlan (port : TxAudioRlPort) (curTsc : Nat) : RlFirstPlan :=
  let targetTsc := port.targetTsc rl
  if curTsc > targetTsc then
    .late
  else if port.forceSyncFirstTsc then
    .wait
  else
    let delta := deltaTsc targetTsc curTsc
    if delta / rl.trs > rl.maxWarmupTrs then
      .wait
    else if delta % rl.trs > rl.requiredAccuracyNs then
      .wait
    else
      .warmup (delta / rl.trs)

def RlSendAnswers.mismatch (targetTsc : Nat) (a : RlSendAnswers) (i : Nat) : Bool :=
  decide (deltaTsc targetTsc (a.roundTsc i) / rl.trs < i)

/-- The rounds of the warm-up; the flag is false when they are given up. -/
def rlWarmupRounds (rl : TxAudioRlInfo) (targetTsc : Nat) (a : RlSendAnswers) :
    Nat -> TxAudioRlPort -> TxAudioRlPort × Bool
  | 0, port => (port, true)
  | i + 1, port =>
    let port := txAudioSessionRlWarmupPkt rl port 0 1 (a.round (i + 1))
    if a.mismatch rl targetTsc (i + 1) then
      -- the next sync point is tried
      ({ port with
          statRecalculateWarmup := port.statRecalculateWarmup + 1
          forceSyncFirstTsc := true }, false)
    else
      rlWarmupRounds rl targetTsc a i port

/-- `tx_audio_session_rl_first_pkt` -/
def txAudioSessionRlFirstPkt (port : TxAudioRlPort) (pkt : RlAudioPkt) (a : RlSendAnswers)
    : TxAudioRlPort × Bool :=
  match port.firstPlan rl a.curTsc with
  | .late =>
    let port :=
      { port with
        trsTargetTsc := 0
        statMismatchSyncPoint := port.statMismatchSyncPoint + 1
        forceSyncFirstTsc := false }
    txAudioSessionRlTxPkt rl (txAudioSessionRlWarmupPkt rl port rl.pktsPrepareWarmup 0 a.prepare) pkt a
  | .wait => (port, false)
  | .warmup rounds =>
    let targetTsc := port.targetTsc rl
    let port :=
      if rounds ≠ rl.maxWarmupTrs then { port with statHitBackupCp := port.statHitBackupCp + 1 } else port
    let port := txAudioSessionRlWarmupPkt rl port rl.pktsPrepareWarmup 0 a.prepare
    let (port, through) := rlWarmupRounds rl targetTsc a rounds port
    if through then
      txAudioSessionRlTxPkt rl { port with trsTargetTsc := 0 } pkt a
    else
      (port, false)

/-! ## Passes -/

def TxAudioRlPort.trySend (port : TxAudioRlPort) (first : Bool) (pkt : RlAudioPkt) (a : RlSendAnswers)
    : TxAudioRlPort × Bool :=
  if first then txAudioSessionRlFirstPkt rl port pkt a else txAudioSessionRlTxPkt rl port pkt a

/-- The packet that waits; the flag is false when the pass ends with it. -/
def TxAudioRlPort.sendPending (port : TxAudioRlPort) (a : RlSendAnswers) : TxAudioRlPort × Bool :=
  match port.transRingInflight with
  | none => (port, true)
  | some pkt =>
    let (port, tx) := port.trySend rl (decide (port.trsTargetTsc ≠ 0)) pkt a
    if !tx then
      ({ port with retCode := some .burstInflightFail }, false)
    else
      ({ port with transRingInflight := none }, true)

def TxAudioRlPort.retryPad (port : TxAudioRlPort) (answer : Nat) : TxAudioRlPort :=
  let (port, tx) := port.burst .retry 1 answer
  let port := { port with trsPadInflightNum := port.trsPadInflightNum - tx }
  let port := if tx < 1 then { port with retCode := some .burstPadInflightFail } else port
  if port.trsPadInflightNum = 0 then txAudioSessionRlIncPktIdx rl port else port

/-- A packet is taken from the ring and tried. -/
def TxAudioRlPort.sendFresh (port : TxAudioRlPort) (a : RlSendAnswers) : TxAudioRlPort :=
  match port.ring with
  | [] => { port with retCode := some .dequeueFail }
  | pkt :: rest =>
    let port := { port with ring := rest }
    let first := decide (port.curPktIdx = 0)
    let port := if first then { port with trsTargetTsc := pkt.tsc } else port
    let (port, tx) := port.trySend rl first pkt a
    if !tx then
      { port with transRingInflight := some pkt, retCode := some .burstFail }
    else
      port

/-- `tx_audio_session_tasklet_rl_transmit`, with what it returns. -/
def txAudioSessionTaskletRlTransmit (port : TxAudioRlPort) (a : RlPassAnswers) :
    TxAudioRlPort × TaskletRet :=
  let (port, through) := port.sendPending rl a.pending
  if !through then
    (port, .allDone)
  else if 0 < port.trsPadInflightNum then
    (port.retryPad rl a.retryTx, .hasPending)
  else
    (port.sendFresh rl a.fresh, .allDone)

/-- The builder builds a packet and counts it, it puts one in the ring, or the tasklet makes a pass. -/
inductive RlAudioInput where
  | build (pkt : RlAudioPkt)
  | put
  | pass (a : RlPassAnswers)

def rlAudioStep (port : TxAudioRlPort) : RlAudioInput -> TxAudioRlPort
  | .build pkt =>
    { port with
      packets := port.packets + 1
      bytes := port.bytes + pkt.pktLen
      kept := port.kept ++ [pkt]
      built := port.built ++ [pkt] }
  | .put =>
    match port.kept with
    | [] => port
    | pkt :: rest => { port with ring := port.ring ++ [pkt], kept := rest }
  | .pass a => (txAudioSessionTaskletRlTransmit rl port a).1

/-- A port after `tx_audio_session_init_rl`, which holds its pad. -/
def rlAudioInit : TxAudioRlPort where
  curQueue := 0
  curPktIdx := 0
  trsTargetTsc := 0
  trsPadInflightNum := 0
  forceSyncFirstTsc := false
  statPktsBurst := 0
  statPadPktsBurst := 0
  statWarmupPktsBurst := 0
  statMismatchSyncPoint := 0
  statRecalculateWarmup := 0
  statHitBackupCp := 0
  packets := 0
  bytes := 0
  padRefs := 1
  patternRefs := 1
  transRingInflight := none
  ring := []
  kept := []
  retCode := none
  built := []
  bursts := []

/-! ## What the bursts amount to -/

/-- The packets that were accepted, the pads accepted behind them at once and later, the pads accepted for a
warm-up, and the pads of a warm-up that were refused. -/
structure RlAccount where
  sent : List RlAudioPkt
  pads : Nat
  retried : Nat
  warm : Nat
  refused : Nat
  deriving DecidableEq

def RlAccount.add (account : RlAccount) (burst : RlBurst) : RlAccount :=
  match burst.kind with
  | .packet pkt => if burst.tx = 0 then account else { account with sent := account.sent ++ [pkt] }
  | .pads => { account with pads := account.pads + burst.tx }
  | .retry => { account with retried := account.retried + burst.tx }
  | .pattern => account
  | .prepare | .patternPad =>
    { account with
      warm := account.warm + burst.tx
      refused := account.refused + (burst.tried - burst.tx) }

def rlAccount (bursts : List RlBurst) : RlAccount := bursts.foldl RlAccount.add ⟨[], 0, 0, 0, 0⟩

def RlAccount.padsAccepted (account : RlAccount) : Nat := account.pads + account.retried + account.warm

def TxAudioRlPort.account : RlAccount := rlAccount port.bursts

def TxAudioRlInfo.queueOf (pkts : Nat) : Nat := pkts / rl.pktsPerSync % st30TxRlQueuesUsed

def TxAudioRlPort.completed : Nat :=
  port.account.sent.length - if 0 < port.trsPadInflightNum then 1 else 0

/-- A burst in its place: a packet, and the warm-up for it, when all pads of the packets before are accepted;
everything to the queue whose turn it is. -/
def RlAccount.Places (account : RlAccount) (burst : RlBurst) : Prop :=
  match burst.kind with
  | .pads | .retry => burst.queue = rl.queueOf (account.sent.length - 1)
  | _ =>
    account.pads + account.retried = st30TxRlPadsPerPkt * account.sent.length ∧
      burst.queue = rl.queueOf account.sent.length

def BurstsInOrder (bursts : List RlBurst) : Prop :=
  forall before burst after, bursts = before ++ burst :: after -> (rlAccount before).Places rl burst

/-! ## What is promised -/

/-- What is promised of a port: each packet that was built is accepted once, in order, or waits; packets come
after the pads of the ones before; a turn has its number of packets; and the references and the counter are
those of what was accepted. -/
structure RlTransmitRight (rl : TxAudioRlInfo) (port : TxAudioRlPort) : Prop where
  once : port.account.sent ++ (port.transRingInflight.toList ++ port.ring ++ port.kept) = port.built
  inOrder : BurstsInOrder rl port.bursts
  index : port.curPktIdx = port.completed % rl.pktsPerSync
  queue : port.curQueue = rl.queueOf port.completed
  refs : port.padRefs = 1 + port.account.padsAccepted + port.trsPadInflightNum
  packets : port.packets = port.built.length + port.account.padsAccepted

def RlWarmupAnswers.TakesAll (a : RlWarmupAnswers) (pre pkts : Nat) : Prop :=
  (∀ k < pre, 0 < a.prepareTx k) ∧
    ∀ k < pkts, ∀ j < st30TxRlPadsPerPkt, 0 < a.patternPadTx k j

def RlSendAnswers.RoundsTaken (rl : TxAudioRlInfo) (targetTsc : Nat) (a : RlSendAnswers) : Nat -> Prop
  | 0 => True
  | i + 1 =>
    (a.round (i + 1)).TakesAll 0 1 ∧
      (a.mismatch rl targetTsc (i + 1) = false -> a.RoundsTaken rl targetTsc i)

def RlSendAnswers.roundsGo (rl : TxAudioRlInfo) (targetTsc : Nat) (a : RlSendAnswers) : Nat -> Bool
  | 0 => true
  | i + 1 => !a.mismatch rl targetTsc (i + 1) && a.roundsGo rl targetTsc i

/-- All pads of the warm-up that this try makes are accepted. -/
def TxAudioRlPort.WarmupTaken (port : TxAudioRlPort) (first : Bool) (a : RlSendAnswers) : Prop :=
  first = true ->
    match port.firstPlan rl a.curTsc with
    | .late => a.prepare.TakesAll rl.pktsPrepareWarmup 0
    | .wait => True
    | .warmup rounds =>
      a.prepare.TakesAll rl.pktsPrepareWarmup 0 ∧ a.RoundsTaken rl (port.targetTsc rl) rounds

/-- The packet is given to the queue in this try, and the queue accepts it. -/
def TxAudioRlPort.goesOut (port : TxAudioRlPort) (first : Bool) (a : RlSendAnswers) : Bool :=
  decide (0 < a.pktTx) &&
    (!first ||
      match port.firstPlan rl a.curTsc with
      | .late => true
      | .wait => false
      | .warmup rounds => a.roundsGo rl (port.targetTsc rl) rounds)

def TxAudioRlPort.aimed (pkt : RlAudioPkt) : TxAudioRlPort :=
  if port.curPktIdx = 0 then { port with trsTargetTsc := pkt.tsc } else port

/-- No pad of a warm-up is refused.  A packet that waits is accepted only when some of its pads are refused
and one of them is accepted in the same pass; a pad that waits longer, or a packet from the ring, is
not accepted. -/
def RlPassCounted (port : TxAudioRlPort) (a : RlPassAnswers) : Prop :=
  match port.transRingInflight with
  | some _ =>
    let first := decide (port.trsTargetTsc ≠ 0)
    port.WarmupTaken rl first a.pending ∧
      (port.goesOut rl first a.pending = true -> a.pending.padsTx < st30TxRlPadsPerPkt ∧ 0 < a.retryTx)
  | none =>
    if 0 < port.trsPadInflightNum then
      a.retryTx = 0
    else
      match port.ring with
      | [] => True
      | pkt :: _ =>
        let first := decide (port.curPktIdx = 0)
        (port.aimed pkt).WarmupTaken rl first a.fresh ∧ (port.aimed pkt).goesOut rl first a.fresh = false

def RlAudioInput.Counted (port : TxAudioRlPort) : RlAudioInput -> Prop
  | .pass a => RlPassCounted rl port a
  | _ => True

end MediaTransport.Audio
