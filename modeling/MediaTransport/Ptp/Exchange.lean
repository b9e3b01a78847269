import MediaTransport.Library.Word
import MediaTransport.Util.Errno

namespace MediaTransport.Ptp

open Library

/-!
# The delay request exchange of the PTP client

The client takes four times: the master sends a Sync (t1) that arrives here (t2),
and a delay request leaves here (t3) and arrives at the master (t4).  The times
come with four events: the Sync, its Follow_Up, the transmit timestamp of the
request, which an alarm polls for, and the Delay_Resp.  Alarms are counted, and
one that was cancelled does not fire.

A message or an alarm is one step, although alarms fire in a thread of their own: the
last two of the four times can come in together, and the claim on the result, which one
of the two handlers gets, is what keeps the steps apart.
-/

/-- A result that was applied to the clock, for an observer: the four times, the sequence ids of the
Follow_Up and of the Sync that t1 and t2 are from, the numbers of the delay requests that t3 and t4 are
of, and the number of the Sync. -/
structure PtpResult where
  t1 : Nat
  t2 : Nat
  t3 : Nat
  t4 : Nat
  t1SequenceId : Nat
  t2SequenceId : Nat
  t3Request : Nat
  t4Request : Nat
  sync : Nat
  deriving DecidableEq

/-- `struct mt_ptp_impl`, with the counts of its alarms.  The fields from `syncs` on are what an observer
knows: how many Syncs came, what t1, t3 and t4 are from, every delay request with the number of Syncs
before it or `none` when it could not be sent, and the results. -/
structure MtPtpImpl (PortId : Type) where
  masterPortId : Option PortId
  ourPortId : PortId
  t1 : Nat
  t2 : Nat
  t3 : Nat
  t4 : Nat
  t2SequenceId : Nat
  t3SequenceId : Nat
  t3Pending : Bool
  t3PendingSeq : Nat
  t3DeadlineNs : Nat
  resultClaimed : Bool
  expectResultPeriodNs : Nat
  delayReqAlarms : Nat
  readTxTimeAlarms : Nat
  syncTimeoutAlarms : Nat
  syncs : Nat
  t1From : Nat
  t3From : Nat
  t4From : Nat
  requests : List (Option Nat)
  results : List PtpResult
  deriving DecidableEq

/-- `struct mt_ptp_tmstamp` in host order -/
structure MtPtpTmstamp where
  secMsb : Nat
  secLsb : Nat
  ns : Nat
  deriving DecidableEq

/-- What `ptp_parse_result` makes of a result that it computed from: whether it is near enough to the
expected ones, and the period that it then expects. -/
structure PtpVerdict where
  accepted : Bool
  periodNs : Nat
  deriving DecidableEq

/-- The messages that `mt_ptp_parse` handles, with sequence ids in host order.  A response comes with the
number of the request that it answers, and a Sync with the time at which it was received. -/
inductive PtpMsg (PortId : Type) where
  | sync (sequenceId rxNs : Nat)
  | followUp (sequenceId : Nat) (preciseOrigin : MtPtpTmstamp) (correctionField : Nat)
  | delayResp (sequenceId : Nat) (receive : MtPtpTmstamp) (correctionField : Nat)
      (requestingPortIdentity : PortId) (request : Nat)
  | announce
  | other
  deriving DecidableEq

variable {PortId : Type}

variable (ptp : MtPtpImpl PortId)

/-- `ptp_net_tmstamp_to_ns` -/
def ptpNetTmstampToNs (ts : MtPtpTmstamp) : Nat :=
  (ts.secLsb + ts.secMsb * 4294967296) * 1000000000 + ts.ns

/-- `MT_PTP_DELAY_REQ_TX_TS_DEADLINE_US` -/
def mtPtpDelayReqTxTsDeadlineUs : Nat := 2000

/-- `ptp_t_result_clear` -/
def MtPtpImpl.tResultClear : MtPtpImpl PortId :=
  { ptp with t1 := 0, t2 := 0, t3 := 0, t4 := 0 }

/-- The result that the four times make up. -/
def MtPtpImpl.result : PtpResult where
  t1 := ptp.t1
  t2 := ptp.t2
  t3 := ptp.t3
  t4 := ptp.t4
  t1SequenceId := ptp.t1From
  t2SequenceId := ptp.t2SequenceId
  t3Request := ptp.t3From
  t4Request := ptp.t4From
  sync := ptp.syncs

/-- `ptp_parse_result` -/
def ptpParseResult (verdict : PtpVerdict) : MtPtpImpl PortId :=
  let cancelled := { ptp with syncTimeoutAlarms := 0 }
  if verdict.accepted then
    { cancelled.tResultClear with
      expectResultPeriodNs := verdict.periodNs
      results := ptp.results ++ [ptp.result] }
  else
    cancelled.tResultClear

/-- `ptp_try_complete_result` -/
def ptpTryCompleteResult (verdict : PtpVerdict) : MtPtpImpl PortId :=
  if ptp.t1 = 0 ∨ ptp.t2 = 0 ∨ ptp.t3 = 0 ∨ ptp.t4 = 0 then
    ptp
  else if ptp.resultClaimed then
    ptp
  else
    ptpParseResult { ptp with resultClaimed := true } verdict

/-! ## Alarms -/

/-- The read of the transmit timestamp gives a time that can be one of this cycle. -/
def MtPtpImpl.takesTxTime (success : Bool) (txNs : Nat) : Bool :=
  decide (0 < ptp.readTxTimeAlarms) && ptp.t3Pending && decide (ptp.t3SequenceId = ptp.t3PendingSeq) &&
    success && decide (ptp.t2 < txNs)

/-- `ptp_delay_req_read_tx_time_handler`; `request` is the number of the delay request whose time the
device gives. -/
def ptpDelayReqReadTxTimeHandler (success : Bool) (txNs request now : Nat) (verdict : PtpVerdict)
    : MtPtpImpl PortId :=
  if ptp.readTxTimeAlarms = 0 then
    ptp
  else
    let fired := { ptp with readTxTimeAlarms := ptp.readTxTimeAlarms - 1 }
    if !ptp.t3Pending then
      fired
    else if ptp.t3SequenceId ≠ ptp.t3PendingSeq then
      { fired with t3Pending := false }
    else if success && decide (ptp.t2 < txNs) then
      ptpTryCompleteResult { fired with t3 := txNs, t3From := request, t3Pending := false } verdict
    else if now < ptp.t3DeadlineNs then
      { fired with readTxTimeAlarms := fired.readTxTimeAlarms + 1 }
    else
      { fired with t3Pending := false }.tResultClear

def MtPtpImpl.makesRequest (allocated : Bool) : Bool :=
  decide (0 < ptp.delayReqAlarms) && decide (ptp.t3 = 0) && allocated

/-- `ptp_delay_req_handler` with `ptp_delay_req_task` -/
def ptpDelayReqHandler (allocated sent : Bool) (now : Nat) : MtPtpImpl PortId :=
  if ptp.delayReqAlarms = 0 then
    ptp
  else
    let fired := { ptp with delayReqAlarms := ptp.delayReqAlarms - 1 }
    if ptp.t3 ≠ 0 then
      fired
    else if !allocated then
      fired
    else
      let numbered := { fired with
        t3SequenceId := u16 (ptp.t3SequenceId + 1)
        requests := ptp.requests ++ [if sent then some ptp.syncs else none] }
      if !sent then
        numbered
      else
        { numbered with
          t3Pending := true
          t3PendingSeq := numbered.t3SequenceId
          t3DeadlineNs := now + mtPtpDelayReqTxTsDeadlineUs * 1000
          readTxTimeAlarms := ptp.readTxTimeAlarms + 1 }

/-- `ptp_sync_timeout_handler` -/
def ptpSyncTimeoutHandler : MtPtpImpl PortId :=
  if ptp.syncTimeoutAlarms = 0 then
    ptp
  else
    { ptp with syncTimeoutAlarms := ptp.syncTimeoutAlarms - 1 }.tResultClear

/-! ## Messages -/

/-- The start of `ptp_parse_sync`, where a period is expected: a pending cycle is dropped and the timeout
is set again. -/
def ptpSyncMonitor : MtPtpImpl PortId :=
  if ptp.expectResultPeriodNs / 1000 / 2 = 0 then
    ptp
  else
    { (if ptp.t2 ≠ 0 then ptp.tResultClear else ptp) with syncTimeoutAlarms := 1 }

/-- `ptp_parse_sync` -/
def ptpParseSync (sequenceId rxNs : Nat) : MtPtpImpl PortId :=
  { (ptpSyncMonitor ptp).tResultClear with
    delayReqAlarms := 0
    readTxTimeAlarms := 0
    t3Pending := false
    resultClaimed := false
    t2 := rxNs
    t2SequenceId := sequenceId
    syncs := ptp.syncs + 1 }

/-- `ptp_parse_follow_up` -/
def ptpParseFollowUp (sequenceId : Nat) (preciseOrigin : MtPtpTmstamp) (correctionField : Nat)
    : MtPtpImpl PortId × Except Errno Unit :=
  if sequenceId ≠ ptp.t2SequenceId then
    (ptp, .error .inval)
  else
    ({ ptp with
        t1 := word 64 (ptpNetTmstampToNs preciseOrigin + correctionField / 65536)
        t1From := sequenceId
        delayReqAlarms := ptp.delayReqAlarms + 1 },
      .ok ())

/-- `ptp_parse_delay_resp` -/
def ptpParseDelayResp [DecidableEq PortId] (ptp : MtPtpImpl PortId) (sequenceId : Nat)
    (receive : MtPtpTmstamp) (correctionField : Nat) (requestingPortIdentity : PortId)
    (request : Nat) (verdict : PtpVerdict) : MtPtpImpl PortId × Except Errno Unit :=
  if requestingPortIdentity ≠ ptp.ourPortId then
    (ptp, .ok ())
  else if ptp.t4 ≠ 0 then
    (ptp, .error .io)
  else if ptp.t3SequenceId ≠ sequenceId then
    (ptp, .error .io)
  else
    (ptpTryCompleteResult
      { ptp with
        t4 := word 64 ((ptpNetTmstampToNs receive : Int) - (correctionField / 65536 : Nat))
        t4From := request }
      verdict,
      .ok ())

/-- `ptp_parse_announce`: the first master is kept. -/
def ptpParseAnnounce (source : PortId) : MtPtpImpl PortId :=
  { ptp with masterPortId := some (ptp.masterPortId.getD source) }

/-- The checks of `mt_ptp_parse` before a message that is not an announcement. -/
def MtPtpImpl.fromMaster [DecidableEq PortId] (ptp : MtPtpImpl PortId) (source : PortId) : Bool :=
  decide (ptp.masterPortId = some source)

/-- `mt_ptp_parse` -/
def mtPtpParse [DecidableEq PortId] (ptp : MtPtpImpl PortId) (source : PortId) (msg : PtpMsg PortId)
    (verdict : PtpVerdict) : MtPtpImpl PortId × Except Errno Unit :=
  match msg with
  | .announce => (ptpParseAnnounce ptp source, .ok ())
  | msg =>
    if !ptp.fromMaster source then
      (ptp, .error .inval)
    else
      match msg with
      | .sync sequenceId rxNs => (ptpParseSync ptp sequenceId rxNs, .ok ())
      | .followUp sequenceId preciseOrigin correctionField =>
        ((ptpParseFollowUp ptp sequenceId preciseOrigin correctionField).1, .ok ())
      | .delayResp sequenceId receive correctionField requesting request =>
        ((ptpParseDelayResp ptp sequenceId receive correctionField requesting request verdict).1,
          .ok ())
      | _ => (ptp, .ok ())

/-! ## Runs -/

/-- A message arrives or an alarm fires. -/
inductive PtpInput (PortId : Type) where
  | message (source : PortId) (msg : PtpMsg PortId) (verdict : PtpVerdict)
  | delayReq (allocated sent : Bool) (now : Nat)
  | readTxTime (success : Bool) (txNs request now : Nat) (verdict : PtpVerdict)
  | syncTimeout
  deriving DecidableEq

def ptpStep [DecidableEq PortId] (ptp : MtPtpImpl PortId) : PtpInput PortId -> MtPtpImpl PortId
  | .message source msg verdict => (mtPtpParse ptp source msg verdict).1
  | .delayReq allocated sent now => ptpDelayReqHandler ptp allocated sent now
  | .readTxTime success txNs request now verdict =>
    ptpDelayReqReadTxTimeHandler ptp success txNs request now verdict
  | .syncTimeout => ptpSyncTimeoutHandler ptp

/-- `ptp_init` on the port with this number -/
def ptpInit (port : Nat) (ourPortId : PortId) : MtPtpImpl PortId where
  masterPortId := none
  ourPortId := ourPortId
  t1 := 0
  t2 := 0
  t3 := 0
  t4 := 0
  t2SequenceId := 0
  t3SequenceId := u16 (4096 * port)
  t3Pending := false
  t3PendingSeq := 0
  t3DeadlineNs := 0
  resultClaimed := false
  expectResultPeriodNs := 0
  delayReqAlarms := 0
  readTxTimeAlarms := 0
  syncTimeoutAlarms := 0
  syncs := 0
  t1From := 0
  t3From := 0
  t4From := 0
  requests := []
  results := []

end MediaTransport.Ptp
