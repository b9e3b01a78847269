import MediaTransport.Ptp.Exchange

namespace MediaTransport.Ptp

open Library

/-!
# The offset that the PTP client computes

From the four times the client computes how far the master is ahead of its own
clock, and sets the clock by it.  Messages carry a correction field, the time that
they spent in the switches on their way, which the first and the last of the four
times are cleared of.  Corrections, the delay of the path and the offset are in
units of 2^-16 ns, as in a correction field; a clock shows whole nanoseconds.
-/

/-! ## The result of an exchange -/

/-- What `ptp_parse_result` expects of the difference of two of the times. -/
structure DeltaExpectation where
  avg : Int
  continuousErr : Nat
  deriving DecidableEq

/-- The fields of `struct mt_ptp_impl` by which `ptp_parse_result` judges a result. -/
structure PtpJudge where
  calibrateT2T3 : Bool
  expectT2T1 : DeltaExpectation
  expectT4T3 : DeltaExpectation
  expectResultAvg : Int
  deltaResultCnt : Nat
  deltaResultSum : Nat
  deltaResultErr : Nat
  deriving DecidableEq

/-- The check of `t2_t1_delta`, and that of `t4_t3_delta`. -/
def DeltaExpectation.calibrate (expect : DeltaExpectation) (delta : Int) : DeltaExpectation × Int :=
  let maxDiff := 1000
  if expect.avg = 0 then
    (expect, delta)
  else if delta < expect.avg - maxDiff ∨ delta > expect.avg + maxDiff then
    if expect.continuousErr + 1 > 20 then (⟨0, 0⟩, expect.avg)
    else ({ expect with continuousErr := expect.continuousErr + 1 }, expect.avg)
  else
    ({ expect with continuousErr := 0 }, delta)

/-- The two differences as `ptp_parse_result` uses them, with the expectations that it leaves. -/
def PtpJudge.calibrate (judge : PtpJudge) (t2T1Delta t4T3Delta : Int) : PtpJudge × Int × Int :=
  if judge.calibrateT2T3 then
    let first := judge.expectT2T1.calibrate t2T1Delta
    let second := judge.expectT4T3.calibrate t4T3Delta
    ({ judge with expectT2T1 := first.1, expectT4T3 := second.1 }, first.2, second.2)
  else
    (judge, t2T1Delta, t4T3Delta)

/-- `expect_delta` -/
def PtpJudge.expectDelta (judge : PtpJudge) : Nat :=
  let expectDelta := judge.expectResultAvg.natAbs * min (judge.deltaResultErr + 2) 5
  if expectDelta = 0 then max (judge.deltaResultSum / judge.deltaResultCnt * 2) 100000
  else expectDelta

/-- `ptp_result_reset`, which leaves what is expected of t4 and t3. -/
def PtpJudge.resultReset (judge : PtpJudge) : PtpJudge :=
  { judge with
    deltaResultErr := 0
    deltaResultCnt := 0
    deltaResultSum := 0
    expectResultAvg := 0
    expectT2T1 := { judge.expectT2T1 with avg := 0 } }

/-- `ptp_adjust_delta` -/
def PtpJudge.adjustDelta (judge : PtpJudge) (delta : Int) : PtpJudge :=
  { judge with
    deltaResultSum :=
      if judge.deltaResultCnt = 5 then word 64 ((delta.natAbs : Int) * judge.deltaResultCnt)
      else word 64 ((judge.deltaResultSum : Int) + delta.natAbs)
    deltaResultCnt := word 64 ((judge.deltaResultCnt : Int) + 1) }

/-- `ptp_parse_result`: the delta that it applies to the clock, unless it rejects it as an outlier, and
how it judges from then on, up to the averages that it expects.  The subtractions are of 64 bits. -/
def PtpJudge.parseResult (judge : PtpJudge) (t1 t2 t3 t4 : Nat) : PtpJudge × Option Int :=
  let calibrated := judge.calibrate (int64 ((t2 : Int) - t1)) (int64 ((t4 : Int) - t3))
  let judge := calibrated.1
  let delta := (int64 (calibrated.2.2 - calibrated.2.1)).tdiv 2
  if judge.deltaResultCnt ≠ 0 ∧ judge.expectDelta < delta.natAbs then
    let failed := { judge with deltaResultErr := judge.deltaResultErr + 1 }
    let failed := if failed.deltaResultErr > 10 then failed.resultReset else failed
    (if failed.expectResultAvg ≠ 0 then failed.adjustDelta failed.expectResultAvg else failed, none)
  else
    ({ judge with deltaResultErr := 0 }.adjustDelta delta, some delta)

/-! ## What the times stand for -/

/-- An exchange as it happens: the two times that the master sends and the two that are taken here, with
the corrections that the messages collect, the delay of the path in either direction and how far the
master is ahead. -/
structure TimedExchange where
  origin : MtPtpTmstamp
  receive : MtPtpTmstamp
  t2 : Nat
  t3 : Nat
  followUpCorrection : Int
  delayRespCorrection : Int
  pathDelay : Int
  offset : Int
  originFits : ptpNetTmstampToNs origin < 18446744073709551616
  receiveFits : ptpNetTmstampToNs receive < 18446744073709551616
  t2Fits : t2 < 18446744073709551616
  t3Fits : t3 < 18446744073709551616
  followUpField : -9223372036854775808 ≤ followUpCorrection ∧ followUpCorrection < 9223372036854775808
  delayRespField : -9223372036854775808 ≤ delayRespCorrection ∧ delayRespCorrection < 9223372036854775808
  syncArrives : (t2 : Int) =
    (ptpNetTmstampToNs origin * 65536 + followUpCorrection + pathDelay - offset) / 65536
  requestArrives : (ptpNetTmstampToNs receive : Int) =
    (t3 * 65536 + delayRespCorrection + pathDelay + offset) / 65536

variable (exchange : TimedExchange)

namespace TimedExchange

/-- The delta is the offset, up to the truncations of the times and of the corrections to whole
nanoseconds: they make at most one and a half of one. -/
def Right (exchange : TimedExchange) (delta : Int) : Prop :=
  2 * |65536 * delta - exchange.offset| < 3 * 65536

instance (exchange : TimedExchange) (delta : Int) : Decidable (exchange.Right delta) := by
  unfold Right
  infer_instance

/-- Twice the offset, as far as the times in whole nanoseconds give it. -/
def doubled (exchange : TimedExchange) : Int :=
  ptpNetTmstampToNs exchange.receive - exchange.delayRespCorrection / 65536 - exchange.t3 -
    (exchange.t2 - ptpNetTmstampToNs exchange.origin - exchange.followUpCorrection / 65536)

/-- The correction fields are both negative or neither is, and twice the offset fits in 64 bits. -/
def Computable (exchange : TimedExchange) : Prop :=
  (exchange.followUpCorrection < 0 ↔ exchange.delayRespCorrection < 0) ∧
  -9223372036854775808 ≤ exchange.doubled ∧ exchange.doubled < 9223372036854775808

instance (exchange : TimedExchange) : Decidable exchange.Computable := by
  unfold Computable
  infer_instance

theorem doubled_near : |65536 * exchange.doubled - 2 * exchange.offset| < 2 * 65536 := by
  have arrived := exchange.syncArrives
  have returned := exchange.requestArrives
  unfold doubled
  rw [abs_lt]
  constructor <;> omega

end TimedExchange

/-- How far the shift of a correction field, which is one of an unsigned number, is off. -/
def shiftError (correction : Int) : Int :=
  if correction < 0 then 281474976710656 else 0

theorem shifted_correction (correction : Int)
    (field : -9223372036854775808 ≤ correction ∧ correction < 9223372036854775808) :
    ((word 64 correction / 65536 : Nat) : Int) = correction / 65536 + shiftError correction := by
  rw [word64_eq]
  unfold shiftError
  split <;> omega

theorem parseResult_delta {judge : PtpJudge} {t1 t4 : Nat} {applied : Int}
    (uncalibrated : judge.calibrateT2T3 = false)
    (first : t1 = word 64 (ptpNetTmstampToNs exchange.origin +
      word 64 exchange.followUpCorrection / 65536))
    (fourth : t4 = word 64 ((ptpNetTmstampToNs exchange.receive : Int) -
      (word 64 exchange.delayRespCorrection / 65536 : Nat)))
    (accepted : (judge.parseResult t1 exchange.t2 exchange.t3 t4).2 = some applied) :
    applied = (int64 (exchange.doubled + shiftError exchange.followUpCorrection -
      shiftError exchange.delayRespCorrection)).tdiv 2 := by
  have firstShift := shifted_correction exchange.followUpCorrection exchange.followUpField
  have secondShift := shifted_correction exchange.delayRespCorrection exchange.delayRespField
  have sameDelta : int64 (int64 ((t4 : Int) - exchange.t3) - int64 ((exchange.t2 : Int) - t1)) =
      int64 (exchange.doubled + shiftError exchange.followUpCorrection -
        shiftError exchange.delayRespCorrection) := by
    have firstTime : (t1 : Int) = (ptpNetTmstampToNs exchange.origin +
        (exchange.followUpCorrection / 65536 + shiftError exchange.followUpCorrection)) %
          18446744073709551616 := by
      rw [first, word64_cast, ← firstShift, Int.natCast_ediv]
      rfl
    have fourthTime : (t4 : Int) = (ptpNetTmstampToNs exchange.receive -
        (exchange.delayRespCorrection / 65536 + shiftError exchange.delayRespCorrection)) %
          18446744073709551616 := by
      rw [fourth, word64_cast, ← secondShift]
    simp only [int64_eq, TimedExchange.doubled]
    omega
  have taken : (int64 (int64 ((t4 : Int) - exchange.t3) - int64 ((exchange.t2 : Int) - t1))).tdiv 2 =
      applied := by
    simp only [PtpJudge.parseResult, PtpJudge.calibrate, uncalibrated, Bool.false_eq_true,
      if_false] at accepted
    split at accepted
    · exact absurd accepted (by simp)
    · exact Option.some.inj accepted
  rw [← taken, sameDelta]

theorem half_near (value : Int) : |2 * value.tdiv 2 - value| ≤ 1 := by
  have halves := Int.mul_tdiv_add_tmod value 2
  have rest := Int.tmod_lt_of_pos value (by decide : (0 : Int) < 2)
  have other := Int.lt_tmod_of_pos value (by decide : (0 : Int) < 2)
  rw [abs_le]
  constructor <;> omega

theorem right_iff :
    exchange.Right ((int64 (exchange.doubled + shiftError exchange.followUpCorrection -
      shiftError exchange.delayRespCorrection)).tdiv 2) ↔ exchange.Computable := by
  have near := abs_lt.mp exchange.doubled_near
  have half := abs_le.mp (half_near (int64 (exchange.doubled +
    shiftError exchange.followUpCorrection - shiftError exchange.delayRespCorrection)))
  unfold TimedExchange.Right TimedExchange.Computable
  generalize (int64 (exchange.doubled + shiftError exchange.followUpCorrection -
    shiftError exchange.delayRespCorrection)).tdiv 2 = delta at half ⊢
  rw [int64_eq] at half
  have bound : 2 * |65536 * delta - exchange.offset| < 3 * 65536 ↔
      -(3 * 65536) < 2 * (65536 * delta - exchange.offset) ∧
        2 * (65536 * delta - exchange.offset) < 3 * 65536 := by
    rw [← abs_lt, abs_mul, abs_two]
  rw [bound]
  unfold shiftError at half
  constructor
  · intro right
    split at half <;> split at half <;> omega
  · intro computable
    split at half <;> split at half <;> omega

/-! ## The exchange in the client -/

variable {PortId : Type}

theorem results_grow (results : List PtpResult) (result : PtpResult) : results ≠ results ++ [result] := by
  intro same
  have lengths := congrArg List.length same
  simp at lengths

/-- A result is made up of the four times that are there. -/
theorem ptpTryCompleteResult_result {ptp : MtPtpImpl PortId} {verdict : PtpVerdict} {result : PtpResult}
    (completed : (ptpTryCompleteResult ptp verdict).results = ptp.results ++ [result]) :
    result = { ptp with resultClaimed := true }.result := by
  unfold ptpTryCompleteResult ptpParseResult at completed
  split at completed
  · exact absurd completed (results_grow _ _)
  split at completed
  · exact absurd completed (results_grow _ _)
  split at completed
  · have same := List.append_cancel_left completed
    exact (List.cons.inj same).1.symm
  · exact absurd completed (results_grow _ _)

theorem ptpDelayReqReadTxTimeHandler_result {ptp : MtPtpImpl PortId} {success : Bool}
    {txNs request now : Nat} {verdict : PtpVerdict} {result : PtpResult}
    (completed : (ptpDelayReqReadTxTimeHandler ptp success txNs request now verdict).results =
      ptp.results ++ [result]) :
    result.t1 = ptp.t1 ∧ result.t2 = ptp.t2 ∧ result.t3 = txNs ∧ result.t4 = ptp.t4 := by
  unfold ptpDelayReqReadTxTimeHandler at completed
  dsimp only at completed
  split at completed
  · exact absurd completed (results_grow _ _)
  split at completed
  · exact absurd completed (results_grow _ _)
  split at completed
  · exact absurd completed (results_grow _ _)
  split at completed
  · rw [ptpTryCompleteResult_result completed]
    exact ⟨rfl, rfl, rfl, rfl⟩
  split at completed
  · exact absurd completed (results_grow _ _)
  · exact absurd completed (results_grow _ _)

variable [DecidableEq PortId]

theorem ptpParseDelayResp_result {ptp : MtPtpImpl PortId} {sequenceId correctionField request : Nat}
    {receive : MtPtpTmstamp} {requesting : PortId} {verdict : PtpVerdict} {result : PtpResult}
    (completed : (ptpParseDelayResp ptp sequenceId receive correctionField requesting request
      verdict).1.results = ptp.results ++ [result]) :
    result.t1 = ptp.t1 ∧ result.t2 = ptp.t2 ∧ result.t3 = ptp.t3 ∧
      result.t4 = word 64 ((ptpNetTmstampToNs receive : Int) - (correctionField / 65536 : Nat)) := by
  unfold ptpParseDelayResp at completed
  split at completed
  · exact absurd completed (results_grow _ _)
  split at completed
  · exact absurd completed (results_grow _ _)
  split at completed
  · exact absurd completed (results_grow _ _)
  rw [ptpTryCompleteResult_result completed]
  exact ⟨rfl, rfl, rfl, rfl⟩

/-- The Delay_Resp that answers a request whose transmit time is not there yet leaves its own time. -/
theorem ptpParseDelayResp_t4 {ptp : MtPtpImpl PortId} {correctionField request : Nat}
    {receive : MtPtpTmstamp} {verdict : PtpVerdict} (waiting : ptp.t3 = 0) (unanswered : ptp.t4 = 0) :
    (ptpParseDelayResp ptp ptp.t3SequenceId receive correctionField ptp.ourPortId request verdict).1.t4 =
      word 64 ((ptpNetTmstampToNs receive : Int) - (correctionField / 65536 : Nat)) := by
  simp [ptpParseDelayResp, ptpTryCompleteResult, waiting, unanswered]

def waitingClient (exchange : TimedExchange) : MtPtpImpl Nat :=
  let synced := ptpParseSync (ptpInit 0 7) 1 exchange.t2
  let followed := (ptpParseFollowUp synced 1 exchange.origin (word 64 exchange.followUpCorrection)).1
  { followed with t3 := exchange.t3, t3SequenceId := 1, delayReqAlarms := 0 }

def answeredResults (exchange : TimedExchange) : List PtpResult :=
  (ptpParseDelayResp (waitingClient exchange) 1 exchange.receive
    (word 64 exchange.delayRespCorrection) 7 1 ⟨true, 0⟩).1.results

def freshJudge : PtpJudge := ⟨false, ⟨0, 0⟩, ⟨0, 0⟩, 0, 0, 0, 0⟩

/-- For every offset, path delay and pair of correction fields, the delta that is applied after the four
times of an exchange is the offset exactly where the correction fields are both negative or neither is,
and twice the offset fits in 64 bits. -/
theorem applied_delta_right_iff (exchange : TimedExchange) {judge : PtpJudge}
    {started ptp : MtPtpImpl PortId} {followUpId delayRespId request : Nat} {requesting : PortId}
    {verdict : PtpVerdict} {result : PtpResult} {applied : Int}
    (synced : followUpId = started.t2SequenceId)
    (first : ptp.t1 = (ptpParseFollowUp started followUpId exchange.origin
      (word 64 exchange.followUpCorrection)).1.t1)
    (second : ptp.t2 = exchange.t2) (third : ptp.t3 = exchange.t3)
    (completed : (ptpParseDelayResp ptp delayRespId exchange.receive
      (word 64 exchange.delayRespCorrection) requesting request verdict).1.results =
        ptp.results ++ [result])
    (uncalibrated : judge.calibrateT2T3 = false)
    (accepted : (judge.parseResult result.t1 result.t2 result.t3 result.t4).2 = some applied) :
    exchange.Right applied ↔ exchange.Computable := by
  rcases ptpParseDelayResp_result completed with ⟨t1, t2, t3, t4⟩
  rw [t2, t3, second, third] at accepted
  rw [parseResult_delta exchange uncalibrated ?_ t4 accepted]
  · exact right_iff exchange
  · rw [t1, first]
    simp [ptpParseFollowUp, synced]

/-- The same when the Delay_Resp comes first, and the transmit time is read after it. -/
theorem read_last_delta_right_iff (exchange : TimedExchange) {judge : PtpJudge}
    {started answered ptp : MtPtpImpl PortId} {followUpId responded request now : Nat} {success : Bool}
    {verdict verdictAtRead : PtpVerdict} {result : PtpResult} {applied : Int}
    (synced : followUpId = started.t2SequenceId)
    (first : ptp.t1 = (ptpParseFollowUp started followUpId exchange.origin
      (word 64 exchange.followUpCorrection)).1.t1)
    (second : ptp.t2 = exchange.t2) (waiting : answered.t3 = 0) (unanswered : answered.t4 = 0)
    (fourth : ptp.t4 = (ptpParseDelayResp answered answered.t3SequenceId exchange.receive
      (word 64 exchange.delayRespCorrection) answered.ourPortId responded verdict).1.t4)
    (completed : (ptpDelayReqReadTxTimeHandler ptp success exchange.t3 request now
      verdictAtRead).results = ptp.results ++ [result])
    (uncalibrated : judge.calibrateT2T3 = false)
    (accepted : (judge.parseResult result.t1 result.t2 result.t3 result.t4).2 = some applied) :
    exchange.Right applied ↔ exchange.Computable := by
  rcases ptpDelayReqReadTxTimeHandler_result completed with ⟨t1, t2, t3, t4⟩
  rw [ptpParseDelayResp_t4 waiting unanswered] at fourth
  rw [t2, t3, second] at accepted
  rw [parseResult_delta exchange uncalibrated ?_ (t4.trans fourth) accepted]
  · exact right_iff exchange
  · rw [t1, first]
    simp [ptpParseFollowUp, synced]

/-- A path of 500 ns, a master 1000 ns ahead, and corrections of -100 ns and of -20 ns. -/
def loweredExchange : TimedExchange where
  origin := ⟨0, 1700000000, 0⟩
  receive := ⟨0, 1700000000, 3480⟩
  t2 := 1699999999999999400
  t3 := 1700000000000002000
  followUpCorrection := -6553600
  delayRespCorrection := -1310720
  pathDelay := 32768000
  offset := 65536000
  originFits := by decide
  receiveFits := by decide
  t2Fits := by decide
  t3Fits := by decide
  followUpField := by decide
  delayRespField := by decide
  syncArrives := by decide
  requestArrives := by decide

/-- The result of the exchange, whose first and last times are 78 hours off. -/
def loweredResult : PtpResult :=
  ⟨1700281474976710556, 1699999999999999400, 1700000000000002000, 1699718525023292844, 1, 1, 0, 1, 1⟩

/-- Two corrections downwards are off by the same time, and the delta of 1000 ns is right. -/
theorem applied_delta_right_lowered :
    loweredExchange.Right 1000 ↔ loweredExchange.Computable := by
  have completed : answeredResults loweredExchange =
      (waitingClient loweredExchange).results ++ [loweredResult] := by decide +kernel
  have accepted : (freshJudge.parseResult loweredResult.t1 loweredResult.t2 loweredResult.t3
      loweredResult.t4).2 = some 1000 := by decide +kernel
  have synced : 1 = (ptpParseSync (ptpInit 0 7) 1 loweredExchange.t2).t2SequenceId := rfl
  have first : (waitingClient loweredExchange).t1 =
      (ptpParseFollowUp (ptpParseSync (ptpInit 0 7) 1 loweredExchange.t2) 1 loweredExchange.origin
        (word 64 loweredExchange.followUpCorrection)).1.t1 := rfl
  exact applied_delta_right_iff loweredExchange synced first rfl rfl completed rfl accepted

/-- The same with a correction of 100 ns upwards in the Follow_Up. -/
def mixedExchange : TimedExchange where
  origin := ⟨0, 1700000000, 0⟩
  receive := ⟨0, 1700000000, 3480⟩
  t2 := 1699999999999999600
  t3 := 1700000000000002000
  followUpCorrection := 6553600
  delayRespCorrection := -1310720
  pathDelay := 32768000
  offset := 65536000
  originFits := by decide
  receiveFits := by decide
  t2Fits := by decide
  t3Fits := by decide
  followUpField := by decide
  delayRespField := by decide
  syncArrives := by decide
  requestArrives := by decide

/-- The clock, which is 1000 ns behind, is set back by 39 hours. -/
theorem mixed_corrections_wrong :
    (answeredResults mixedExchange).map
        (fun result => (freshJudge.parseResult result.t1 result.t2 result.t3 result.t4).2) =
      [some (-140737488354328)] ∧
    ¬ mixedExchange.Right (-140737488354328) := by
  constructor
  · decide +kernel
  · decide

end MediaTransport.Ptp
