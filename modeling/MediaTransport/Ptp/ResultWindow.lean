import MediaTransport.Library.Mean
import MediaTransport.Library.Run
import MediaTransport.Ptp.Offset

namespace MediaTransport.Ptp

open Library

/-!
# The windows of expected results

Accepted results are summed up in windows of ten; the four averages of a window are
what the client expects of the next results, and what it applies when none comes.
The sums are cleared by every error, the averages only by `ptp_result_reset`.
-/

/-- The values of a result that are summed up, or the averages of a window. -/
structure PtpSample where
  delta : Int
  correctDelta : Int
  t2T1Delta : Int
  t4T3Delta : Int
  deriving DecidableEq

/-- What the averages are taken for, for an observer: a window is closed with its averages, a delta is
applied in place of a result that did not come, or an average is read; the flag says that the window that
it is of was reset. -/
inductive PtpUse where
  | closed (window : List PtpSample) (averages : PtpSample)
  | substituted (delta : Int) (window : List PtpSample)
  | read (isReset : Bool)
  deriving DecidableEq

/-- The count and the sums of `struct mt_ptp_impl`; an observer knows the results since the last clear. -/
structure PtpSums where
  expectResultCnt : Nat
  expectResultSum : Int
  expectCorrectResultSum : Int
  expectT2T1DeltaSum : Int
  expectT4T3DeltaSum : Int
  window : List PtpSample
  deriving DecidableEq

/-- The part of `struct mt_ptp_impl` that expects results; `judge` has the averages of the deltas.  An
observer knows the window that was closed last, whether that was reset, and what the averages were taken
for. -/
structure PtpExpect where
  judge : PtpJudge
  expectCorrectResultAvg : Int
  sums : PtpSums
  lastWindow : List PtpSample
  isReset : Bool
  uses : List PtpUse
  deriving DecidableEq

/-! ## Sums -/

def PtpSums.none : PtpSums := ⟨0, 0, 0, 0, 0, []⟩

/-- The sums of `ptp_parse_result`; the delta is added twice. -/
def PtpSums.add (sums : PtpSums) (sample : PtpSample) : PtpSums where
  expectResultCnt := sums.expectResultCnt + 1
  expectResultSum := int32 (int32 (sums.expectResultSum + sample.delta) + sample.delta)
  expectCorrectResultSum := int32 (sums.expectCorrectResultSum + sample.correctDelta)
  expectT2T1DeltaSum := int32 (sums.expectT2T1DeltaSum + sample.t2T1Delta)
  expectT4T3DeltaSum := int32 (sums.expectT4T3DeltaSum + sample.t4T3Delta)
  window := sums.window ++ [sample]

def PtpSums.averages (sums : PtpSums) : PtpSample where
  delta := sums.expectResultSum.tdiv sums.expectResultCnt
  correctDelta := sums.expectCorrectResultSum.tdiv sums.expectResultCnt
  t2T1Delta := sums.expectT2T1DeltaSum.tdiv sums.expectResultCnt
  t4T3Delta := sums.expectT4T3DeltaSum.tdiv sums.expectResultCnt

namespace PtpExpect

/-- `ptp_expect_result_clear` -/
def clear (ptp : PtpExpect) : PtpExpect := { ptp with sums := .none }

/-- `ptp_result_reset` -/
def resultReset (ptp : PtpExpect) : PtpExpect :=
  { ptp with
    judge := ptp.judge.resultReset
    expectCorrectResultAvg := 0
    isReset := true }

def look (ptp : PtpExpect) (avg : Int) : PtpExpect :=
  { ptp with uses := if avg = 0 then ptp.uses else ptp.uses ++ [.read ptp.isReset] }

/-- `ptp_sync_expect_result`, up to the coefficient of the clock. -/
def syncExpectResult (ptp : PtpExpect) : PtpExpect :=
  let ptp := (ptp.look ptp.expectCorrectResultAvg).look ptp.judge.expectResultAvg
  if ptp.judge.expectResultAvg = 0 then
    ptp
  else
    { ptp with
      judge := ptp.judge.adjustDelta ptp.judge.expectResultAvg
      uses := ptp.uses ++ [.substituted ptp.judge.expectResultAvg ptp.lastWindow] }

/-! ## Results -/

/-- The results of a window are enough: the averages are those of the sums. -/
def close (ptp : PtpExpect) : PtpExpect :=
  let averages := ptp.sums.averages
  { ptp with
    judge :=
      { ptp.judge with
        expectResultAvg := averages.delta
        expectT2T1 := { ptp.judge.expectT2T1 with avg := averages.t2T1Delta }
        expectT4T3 := { ptp.judge.expectT4T3 with avg := averages.t4T3Delta } }
    expectCorrectResultAvg := averages.correctDelta
    lastWindow := ptp.sums.window
    isReset := false
    uses := ptp.uses ++ [.closed ptp.sums.window averages] }

def collect (ptp : PtpExpect) (sample : PtpSample) : PtpExpect :=
  let ptp := { ptp with sums := ptp.sums.add sample }
  if 10 ≤ ptp.sums.expectResultCnt then ptp.close.clear else ptp

def applied (ptp : PtpExpect) (sample : PtpSample) : PtpExpect :=
  { ptp with judge := { ptp.judge with deltaResultErr := 0 }.adjustDelta sample.delta }

/-- The part of `ptp_parse_result` behind the outlier check. -/
def accept (ptp : PtpExpect) (sample : PtpSample) : PtpExpect :=
  let ptp := ptp.applied sample
  if 10 < ptp.judge.deltaResultCnt then
    if sample.delta.natAbs < 30000 then ptp.collect sample else ptp.clear
  else
    ptp

/-- The error branch of `ptp_parse_result`. -/
def reject (ptp : PtpExpect) : PtpExpect :=
  let ptp := { ptp.clear with
    judge := { ptp.judge with deltaResultErr := ptp.judge.deltaResultErr + 1 } }
  (if 10 < ptp.judge.deltaResultErr then ptp.resultReset else ptp).syncExpectResult

/-- The difference was off for so long that it is not expected any more. -/
def givesUp (expect : DeltaExpectation) (delta : Int) : Bool :=
  decide (expect.avg ≠ 0) && decide (delta < expect.avg - 1000 ∨ delta > expect.avg + 1000) &&
    decide (expect.continuousErr + 1 > 20)

/-- The start of `ptp_parse_result`, where the differences are checked. -/
def calibrate (ptp : PtpExpect) (t2T1Delta t4T3Delta : Int) : PtpExpect × Int × Int :=
  let calibrated := ptp.judge.calibrate t2T1Delta t4T3Delta
  if ptp.judge.calibrateT2T3 then
    let given := givesUp ptp.judge.expectT2T1 t2T1Delta || givesUp ptp.judge.expectT4T3 t4T3Delta
    let looked := (ptp.look ptp.judge.expectT2T1.avg).look ptp.judge.expectT4T3.avg
    ({ (if given then looked.clear else looked) with judge := calibrated.1 }, calibrated.2)
  else
    (ptp, calibrated.2)

def measured (correctDelta : Int) (deltas : Int × Int) : PtpSample where
  delta := (int64 (deltas.2 - deltas.1)).tdiv 2
  correctDelta := correctDelta
  t2T1Delta := deltas.1
  t4T3Delta := deltas.2

def outlier (ptp : PtpExpect) (sample : PtpSample) : Bool :=
  decide (ptp.judge.deltaResultCnt ≠ 0) && decide (ptp.judge.expectDelta < sample.delta.natAbs)

def lookForOutlier (ptp : PtpExpect) : PtpExpect :=
  if ptp.judge.deltaResultCnt = 0 then ptp else ptp.look ptp.judge.expectResultAvg

/-- `ptp_parse_result`; `correctDelta` is what the coefficient of the clock, a double, makes of the
times.  Where the frequency of the clock is adjusted (`MTL_HAS_DPDK_TIMESYNC_ADJUST_FREQ` with phc2sys)
an outlier is not the end of it. -/
def parseResult (adjustsFreq : Bool) (ptp : PtpExpect) (t1 t2 t3 t4 : Nat) (correctDelta : Int) :
    PtpExpect :=
  let calibrated := ptp.calibrate (int64 ((t2 : Int) - t1)) (int64 ((t4 : Int) - t3))
  let sample := measured correctDelta calibrated.2
  let ptp := calibrated.1.lookForOutlier
  if ptp.outlier sample then
    if adjustsFreq then ptp.reject.accept sample else ptp.reject
  else
    ptp.accept sample

end PtpExpect

/-! ## Runs -/

/-- Four times are complete, `ptp_sync_timeout_handler` or `ptp_monitor_handler` runs, a Sync comes while
one is pending (`ptp_parse_sync`), or the transmit time of a request does not come
(`ptp_delay_req_read_tx_time_handler`). -/
inductive PtpExpectInput where
  | result (t1 t2 t3 t4 : Nat) (correctDelta : Int)
  | syncTimeout
  | monitor
  | pendingSync
  | txTimeout
  deriving DecidableEq

def ptpExpectStep (adjustsFreq : Bool) (ptp : PtpExpect) : PtpExpectInput -> PtpExpect
  | .result t1 t2 t3 t4 correctDelta => ptp.parseResult adjustsFreq t1 t2 t3 t4 correctDelta
  | .syncTimeout => ptp.clear.syncExpectResult
  | .monitor => ptp.syncExpectResult
  | .pendingSync => ptp.clear.syncExpectResult
  | .txTimeout => ptp.clear

/-- A client that expects nothing yet; `calibrate_t2_t3` is for ports without a hardware clock. -/
def ptpExpectInit (calibrateT2T3 : Bool) : PtpExpect where
  judge := ⟨calibrateT2T3, ⟨0, 0⟩, ⟨0, 0⟩, 0, 0, 0, 0⟩
  expectCorrectResultAvg := 0
  sums := .none
  lastWindow := []
  isReset := false
  uses := []

/-! ## What is promised -/

def windowMeans (window : List PtpSample) : PtpSample where
  delta := truncatedMean (window.map PtpSample.delta)
  correctDelta := truncatedMean (window.map PtpSample.correctDelta)
  t2T1Delta := truncatedMean (window.map PtpSample.t2T1Delta)
  t4T3Delta := truncatedMean (window.map PtpSample.t4T3Delta)

/-- A window of ten is closed with its means, a delta that is substituted is between the smallest and the
largest of the window, and no average of a window that was reset is read. -/
def PtpUse.Right : PtpUse -> Prop
  | .closed window averages => window.length = 10 ∧ averages = windowMeans window
  | .substituted delta window =>
    (exists sample, sample ∈ window ∧ sample.delta ≤ delta) ∧
      exists sample, sample ∈ window ∧ delta ≤ sample.delta
  | .read isReset => isReset = false

def PtpExpect.Right (ptp : PtpExpect) : Prop :=
  ∀ use ∈ ptp.uses, use.Right

instance : (use : PtpUse) -> Decidable use.Right
  | .closed _ _ => inferInstanceAs (Decidable (_ ∧ _))
  | .substituted delta window =>
    inferInstanceAs (Decidable ((exists sample, sample ∈ window ∧ sample.delta ≤ delta) ∧
      exists sample, sample ∈ window ∧ delta ≤ sample.delta))
  | .read _ => inferInstanceAs (Decidable (_ = _))

instance (ptp : PtpExpect) : Decidable ptp.Right :=
  inferInstanceAs (Decidable (∀ use ∈ ptp.uses, use.Right))

/-! ## The condition -/

def FitsInt32 (values : List Int) : Prop :=
  -2147483648 ≤ values.sum ∧ values.sum < 2147483648

/-- The deltas of the window cancel but for four nanoseconds, and no sum overflows. -/
structure BalancedWindow (window : List PtpSample) : Prop where
  delta : (window.map PtpSample.delta).sum.natAbs ≤ 4
  correctDelta : FitsInt32 (window.map PtpSample.correctDelta)
  t2T1Delta : FitsInt32 (window.map PtpSample.t2T1Delta)
  t4T3Delta : FitsInt32 (window.map PtpSample.t4T3Delta)

def PtpExpect.fills (ptp : PtpExpect) (sample : PtpSample) : Prop :=
  10 < (ptp.applied sample).judge.deltaResultCnt ∧ sample.delta.natAbs < 30000 ∧
    ptp.sums.window.length = 9

/-- No differences are checked against what is left of a window that was reset, and the result that fills a
window balances it. -/
def WindowsBalanced (ptp : PtpExpect) : PtpExpectInput -> Prop
  | .result t1 t2 t3 t4 correctDelta =>
    (ptp.judge.calibrateT2T3 = true -> ptp.isReset = true -> ptp.judge.expectT4T3.avg = 0) ∧
      let calibrated := ptp.calibrate (int64 ((t2 : Int) - t1)) (int64 ((t4 : Int) - t3))
      let sample := PtpExpect.measured correctDelta calibrated.2
      calibrated.1.outlier sample = false -> calibrated.1.fills sample ->
        BalancedWindow (calibrated.1.sums.window ++ [sample])
  | _ => True

/-! ## The running sums -/

/-- The sums are those of the window, each as far as 32 bits go; the deltas are so small that their doubled
sum is exact. -/
structure PtpSums.Sound (sums : PtpSums) : Prop where
  counted : sums.expectResultCnt = sums.window.length
  short : sums.window.length < 10
  small : ∀ sample ∈ sums.window, sample.delta.natAbs < 30000
  delta : sums.expectResultSum = 2 * (sums.window.map PtpSample.delta).sum
  correctDelta : sums.expectCorrectResultSum = int32 (sums.window.map PtpSample.correctDelta).sum
  t2T1Delta : sums.expectT2T1DeltaSum = int32 (sums.window.map PtpSample.t2T1Delta).sum
  t4T3Delta : sums.expectT4T3DeltaSum = int32 (sums.window.map PtpSample.t4T3Delta).sum

theorem PtpSums.Sound.none : PtpSums.none.Sound where
  counted := rfl
  short := by decide
  small sample member := nomatch member
  delta := rfl
  correctDelta := rfl
  t2T1Delta := rfl
  t4T3Delta := rfl

theorem natAbs_sum_le {window : List PtpSample}
    (small : ∀ sample ∈ window, sample.delta.natAbs < 30000) :
    (window.map PtpSample.delta).sum.natAbs ≤ 30000 * window.length := by
  induction window with
  | nil => decide
  | cons sample rest ih =>
    have first := small sample List.mem_cons_self
    have others := ih (fun other member => small other (List.mem_cons_of_mem sample member))
    rw [List.map_cons, List.sum_cons, List.length_cons]
    omega

variable {sums : PtpSums} {sample : PtpSample}

theorem PtpSums.Sound.add_delta (sound : sums.Sound) (small : sample.delta.natAbs < 30000) :
    (sums.add sample).expectResultSum = 2 * ((sums.window ++ [sample]).map PtpSample.delta).sum := by
  have bound := natAbs_sum_le sound.small
  have short := sound.short
  show int32 (int32 (sums.expectResultSum + sample.delta) + sample.delta) = _
  rw [int32_add, sound.delta, int32_eq, List.map_append, List.sum_append, List.map_singleton,
    List.sum_singleton]
  omega

theorem wrapped_add {sum : Int} {value : PtpSample -> Int} {window : List PtpSample}
    (wrapped : sum = int32 (window.map value).sum) (sample : PtpSample) :
    int32 (sum + value sample) = int32 ((window ++ [sample]).map value).sum := by
  rw [wrapped, int32_add, List.map_append, List.sum_append, List.map_singleton, List.sum_singleton]

theorem PtpSums.Sound.add (sound : sums.Sound) (small : sample.delta.natAbs < 30000)
    (room : sums.window.length < 9) : (sums.add sample).Sound where
  counted := by
    show sums.expectResultCnt + 1 = (sums.window ++ [sample]).length
    rw [List.length_append, List.length_singleton, sound.counted]
  short := by
    show (sums.window ++ [sample]).length < 10
    rw [List.length_append, List.length_singleton]
    omega
  small other member := by
    rcases List.mem_append.mp member with before | last
    · exact sound.small other before
    · exact List.mem_singleton.mp last ▸ small
  delta := sound.add_delta small
  correctDelta := wrapped_add sound.correctDelta sample
  t2T1Delta := wrapped_add sound.t2T1Delta sample
  t4T3Delta := wrapped_add sound.t4T3Delta sample

theorem doubled_mean_iff (total : Int) : (2 * total).tdiv 10 = total.tdiv 10 ↔ total.natAbs ≤ 4 := by
  have positive : forall value : Int, 0 ≤ value ->
      ((2 * value).tdiv 10 = value.tdiv 10 ↔ value.natAbs ≤ 4) := by
    intro value nonneg
    rw [Int.tdiv_eq_ediv_of_nonneg nonneg, Int.tdiv_eq_ediv_of_nonneg (by omega)]
    omega
  rcases Int.le_total 0 total with nonneg | nonpos
  · exact positive total nonneg
  · have mirrored := positive (-total) (by omega)
    rw [mul_neg, Int.neg_tdiv, Int.neg_tdiv, neg_inj, Int.natAbs_neg] at mirrored
    exact mirrored

theorem PtpSums.Sound.averages_iff (sound : sums.Sound) (small : sample.delta.natAbs < 30000)
    (full : sums.window.length = 9) :
    (sums.add sample).averages = windowMeans (sums.window ++ [sample]) ↔
      BalancedWindow (sums.window ++ [sample]) := by
  have ten : ((sums.add sample).expectResultCnt : Int) = 10 := by
    show ((sums.expectResultCnt + 1 : Nat) : Int) = 10
    rw [sound.counted, full]
    rfl
  have length : forall value : PtpSample -> Int,
      (((sums.window ++ [sample]).map value).length : Int) = 10 := by
    intro value
    rw [List.length_map, List.length_append, List.length_singleton, full]
    rfl
  have wraps : forall total : Int, (int32 total).tdiv 10 = total.tdiv 10 ↔
      -2147483648 ≤ total ∧ total < 2147483648 :=
    fun total => tdiv_int32_eq_iff total (by decide) (by decide)
  unfold PtpSums.averages windowMeans truncatedMean
  rw [PtpSample.mk.injEq, ten, length, length, length, length, sound.add_delta small,
    doubled_mean_iff, show (sums.add sample).expectCorrectResultSum = _ from
      wrapped_add sound.correctDelta sample, show (sums.add sample).expectT2T1DeltaSum = _ from
      wrapped_add sound.t2T1Delta sample, show (sums.add sample).expectT4T3DeltaSum = _ from
      wrapped_add sound.t4T3Delta sample, wraps, wraps, wraps]
  exact ⟨fun ⟨delta, correctDelta, t2T1Delta, t4T3Delta⟩ =>
      ⟨delta, correctDelta, t2T1Delta, t4T3Delta⟩,
    fun balanced =>
      ⟨balanced.delta, balanced.correctDelta, balanced.t2T1Delta, balanced.t4T3Delta⟩⟩

/-! ## The averages -/

/-- What is known of the averages: after a reset three of them are zero, and the one that may be substituted
for a delta is the mean of the window that was closed last. -/
structure PtpExpect.Sound (ptp : PtpExpect) : Prop where
  sums : ptp.sums.Sound
  retired : ptp.isReset = true -> ptp.judge.expectResultAvg = 0 ∧ ptp.expectCorrectResultAvg = 0 ∧
    ptp.judge.expectT2T1.avg = 0
  mean : ptp.judge.expectResultAvg ≠ 0 -> ptp.lastWindow ≠ [] ∧
    ptp.judge.expectResultAvg = truncatedMean (ptp.lastWindow.map PtpSample.delta)
  right : ptp.Right

variable {ptp : PtpExpect}

theorem ptpExpectInit_sound (calibrateT2T3 : Bool) : (ptpExpectInit calibrateT2T3).Sound where
  sums := .none
  retired isReset := by cases isReset
  mean some := absurd rfl some
  right use member := nomatch member

theorem right_look (ptp : PtpExpect) (avg : Int) :
    (ptp.look avg).Right ↔ ptp.Right ∧ (avg ≠ 0 -> ptp.isReset = false) := by
  unfold PtpExpect.look PtpExpect.Right
  by_cases zero : avg = 0
  · simp [zero]
  · simp only [zero, if_false, List.mem_append, List.mem_singleton]
    constructor
    · exact fun right => ⟨fun use member => right use (.inl member), fun _ => right _ (.inr rfl)⟩
    · rintro ⟨right, fresh⟩ use (member | rfl)
      · exact right use member
      · exact fresh zero

section

variable (sound : ptp.Sound)

include sound

theorem PtpExpect.Sound.look {avg : Int} (fresh : avg ≠ 0 -> ptp.isReset = false) :
    (ptp.look avg).Sound where
  sums := sound.sums
  retired := sound.retired
  mean := sound.mean
  right := (right_look ptp avg).mpr ⟨sound.right, fresh⟩

theorem PtpExpect.Sound.clear : ptp.clear.Sound where
  sums := .none
  retired := sound.retired
  mean := sound.mean
  right := sound.right

theorem PtpExpect.Sound.resultReset : ptp.resultReset.Sound where
  sums := sound.sums
  retired _ := ⟨rfl, rfl, rfl⟩
  mean some := absurd rfl some
  right := sound.right

theorem PtpExpect.Sound.withJudge {judge : PtpJudge}
    (result : judge.expectResultAvg = ptp.judge.expectResultAvg)
    (t2T1 : ptp.judge.expectT2T1.avg = 0 -> judge.expectT2T1.avg = 0) :
    PtpExpect.Sound { ptp with judge := judge } where
  sums := sound.sums
  retired isReset :=
    have zero := sound.retired isReset
    ⟨result.trans zero.1, zero.2.1, t2T1 zero.2.2⟩
  mean := by
    show judge.expectResultAvg ≠ 0 -> _ ∧ judge.expectResultAvg = _
    rw [result]
    exact sound.mean
  right := sound.right

theorem PtpExpect.Sound.fresh {avg : Int}
    (among : avg = ptp.judge.expectResultAvg ∨ avg = ptp.expectCorrectResultAvg ∨
      avg = ptp.judge.expectT2T1.avg) (some : avg ≠ 0) : ptp.isReset = false := by
  by_contra isReset
  rw [Bool.not_eq_false] at isReset
  have zero := sound.retired isReset
  rcases among with rfl | rfl | rfl
  · exact some zero.1
  · exact some zero.2.1
  · exact some zero.2.2

theorem PtpExpect.Sound.syncExpectResult : ptp.syncExpectResult.Sound := by
  have corrected := sound.look (sound.fresh (.inr (.inl rfl)))
  have looked : ((ptp.look ptp.expectCorrectResultAvg).look ptp.judge.expectResultAvg).Sound :=
    corrected.look (sound.fresh (.inl rfl))
  unfold PtpExpect.syncExpectResult
  dsimp only
  split
  · exact looked
  · rename_i some
    have adjusted := @PtpExpect.Sound.withJudge _ looked (ptp.judge.adjustDelta ptp.judge.expectResultAvg) rfl id
    refine ⟨adjusted.sums, adjusted.retired, adjusted.mean, ?_⟩
    rintro use member
    rcases List.mem_append.mp member with before | last
    · exact looked.right use before
    · obtain rfl := List.mem_singleton.mp last
      have mean := sound.mean some
      have between := truncatedMean_between
        (List.map_eq_nil_iff.not.mpr mean.1 : ptp.lastWindow.map PtpSample.delta ≠ [])
      rw [← mean.2] at between
      simp only [List.mem_map, exists_exists_and_eq_and] at between
      exact between

theorem PtpExpect.Sound.reject : ptp.reject.Sound := by
  have failed := @PtpExpect.Sound.withJudge _ sound.clear
    { ptp.judge with deltaResultErr := ptp.judge.deltaResultErr + 1 } rfl id
  unfold PtpExpect.reject
  dsimp only
  apply PtpExpect.Sound.syncExpectResult
  split
  · exact failed.resultReset
  · exact failed

theorem PtpExpect.Sound.collect_iff {sample : PtpSample}
    (small : sample.delta.natAbs < 30000) :
    (ptp.collect sample).Right ↔
      (ptp.sums.window.length = 9 -> BalancedWindow (ptp.sums.window ++ [sample])) := by
  have counted := sound.sums.counted
  have short := sound.sums.short
  unfold PtpExpect.collect
  dsimp only
  by_cases full : ptp.sums.window.length = 9
  · have enough : 10 ≤ (ptp.sums.add sample).expectResultCnt := by
      show 10 ≤ ptp.sums.expectResultCnt + 1
      omega
    rw [if_pos enough, ← sound.sums.averages_iff small full]
    have ten : (ptp.sums.window ++ [sample]).length = 10 := by
      rw [List.length_append, full, List.length_singleton]
    constructor
    · intro right _
      exact (right _ (List.mem_append_right _ (List.mem_singleton.mpr rfl))).2
    · intro means use member
      rcases List.mem_append.mp member with before | last
      · exact sound.right use before
      · obtain rfl := List.mem_singleton.mp last
        exact ⟨ten, means full⟩
  · have few : ¬ 10 ≤ (ptp.sums.add sample).expectResultCnt := by
      show ¬ 10 ≤ ptp.sums.expectResultCnt + 1
      omega
    rw [if_neg few]
    exact ⟨fun _ complete => absurd complete full, fun _ => sound.right⟩

theorem PtpExpect.Sound.collect {sample : PtpSample}
    (small : sample.delta.natAbs < 30000)
    (balanced : ptp.sums.window.length = 9 -> BalancedWindow (ptp.sums.window ++ [sample])) :
    (ptp.collect sample).Sound := by
  have right := (sound.collect_iff small).mpr balanced
  have counted := sound.sums.counted
  have short := sound.sums.short
  unfold PtpExpect.collect at right ⊢
  dsimp only at right ⊢
  by_cases full : ptp.sums.window.length = 9
  · have enough : 10 ≤ (ptp.sums.add sample).expectResultCnt := by
      show 10 ≤ ptp.sums.expectResultCnt + 1
      omega
    have means := (sound.sums.averages_iff small full).mpr (balanced full)
    rw [if_pos enough] at right ⊢
    refine ⟨.none, fun isReset => (by cases isReset), fun _ => ⟨?_, ?_⟩, right⟩
    · exact List.append_ne_nil_of_right_ne_nil _ (List.cons_ne_nil sample [])
    · exact congrArg PtpSample.delta means
  · have few : ¬ 10 ≤ (ptp.sums.add sample).expectResultCnt := by
      show ¬ 10 ≤ ptp.sums.expectResultCnt + 1
      omega
    rw [if_neg few]
    exact ⟨sound.sums.add small (by omega), sound.retired, sound.mean, sound.right⟩

theorem PtpExpect.Sound.applied (sample : PtpSample) :
    (ptp.applied sample).Sound :=
  sound.withJudge rfl id

theorem PtpExpect.Sound.accept_iff (sample : PtpSample) :
    (ptp.accept sample).Right ↔
      (ptp.fills sample -> BalancedWindow (ptp.sums.window ++ [sample])) := by
  have judged := sound.applied sample
  unfold PtpExpect.accept PtpExpect.fills
  dsimp only
  by_cases late : 10 < (ptp.applied sample).judge.deltaResultCnt
  · rw [if_pos late]
    by_cases small : sample.delta.natAbs < 30000
    · rw [if_pos small, judged.collect_iff small]
      simp only [late, small, true_and]
      exact Iff.rfl
    · rw [if_neg small]
      exact ⟨fun _ fills => absurd fills.2.1 small, fun _ => judged.clear.right⟩
  · rw [if_neg late]
    exact ⟨fun _ fills => absurd fills.1 late, fun _ => judged.right⟩

theorem PtpExpect.Sound.accept {sample : PtpSample}
    (balanced : ptp.fills sample -> BalancedWindow (ptp.sums.window ++ [sample])) :
    (ptp.accept sample).Sound := by
  have judged := sound.applied sample
  unfold PtpExpect.accept
  dsimp only
  by_cases late : 10 < (ptp.applied sample).judge.deltaResultCnt
  · rw [if_pos late]
    by_cases small : sample.delta.natAbs < 30000
    · rw [if_pos small]
      exact judged.collect small (fun full => balanced ⟨late, small, full⟩)
    · rw [if_neg small]
      exact judged.clear
  · rw [if_neg late]
    exact judged

end

/-! ## The log grows -/

theorem right_of_look {avg : Int} (right : (ptp.look avg).Right) : ptp.Right :=
  ((right_look ptp avg).mp right).1

theorem right_of_syncExpectResult (right : ptp.syncExpectResult.Right) : ptp.Right := by
  unfold PtpExpect.syncExpectResult at right
  dsimp only at right
  split at right
  · exact right_of_look (right_of_look right)
  · exact right_of_look (right_of_look fun use member => right use (List.mem_append_left _ member))

theorem right_of_reject (right : ptp.reject.Right) : ptp.Right := by
  have before := right_of_syncExpectResult right
  dsimp only at before
  split at before
  · exact before
  · exact before

theorem right_of_accept {sample : PtpSample} (right : (ptp.accept sample).Right) : ptp.Right := by
  unfold PtpExpect.accept PtpExpect.collect at right
  dsimp only at right
  split at right
  · split at right
    · split at right
      · exact fun use member => right use (List.mem_append_left _ member)
      · exact right
    · exact right
  · exact right

theorem right_of_lookForOutlier (right : ptp.lookForOutlier.Right) : ptp.Right := by
  unfold PtpExpect.lookForOutlier at right
  split at right
  · exact right
  · exact right_of_look right

/-! ## A result -/

theorem calibrate_avg (expect : DeltaExpectation) (delta : Int) (zero : expect.avg = 0) :
    (expect.calibrate delta).1.avg = 0 := by
  simp [DeltaExpectation.calibrate, zero]

theorem calibrate_expectResultAvg (judge : PtpJudge) (t2T1Delta t4T3Delta : Int) :
    (judge.calibrate t2T1Delta t4T3Delta).1.expectResultAvg = judge.expectResultAvg := by
  unfold PtpJudge.calibrate
  split <;> rfl

theorem calibrate_expectT2T1 (judge : PtpJudge) (t2T1Delta t4T3Delta : Int)
    (zero : judge.expectT2T1.avg = 0) :
    (judge.calibrate t2T1Delta t4T3Delta).1.expectT2T1.avg = 0 := by
  unfold PtpJudge.calibrate
  split
  · exact calibrate_avg judge.expectT2T1 t2T1Delta zero
  · exact zero

theorem PtpExpect.Sound.lookForOutlier (sound : ptp.Sound) : ptp.lookForOutlier.Sound := by
  unfold PtpExpect.lookForOutlier
  split
  · exact sound
  · exact sound.look (sound.fresh (.inl rfl))

theorem PtpExpect.Sound.calibrate (sound : ptp.Sound) {t2T1Delta t4T3Delta : Int}
    (fresh : ptp.judge.calibrateT2T3 = true -> ptp.isReset = true -> ptp.judge.expectT4T3.avg = 0) :
    (ptp.calibrate t2T1Delta t4T3Delta).1.Sound := by
  unfold PtpExpect.calibrate
  dsimp only
  by_cases calibrates : ptp.judge.calibrateT2T3 = true
  · rw [if_pos calibrates]
    have first := sound.look (sound.fresh (.inr (.inr rfl)))
    have looked : ((ptp.look ptp.judge.expectT2T1.avg).look ptp.judge.expectT4T3.avg).Sound := by
      apply first.look
      intro some
      by_contra isReset
      exact some (fresh calibrates (Bool.not_eq_false _ ▸ isReset))
    refine PtpExpect.Sound.withJudge ?_ ?_ ?_
    · split
      · exact looked.clear
      · exact looked
    · rw [calibrate_expectResultAvg]
      split <;> rfl
    · intro zero
      apply calibrate_expectT2T1
      split at zero <;> exact zero
  · rw [if_neg calibrates]
    exact sound

theorem right_of_calibrate {t2T1Delta t4T3Delta : Int}
    (right : (ptp.calibrate t2T1Delta t4T3Delta).1.Right) :
    ptp.judge.calibrateT2T3 = true -> ptp.isReset = true -> ptp.judge.expectT4T3.avg = 0 := by
  intro calibrates isReset
  unfold PtpExpect.calibrate at right
  dsimp only at right
  rw [if_pos calibrates] at right
  have looked : ((ptp.look ptp.judge.expectT2T1.avg).look ptp.judge.expectT4T3.avg).Right := by
    intro use member
    apply right use
    dsimp only
    split <;> exact member
  by_contra some
  have fresh := ((right_look _ _).mp looked).2 some
  exact Bool.false_ne_true (fresh.symm.trans isReset)

theorem lookForOutlier_outlier (ptp : PtpExpect) (sample : PtpSample) :
    ptp.lookForOutlier.outlier sample = ptp.outlier sample := by
  unfold PtpExpect.lookForOutlier
  split <;> rfl

theorem lookForOutlier_fills (ptp : PtpExpect) (sample : PtpSample) :
    ptp.lookForOutlier.fills sample ↔ ptp.fills sample := by
  unfold PtpExpect.lookForOutlier
  split <;> exact Iff.rfl

theorem lookForOutlier_sums (ptp : PtpExpect) : ptp.lookForOutlier.sums = ptp.sums := by
  unfold PtpExpect.lookForOutlier
  split <;> rfl

theorem reject_not_fills (ptp : PtpExpect) (sample : PtpSample) : ¬ ptp.reject.fills sample := by
  have cleared : ptp.reject.sums.window = [] := by
    unfold PtpExpect.reject PtpExpect.syncExpectResult
    dsimp only
    split <;> split <;> rfl
  intro fills
  have nine := fills.2.2
  rw [cleared] at nine
  exact absurd nine (by decide)

theorem PtpExpect.Sound.step (sound : ptp.Sound) (adjustsFreq : Bool) {input : PtpExpectInput}
    (balanced : WindowsBalanced ptp input) : (ptpExpectStep adjustsFreq ptp input).Sound := by
  cases input with
  | syncTimeout => exact sound.clear.syncExpectResult
  | monitor => exact sound.syncExpectResult
  | pendingSync => exact sound.clear.syncExpectResult
  | txTimeout => exact sound.clear
  | result t1 t2 t3 t4 correctDelta =>
    have looked := (@PtpExpect.Sound.calibrate _ sound (int64 ((t2 : Int) - t1))
      (int64 ((t4 : Int) - t3)) balanced.1).lookForOutlier
    simp only [ptpExpectStep, PtpExpect.parseResult]
    split
    · split
      · exact looked.reject.accept (fun fills => absurd fills (reject_not_fills _ _))
      · exact looked.reject
    · rename_i near
      rw [lookForOutlier_outlier, Bool.not_eq_true] at near
      apply looked.accept
      rw [lookForOutlier_fills, lookForOutlier_sums]
      exact balanced.2 near

theorem PtpExpect.Sound.balanced (sound : ptp.Sound) (adjustsFreq : Bool) {input : PtpExpectInput}
    (right : (ptpExpectStep adjustsFreq ptp input).Right) : WindowsBalanced ptp input := by
  cases input with
  | syncTimeout => trivial
  | monitor => trivial
  | pendingSync => trivial
  | txTimeout => trivial
  | result t1 t2 t3 t4 correctDelta =>
    simp only [ptpExpectStep, PtpExpect.parseResult] at right
    have calibrated : (ptp.calibrate (int64 ((t2 : Int) - t1)) (int64 ((t4 : Int) - t3))).1.Right := by
      apply right_of_lookForOutlier
      split at right
      · split at right
        · exact right_of_reject (right_of_accept right)
        · exact right_of_reject right
      · exact right_of_accept right
    have fresh := right_of_calibrate calibrated
    refine ⟨fresh, ?_⟩
    dsimp only
    intro near
    rw [if_neg (by rw [lookForOutlier_outlier, near]; exact Bool.false_ne_true)] at right
    have accepted := ((sound.calibrate fresh).lookForOutlier.accept_iff _).mp right
    rw [lookForOutlier_fills, lookForOutlier_sums] at accepted
    exact accepted

/-! ## Runs from the start -/

/-- Along every run of results and timeouts, every window is closed with its means, every delta that is
substituted is between the smallest and the largest of its window, and no average of a window that was
reset is read, exactly if the windows are balanced in every step. -/
theorem ptp_windows_right_iff (adjustsFreq calibrateT2T3 : Bool) (inputs : List PtpExpectInput) :
    Admitted (ptpExpectStep adjustsFreq) (fun ptp input => (ptpExpectStep adjustsFreq ptp input).Right)
        (ptpExpectInit calibrateT2T3) inputs ↔
      Admitted (ptpExpectStep adjustsFreq) WindowsBalanced (ptpExpectInit calibrateT2T3) inputs := by
  constructor
  · intro right
    exact admitted_of_invariant (ptpExpectStep adjustsFreq)
      (fun ptp input => (ptpExpectStep adjustsFreq ptp input).Right) PtpExpect.Sound
      (fun _ _ sound right => sound.step adjustsFreq (sound.balanced adjustsFreq right))
      (fun _ _ sound right => sound.balanced adjustsFreq right)
      (ptpExpectInit_sound calibrateT2T3) right
  · intro balanced
    exact admitted_of_invariant (ptpExpectStep adjustsFreq) WindowsBalanced PtpExpect.Sound
      (fun _ _ sound balanced => sound.step adjustsFreq balanced)
      (fun _ _ sound balanced => (sound.step adjustsFreq balanced).right)
      (ptpExpectInit_sound calibrateT2T3) balanced

/-- Twenty results of a path of 1500 ns to a master that is 1000 ns ahead, and a Sync that times out. -/
def steadyMaster : List PtpExpectInput :=
  List.replicate 20 (.result 10000 10500 20000 22500 1000) ++ [.syncTimeout]

/-- The average of ten deltas of 1000 ns is 2000 ns, and that is what is applied. -/
theorem doubled_average :
    (run (ptpExpectStep false) (ptpExpectInit false) steadyMaster).uses =
      [.closed (List.replicate 10 ⟨1000, 1000, 500, 2500⟩) ⟨2000, 1000, 500, 2500⟩, .read false,
        .read false, .substituted 2000 (List.replicate 10 ⟨1000, 1000, 500, 2500⟩)] ∧
    ¬ (run (ptpExpectStep false) (ptpExpectInit false) steadyMaster).Right := by
  decide +kernel

end MediaTransport.Ptp
