import MediaTransport.Ptp.Exchange
import MediaTransport.Library.Run

namespace MediaTransport.Ptp

open Library

/-!
# Coherence of the results of the PTP client

A result should be made up of times of one exchange.  What t1 and t2 are from is
checked, and a Sync clears everything that came before.  A response is checked
against the number of the latest request only, and that is still the one of the
cycle before until the new cycle makes its own.
-/

variable {PortId : Type}

/-- The times of a result are of one Sync and of one delay request, which was sent after it. -/
def PtpResult.Coherent (result : PtpResult) (requests : List (Option Nat)) : Prop :=
  result.t1SequenceId = result.t2SequenceId ∧ result.t3Request = result.t4Request ∧
    Exists fun sent => requests[result.t3Request]? = some (some sent) ∧ result.sync ≤ sent

/-- Every result is coherent, and no Sync gave two. -/
structure MtPtpImpl.Coherent (ptp : MtPtpImpl PortId) : Prop where
  each : ∀ result ∈ ptp.results, result.Coherent ptp.requests
  once : (ptp.results.map PtpResult.sync).Nodup

/-! ## The condition -/

/-- The request is the latest one, and was sent after the latest Sync. -/
def MtPtpImpl.OfCycle (ptp : MtPtpImpl PortId) (request : Nat) : Prop :=
  request + 1 = ptp.requests.length ∧ ptp.requests[request]? = some (some ptp.syncs)

def MtPtpImpl.takesResp [DecidableEq PortId] (ptp : MtPtpImpl PortId) (source requesting : PortId)
    (sequenceId : Nat) : Bool :=
  ptp.fromMaster source && decide (requesting = ptp.ourPortId) && decide (ptp.t4 = 0) &&
    decide (ptp.t3SequenceId = sequenceId)

/-- A response that is taken answers a request of this cycle; no request is made when a response was
taken already; and a transmit time that is taken is that of the latest request, which went out. -/
def PtpInCycle [DecidableEq PortId] (ptp : MtPtpImpl PortId) : PtpInput PortId -> Prop
  | .message source (.delayResp sequenceId _ _ requesting request) _ =>
    ptp.takesResp source requesting sequenceId = true -> ptp.OfCycle request
  | .delayReq allocated _ _ => ptp.makesRequest allocated = true -> ptp.t4 = 0
  | .readTxTime success txNs request _ _ =>
    ptp.takesTxTime success txNs = true ->
      request + 1 = ptp.requests.length ∧ ptp.requests[request]? ≠ some none
  | _ => True

instance (ptp : MtPtpImpl PortId) (request : Nat) : Decidable (ptp.OfCycle request) := by
  unfold MtPtpImpl.OfCycle
  infer_instance

instance [DecidableEq PortId] (ptp : MtPtpImpl PortId) (input : PtpInput PortId) :
    Decidable (PtpInCycle ptp input) := by
  unfold PtpInCycle
  split <;> infer_instance

/-! ## The invariant -/

/-- What is known of the times that were taken so far. -/
structure MtPtpImpl.Sound (ptp : MtPtpImpl PortId) : Prop where
  one : ptp.t1 ≠ 0 -> ptp.t1From = ptp.t2SequenceId
  three : ptp.t3 ≠ 0 -> ptp.OfCycle ptp.t3From
  four : ptp.t4 ≠ 0 -> ptp.OfCycle ptp.t4From
  pending : ptp.t3Pending = true -> forall request sent, request + 1 = ptp.requests.length ->
    ptp.requests[request]? = some (some sent) -> sent = ptp.syncs
  each : ∀ result ∈ ptp.results, result.Coherent ptp.requests
  past : ∀ result ∈ ptp.results, result.sync ≤ ptp.syncs ∧
    (ptp.t2 ≠ 0 -> result.sync < ptp.syncs)
  once : (ptp.results.map PtpResult.sync).Nodup

variable {ptp : MtPtpImpl PortId}

section

variable (sound : ptp.Sound)

include sound

theorem MtPtpImpl.Sound.coherent : ptp.Coherent :=
  ⟨sound.each, sound.once⟩

theorem MtPtpImpl.Sound.cleared {other : MtPtpImpl PortId}
    (one : other.t1 = 0) (two : other.t2 = 0) (three : other.t3 = 0) (four : other.t4 = 0)
    (pending : other.t3Pending = true -> ptp.t3Pending = true)
    (requests : other.requests = ptp.requests) (syncs : other.syncs = ptp.syncs)
    (results : other.results = ptp.results) : other.Sound where
  one filled := absurd one filled
  three filled := absurd three filled
  four filled := absurd four filled
  pending waits := by
    rw [requests, syncs]
    exact sound.pending (pending waits)
  each := by
    rw [requests, results]
    exact sound.each
  past result member := by
    rw [results] at member
    rw [syncs]
    exact ⟨(sound.past result member).1, fun filled => absurd two filled⟩
  once := by
    rw [results]
    exact sound.once

theorem MtPtpImpl.Sound.congr {other : MtPtpImpl PortId}
    (one : other.t1 = ptp.t1) (two : other.t2 = ptp.t2) (three : other.t3 = ptp.t3)
    (four : other.t4 = ptp.t4) (ids : other.t2SequenceId = ptp.t2SequenceId)
    (first : other.t1From = ptp.t1From) (third : other.t3From = ptp.t3From)
    (fourth : other.t4From = ptp.t4From)
    (pending : other.t3Pending = true -> ptp.t3Pending = true)
    (requests : other.requests = ptp.requests) (syncs : other.syncs = ptp.syncs)
    (results : other.results = ptp.results) : other.Sound := by
  constructor
  · rw [one, first, ids]
    exact sound.one
  · rw [three, third, MtPtpImpl.OfCycle, requests, syncs]
    exact sound.three
  · rw [four, fourth, MtPtpImpl.OfCycle, requests, syncs]
    exact sound.four
  · intro waits
    rw [requests, syncs]
    exact sound.pending (pending waits)
  · rw [requests, results]
    exact sound.each
  · rw [results, syncs, two]
    exact sound.past
  · rw [results]
    exact sound.once

/-! ## Results -/

theorem MtPtpImpl.Sound.parseResult (one : ptp.t1 ≠ 0) (two : ptp.t2 ≠ 0)
    (three : ptp.t3 ≠ 0) (four : ptp.t4 ≠ 0) (verdict : PtpVerdict) :
    (ptpParseResult ptp verdict).Sound := by
  unfold ptpParseResult
  cases accepted : verdict.accepted with
  | false =>
    simp only [Bool.false_eq_true, if_false]
    exact sound.cleared rfl rfl rfl rfl id rfl rfl rfl
  | true =>
    simp only [if_true]
    have third := sound.three three
    have fourth := sound.four four
    have coherent : ptp.result.Coherent ptp.requests := by
      refine ⟨sound.one one, ?_, ptp.syncs, third.2, le_refl _⟩
      have same : ptp.t3From + 1 = ptp.t4From + 1 := third.1.trans fourth.1.symm
      exact Nat.succ.inj same
    constructor
    · exact fun filled => absurd rfl filled
    · exact fun filled => absurd rfl filled
    · exact fun filled => absurd rfl filled
    · exact sound.pending
    · intro result member
      rcases List.mem_append.mp member with old | new
      · exact sound.each result old
      · exact List.mem_singleton.mp new ▸ coherent
    · intro result member
      refine ⟨?_, fun filled => absurd rfl filled⟩
      rcases List.mem_append.mp member with old | new
      · exact (sound.past result old).1
      · obtain rfl := List.mem_singleton.mp new
        exact le_refl ptp.syncs
    · show ((ptp.results ++ [ptp.result]).map PtpResult.sync).Nodup
      rw [List.map_append, List.nodup_append]
      refine ⟨sound.once, List.nodup_singleton _, ?_⟩
      intro sync before other now same
      rcases List.mem_map.mp before with ⟨result, member, rfl⟩
      obtain rfl := List.mem_singleton.mp now
      exact absurd same (Nat.ne_of_lt ((sound.past result member).2 two))

theorem MtPtpImpl.Sound.tryCompleteResult (verdict : PtpVerdict) :
    (ptpTryCompleteResult ptp verdict).Sound := by
  unfold ptpTryCompleteResult
  split
  · exact sound
  · rename_i full
    simp only [not_or] at full
    split
    · exact sound
    · have claimed : MtPtpImpl.Sound { ptp with resultClaimed := true } :=
        sound.congr rfl rfl rfl rfl rfl rfl rfl rfl id rfl rfl rfl
      exact claimed.parseResult full.1 full.2.1 full.2.2.1 full.2.2.2 verdict

/-! ## Alarms -/

theorem MtPtpImpl.Sound.readTxTime {success : Bool} {txNs request now : Nat}
    (verdict : PtpVerdict)
    (latest : ptp.takesTxTime success txNs = true ->
      request + 1 = ptp.requests.length ∧ ptp.requests[request]? ≠ some none) :
    (ptpDelayReqReadTxTimeHandler ptp success txNs request now verdict).Sound := by
  unfold ptpDelayReqReadTxTimeHandler
  by_cases armed : ptp.readTxTimeAlarms = 0
  · rw [if_pos armed]
    exact sound
  · rw [if_neg armed]
    cases pending : ptp.t3Pending with
    | false => exact sound.congr rfl rfl rfl rfl rfl rfl rfl rfl (fun waits => by cases waits) rfl rfl rfl
    | true =>
      simp only [Bool.not_true, Bool.false_eq_true, if_false]
      by_cases same : ptp.t3SequenceId = ptp.t3PendingSeq
      · rw [if_neg (not_not_intro same)]
        by_cases taken : (success && decide (ptp.t2 < txNs)) = true
        · rw [if_pos taken]
          -- the request that is pending was sent in this cycle, and the time is its own
          have takes : ptp.takesTxTime success txNs = true := by
            simp only [Bool.and_eq_true] at taken
            simp only [takesTxTime, Bool.and_eq_true, decide_eq_true_eq]
            exact ⟨⟨⟨⟨Nat.pos_of_ne_zero armed, pending⟩, same⟩, taken.1⟩,
              of_decide_eq_true taken.2⟩
          rcases latest takes with ⟨last, sent⟩
          have inside : request < ptp.requests.length := by omega
          have cycle : ptp.OfCycle request := by
            refine ⟨last, ?_⟩
            cases entry : ptp.requests[request] with
            | none => exact absurd (by rw [List.getElem?_eq_getElem inside, entry]) sent
            | some count =>
              have found : ptp.requests[request]? = some (some count) := by
                rw [List.getElem?_eq_getElem inside, entry]
              rw [found, sound.pending pending request count last found]
          apply MtPtpImpl.Sound.tryCompleteResult
          refine ⟨sound.one, fun _ => cycle, sound.four, ?_, sound.each, sound.past, sound.once⟩
          intro waits
          cases waits
        · rw [if_neg taken]
          by_cases early : now < ptp.t3DeadlineNs
          · rw [if_pos early]
            exact sound.congr rfl rfl rfl rfl rfl rfl rfl rfl (fun _ => pending) rfl rfl rfl
          · rw [if_neg early]
            exact sound.cleared rfl rfl rfl rfl (fun waits => by cases waits) rfl rfl rfl
      · rw [if_pos same]
        exact sound.congr rfl rfl rfl rfl rfl rfl rfl rfl (fun waits => by cases waits) rfl rfl rfl

end

theorem PtpResult.Coherent.later {result : PtpResult} {requests : List (Option Nat)}
    (coherent : result.Coherent requests) (entry : Option Nat) :
    result.Coherent (requests ++ [entry]) := by
  rcases coherent with ⟨ids, same, sent, found, after⟩
  refine ⟨ids, same, sent, ?_, after⟩
  rw [List.getElem?_append_left (List.getElem?_eq_some_iff.mp found).1]
  exact found

theorem MtPtpImpl.Sound.delayReq (sound : ptp.Sound) {allocated sent : Bool} {now : Nat}
    (unanswered : ptp.makesRequest allocated = true -> ptp.t4 = 0) :
    (ptpDelayReqHandler ptp allocated sent now).Sound := by
  unfold ptpDelayReqHandler
  by_cases armed : ptp.delayReqAlarms = 0
  · rw [if_pos armed]
    exact sound
  · rw [if_neg armed]
    by_cases measured : ptp.t3 = 0
    · rw [if_neg (not_not_intro measured)]
      cases allocated with
      | false => exact sound.congr rfl rfl rfl rfl rfl rfl rfl rfl id rfl rfl rfl
      | true =>
        have empty : ptp.t4 = 0 := by
          apply unanswered
          simp [makesRequest, Nat.pos_of_ne_zero armed, measured]
        have each : forall entry result, result ∈ ptp.results ->
            result.Coherent (ptp.requests ++ [entry]) :=
          fun entry result member => (sound.each result member).later entry
        cases sent with
        | false =>
          refine ⟨sound.one, fun filled => absurd measured filled,
            fun filled => absurd empty filled, ?_, each none, sound.past, sound.once⟩
          intro _ request count last found
          rw [show request = ptp.requests.length by simpa using last] at found
          simp at found
        | true =>
          refine ⟨sound.one, fun filled => absurd measured filled,
            fun filled => absurd empty filled, ?_, each (some ptp.syncs), sound.past, sound.once⟩
          intro _ request count last found
          rw [show request = ptp.requests.length by simpa using last] at found
          simpa using found.symm
    · rw [if_pos measured]
      exact sound.congr rfl rfl rfl rfl rfl rfl rfl rfl id rfl rfl rfl

theorem MtPtpImpl.Sound.syncTimeout (sound : ptp.Sound) : (ptpSyncTimeoutHandler ptp).Sound := by
  unfold ptpSyncTimeoutHandler
  split
  · exact sound
  · exact sound.cleared rfl rfl rfl rfl id rfl rfl rfl

/-! ## Messages -/

theorem MtPtpImpl.Sound.parseSync (sound : ptp.Sound) (sequenceId rxNs : Nat) :
    (ptpParseSync ptp sequenceId rxNs).Sound := by
  have kept : (ptpSyncMonitor ptp).requests = ptp.requests ∧
      (ptpSyncMonitor ptp).results = ptp.results := by
    unfold ptpSyncMonitor
    split
    · exact ⟨rfl, rfl⟩
    · split <;> exact ⟨rfl, rfl⟩
  refine ⟨fun filled => absurd rfl filled, fun filled => absurd rfl filled,
    fun filled => absurd rfl filled, ?_, ?_, ?_, ?_⟩
  · intro waits
    cases waits
  · show ∀ result ∈ (ptpSyncMonitor ptp).results,
      result.Coherent (ptpSyncMonitor ptp).requests
    rw [kept.1, kept.2]
    exact sound.each
  · intro result member
    have old : result ∈ ptp.results := kept.2 ▸ member
    have before := (sound.past result old).1
    show result.sync ≤ ptp.syncs + 1 ∧ (_ -> result.sync < ptp.syncs + 1)
    exact ⟨by omega, fun _ => by omega⟩
  · show ((ptpSyncMonitor ptp).results.map PtpResult.sync).Nodup
    rw [kept.2]
    exact sound.once

theorem MtPtpImpl.Sound.setT1 (sound : ptp.Sound) (t1 alarms : Nat) :
    MtPtpImpl.Sound
      { ptp with t1 := t1, t1From := ptp.t2SequenceId, delayReqAlarms := alarms } :=
  ⟨fun _ => rfl, sound.three, sound.four, sound.pending, sound.each, sound.past, sound.once⟩

theorem MtPtpImpl.Sound.parseFollowUp (sound : ptp.Sound) (sequenceId : Nat)
    (preciseOrigin : MtPtpTmstamp) (correctionField : Nat) :
    (ptpParseFollowUp ptp sequenceId preciseOrigin correctionField).1.Sound := by
  unfold ptpParseFollowUp
  by_cases same : sequenceId = ptp.t2SequenceId
  · subst same
    rw [if_neg (not_not_intro rfl)]
    exact sound.setT1 _ _
  · rw [if_pos same]
    exact sound

theorem MtPtpImpl.Sound.parseDelayResp [DecidableEq PortId] (sound : ptp.Sound) {sequenceId : Nat}
    (receive : MtPtpTmstamp) (correctionField : Nat) {requesting : PortId} {request : Nat}
    (verdict : PtpVerdict)
    (answers : requesting = ptp.ourPortId -> ptp.t4 = 0 -> ptp.t3SequenceId = sequenceId ->
      ptp.OfCycle request) :
    (ptpParseDelayResp ptp sequenceId receive correctionField requesting request verdict).1.Sound := by
  unfold ptpParseDelayResp
  by_cases ours : requesting = ptp.ourPortId
  · rw [if_neg (not_not_intro ours)]
    by_cases first : ptp.t4 = 0
    · rw [if_neg (not_not_intro first)]
      by_cases named : ptp.t3SequenceId = sequenceId
      · rw [if_neg (not_not_intro named)]
        generalize word 64 ((ptpNetTmstampToNs receive : Int) - (correctionField / 65536 : Nat)) = t4
        apply MtPtpImpl.Sound.tryCompleteResult
        exact ⟨sound.one, sound.three, fun _ => answers ours first named, sound.pending, sound.each,
          sound.past, sound.once⟩
      · rw [if_pos named]
        exact sound
    · rw [if_pos first]
      exact sound
  · rw [if_pos ours]
    exact sound

theorem MtPtpImpl.Sound.parse [DecidableEq PortId] (sound : ptp.Sound) (source : PortId)
    (msg : PtpMsg PortId) (verdict : PtpVerdict)
    (cycle : PtpInCycle ptp (.message source msg verdict)) :
    (mtPtpParse ptp source msg verdict).1.Sound := by
  cases master : ptp.fromMaster source with
  | false =>
    cases msg with
    | announce => exact sound.congr rfl rfl rfl rfl rfl rfl rfl rfl id rfl rfl rfl
    | _ => simpa only [mtPtpParse, master, Bool.not_false, if_true] using sound
  | true =>
    cases msg with
    | sync sequenceId rxNs =>
      simpa [mtPtpParse, master] using sound.parseSync sequenceId rxNs
    | followUp sequenceId preciseOrigin correctionField =>
      simpa [mtPtpParse, master] using sound.parseFollowUp sequenceId preciseOrigin correctionField
    | delayResp sequenceId receive correctionField requesting request =>
      have answers : requesting = ptp.ourPortId -> ptp.t4 = 0 -> ptp.t3SequenceId = sequenceId ->
          ptp.OfCycle request := by
        intro ours first named
        exact cycle (by simp [takesResp, master, ours, first, named])
      simpa [mtPtpParse, master] using
        sound.parseDelayResp receive correctionField verdict answers
    | announce => exact sound.congr rfl rfl rfl rfl rfl rfl rfl rfl id rfl rfl rfl
    | other => simpa [mtPtpParse, master] using sound

/-! ## Runs -/

theorem MtPtpImpl.Sound.step [DecidableEq PortId] (sound : ptp.Sound) (input : PtpInput PortId)
    (cycle : PtpInCycle ptp input) : (ptpStep ptp input).Sound := by
  cases input with
  | message source msg verdict => exact sound.parse source msg verdict cycle
  | delayReq allocated sent now => exact sound.delayReq cycle
  | readTxTime success txNs request now verdict => exact sound.readTxTime verdict cycle
  | syncTimeout => exact sound.syncTimeout

theorem ptpInit_sound (port : Nat) (ourPortId : PortId) : (ptpInit port ourPortId).Sound where
  one filled := absurd rfl filled
  three filled := absurd rfl filled
  four filled := absurd rfl filled
  pending waits := by cases waits
  each result member := by cases member
  past result member := by cases member
  once := List.nodup_nil

def ptpRun [DecidableEq PortId] (port : Nat) (ourPortId : PortId) (inputs : List (PtpInput PortId)) :
    MtPtpImpl PortId :=
  run ptpStep (ptpInit port ourPortId) inputs

/-- In every run in which only responses and transmit times of the running cycle are taken, every result
is of one Sync and one request, and no Sync gives two. -/
theorem ptp_results_coherent [DecidableEq PortId] (port : Nat) (ourPortId : PortId)
    (inputs : List (PtpInput PortId))
    (cycles : Admitted ptpStep PtpInCycle (ptpInit port ourPortId) inputs) :
    (ptpRun port ourPortId inputs).Coherent := by
  have sound : (ptpRun port ourPortId inputs).Sound :=
    run_invariant ptpStep PtpInCycle MtPtpImpl.Sound
      (fun _ input sound cycle => sound.step input cycle) (ptpInit_sound port ourPortId) cycles
  exact sound.coherent

def cycleStart (sequenceId rxNs : Nat) : List (PtpInput Nat) :=
  [.message 1 (.sync sequenceId rxNs) ⟨true, 0⟩,
    .message 1 (.followUp sequenceId ⟨0, 0, rxNs + 5⟩ 0) ⟨true, 0⟩,
    .delayReq true true rxNs]

/-- Two cycles in order give two results. -/
theorem ptp_results_coherent_two :
    let inputs : List (PtpInput Nat) :=
      [.message 1 .announce ⟨true, 0⟩] ++ cycleStart 7 1000 ++
        [.readTxTime true 1100 0 1200 ⟨true, 0⟩,
          .message 1 (.delayResp 1 ⟨0, 0, 1150⟩ 0 2 0) ⟨true, 0⟩] ++ cycleStart 8 3000 ++
        [.message 1 (.delayResp 2 ⟨0, 0, 3150⟩ 0 2 1) ⟨true, 0⟩, .readTxTime true 3100 1 3200 ⟨true, 0⟩]
    (ptpRun 0 2 inputs).Coherent ∧
      (ptpRun 0 2 inputs).results =
        [⟨1005, 1000, 1100, 1150, 7, 7, 0, 0, 1⟩, ⟨3005, 3000, 3100, 3150, 8, 8, 1, 1, 2⟩] := by
  intro inputs
  exact ⟨ptp_results_coherent 0 2 inputs (by decide +kernel), by decide +kernel⟩

/-- The response to the first request arrives after the second Sync and before the second request: it is
taken, and the result mixes both cycles. -/
theorem late_response_mixes_cycles :
    let inputs : List (PtpInput Nat) :=
      [.message 1 .announce ⟨true, 0⟩] ++ cycleStart 7 1000 ++
        [.readTxTime true 1100 0 1200 ⟨true, 0⟩,
          .message 1 (.sync 8 3000) ⟨true, 0⟩,
          .message 1 (.delayResp 1 ⟨0, 0, 1150⟩ 0 2 0) ⟨true, 0⟩,
          .message 1 (.followUp 8 ⟨0, 0, 3005⟩ 0) ⟨true, 0⟩,
          .delayReq true true 3000, .readTxTime true 3100 1 3200 ⟨true, 0⟩]
    (ptpRun 0 2 inputs).results = [⟨3005, 3000, 3100, 1150, 8, 8, 1, 0, 2⟩] ∧
      ¬ (ptpRun 0 2 inputs).Coherent := by
  intro inputs
  have mixed : (ptpRun 0 2 inputs).results = [⟨3005, 3000, 3100, 1150, 8, 8, 1, 0, 2⟩] := by
    decide +kernel
  refine ⟨mixed, ?_⟩
  intro coherent
  have requests := (coherent.each ⟨3005, 3000, 3100, 1150, 8, 8, 1, 0, 2⟩ (by simp [mixed])).2.1
  cases requests

end MediaTransport.Ptp
