import MediaTransport.Anc.Accounts
import MediaTransport.Anc.Redundancy

namespace MediaTransport.Anc

open Library

/-!
# Recovery after a restart of the sender

A sender that restarts continues with numbers or timestamps that the session
takes for old ones.  When every port has seen so many of them that the filter
gives in, one packet is forced through.  The session takes over the packet's
timestamp, but its number only moves forward; so the packets after the forced
one are accepted exactly when its number was not behind the session's.
-/

/-! ## The forced packet -/

variable (env : AncEnv) (s : RxAncSession) (pkt : AncPkt) (port : MtlSessionPort)

/-- The redundancy threshold forces the packet through, and it is handed on. -/
structure ForceAccepted (env : AncEnv) (s : RxAncSession) (pkt : AncPkt) (port : MtlSessionPort) :
    Prop where
  member : port ∈ s.ops.ports
  header : rxAncWrongHeader s pkt = none
  redundant : rxAncVerdict (rxAncPrepare s pkt port) pkt = .redundant
  threshold :
    rxAncThresholdReached (rxAncCountRedundant (rxAncPrepare s pkt port) port) = true
  handedOn : s.ops.type = .frameLevel ∨ env.ringTakes = true

/-- The session after a packet that goes on from `accept_pkt`. -/
structure AcceptedPart (before after : FilterPart) (pkt : AncPkt) (port : MtlSessionPort) :
    Prop where
  ops : after.ops = before.ops
  sessionSeqId : after.sessionSeqId =
    if mtSeq16Greater pkt.seqNumber before.sessionSeqId then (pkt.seqNumber : Int)
    else before.sessionSeqId
  tmstamp : after.tmstamp = before.tmstamp ∨ after.tmstamp = pkt.tmstamp
  redundantErrorCnt : after.redundantErrorCnt = Function.update before.redundantErrorCnt port 0

theorem rxAncFinish_part (bypass : Bool) :
    (rxAncFinish s pkt port bypass).filterPart.ops = s.ops ∧
      (rxAncFinish s pkt port bypass).filterPart.sessionSeqId = s.sessionSeqId ∧
      (rxAncFinish s pkt port bypass).filterPart.redundantErrorCnt = s.redundantErrorCnt ∧
      ((rxAncFinish s pkt port bypass).filterPart.tmstamp = s.tmstamp ∨
        (rxAncFinish s pkt port bypass).filterPart.tmstamp = pkt.tmstamp) ∧
      (bypass = true -> (rxAncFinish s pkt port bypass).filterPart.tmstamp = pkt.tmstamp) := by
  rw [rxAncFinish_filterPart]
  by_cases moved : (pkt.tmstamp : Int) ≠ s.tmstamp ∧
      (mtSeq32Greater pkt.tmstamp s.tmstamp ∨ bypass)
  · rw [if_pos moved]
    exact ⟨rfl, rfl, rfl, Or.inr rfl, fun _ => rfl⟩
  · rw [if_neg moved]
    refine ⟨rfl, rfl, rfl, Or.inl rfl, fun forced => ?_⟩
    by_contra different
    exact moved ⟨fun same => different same.symm, Or.inr forced⟩

theorem rxAncAccept_part (bypass : Bool) :
    AcceptedPart s.filterPart (rxAncAccept env s pkt port bypass).filterPart pkt port ∧
      (bypass = true -> s.ops.type = .frameLevel ∨ env.ringTakes = true ->
        (rxAncAccept env s pkt port bypass).tmstamp = pkt.tmstamp) := by
  have advanced := rxAncAdvance_filterPart s pkt port
  have ops : (rxAncAdvance s pkt port).ops = s.ops := congrArg FilterPart.ops advanced
  have number := congrArg FilterPart.sessionSeqId advanced
  have stamp : (rxAncAdvance s pkt port).tmstamp = s.tmstamp := congrArg FilterPart.tmstamp advanced
  have errors := congrArg FilterPart.redundantErrorCnt advanced
  have kind : (rxAncAdvance s pkt port).ops.type = s.ops.type := congrArg St40RxOps.type ops
  unfold rxAncAccept
  dsimp only
  rw [kind]
  cases type : s.ops.type with
  | frameLevel =>
    have same := rxAncillarySessionAssemblePkt_filterPart env (rxAncAdvance s pkt port) pkt port
    rcases rxAncFinish_part
      (rxAncillarySessionAssemblePkt env (rxAncAdvance s pkt port) pkt port) pkt port bypass with
      ⟨keptOps, keptNumber, keptErrors, moved, forced⟩
    dsimp only
    refine ⟨⟨?_, ?_, ?_, ?_⟩, fun bypassed _ => forced bypassed⟩
    · exact keptOps.trans ((congrArg FilterPart.ops same).trans ops)
    · exact keptNumber.trans ((congrArg FilterPart.sessionSeqId same).trans number)
    · have before : (rxAncillarySessionAssemblePkt env (rxAncAdvance s pkt port) pkt port).tmstamp =
          s.tmstamp := (congrArg FilterPart.tmstamp same).trans stamp
      rw [before] at moved
      exact moved
    · exact keptErrors.trans ((congrArg FilterPart.redundantErrorCnt same).trans errors)
  | rtpLevel =>
    dsimp only
    cases taken : env.ringTakes with
    | true =>
      rcases rxAncFinish_part (rxAncAdvance s pkt port) pkt port bypass with
        ⟨keptOps, keptNumber, keptErrors, moved, forced⟩
      rw [if_pos rfl]
      rw [stamp] at moved
      exact ⟨⟨keptOps.trans ops, keptNumber.trans number, moved, keptErrors.trans errors⟩,
        fun bypassed _ => forced bypassed⟩
    | false =>
      rw [if_neg (by simp)]
      refine ⟨⟨ops, number, Or.inl stamp, errors⟩, fun _ handed => ?_⟩
      rcases handed with frame | ring
      · cases frame
      · cases ring

/-! ## One packet -/

theorem rxAncPrepare_ops :
    Exists fun interlaced => (rxAncPrepare s pkt port).ops = { s.ops with interlaced := interlaced } := by
  have kept : (rxAncPrepare s pkt port).ops = (rxAncNoteField s pkt port).ops :=
    congrArg FilterPart.ops
      (rxAncCountPort_filterPart (rxAncStart (rxAncNoteField s pkt port) pkt port) pkt port)
  rw [kept]
  unfold rxAncNoteField rxAncDetect
  split
  · exact ⟨s.ops.interlaced, rfl⟩
  · dsimp only
    split
    · exact ⟨pkt.interlaced, rfl⟩
    · exact ⟨s.ops.interlaced, rfl⟩

/-- Whatever the filter decides, the session's number moves only to a newer one, and its
timestamp only to the packet's. -/
structure HandledPart (before after : FilterPart) (pkt : AncPkt) : Prop where
  ops : after.ops = before.ops
  sessionSeqId : after.sessionSeqId = before.sessionSeqId ∨
    mtSeq16Greater pkt.seqNumber before.sessionSeqId = true ∧ after.sessionSeqId = pkt.seqNumber
  tmstamp : after.tmstamp = before.tmstamp ∨ after.tmstamp = pkt.tmstamp

theorem AcceptedPart.handled {before after : FilterPart} {pkt : AncPkt} {port : MtlSessionPort}
    (accepted : AcceptedPart before after pkt port) : HandledPart before after pkt where
  ops := accepted.ops
  sessionSeqId := by
    rw [accepted.sessionSeqId]
    by_cases newer : mtSeq16Greater pkt.seqNumber before.sessionSeqId = true
    · exact Or.inr ⟨newer, if_pos newer⟩
    · exact Or.inl (if_neg newer)
  tmstamp := accepted.tmstamp

theorem rxAncHandleChecked_part :
    HandledPart s.filterPart (rxAncHandleChecked env s pkt port).1.filterPart pkt := by
  have accepted := fun (t : RxAncSession) bypass => (rxAncAccept_part env t pkt port bypass).1.handled
  unfold rxAncHandleChecked
  cases rxAncVerdict s pkt with
  | fresh => exact accepted s false
  | lateCurrent =>
    have handled := accepted (rxAncRecover s) false
    exact ⟨handled.ops, handled.sessionSeqId, handled.tmstamp⟩
  | latePrevious =>
    have handled := accepted (rxAncRecover s) false
    exact ⟨handled.ops, handled.sessionSeqId, handled.tmstamp⟩
  | redundant =>
    dsimp only
    split
    · have handled := accepted { rxAncCountRedundant s port with stats := s.stats } true
      exact ⟨handled.ops, handled.sessionSeqId, handled.tmstamp⟩
    · exact ⟨rfl, Or.inl rfl, Or.inl rfl⟩

theorem rxAncHandleChecked_fresh {s : RxAncSession} {pkt : AncPkt} (port : MtlSessionPort)
    (timely : mtSeq32Greater s.tmstamp pkt.tmstamp = false)
    (newer : mtSeq16Greater pkt.seqNumber s.sessionSeqId = true) :
    (rxAncHandleChecked env s pkt port).2 = .ok ∧
      (rxAncHandleChecked env s pkt port).1.sessionSeqId = pkt.seqNumber := by
  have verdict := rxAncVerdict_fresh_iff.mpr ⟨timely, newer⟩
  have number := (rxAncAccept_part env s pkt port false).1.sessionSeqId
  have moved : s.filterPart.sessionSeqId = s.sessionSeqId := rfl
  rw [moved, if_pos newer] at number
  unfold rxAncHandleChecked
  rw [verdict]
  exact ⟨rfl, number⟩

/-! ## The new stream -/

/-- The session after the forced packet, with the greatest number of the new stream that arrived
and the time that the session's timestamp stands for. -/
structure Resumed where
  session : RxAncSession
  newest : Int
  now : Int

/-- One packet. -/
def resumeStep (time : Int -> Int) (w : Resumed) (arrival : AncArrival) : Resumed :=
  let s := (rxAncillarySessionHandlePkt arrival.env w.session arrival.pkt arrival.port).1
  match rxAncWrongHeader w.session arrival.pkt with
  | some _ => { w with session := s }
  | none =>
    { session := s
      newest := max w.newest arrival.number
      now := if s.tmstamp = arrival.pkt.tmstamp then time arrival.number else w.now }

/-- Packets that the header checks drop are free.  The others are copies of the new stream: the
next packet, whose timestamp is less than half a circle ahead, or one that came less than half a
circle ago. -/
def Resumed.Live (time : Int -> Int) (first : Int) (w : Resumed) (arrival : AncArrival) : Prop :=
  rxAncWrongHeader w.session arrival.pkt = none ->
    arrival.Copy time ∧ first ≤ arrival.number ∧ arrival.number ≤ w.newest + 1 ∧
      w.newest - arrival.number < 32768 ∧
      (arrival.number = w.newest + 1 -> time arrival.number - w.now < 2147483648)

/-- The next packet of the new stream is accepted when it first arrives. -/
def Resumed.Accepts (w : Resumed) (arrival : AncArrival) : Prop :=
  rxAncWrongHeader w.session arrival.pkt = none -> arrival.number = w.newest + 1 ->
    (rxAncillarySessionHandlePkt arrival.env w.session arrival.pkt arrival.port).2 = .ok

/-- The session is anchored in the new stream. -/
structure Resumed.Anchored (time : Int -> Int) (first : Int) (w : Resumed) : Prop where
  sessionSeqId : w.session.sessionSeqId = u16 w.newest
  tmstamp : w.session.tmstamp = u32 w.now
  newest : first ≤ w.newest
  now : w.now ≤ time w.newest

theorem rxAncPrepare_set {s : RxAncSession} (number : s.sessionSeqId ≠ -1) (stamp : s.tmstamp ≠ -1)
    (pkt : AncPkt) (port : MtlSessionPort) :
    (rxAncPrepare s pkt port).sessionSeqId = s.sessionSeqId ∧
      (rxAncPrepare s pkt port).tmstamp = s.tmstamp := by
  have prepared := (rxAncPrepare_filterPart s pkt port).1
  rw [if_neg number, if_neg stamp] at prepared
  exact ⟨congrArg FilterPart.sessionSeqId prepared, congrArg FilterPart.tmstamp prepared⟩

section Streams

variable {time : Int -> Int} {first : Int} {w : Resumed} {arrival : AncArrival}

/-- An anchored session takes the next packet, and stays anchored after every packet. -/
theorem Resumed.Anchored.step
    (monotone : forall early late, first ≤ early -> early ≤ late -> time early ≤ time late)
    (anchored : w.Anchored time first) (live : w.Live time first arrival) :
    w.Accepts arrival ∧ (resumeStep time w arrival).Anchored time first := by
  have number := anchored.sessionSeqId
  have stamp := anchored.tmstamp
  unfold Resumed.Accepts resumeStep
  cases header : rxAncWrongHeader w.session arrival.pkt with
  | some stats =>
    refine ⟨fun passes => (by cases passes), ?_⟩
    dsimp only
    have handled : (rxAncillarySessionHandlePkt arrival.env w.session arrival.pkt
        arrival.port).1 = { w.session with stats := stats } := by
      unfold rxAncillarySessionHandlePkt
      rw [header]
    rw [handled]
    exact ⟨number, stamp, anchored.newest, anchored.now⟩
  | none =>
    rcases live header with ⟨copy, lower, upper, recent, near⟩
    have handled : rxAncillarySessionHandlePkt arrival.env w.session arrival.pkt arrival.port =
        rxAncHandleChecked arrival.env (rxAncPrepare w.session arrival.pkt arrival.port)
          arrival.pkt arrival.port := by
      unfold rxAncillarySessionHandlePkt
      rw [header]
    rcases rxAncPrepare_set (by rw [number]; omega) (by rw [stamp]; omega) arrival.pkt
      arrival.port with ⟨keptNumber, keptStamp⟩
    have part := rxAncHandleChecked_part arrival.env
      (rxAncPrepare w.session arrival.pkt arrival.port) arrival.pkt arrival.port
    have movedNumber : (rxAncHandleChecked arrival.env
        (rxAncPrepare w.session arrival.pkt arrival.port) arrival.pkt
          arrival.port).1.sessionSeqId = u16 (max w.newest arrival.number) ∧
        (arrival.number = w.newest + 1 -> (rxAncHandleChecked arrival.env
          (rxAncPrepare w.session arrival.pkt arrival.port) arrival.pkt arrival.port).2 = .ok) := by
      have newer_iff := @mtSeq16Greater_iff arrival.number w.newest (by omega) (by omega)
      rw [← copy.seqNumber, ← number, ← keptNumber] at newer_iff
      by_cases next : arrival.number = w.newest + 1
      · have late : w.now ≤ time arrival.number :=
          le_trans anchored.now (monotone _ _ anchored.newest (by omega))
        have timely : mtSeq32Greater (rxAncPrepare w.session arrival.pkt arrival.port).tmstamp
            arrival.pkt.tmstamp = false := by
          rw [keptStamp, stamp, copy.tmstamp]
          apply Bool.eq_false_iff.mpr
          intro greater
          have behind := (mtSeq32Greater_iff (by omega) (near next)).mp greater
          omega
        rcases rxAncHandleChecked_fresh arrival.env arrival.port timely
          (newer_iff.mpr (by omega)) with ⟨ok, moved⟩
        have greatest : max w.newest arrival.number = arrival.number := by omega
        rw [moved, greatest, copy.seqNumber]
        exact ⟨rfl, fun _ => ok⟩
      · refine ⟨?_, fun same => absurd same next⟩
        have greatest : max w.newest arrival.number = w.newest := by omega
        rw [greatest, ← number, ← keptNumber]
        rcases part.sessionSeqId with same | ⟨newer, _⟩
        · exact same
        · exact absurd (newer_iff.mp newer) (by omega)
    have movedStamp := part.tmstamp
    rw [handled]
    dsimp only
    refine ⟨fun _ next => movedNumber.2 next, movedNumber.1, ?_,
      le_trans anchored.newest (le_max_left _ _), ?_⟩
    · split
      · rename_i moved
        rw [moved, copy.tmstamp]
      · rename_i moved
        rcases movedStamp with same | same
        · exact same.trans (keptStamp.trans stamp)
        · exact absurd same moved
    · split
      · exact monotone _ _ lower (le_max_right _ _)
      · exact le_trans anchored.now (monotone _ _ anchored.newest (le_max_left _ _))

theorem Resumed.Anchored.accepts
    (monotone : forall early late, first ≤ early -> early ≤ late -> time early ≤ time late)
    (anchored : w.Anchored time first) {arrivals : List AncArrival}
    (live : Admitted (resumeStep time) (Resumed.Live time first) w arrivals) :
    Admitted (resumeStep time) Resumed.Accepts w arrivals := by
  induction arrivals generalizing w with
  | nil => trivial
  | cons arrival rest ih =>
    rcases anchored.step monotone live.1 with ⟨accepts, next⟩
    exact ⟨accepts, ih next live.2⟩

end Streams

/-! ## After the forced packet -/

/-- The session after a forced packet, with the packet's number and time. -/
def resumeStart (pkt : AncPkt) (port : MtlSessionPort) (number stamp : Int) : Resumed where
  session := (rxAncillarySessionHandlePkt env s pkt port).1
  newest := number
  now := stamp

/-- Every packet of a new stream that goes on from the forced packet is accepted when it first
arrives, whatever else of the stream arrives between. -/
def Recovers (pkt : AncPkt) (port : MtlSessionPort) (number stamp : Int) : Prop :=
  forall time : Int -> Int, time number = stamp ->
    (forall early late, number ≤ early -> early ≤ late -> time early ≤ time late) ->
      forall arrivals : List AncArrival,
        Admitted (resumeStep time) (Resumed.Live time number)
            (resumeStart env s pkt port number stamp) arrivals ->
          Admitted (resumeStep time) Resumed.Accepts
            (resumeStart env s pkt port number stamp) arrivals

def NotBehind (pkt : AncPkt) : Prop :=
  mtSeq16Greater pkt.seqNumber s.sessionSeqId = true ∨ (pkt.seqNumber : Int) = s.sessionSeqId

def Reachable : Prop :=
  Exists fun ops => Exists fun interlaceAuto => Exists fun cnt => Exists fun udwBufSize =>
    Exists fun receipts : List AncReceipt =>
      (∀ receipt ∈ receipts, receipt.pkt.seqNumber < 65536) ∧
        s = run ancRxStep (rxAncInit ops interlaceAuto cnt udwBufSize) receipts

theorem ancRxStep_word {s : RxAncSession} {receipt : AncReceipt}
    (word : receipt.pkt.seqNumber < 65536) (before : -1 ≤ s.sessionSeqId ∧ s.sessionSeqId < 65536) :
    -1 ≤ (ancRxStep s receipt).sessionSeqId ∧ (ancRxStep s receipt).sessionSeqId < 65536 := by
  have prepared := congrArg FilterPart.sessionSeqId
    (rxAncPrepare_filterPart s receipt.pkt receipt.port).1
  change (rxAncPrepare s receipt.pkt receipt.port).sessionSeqId = if s.sessionSeqId = -1 then
    (receipt.pkt.seqNumber : Int) - 1 else s.sessionSeqId at prepared
  unfold ancRxStep rxAncillarySessionHandlePkt
  cases header : rxAncWrongHeader s receipt.pkt with
  | some stats => exact before
  | none =>
    have part := (rxAncHandleChecked_part receipt.env
      (rxAncPrepare s receipt.pkt receipt.port) receipt.pkt receipt.port).sessionSeqId
    change (rxAncHandleChecked receipt.env (rxAncPrepare s receipt.pkt receipt.port) receipt.pkt
      receipt.port).1.sessionSeqId = (rxAncPrepare s receipt.pkt receipt.port).sessionSeqId ∨
        _ ∧ (rxAncHandleChecked receipt.env (rxAncPrepare s receipt.pkt receipt.port) receipt.pkt
          receipt.port).1.sessionSeqId = receipt.pkt.seqNumber at part
    dsimp only
    split at prepared
    · omega
    · omega

theorem Reachable.word {s : RxAncSession} (reachable : Reachable s) :
    -1 ≤ s.sessionSeqId ∧ s.sessionSeqId < 65536 := by
  rcases reachable with ⟨ops, interlaceAuto, cnt, udwBufSize, receipts, words, same⟩
  rw [same]
  exact run_invariant ancRxStep (fun _ receipt => receipt.pkt.seqNumber < 65536)
    (fun s => -1 ≤ s.sessionSeqId ∧ s.sessionSeqId < 65536)
    (fun _ _ before word => ancRxStep_word word before)
    (by change (-1 : Int) ≤ -1 ∧ (-1 : Int) < 65536; omega) (admitted_of_forall ancRxStep words)

section Forced

variable {env : AncEnv} {s : RxAncSession} {pkt : AncPkt} {port : MtlSessionPort}

theorem ForceAccepted.handle (forced : ForceAccepted env s pkt port) :
    AcceptedPart
        (RxAncSession.filterPart
          { rxAncCountRedundant (rxAncPrepare s pkt port) port with
            stats := (rxAncPrepare s pkt port).stats })
        (rxAncillarySessionHandlePkt env s pkt port).1.filterPart pkt port ∧
      (rxAncillarySessionHandlePkt env s pkt port).1.tmstamp = pkt.tmstamp := by
  have type : (rxAncPrepare s pkt port).ops.type = s.ops.type := (rxAncPrepare_filterPart s pkt port).2
  rcases rxAncAccept_part env
    { rxAncCountRedundant (rxAncPrepare s pkt port) port with
      stats := (rxAncPrepare s pkt port).stats } pkt port true with ⟨accepted, stamped⟩
  have handled : (rxAncillarySessionHandlePkt env s pkt port).1 =
      rxAncAccept env
        { rxAncCountRedundant (rxAncPrepare s pkt port) port with
          stats := (rxAncPrepare s pkt port).stats } pkt port true := by
    unfold rxAncillarySessionHandlePkt
    rw [forced.header]
    dsimp only
    unfold rxAncHandleChecked
    rw [forced.redundant]
    dsimp only
    rw [if_pos forced.threshold]
  rw [handled]
  refine ⟨accepted, stamped rfl ?_⟩
  change (rxAncPrepare s pkt port).ops.type = .frameLevel ∨ env.ringTakes = true
  rw [type]
  exact forced.handedOn

theorem ForceAccepted.anchored (forced : ForceAccepted env s pkt port) {number stamp : Int}
    (seqNumber : pkt.seqNumber = u16 number) (tmstamp : pkt.tmstamp = u32 stamp)
    (ahead : NotBehind (rxAncPrepare s pkt port) pkt) {time : Int -> Int}
    (starts : time number = stamp) :
    (resumeStart env s pkt port number stamp).Anchored time number := by
  rcases forced.handle with ⟨accepted, stamped⟩
  refine ⟨?_, ?_, le_refl number, le_of_eq starts.symm⟩
  · have moved := accepted.sessionSeqId
    change (rxAncillarySessionHandlePkt env s pkt port).1.sessionSeqId =
      if mtSeq16Greater pkt.seqNumber (rxAncPrepare s pkt port).sessionSeqId
        then (pkt.seqNumber : Int) else (rxAncPrepare s pkt port).sessionSeqId at moved
    change (rxAncillarySessionHandlePkt env s pkt port).1.sessionSeqId = u16 number
    rw [moved, ← seqNumber]
    split
    · rfl
    · rename_i old
      rcases ahead with newer | same
      · exact absurd newer old
      · exact same.symm
  · change (rxAncillarySessionHandlePkt env s pkt port).1.tmstamp = u32 stamp
    rw [stamped, tmstamp]

theorem rxAncWrongHeader_eq_none {s : RxAncSession} {pkt : AncPkt} :
    rxAncWrongHeader s pkt = none <->
      ¬ (s.ops.payloadType ≠ 0 ∧ pkt.payloadType ≠ s.ops.payloadType) ∧
        ¬ (s.ops.ssrc ≠ 0 ∧ pkt.ssrc ≠ s.ops.ssrc) ∧
          ¬ ((!s.ops.fastMetadata) = true ∧ pkt.f = 1) := by
  unfold rxAncWrongHeader
  by_cases payload : s.ops.payloadType ≠ 0 ∧ pkt.payloadType ≠ s.ops.payloadType
  · simp [payload]
  · by_cases source : s.ops.ssrc ≠ 0 ∧ pkt.ssrc ≠ s.ops.ssrc
    · rw [if_neg payload, if_pos source]
      simp [source]
    · by_cases field : (!s.ops.fastMetadata) = true ∧ pkt.f = 1
      · rw [if_neg payload, if_neg source, if_pos field]
        simp [field]
      · rw [if_neg payload, if_neg source, if_neg field]
        exact ⟨fun _ => ⟨payload, source, field⟩, fun _ => rfl⟩

/-- The next packet of the stream, with a time that neither window of the session has. -/
def strangeNext (pkt : AncPkt) (env : AncEnv) (port : MtlSessionPort) (number time : Int) :
    AncArrival where
  number := number + 1
  port := port
  pkt := { pkt with seqNumber := u16 (number + 1), tmstamp := u32 time }
  env := env

theorem exists_strange_time (stamp : Int) (current previous : Nat) :
    Exists fun time => stamp ≤ time ∧ time - stamp < 2147483648 ∧
      u32 time ≠ current ∧ u32 time ≠ previous := by
  have distinct : u32 stamp ≠ u32 (stamp + 1) ∧ u32 stamp ≠ u32 (stamp + 2) ∧
      u32 (stamp + 1) ≠ u32 (stamp + 2) := by
    simp only [u32_eq]
    omega
  by_cases zero : u32 stamp ≠ current ∧ u32 stamp ≠ previous
  · exact ⟨stamp, by omega, by omega, zero⟩
  · by_cases one : u32 (stamp + 1) ≠ current ∧ u32 (stamp + 1) ≠ previous
    · exact ⟨stamp + 1, by omega, by omega, one⟩
    · exact ⟨stamp + 2, by omega, by omega, by omega, by omega⟩

theorem rxAncHandleChecked_strange (env : AncEnv) {s : RxAncSession} {pkt : AncPkt}
    {port : MtlSessionPort} (member : port ∈ s.ops.ports) (errors : s.redundantErrorCnt port = 0)
    (old : mtSeq16Greater pkt.seqNumber s.sessionSeqId = false)
    (current : pkt.tmstamp ≠ s.ancWindowCur.tmstamp)
    (previous : pkt.tmstamp ≠ s.ancWindowPrev.tmstamp) :
    (rxAncHandleChecked env s pkt port).2 = .again := by
  have verdict : rxAncVerdict s pkt = .redundant := by
    unfold rxAncVerdict
    rw [if_pos (by simp [old]), if_neg (fun late => current late.2.1),
      if_neg (fun late => previous late.2.2.2.1)]
  have below : rxAncThresholdReached (rxAncCountRedundant s port) = false := by
    unfold rxAncThresholdReached
    apply Bool.eq_false_iff.mpr
    intro all
    have reached := List.all_eq_true.mp all port member
    simp [rxAncCountRedundant, errors, redundantErrorThreshold] at reached
  unfold rxAncHandleChecked
  rw [verdict]
  dsimp only
  rw [below]
  rfl

theorem rxAncillarySessionHandlePkt_strange (env : AncEnv) {t : RxAncSession} {other : AncPkt}
    (header : rxAncWrongHeader t other = none) (number : t.sessionSeqId ≠ -1)
    (stamp : t.tmstamp ≠ -1) (member : port ∈ t.ops.ports) (errors : t.redundantErrorCnt port = 0)
    (old : mtSeq16Greater other.seqNumber t.sessionSeqId = false)
    (current : other.tmstamp ≠ t.ancWindowCur.tmstamp)
    (previous : other.tmstamp ≠ t.ancWindowPrev.tmstamp) :
    (rxAncillarySessionHandlePkt env t other port).2 = .again := by
  have prepared := (rxAncPrepare_filterPart t other port).1
  have currentKept : (rxAncPrepare t other port).ancWindowCur = t.ancWindowCur :=
    congrArg FilterPart.ancWindowCur prepared
  have previousKept : (rxAncPrepare t other port).ancWindowPrev = t.ancWindowPrev :=
    congrArg FilterPart.ancWindowPrev prepared
  have errorsKept : (rxAncPrepare t other port).redundantErrorCnt = t.redundantErrorCnt :=
    congrArg FilterPart.redundantErrorCnt prepared
  rcases rxAncPrepare_ops t other port with ⟨interlaced, ops⟩
  unfold rxAncillarySessionHandlePkt
  rw [header]
  apply rxAncHandleChecked_strange env
  · rw [ops]
    exact member
  · rw [errorsKept]
    exact errors
  · rw [(rxAncPrepare_set number stamp other port).1]
    exact old
  · rw [currentKept]
    exact current
  · rw [previousKept]
    exact previous

theorem ForceAccepted.number_kept (forced : ForceAccepted env s pkt port)
    (behind : ¬ NotBehind (rxAncPrepare s pkt port) pkt) :
    s.sessionSeqId ≠ -1 ∧ mtSeq16Greater pkt.seqNumber s.sessionSeqId = false ∧
      (pkt.seqNumber : Int) ≠ s.sessionSeqId ∧
      (rxAncillarySessionHandlePkt env s pkt port).1.sessionSeqId = s.sessionSeqId := by
  have moved := forced.handle.1.sessionSeqId
  change (rxAncillarySessionHandlePkt env s pkt port).1.sessionSeqId =
    if mtSeq16Greater pkt.seqNumber (rxAncPrepare s pkt port).sessionSeqId
      then (pkt.seqNumber : Int) else (rxAncPrepare s pkt port).sessionSeqId at moved
  have seeded := congrArg FilterPart.sessionSeqId (rxAncPrepare_filterPart s pkt port).1
  change (rxAncPrepare s pkt port).sessionSeqId = if s.sessionSeqId = -1 then
    (pkt.seqNumber : Int) - 1 else s.sessionSeqId at seeded
  have set : s.sessionSeqId ≠ -1 := by
    intro unset
    rw [if_pos unset] at seeded
    exact behind (Or.inl (by rw [seeded]; exact mtSeq16Greater_pred _))
  rw [if_neg set] at seeded
  have notNewer : ¬ mtSeq16Greater pkt.seqNumber s.sessionSeqId = true :=
    fun newer => behind (Or.inl (by rw [seeded]; exact newer))
  rw [seeded, if_neg notNewer] at moved
  exact ⟨set, Bool.eq_false_iff.mpr notNewer,
    fun same => behind (Or.inr (by rw [seeded]; exact same)), moved⟩

/-- After a forced packet that is behind, the next packet is turned away. -/
theorem ForceAccepted.behind (forced : ForceAccepted env s pkt port) {number stamp : Int}
    (seqNumber : pkt.seqNumber = u16 number) (word : s.sessionSeqId < 65536)
    (lower : -1 ≤ s.sessionSeqId) (behind : ¬ NotBehind (rxAncPrepare s pkt port) pkt) :
    ¬ Recovers env s pkt port number stamp := by
  intro recovers
  rcases forced.handle with ⟨accepted, stamped⟩
  rcases forced.number_kept behind with ⟨set, old, different, kept⟩
  rcases rxAncPrepare_ops s pkt port with ⟨interlaced, ops⟩
  have opsKept : (rxAncillarySessionHandlePkt env s pkt port).1.ops =
      { s.ops with interlaced := interlaced } := accepted.ops.trans ops
  have noErrors : (rxAncillarySessionHandlePkt env s pkt port).1.redundantErrorCnt port = 0 := by
    have errors := congrFun accepted.redundantErrorCnt port
    rw [Function.update_self] at errors
    exact errors
  rcases exists_strange_time stamp
    (rxAncillarySessionHandlePkt env s pkt port).1.ancWindowCur.tmstamp
    (rxAncillarySessionHandlePkt env s pkt port).1.ancWindowPrev.tmstamp with
    ⟨later, after, near, current, previous⟩
  have header : rxAncWrongHeader (rxAncillarySessionHandlePkt env s pkt port).1
      (strangeNext pkt env port number later).pkt = none := by
    have passes := rxAncWrongHeader_eq_none.mp forced.header
    apply rxAncWrongHeader_eq_none.mpr
    rw [opsKept]
    exact passes
  -- the stream in which the next packet has that time
  have past : ¬ number + 1 ≤ number := by omega
  have accepts := recovers (fun other => if other ≤ number then stamp else later)
    (if_pos (le_refl number))
    (fun early late _ order => by
      by_cases first : late ≤ number
      · rw [if_pos first, if_pos (le_trans order first)]
      · rw [if_neg first]
        split
        · exact after
        · exact le_refl later)
    [strangeNext pkt env port number later]
    ⟨fun _ => ⟨⟨rfl, by
        change u32 later = u32 (if number + 1 ≤ number then stamp else later)
        rw [if_neg past]⟩, by
        change number ≤ number + 1 ∧ number + 1 ≤ number + 1 ∧ number - (number + 1) < 32768 ∧
          (number + 1 = number + 1 -> (if number + 1 ≤ number then stamp else later) - stamp <
            2147483648)
        rw [if_neg past]
        omega⟩, trivial⟩
  have ok := accepts.1 header rfl
  have turned := @rxAncillarySessionHandlePkt_strange port env _ _ header (by rw [kept]; exact set)
    (by rw [stamped]; omega) (by rw [opsKept]; exact forced.member) noErrors
    (by
      rw [kept]
      apply Bool.eq_false_iff.mpr
      intro newer
      have next := (Util.mtSeq16Greater_eq _ _).mp newer
      have notNewer := mt (Util.mtSeq16Greater_eq _ _).mpr (Bool.eq_false_iff.mp old)
      rw [seqNumber] at notNewer different
      simp only [strangeNext, u16_eq] at next notNewer different
      omega)
    current previous
  change (rxAncillarySessionHandlePkt env (rxAncillarySessionHandlePkt env s pkt port).1
      (strangeNext pkt env port number later).pkt port).2 = .ok at ok
  rw [turned] at ok
  cases ok

end Forced

/-- After a packet is forced through, the packets that follow it are all accepted exactly when its
number is not behind the session's. -/
theorem restart_recovers_iff {env : AncEnv} {s : RxAncSession} {pkt : AncPkt}
    {port : MtlSessionPort} {number stamp : Int} (reachable : Reachable s)
    (seqNumber : pkt.seqNumber = u16 number) (tmstamp : pkt.tmstamp = u32 stamp)
    (forced : ForceAccepted env s pkt port) :
    Recovers env s pkt port number stamp <-> NotBehind (rxAncPrepare s pkt port) pkt := by
  constructor
  · intro recovers
    by_contra behind
    exact forced.behind seqNumber reachable.word.2 reachable.word.1 behind recovers
  · intro ahead time starts monotone arrivals live
    exact (forced.anchored seqNumber tmstamp ahead starts).accepts monotone live

/-! ## Restarts of a stream on two ports -/

instance (s : RxAncSession) (pkt : AncPkt) : Decidable (NotBehind s pkt) :=
  inferInstanceAs (Decidable (_ ∨ _))

def restartPkt (number stamp : Int) : AncPkt where
  payloadType := 113
  ssrc := 0
  seqNumber := u16 number
  tmstamp := u32 stamp
  marker := false
  f := 0
  ancCount := 0
  len := 20
  pktLen := 74
  payload := fun _ => 0
  recvTs := 0

def restartEnv : AncEnv where
  ringTakes := true
  notify := fun _ => { refused := false, puts := [] }
  racing := fun _ _ => []

/-- One packet of the old stream, and nineteen of the new one on both ports. -/
def restartReceipts (first : Int) : List AncReceipt :=
  ⟨restartEnv, restartPkt 1000 5000, .p⟩ ::
    (List.range 19).flatMap (fun count =>
      [⟨restartEnv, restartPkt (first + count) 100, .p⟩,
        ⟨restartEnv, restartPkt (first + count) 100, .r⟩]) ++
      [⟨restartEnv, restartPkt (first + 19) 100, .p⟩]

def restarted (first : Int) : RxAncSession :=
  run ancRxStep (rxAncInit rtpLevelOps false 0 0) (restartReceipts first)

theorem restarted_reachable (first : Int) : Reachable (restarted first) := by
  refine ⟨rtpLevelOps, false, 0, 0, restartReceipts first, fun receipt member => ?_, rfl⟩
  have word : Exists fun number => Exists fun stamp => receipt.pkt = restartPkt number stamp := by
    simp only [restartReceipts, List.cons_append, List.mem_cons, List.mem_append,
      List.mem_flatMap, List.not_mem_nil, or_false] at member
    rcases member with same | ⟨count, _, same | same⟩ | same
    · exact ⟨1000, 5000, by rw [same]⟩
    · exact ⟨first + count, 100, by rw [same]⟩
    · exact ⟨first + count, 100, by rw [same]⟩
    · exact ⟨first + 19, 100, by rw [same]⟩
  rcases word with ⟨number, stamp, same⟩
  rw [same]
  exact u16_lt number

/-- The new stream goes on with numbers ahead of the old one. -/
theorem ahead_recovers : Recovers restartEnv (restarted 2000) (restartPkt 2019 100) .r 2019 100 :=
  (@restart_recovers_iff restartEnv (restarted 2000) (restartPkt 2019 100) .r 2019 100
    (restarted_reachable 2000) rfl rfl
    ⟨by decide +kernel, Option.isNone_iff_eq_none.mp (by decide +kernel), by decide +kernel,
      by decide +kernel, Or.inr rfl⟩).mpr (by decide +kernel)

theorem behind_not_recovered :
    ¬ forall (env : AncEnv) (s : RxAncSession) (pkt : AncPkt) (port : MtlSessionPort)
      (number stamp : Int), Reachable s -> pkt.seqNumber = u16 number ->
        pkt.tmstamp = u32 stamp -> ForceAccepted env s pkt port ->
          Recovers env s pkt port number stamp := by
  intro claim
  have forced : ForceAccepted restartEnv (restarted 10) (restartPkt 29 100) .r :=
    ⟨by decide +kernel, Option.isNone_iff_eq_none.mp (by decide +kernel), by decide +kernel,
      by decide +kernel, Or.inr rfl⟩
  have word := (restarted_reachable 10).word
  exact @ForceAccepted.behind _ _ _ _ forced 29 100 rfl word.2 word.1 (by decide +kernel)
    (claim _ _ _ _ 29 100 (restarted_reachable 10) rfl rfl forced)

end MediaTransport.Anc
