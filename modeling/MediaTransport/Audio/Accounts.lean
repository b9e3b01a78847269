import MediaTransport.Audio.Receiver
import MediaTransport.Library.Run
import MediaTransport.Util.Ledger

namespace MediaTransport.Audio

open Library Util

/-!
# The accounts of an audio receive session

Both handlers keep the ledger: a packet that passes the header checks is
counted on its port, and is settled once.
-/

variable {pkt : AudioPkt} {port : MtlSessionPort} {s t : RxAudioSession}

variable (env : AudioEnv)

/-- What the counters of a session say about its packets. -/
def RxAudioSession.ledger (s : RxAudioSession) : Ledger where
  session := s.sessionSeqId
  latest := s.latestSeqId
  packets := fun port => (s.stats.port port).packets
  portLost := fun port => (s.stats.port port).lostPackets
  lost := s.stats.lostPackets
  unrecovered := s.stats.pktsUnrecovered
  received := s.stats.pktsReceived
  redundant := s.stats.pktsRedundant
  dropped := s.stats.slotGetFrameFail

/-! ## Frames -/

theorem putFramebuffs_ledger (s : RxAudioSession) (frames : List Nat) :
    (putFramebuffs s frames).ledger = s.ledger := by
  unfold putFramebuffs
  induction frames generalizing s with
  | nil => rfl
  | cons idx rest ih =>
    rw [List.foldl_cons, ih]
    unfold st30RxPutFramebuff
    split <;> rfl

theorem rxAudioScanFrames_ledger (racing : Nat -> List Nat) (s : RxAudioSession) (idx left : Nat) :
    (rxAudioScanFrames racing s idx left).1.ledger = s.ledger := by
  induction left generalizing s idx with
  | zero => rfl
  | succ left ih =>
    unfold rxAudioScanFrames
    dsimp only
    split
    · exact putFramebuffs_ledger s _
    · exact (ih _ _).trans (putFramebuffs_ledger s _)

/-- A packet for which there is no frame is dropped. -/
theorem rxAudioSessionOpenFrame_ledger (racing : Nat -> List Nat) (s : RxAudioSession)
    (port : MtlSessionPort) (tmstamp ptpTs : Nat) :
    (rxAudioSessionOpenFrame racing s port tmstamp ptpTs).1.ledger =
      match (rxAudioSessionOpenFrame racing s port tmstamp ptpTs).2 with
      | true => s.ledger
      | false => s.ledger.settle .dropped := by
  have searched : (rxAudioSessionGetFrame racing s).1.ledger = s.ledger :=
    rxAudioScanFrames_ledger racing s 0 s.framesCnt
  unfold rxAudioSessionOpenFrame
  rcases search : rxAudioSessionGetFrame racing s with ⟨t, found⟩
  rw [search] at searched
  rw [← searched]
  cases found with
  | none => rfl
  | some idx =>
    dsimp only
    unfold RxAudioSession.ledger
    congr 1
    · funext other
      by_cases same : other = port
      · simp [AudioStats.setPort, same]
      · simp [AudioStats.setPort, same]
    · funext other
      by_cases same : other = port
      · simp [AudioStats.setPort, same]
      · simp [AudioStats.setPort, same]

theorem rxAudioSessionFrameNotify_ledger (answer : NotifyAnswer) (s : RxAudioSession) :
    (rxAudioSessionFrameNotify answer s).ledger = s.ledger := by
  have silent : forall idx, (rxAudioSilence s idx).ledger = s.ledger := by
    intro idx
    unfold rxAudioSilence
    split <;> rfl
  have handed : forall (t : RxAudioSession) idx, (rxAudioHandOff answer t idx).ledger = t.ledger := by
    intro t idx
    unfold rxAudioHandOff
    dsimp only
    split
    · rfl
    · split
      · exact putFramebuffs_ledger _ _
      · exact putFramebuffs_ledger _ _
  unfold rxAudioSessionFrameNotify
  cases s.curFrame with
  | none => rfl
  | some idx => exact (handed _ idx).trans (silent idx)

/-! ## Packets -/

theorem rxAudioPlace_ledger (s : RxAudioSession) (cur idx : Nat) (pkt : AudioPkt) :
    Exists fun account => (rxAudioPlace env s cur idx pkt).ledger = s.ledger.settle account := by
  unfold rxAudioPlace
  dsimp only
  cases mtBitmapTestAndSet (s.log (.accepted pkt)).frameBitmap idx with
  | mk held bitmap =>
    cases held with
    | true => exact ⟨.redundant, rfl⟩
    | false =>
      refine ⟨.received, ?_⟩
      dsimp only
      split
      · exact rxAudioSessionFrameNotify_ledger _ _
      · rfl

theorem rxAudioPlaceOpen_ledger {cur : Nat} (opened : s.curFrame = some cur) (pkt : AudioPkt) :
    Exists fun account => (rxAudioPlaceOpen env s pkt).1.ledger = s.ledger.settle account := by
  unfold rxAudioPlaceOpen
  rw [opened]
  exact rxAudioPlace_ledger env s cur _ pkt

theorem rxAudioSessionOpenFrame_opened {racing : Nat -> List Nat}
    {tmstamp ptpTs : Nat}
    (opens : rxAudioSessionOpenFrame racing s port tmstamp ptpTs = (t, true)) :
    Exists fun cur => t.curFrame = some cur := by
  unfold rxAudioSessionOpenFrame at opens
  rcases search : rxAudioSessionGetFrame racing s with ⟨u, found⟩
  rw [search] at opens
  cases found with
  | none => cases opens
  | some idx =>
    cases opens
    exact ⟨idx, rfl⟩

theorem rxAudioLocate_ledger {cur : Nat} (opened : s.curFrame = some cur) (pkt : AudioPkt)
    (port : MtlSessionPort) :
    Exists fun account => (rxAudioLocate env s pkt port).1.ledger = s.ledger.settle account := by
  unfold rxAudioLocate
  split
  · have notified := rxAudioSessionFrameNotify_ledger (env.notify 0) s
    have entered := rxAudioSessionOpenFrame_ledger (env.racing 1)
      (rxAudioSessionFrameNotify (env.notify 0) s) port pkt.tmstamp pkt.recvTs
    unfold rxAudioReopen
    dsimp only
    rcases outcome : rxAudioSessionOpenFrame (env.racing 1)
      (rxAudioSessionFrameNotify (env.notify 0) s) port pkt.tmstamp pkt.recvTs with ⟨t, found⟩
    rw [outcome, notified] at entered
    cases found with
    | false => exact ⟨.dropped, entered⟩
    | true =>
      rcases rxAudioSessionOpenFrame_opened outcome with ⟨idx, taken⟩
      rcases rxAudioPlaceOpen_ledger env taken pkt with ⟨account, placed⟩
      exact ⟨account, placed.trans (congrArg (fun l => Ledger.settle l account) entered)⟩
  · exact rxAudioPlaceOpen_ledger env opened pkt

/-- A packet that passed the filter is settled once, whichever frames it closes and opens. -/
theorem rxAudioAssemble_ledger (s : RxAudioSession) (pkt : AudioPkt) (port : MtlSessionPort) :
    Exists fun account => (rxAudioAssemble env s pkt port).1.ledger = s.ledger.settle account := by
  unfold rxAudioAssemble
  cases opened : s.curFrame with
  | some cur => exact rxAudioLocate_ledger env opened pkt port
  | none =>
    have entered := rxAudioSessionOpenFrame_ledger (env.racing 0) s port pkt.tmstamp pkt.recvTs
    dsimp only
    rcases outcome : rxAudioSessionOpenFrame (env.racing 0) s port pkt.tmstamp pkt.recvTs with
      ⟨t, found⟩
    rw [outcome] at entered
    cases found with
    | false => exact ⟨.dropped, entered⟩
    | true =>
      rcases rxAudioSessionOpenFrame_opened outcome with ⟨idx, taken⟩
      rcases rxAudioLocate_ledger env taken pkt port with ⟨account, placed⟩
      exact ⟨account, placed.trans (congrArg (fun l => Ledger.settle l account) entered)⟩

theorem rxAudioEnqueue_ledger (s : RxAudioSession) :
    Exists fun account => (rxAudioEnqueue env s).1.ledger = s.ledger.settle account := by
  unfold rxAudioEnqueue
  split
  · exact ⟨.received, rfl⟩
  · exact ⟨.dropped, rfl⟩

/-- The packet is counted on its port with the numbers that it leaves out there. -/
theorem rxAudioPrepare_ledger (s : RxAudioSession) (pkt : AudioPkt) (port : MtlSessionPort) :
    (rxAudioPrepare s pkt port).ledger = s.ledger.arrive port pkt.seqNumber := by
  have counted : forall t : RxAudioSession,
      (rxAudioCountPort t pkt port).ledger = t.ledger.count port pkt.seqNumber := by
    intro t
    unfold rxAudioCountPort Ledger.count numbersSkipped RxAudioSession.ledger
    dsimp only
    by_cases jump : pkt.seqNumber ≠ u16 (t.latestSeqId port + 1) ∧
        mtSeq16Greater pkt.seqNumber (t.latestSeqId port) = true
    · have hole : (decide (pkt.seqNumber ≠ u16 (t.latestSeqId port + 1)) &&
          mtSeq16Greater pkt.seqNumber (t.latestSeqId port)) = true := by simpa using jump
      simp only [if_pos jump, hole, if_true, AudioStats.setPort]
      congr 1
      · funext other
        by_cases same : other = port <;> simp [same]
      · funext other
        by_cases same : other = port <;> simp [same]
    · have hole : (decide (pkt.seqNumber ≠ u16 (t.latestSeqId port + 1)) &&
          mtSeq16Greater pkt.seqNumber (t.latestSeqId port)) = false := by simpa using jump
      simp only [if_neg jump, hole, Bool.false_eq_true, if_false, AudioStats.setPort]
      congr 1
      · funext other
        by_cases same : other = port
        · simp only [same, Function.update_self]
          split
          · rfl
          · split <;> rfl
        · simp [same]
      · funext other
        by_cases same : other = port
        · simp only [same, Function.update_self]
          split
          · rfl
          · split <;> rfl
        · simp [same]
  exact counted (rxAudioStart s pkt port)

theorem rxAudioAdvance_ledger (s : RxAudioSession) (pkt : AudioPkt) (port : MtlSessionPort) :
    (rxAudioAdvance s pkt port).ledger = s.ledger.advance pkt.seqNumber := by
  unfold rxAudioAdvance Ledger.advance numbersSkipped RxAudioSession.ledger
  dsimp only
  by_cases jump : pkt.seqNumber ≠ u16 (s.sessionSeqId + 1) ∧
      mtSeq16Greater pkt.seqNumber s.sessionSeqId = true
  · simp only [if_pos jump]
  · simp only [if_neg jump, Nat.add_zero]

theorem rxAudioFilter_ledger (s : RxAudioSession) (pkt : AudioPkt) (port : MtlSessionPort) :
    (rxAudioFilter s pkt port).1.ledger =
      match (rxAudioFilter s pkt port).2 with
      | true => s.ledger
      | false => s.ledger.settle .redundant := by
  unfold rxAudioFilter
  split
  · rfl
  · dsimp only
    split <;> rfl

/-! ## Handlers -/

theorem rxAudioWrongHeader_ledger {stats : AudioStats}
    (wrong : rxAudioWrongHeader s pkt = some stats) :
    RxAudioSession.ledger { s with stats := stats } = s.ledger := by
  unfold rxAudioWrongHeader at wrong
  split at wrong
  · cases wrong
    rfl
  · split at wrong
    · cases wrong
      rfl
    · cases wrong

theorem rxAudioWrongLen_ledger {stats : AudioStats}
    (wrong : rxAudioWrongLen s pkt = some stats) :
    RxAudioSession.ledger { s with stats := stats } = s.ledger := by
  unfold rxAudioWrongLen at wrong
  split at wrong
  · cases wrong
    rfl
  · cases wrong

/-- The packet gets through the header checks and the redundancy filter. -/
def rxAudioPasses (s : RxAudioSession) (pkt : AudioPkt) (port : MtlSessionPort) : Bool :=
  (rxAudioWrongHeader s pkt).isNone &&
    (decide (s.ops.type = .rtpLevel) || (rxAudioWrongLen s pkt).isNone) &&
    (rxAudioFilter (rxAudioPrepare s pkt port) pkt port).2

/-- A packet with a wrong header changes no account; any other one enters the ledger with one fate. -/
def KeepsBooks (s t : RxAudioSession) (pkt : AudioPkt) (port : MtlSessionPort) : Prop :=
  t.ledger = s.ledger ∨ Exists fun fate : Fate =>
    t.ledger = s.ledger.enter port pkt.seqNumber fate ∧
      (fate ≠ .filtered -> rxAudioPasses s pkt port = true)

theorem keepsBooks_filtered
    (outcome : rxAudioFilter (rxAudioPrepare s pkt port) pkt port = (t, false)) :
    KeepsBooks s t pkt port := by
  have settled := rxAudioFilter_ledger (rxAudioPrepare s pkt port) pkt port
  rw [outcome, rxAudioPrepare_ledger] at settled
  exact Or.inr ⟨.filtered, settled, fun passed => absurd rfl passed⟩

theorem keepsBooks_accepted {u : RxAudioSession}
    {account : Account} (passes : rxAudioPasses s pkt port = true)
    (outcome : rxAudioFilter (rxAudioPrepare s pkt port) pkt port = (t, true))
    (settled : u.ledger = (t.ledger.advance pkt.seqNumber).settle account) :
    KeepsBooks s u pkt port := by
  have kept := rxAudioFilter_ledger (rxAudioPrepare s pkt port) pkt port
  rw [outcome, rxAudioPrepare_ledger] at kept
  refine Or.inr ⟨.accepted false account, ?_, fun _ => passes⟩
  change t.ledger = s.ledger.arrive port pkt.seqNumber at kept
  rw [settled, kept]
  rfl

theorem rxAudioSessionHandleFramePkt_keepsBooks (s : RxAudioSession) (pkt : AudioPkt)
    (port : MtlSessionPort) :
    KeepsBooks s (rxAudioSessionHandleFramePkt env s pkt port).1 pkt port := by
  unfold rxAudioSessionHandleFramePkt
  cases header : rxAudioWrongHeader s pkt with
  | some stats => exact Or.inl (rxAudioWrongHeader_ledger header)
  | none =>
    dsimp only
    cases length : rxAudioWrongLen s pkt with
    | some stats => exact Or.inl (rxAudioWrongLen_ledger length)
    | none =>
      dsimp only
      rcases outcome : rxAudioFilter (rxAudioPrepare s pkt port) pkt port with ⟨t, passes⟩
      cases passes with
      | false => exact keepsBooks_filtered outcome
      | true =>
        rcases rxAudioAssemble_ledger env (rxAudioAdvance t pkt port) pkt port with
          ⟨account, settled⟩
        rw [rxAudioAdvance_ledger] at settled
        exact keepsBooks_accepted
          (by simp [rxAudioPasses, header, length, outcome]) outcome settled

theorem rxAudioSessionHandleRtpPkt_keepsBooks (type : s.ops.type = .rtpLevel) (pkt : AudioPkt)
    (port : MtlSessionPort) :
    KeepsBooks s (rxAudioSessionHandleRtpPkt env s pkt port).1 pkt port := by
  unfold rxAudioSessionHandleRtpPkt
  cases header : rxAudioWrongHeader s pkt with
  | some stats => exact Or.inl (rxAudioWrongHeader_ledger header)
  | none =>
    dsimp only
    rcases outcome : rxAudioFilter (rxAudioPrepare s pkt port) pkt port with ⟨t, passes⟩
    cases passes with
    | false => exact keepsBooks_filtered outcome
    | true =>
      rcases rxAudioEnqueue_ledger env (rxAudioAdvance { t with tmstamp := pkt.tmstamp } pkt port)
        with ⟨account, settled⟩
      rw [rxAudioAdvance_ledger] at settled
      exact keepsBooks_accepted (by simp [rxAudioPasses, header, type, outcome]) outcome settled

/-- The step lemma of both handlers. -/
theorem audioRxStep_keepsBooks (s : RxAudioSession) (arrival : AudioArrival) :
    KeepsBooks s (audioRxStep s arrival) arrival.pkt arrival.port := by
  unfold audioRxStep rxAudioSessionHandlePkt
  cases type : s.ops.type with
  | frameLevel => exact rxAudioSessionHandleFramePkt_keepsBooks arrival.env s arrival.pkt arrival.port
  | rtpLevel => exact rxAudioSessionHandleRtpPkt_keepsBooks arrival.env type arrival.pkt arrival.port

/-! ## Runs -/

/-- A packet that is accepted leaves out no more numbers of the session than of its port. -/
def AudioArrival.InOrder (s : RxAudioSession) (arrival : AudioArrival) : Prop :=
  rxAudioPasses s arrival.pkt arrival.port = true ->
    s.ledger.InOrder arrival.port arrival.pkt.seqNumber

instance (s : RxAudioSession) (arrival : AudioArrival) : Decidable (arrival.InOrder s) :=
  inferInstanceAs (Decidable (_ -> _))

/-- In every run, what came in on the ports is received, redundant or dropped. -/
theorem audio_run_balanced (balanced : s.ledger.Balanced)
    (arrivals : List AudioArrival) : (run audioRxStep s arrivals).ledger.Balanced := by
  induction arrivals generalizing s with
  | nil => exact balanced
  | cons arrival rest ih =>
    apply ih
    rcases audioRxStep_keepsBooks s arrival with same | ⟨fate, entered, _⟩
    · rw [same]
      exact balanced
    · rw [entered]
      exact balanced.enter _ _ _

/-- The documented bound on the unrecovered packets holds over runs whose packets arrive in order. -/
theorem audio_run_documented {arrivals : List AudioArrival}
    (documented : s.ledger.Documented)
    (inOrder : Admitted audioRxStep AudioArrival.InOrder s arrivals) :
    (run audioRxStep s arrivals).ledger.Documented := by
  apply run_invariant audioRxStep AudioArrival.InOrder (fun s => s.ledger.Documented) _ documented
    inOrder
  intro s arrival before ordered
  rcases audioRxStep_keepsBooks s arrival with same | ⟨fate, entered, passed⟩
  · rw [same]
    exact before
  · rw [entered]
    exact before.enter (fun accepted => ordered (passed accepted))

theorem rxAudioSessionAttach_documented {ops : St30RxOps}
    (attached : rxAudioSessionAttach ops = .ok s) : s.ledger.Documented := by
  have zero : forall pktLen, (rxAudioInit ops pktLen).ledger.Documented :=
    fun _ => ⟨⟨rfl, rfl⟩, Nat.le_refl 0⟩
  unfold rxAudioSessionAttach at attached
  split at attached
  · cases attached
  · split at attached
    · cases attached
    · split at attached
      · cases attached
      · split at attached
        · cases attached
        · injection attached with same
          rw [← same]
          exact zero _

end MediaTransport.Audio
