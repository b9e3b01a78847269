import MediaTransport.Anc.FilterPart
import MediaTransport.Library.Run
import MediaTransport.Util.Ledger

namespace MediaTransport.Anc

open Library Util

/-!
# The accounts of an ancillary receive session

The handler keeps the ledger.  In frame level mode a packet counts as received
although there may be no slot for it; such packets are counted besides.
-/

variable (env : AncEnv) (s : RxAncSession)

/-- The books, with the packets that the ring did not take as dropped. -/
def RxAncSession.ledger : Ledger where
  session := s.sessionSeqId
  latest := s.latestSeqId
  packets := fun port => (s.stats.port port).packets
  portLost := fun port => (s.stats.port port).lostPackets
  lost := s.stats.lostPackets
  unrecovered := s.stats.pktsUnrecovered
  received := s.stats.pktsReceived
  redundant := s.stats.pktsRedundant
  dropped := s.stats.pktsEnqueueFail

def RxAncSession.books : Ledger × Nat := (s.ledger, s.stats.ancFramesDropped)

theorem books_blind : SlotBlind RxAncSession.books := ⟨fun _ _ _ _ _ _ _ _ => rfl⟩

/-! ## Entries -/

section

variable (s : RxAncSession) (pkt : AncPkt) (port : MtlSessionPort)

theorem rxAncNoteField_books :
    (rxAncNoteField s pkt port).books = s.books := by
  have detected : (rxAncDetect s pkt).books = s.books := by
    unfold rxAncDetect
    split <;> rfl
  have noted : forall t : RxAncSession,
      RxAncSession.books { t with stats := rxAncFieldStats t pkt port } = t.books := by
    intro t
    unfold rxAncFieldStats
    by_cases interlaced : pkt.interlaced = true
    · by_cases second : pkt.f % 2 = 1
      · simp only [interlaced, second, if_true]
        split <;> rfl
      · simp only [interlaced, second, if_true, if_false]
        split <;> rfl
    · simp only [interlaced]
      split <;> rfl
  unfold rxAncNoteField
  split
  · rfl
  · exact (noted _).trans detected

theorem rxAncPrepare_books :
    (rxAncPrepare s pkt port).books =
      (s.ledger.arrive port pkt.seqNumber, s.stats.ancFramesDropped) := by
  have counted : forall t : RxAncSession, (rxAncCountPort t pkt port).books =
      (t.ledger.count port pkt.seqNumber, t.stats.ancFramesDropped) := by
    intro t
    unfold rxAncCountPort
    dsimp only
    by_cases jump : pkt.seqNumber ≠ u16 (t.latestSeqId port + 1) ∧
        mtSeq16Greater pkt.seqNumber (t.latestSeqId port) = true
    · have hole : (decide (pkt.seqNumber ≠ u16 (t.latestSeqId port + 1)) &&
          mtSeq16Greater pkt.seqNumber (t.latestSeqId port)) = true := by simpa using jump
      simp only [hole, if_true]
      refine Prod.ext ?_ rfl
      unfold RxAncSession.books RxAncSession.ledger Ledger.count numbersSkipped
      simp only [if_pos jump, AncStats.setPort]
      congr 1
      · funext other
        by_cases same : other = port <;> simp [same]
      · funext other
        by_cases same : other = port <;> simp [same]
    · have hole : (decide (pkt.seqNumber ≠ u16 (t.latestSeqId port + 1)) &&
          mtSeq16Greater pkt.seqNumber (t.latestSeqId port)) = false := by simpa using jump
      simp only [hole, Bool.false_eq_true, if_false]
      refine Prod.ext ?_ rfl
      unfold RxAncSession.books RxAncSession.ledger Ledger.count numbersSkipped
      simp only [if_neg jump, AncStats.setPort]
      congr 1
      · funext other
        by_cases same : other = port
        · simp only [same, Function.update_self]
          split
          · rfl
          · split <;> rfl
        · simp [same]
      · funext other
        by_cases same : other = port
        · simp only [same, Function.update_self]
          split
          · rfl
          · split <;> rfl
        · simp [same]
  have noted := rxAncNoteField_books s pkt port
  have started : (rxAncStart (rxAncNoteField s pkt port) pkt port).books =
      (s.ledger.seed port pkt.seqNumber, s.stats.ancFramesDropped) := by
    have seeded : (rxAncStart (rxAncNoteField s pkt port) pkt port).books =
        ((rxAncNoteField s pkt port).ledger.seed port pkt.seqNumber,
          (rxAncNoteField s pkt port).stats.ancFramesDropped) := rfl
    have ledger : (rxAncNoteField s pkt port).ledger = s.ledger := congrArg Prod.fst noted
    have dropped : (rxAncNoteField s pkt port).stats.ancFramesDropped = s.stats.ancFramesDropped :=
      congrArg Prod.snd noted
    rw [seeded, ledger, dropped]
  have ledger : (rxAncStart (rxAncNoteField s pkt port) pkt port).ledger =
      s.ledger.seed port pkt.seqNumber := congrArg Prod.fst started
  have dropped : (rxAncStart (rxAncNoteField s pkt port) pkt port).stats.ancFramesDropped =
      s.stats.ancFramesDropped := congrArg Prod.snd started
  unfold rxAncPrepare
  rw [counted, ledger, dropped]
  rfl

theorem rxAncAdvance_books :
    (rxAncAdvance s pkt port).books =
      (s.ledger.advance pkt.seqNumber, s.stats.ancFramesDropped) := by
  have recorded : forall (t : RxAncSession) (old : Int),
      (rxAncRecordWindow t pkt old).books = t.books := by
    intro t old
    unfold rxAncRecordWindow
    split
    · rfl
    · split <;> rfl
  unfold rxAncAdvance
  dsimp only
  rw [recorded]
  unfold RxAncSession.books RxAncSession.ledger Ledger.advance numbersSkipped
  dsimp only
  by_cases jump : pkt.seqNumber ≠ u16 (s.sessionSeqId + 1) ∧
      mtSeq16Greater pkt.seqNumber s.sessionSeqId = true
  · simp only [if_pos jump]
  · simp only [if_neg jump, Nat.add_zero]

theorem rxAncFinish_books (bypass : Bool) :
    (rxAncFinish s pkt port bypass).books =
      (s.ledger.settle .received, s.stats.ancFramesDropped) := by
  unfold rxAncFinish
  dsimp only
  split
  · refine Prod.ext ?_ rfl
    unfold RxAncSession.books RxAncSession.ledger Ledger.settle
    dsimp only
    congr 1
    · funext other
      by_cases same : other = port <;> simp [AncStats.setPort, same]
    · funext other
      by_cases same : other = port <;> simp [AncStats.setPort, same]
  · rfl

end

/-! ## Handlers -/

variable (pkt : AncPkt) (port : MtlSessionPort)

def rxAncFindsSlot : Prop :=
  s.ops.type = .frameLevel ->
    (rxAncSelectSlot env (rxAncCountDispatch s) pkt.tmstamp pkt.interlaced pkt.secondField
      pkt.recvTs).2 ≠ none

theorem rxAncAccept_books (bypass : Bool) :
    Exists fun account => Exists fun more =>
      (rxAncAccept env s pkt port bypass).books =
          ((s.ledger.advance pkt.seqNumber).settle account, s.stats.ancFramesDropped + more) ∧
        (rxAncFindsSlot env (rxAncAdvance s pkt port) pkt -> more = 0) := by
  have advanced := rxAncAdvance_books s pkt port
  have ledger : (rxAncAdvance s pkt port).ledger = s.ledger.advance pkt.seqNumber :=
    congrArg Prod.fst advanced
  have dropped : (rxAncAdvance s pkt port).stats.ancFramesDropped = s.stats.ancFramesDropped :=
    congrArg Prod.snd advanced
  unfold rxAncAccept rxAncFindsSlot
  cases type : (rxAncAdvance s pkt port).ops.type with
  | rtpLevel =>
    simp only [type]
    split
    · refine ⟨.received, 0, ?_, fun _ => rfl⟩
      rw [rxAncFinish_books, ledger, dropped]
      rfl
    · refine ⟨.dropped, 0, ?_, fun _ => rfl⟩
      rw [← ledger, ← dropped]
      rfl
  | frameLevel =>
    have assembled := books_blind.assemblePkt env (rxAncAdvance s pkt port) pkt port
    simp only [type]
    cases found : (rxAncSelectSlot env (rxAncCountDispatch (rxAncAdvance s pkt port)) pkt.tmstamp
        pkt.interlaced pkt.secondField pkt.recvTs).2 with
    | some idx =>
      refine ⟨.received, 0, ?_, fun _ => rfl⟩
      rw [found, advanced] at assembled
      have kept := congrArg Prod.fst assembled
      have same := congrArg Prod.snd assembled
      rw [rxAncFinish_books]
      exact Prod.ext (congrArg (fun l => Ledger.settle l .received) kept) same
    | none =>
      refine ⟨.received, 1, ?_, fun finds => absurd rfl (finds trivial)⟩
      rw [found] at assembled
      have kept := congrArg Prod.fst assembled
      have more := congrArg Prod.snd assembled
      rw [rxAncFinish_books]
      refine Prod.ext ?_ ?_
      · exact congrArg (fun l => Ledger.settle l .received) (kept.trans ledger)
      · exact more.trans (congrArg Nat.succ dropped)

/-- The session in which a packet that the filter accepts is handed on. -/
def rxAncHandedOn : Option RxAncSession :=
  match rxAncWrongHeader s pkt with
  | some _ => none
  | none =>
    let s := rxAncPrepare s pkt port
    match rxAncVerdict s pkt with
    | .fresh => some (rxAncAdvance s pkt port)
    | .lateCurrent | .latePrevious => some (rxAncAdvance (rxAncRecover s) pkt port)
    | .redundant =>
      let counted := rxAncCountRedundant s port
      if rxAncThresholdReached counted then
        some (rxAncAdvance { counted with stats := s.stats } pkt port)
      else
        none

/-- The session keeps its books for this packet. -/
def KeepsBooks (s t : RxAncSession) (pkt : AncPkt) (port : MtlSessionPort) : Prop :=
  t.books = s.books ∨
    t.books = (s.ledger.enter port pkt.seqNumber .filtered, s.stats.ancFramesDropped) ∨
    Exists fun late => Exists fun account => Exists fun more =>
      t.books = (s.ledger.enter port pkt.seqNumber (.accepted late account),
          s.stats.ancFramesDropped + more) ∧
        Exists fun u => rxAncHandedOn s pkt port = some u ∧ (rxAncFindsSlot env u pkt -> more = 0)

theorem rxAncWrongHeader_books {s : RxAncSession} {pkt : AncPkt} {stats : AncStats}
    (wrong : rxAncWrongHeader s pkt = some stats) :
    RxAncSession.books { s with stats := stats } = s.books := by
  unfold rxAncWrongHeader at wrong
  split at wrong
  · cases wrong
    rfl
  · split at wrong
    · cases wrong
      rfl
    · split at wrong
      · cases wrong
        rfl
      · cases wrong

theorem keepsBooks_accepted {s t : RxAncSession} {pkt : AncPkt} {port : MtlSessionPort}
    (late bypass : Bool) (handedOn : rxAncHandedOn s pkt port = some (rxAncAdvance t pkt port))
    (ledger : t.ledger =
      if late then (s.ledger.arrive port pkt.seqNumber).recover
      else s.ledger.arrive port pkt.seqNumber)
    (dropped : t.stats.ancFramesDropped = s.stats.ancFramesDropped) :
    KeepsBooks env s (rxAncAccept env t pkt port bypass) pkt port := by
  rcases rxAncAccept_books env t pkt port bypass with ⟨account, more, settled, found⟩
  refine Or.inr (Or.inr ⟨late, account, more, ?_, _, handedOn, found⟩)
  rw [settled, ledger, dropped]
  cases late <;> rfl

theorem rxAncillarySessionHandlePkt_keepsBooks :
    KeepsBooks env s (rxAncillarySessionHandlePkt env s pkt port).1 pkt port := by
  have prepared := rxAncPrepare_books s pkt port
  have ledger : (rxAncPrepare s pkt port).ledger = s.ledger.arrive port pkt.seqNumber :=
    congrArg Prod.fst prepared
  have dropped : (rxAncPrepare s pkt port).stats.ancFramesDropped = s.stats.ancFramesDropped :=
    congrArg Prod.snd prepared
  have late : (rxAncRecover (rxAncPrepare s pkt port)).ledger =
      (s.ledger.arrive port pkt.seqNumber).recover := by
    rw [← ledger]
    rfl
  unfold rxAncillarySessionHandlePkt
  cases header : rxAncWrongHeader s pkt with
  | some stats => exact Or.inl (rxAncWrongHeader_books header)
  | none =>
    dsimp only
    unfold rxAncHandleChecked
    cases verdict : rxAncVerdict (rxAncPrepare s pkt port) pkt with
    | fresh =>
      exact keepsBooks_accepted env false false
        (by simp only [rxAncHandedOn, header, verdict]) ledger dropped
    | lateCurrent =>
      exact keepsBooks_accepted env true false
        (by simp only [rxAncHandedOn, header, verdict]) late dropped
    | latePrevious =>
      exact keepsBooks_accepted env true false
        (by simp only [rxAncHandedOn, header, verdict]) late dropped
    | redundant =>
      dsimp only
      by_cases reached : rxAncThresholdReached
          (rxAncCountRedundant (rxAncPrepare s pkt port) port) = true
      · rw [if_pos reached]
        exact keepsBooks_accepted env false true
          (by simp only [rxAncHandedOn, header, verdict, if_pos reached]) ledger dropped
      · rw [if_neg reached]
        refine Or.inr (Or.inl ?_)
        change ((rxAncPrepare s pkt port).ledger.settle .redundant,
          (rxAncPrepare s pkt port).stats.ancFramesDropped) = _
        rw [ledger, dropped]
        rfl

/-! ## Runs -/

/-- A packet with its port and its surroundings. -/
structure AncReceipt where
  env : AncEnv
  pkt : AncPkt
  port : MtlSessionPort

def ancRxStep (receipt : AncReceipt) : RxAncSession :=
  (rxAncillarySessionHandlePkt receipt.env s receipt.pkt receipt.port).1

/-- A packet that is accepted leaves out no more numbers of the session than of its port, and
finds a slot where it needs one. -/
def AncReceipt.InOrder (s : RxAncSession) (receipt : AncReceipt) : Prop :=
  ∀ handed ∈ rxAncHandedOn s receipt.pkt receipt.port,
    s.ledger.InOrder receipt.port receipt.pkt.seqNumber ∧
      rxAncFindsSlot receipt.env handed receipt.pkt

instance (env : AncEnv) (s : RxAncSession) (pkt : AncPkt) : Decidable (rxAncFindsSlot env s pkt) :=
  inferInstanceAs (Decidable (_ -> _))

instance (s : RxAncSession) (receipt : AncReceipt) : Decidable (receipt.InOrder s) :=
  inferInstanceAs (Decidable (∀ handed ∈ rxAncHandedOn s receipt.pkt receipt.port, _))

theorem rxAncInit_documented (ops : St40RxOps) (interlaceAuto : Bool) (cnt udwBufSize : Nat) :
    (rxAncInit ops interlaceAuto cnt udwBufSize).ledger.Documented :=
  ⟨⟨rfl, rfl⟩, Nat.le_refl 0⟩

theorem anc_run_balanced {s : RxAncSession} (balanced : s.ledger.Balanced)
    (receipts : List AncReceipt) : (run ancRxStep s receipts).ledger.Balanced := by
  induction receipts generalizing s with
  | nil => exact balanced
  | cons receipt rest ih =>
    apply ih
    rcases rxAncillarySessionHandlePkt_keepsBooks receipt.env s receipt.pkt receipt.port with
      same | filtered | ⟨late, account, more, entered, _⟩
    · have ledger : (ancRxStep s receipt).ledger = s.ledger := congrArg Prod.fst same
      rw [ledger]
      exact balanced
    · have ledger : (ancRxStep s receipt).ledger =
          s.ledger.enter receipt.port receipt.pkt.seqNumber .filtered :=
        congrArg Prod.fst filtered
      rw [ledger]
      exact balanced.enter _ _ _
    · have ledger : (ancRxStep s receipt).ledger =
          s.ledger.enter receipt.port receipt.pkt.seqNumber (.accepted late account) :=
        congrArg Prod.fst entered
      rw [ledger]
      exact balanced.enter _ _ _

theorem anc_run_documented {s : RxAncSession} {receipts : List AncReceipt}
    (documented : s.ledger.Documented) (none : s.stats.ancFramesDropped = 0)
    (inOrder : Admitted ancRxStep AncReceipt.InOrder s receipts) :
    (run ancRxStep s receipts).ledger.Documented ∧
      (run ancRxStep s receipts).stats.ancFramesDropped = 0 := by
  apply run_invariant ancRxStep AncReceipt.InOrder
    (fun s => s.ledger.Documented ∧ s.stats.ancFramesDropped = 0) _ ⟨documented, none⟩ inOrder
  intro s receipt before ordered
  rcases rxAncillarySessionHandlePkt_keepsBooks receipt.env s receipt.pkt receipt.port with
    same | filtered | ⟨late, account, more, entered, handed, handedOn, found⟩
  · have ledger : (ancRxStep s receipt).ledger = s.ledger := congrArg Prod.fst same
    have dropped : (ancRxStep s receipt).stats.ancFramesDropped = s.stats.ancFramesDropped :=
      congrArg Prod.snd same
    rw [ledger, dropped]
    exact before
  · have ledger : (ancRxStep s receipt).ledger =
        s.ledger.enter receipt.port receipt.pkt.seqNumber .filtered := congrArg Prod.fst filtered
    have dropped : (ancRxStep s receipt).stats.ancFramesDropped = s.stats.ancFramesDropped :=
      congrArg Prod.snd filtered
    rw [ledger, dropped]
    exact ⟨before.1.enter (fun accepted => absurd rfl accepted), before.2⟩
  · rcases ordered handed handedOn with ⟨numbers, finds⟩
    have ledger : (ancRxStep s receipt).ledger =
        s.ledger.enter receipt.port receipt.pkt.seqNumber (.accepted late account) :=
      congrArg Prod.fst entered
    have dropped : (ancRxStep s receipt).stats.ancFramesDropped =
        s.stats.ancFramesDropped + more := congrArg Prod.snd entered
    rw [ledger, dropped, found finds, before.2]
    exact ⟨before.1.enter (fun _ => numbers), rfl⟩

end MediaTransport.Anc
