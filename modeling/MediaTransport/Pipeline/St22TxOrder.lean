import MediaTransport.Pipeline.St22TxFrames
import MediaTransport.Pipeline.TxOrder

namespace MediaTransport.Pipeline

open Library

/-!
# Order of the frames of the compressed video transmit pipeline

The transport's search looks for the oldest number, as in the raw pipeline.  The
encoder gets the ready frame in the lowest slot instead, so the frames are sent
in the order of their gets only if that is the oldest ready one.
-/

variable (cfg : St22pTxConfig)

def St22pTxFrame.place (frame : St22pTxFrame) : Option Nat :=
  match frame.stat with
  | .inUser => some 0
  | .ready => some 1
  | .inEncoding => some 2
  | .encoded => some 3
  | _ => none

/-- What a call does with a frame. -/
def txSt22pEvent (s : St22pTxCtx) : St22pTxInput -> TxEvent
  | .getFrame =>
    match (st22pTxGetFrame cfg s).2 with
    | some idx => .got idx
    | none => .quiet
  | .encodeGet =>
    match (txSt22pEncodeGetFrame cfg s).2 with
    | some idx => .taken idx
    | none => .quiet
  | .encodePut idx result dataSize =>
    match (txSt22pEncodePutFrame cfg s idx result dataSize).2 with
    | .ok _ => .returned idx
    | .error _ => .quiet
  | .nextFrame curTai =>
    match (txSt22pNextFrame cfg s curTai).2 with
    | some idx => .sent idx (s.framebuffs idx).seqNumber
    | none => .quiet
  | .nextResume curTai =>
    match (txSt22pNextResume cfg s curTai).2 with
    | some idx => .sent idx (s.framebuffs idx).seqNumber
    | none => .quiet
  | _ => .quiet

def txSt22pObserved (o : St22pTxCtx × TxJournal) (input : St22pTxInput) : St22pTxCtx × TxJournal :=
  (txSt22pStep cfg o.1 input, o.2.record (txSt22pEvent cfg o.1 input))

/-- The application puts the frame that it got first of those it has, and the encoder gives back the one
that it took first. -/
def St22pTxInTurn (o : St22pTxCtx × TxJournal) : St22pTxInput -> Prop
  | .putFrame idx _ _ | .putExtFrame idx _ _ _ => ∀ other < cfg.framebuffCnt,
      (o.1.framebuffs other).stat = .inUser -> o.2.number idx ≤ o.2.number other
  | .encodePut idx _ _ => o.2.taken.head? = some idx
  | _ => True

instance (cfg : St22pTxConfig) (o : St22pTxCtx × TxJournal) (input : St22pTxInput) :
    Decidable (St22pTxInTurn cfg o input) := by
  unfold St22pTxInTurn
  split <;> infer_instance

/-- The ready frame in the lowest slot is the oldest one when the encoder asks, and the frames that the
transport's search compares are fewer than 2^31 gets apart. -/
def St22pTxComparable (o : St22pTxCtx × TxJournal) : St22pTxInput -> Prop
  | .encodeGet => ∀ idx < cfg.framebuffCnt, (o.1.framebuffs idx).stat = .ready ->
      (∀ lower < idx, (o.1.framebuffs lower).stat ≠ .ready) ->
      ∀ other < cfg.framebuffCnt, (o.1.framebuffs other).stat = .ready ->
        o.2.number idx ≤ o.2.number other
  | .nextFrame _ => o.1.next = none ->
      o.2.Near cfg.framebuffCnt fun idx => (o.1.framebuffs idx).stat = .encoded
  | .nextResume _ =>
    match o.1.next with
    | some (.scan _) => o.2.Near cfg.framebuffCnt fun idx => (o.1.framebuffs idx).stat = .encoded
    | _ => True
  | _ => True

instance (cfg : St22pTxConfig) (o : St22pTxCtx × TxJournal) (input : St22pTxInput) :
    Decidable (St22pTxComparable cfg o input) := by
  unfold St22pTxComparable
  split
  · infer_instance
  · infer_instance
  · split <;> infer_instance
  · infer_instance

/-- Without an encoder no frame waits for one. -/
abbrev St22pTxFrame.kind (cfg : St22pTxConfig) : TxFrameKind St22pTxFrame where
  place := St22pTxFrame.place
  seqNumber := St22pTxFrame.seqNumber
  sane frame := cfg.derive = true -> frame.stat ≠ .ready ∧ frame.stat ≠ .inEncoding
  dropped frame := frame.stat = .dropped

/-- The frame that the search for the next one drops. -/
def St22NextStage.aside : Option St22NextStage -> Nat -> Prop
  | some (.late idx _), other => other = idx
  | some (.settle idx _), other => other = idx
  | _, _ => False

/-- The journal follows the frames, and the search for the next one drops only late frames. -/
abbrev St22pTxCtx.Ordered (cfg : St22pTxConfig) (s : St22pTxCtx) (journal : TxJournal) : Prop :=
  (St22pTxFrame.kind cfg).Ordered cfg.framebuffCnt s.framebuffs s.framebuffSequenceNumber
    (St22NextStage.aside s.next) journal

namespace St22p

variable {cfg : St22pTxConfig} {s : St22pTxCtx} {journal : TxJournal}

section

variable {frame : St22pTxFrame}

theorem place_eq_zero : frame.place = some 0 <-> frame.stat = .inUser := by
  unfold St22pTxFrame.place
  cases frame.stat <;> simp

theorem place_eq_one : frame.place = some 1 <-> frame.stat = .ready := by
  unfold St22pTxFrame.place
  cases frame.stat <;> simp

theorem place_eq_two : frame.place = some 2 <-> frame.stat = .inEncoding := by
  unfold St22pTxFrame.place
  cases frame.stat <;> simp

theorem place_eq_three : frame.place = some 3 <-> frame.stat = .encoded := by
  unfold St22pTxFrame.place
  cases frame.stat <;> simp

theorem place_le {place : Nat} (found : frame.place = some place) : place ≤ 3 := by
  unfold St22pTxFrame.place at found
  cases stat : frame.stat <;> simp [stat] at found <;> omega

end

theorem same_ordered (ordered : s.Ordered cfg journal) {idx : Nat} {frame : St22pTxFrame}
    (seqNumber : frame.seqNumber = (s.framebuffs idx).seqNumber)
    (stat : frame.stat = (s.framebuffs idx).stat) : (s.setFrame idx frame).Ordered cfg journal := by
  refine ordered.unmoved seqNumber ?_ ?_ (fun _ => stat.trans)
  · show frame.place = (s.framebuffs idx).place
    unfold St22pTxFrame.place
    rw [stat]
  · intro derive
    rw [stat]
    exact ordered.sane idx derive

theorem available_lowest {desired : St22pTxFrameStatus} {idx : Nat}
    (found : txSt22pNextAvailable cfg s desired = some idx) :
    idx < cfg.framebuffCnt ∧ (s.framebuffs idx).stat = desired ∧
      ∀ lower < idx, (s.framebuffs lower).stat ≠ desired := by
  obtain ⟨test, inside, before⟩ := List.find?_range_eq_some.mp found
  refine ⟨List.mem_range.mp inside, of_decide_eq_true test, fun lower below => ?_⟩
  simpa using before lower below

section

variable (ordered : s.Ordered cfg journal)

include ordered

/-! ## The calls -/

theorem getFrame_ordered :
    (st22pTxGetFrame cfg s).1.Ordered cfg (journal.record (txSt22pEvent cfg s .getFrame)) := by
  unfold txSt22pEvent st22pTxGetFrame txSt22pClaimAvailable
  by_cases ready : s.ready = true
  · simp only [ready, Bool.not_true, Bool.false_eq_true, if_false]
    cases found : txSt22pNextAvailable cfg s .free with
    | none => exact ordered
    | some idx =>
      obtain ⟨inside, free, -⟩ := available_lowest found
      simp only [St22pTxCtx.setStat, St22pTxCtx.setFrame, Function.update_idem]
      refine ordered.get inside ?_ ?_ ?_ rfl ?_
      · show (s.framebuffs idx).place = none
        unfold St22pTxFrame.place
        rw [free]
      · simp [free]
      · simp [St22pTxFrame.place]
      · simp
  · simp only [ready, Bool.not_false, if_true]
    exact ordered

theorem put_ordered {idx goal : Nat} {frame : St22pTxFrame}
    (inUser : (s.framebuffs idx).stat = .inUser)
    (oldest : ∀ other < cfg.framebuffCnt, (s.framebuffs other).stat = .inUser ->
      journal.number idx ≤ journal.number other)
    (seqNumber : frame.seqNumber = (s.framebuffs idx).seqNumber) (place : frame.place = some goal)
    (target : goal = 1 ∧ cfg.derive = false ∨ goal = 3 ∧ cfg.derive = true) :
    (s.setFrame idx frame).Ordered cfg journal := by
  refine ordered.setFrame seqNumber ?_ rfl (fun derive => ?_) (by simp [inUser])
  · show journal.Follows _ (TxView.move _ idx frame.place)
    rw [place]
    apply ordered.follows.put
    · exact place_eq_zero.mpr inUser
    · exact fun other present =>
        oldest other (ordered.follows.range other 0 present) (place_eq_zero.mp present)
    · rcases target with ⟨one, -⟩ | ⟨three, derive⟩
      · exact Or.inl one
      · refine Or.inr ⟨three, fun other => ?_⟩
        obtain ⟨unready, unencoded⟩ := ordered.sane other derive
        exact ⟨fun found => unready (place_eq_one.mp found),
          fun found => unencoded (place_eq_two.mp found)⟩
  · rcases target with ⟨-, encodes⟩ | ⟨rfl, -⟩
    · rw [encodes] at derive
      cases derive
    · rw [place_eq_three.mp place]
      decide

theorem putFrame_ordered {idx : Nat} (tfmt : Anc.St10TimestampFmt)
    (timestamp : Nat) (turn : St22pTxInTurn cfg (s, journal) (.putFrame idx tfmt timestamp)) :
    (st22pTxPutFrame cfg s idx tfmt timestamp).1.Ordered cfg journal := by
  unfold st22pTxPutFrame
  by_cases inUser : (s.framebuffs idx).stat = .inUser
  · simp only [inUser, ne_eq, not_true_eq_false, if_false]
    split
    · exact ordered
    · cases derive : cfg.derive with
      | true => exact put_ordered ordered inUser turn rfl rfl (Or.inr ⟨rfl, derive⟩)
      | false => exact put_ordered ordered inUser turn rfl rfl (Or.inl ⟨rfl, derive⟩)
  · simp only [inUser, ne_eq, not_false_eq_true, if_true]
    exact ordered

theorem putFrameAbort_ordered (idx : Nat) :
    (st22pTxPutFrameAbort s idx).1.Ordered cfg journal := by
  unfold st22pTxPutFrameAbort
  by_cases inUser : (s.framebuffs idx).stat = .inUser
  · simp only [inUser, ne_eq, not_true_eq_false, if_false]
    have elsewhere : (s.framebuffs idx).place ≠ some 2 := fun encoding => by
      cases inUser.symm.trans (place_eq_two.mp encoding)
    refine ordered.setFrame rfl (ordered.follows.leave idx elsewhere) rfl ?_ ?_
    · exact fun _ => ⟨by simp, by simp⟩
    · simp [inUser]
  · simp only [inUser, ne_eq, not_false_eq_true, if_true]
    exact ordered

theorem putExtFrame_ordered {idx : Nat}
    (tfmt : Anc.St10TimestampFmt) (timestamp : Nat) (insane : Bool)
    (turn : St22pTxInTurn cfg (s, journal) (.putExtFrame idx tfmt timestamp insane)) :
    (st22pTxPutExtFrame cfg s idx tfmt timestamp insane).1.Ordered cfg journal := by
  unfold st22pTxPutExtFrame
  split
  · exact ordered
  · cases derive : cfg.derive with
    | true => exact ordered
    | false =>
      by_cases inUser : (s.framebuffs idx).stat = .inUser
      · simp only [inUser, ne_eq, not_true_eq_false, Bool.false_eq_true, if_false]
        split
        · exact ordered
        · exact put_ordered ordered inUser turn rfl rfl (Or.inl ⟨rfl, derive⟩)
      · simp only [inUser, ne_eq, not_false_eq_true, Bool.false_eq_true, if_false, if_true]
        exact ordered

theorem encodeGetFrame_ordered (lowest : St22pTxComparable cfg (s, journal) .encodeGet) :
    (txSt22pEncodeGetFrame cfg s).1.Ordered cfg
      (journal.record (txSt22pEvent cfg s .encodeGet)) := by
  unfold txSt22pEvent txSt22pEncodeGetFrame txSt22pClaimAvailable
  by_cases ready : s.ready = true
  · simp only [ready, Bool.not_true, Bool.false_eq_true, if_false]
    cases found : txSt22pNextAvailable cfg s .ready with
    | none => exact ordered
    | some idx =>
      obtain ⟨inside, stat, before⟩ := available_lowest found
      refine ordered.setFrame rfl (ordered.follows.take (place_eq_one.mpr stat) ?_) rfl ?_ ?_
      · exact fun other present => lowest idx inside stat before other
          (ordered.follows.range other 1 present) (place_eq_one.mp present)
      · exact fun derive => absurd stat (ordered.sane idx derive).1
      · simp [stat]
  · simp only [ready, Bool.not_false, if_true]
    exact ordered

theorem encodePutFrame_ordered {idx : Nat} (result : Int)
    (dataSize : Nat) (turn : St22pTxInTurn cfg (s, journal) (.encodePut idx result dataSize)) :
    (txSt22pEncodePutFrame cfg s idx result dataSize).1.Ordered cfg
      (journal.record (txSt22pEvent cfg s (.encodePut idx result dataSize))) := by
  unfold txSt22pEvent txSt22pEncodePutFrame
  by_cases encoding : (s.framebuffs idx).stat = .inEncoding
  · simp only [encoding, ne_eq, not_true_eq_false, if_false]
    split
    · refine ordered.setFrame rfl (ordered.follows.giveBack turn (Or.inl rfl)) rfl ?_ ?_
      · exact fun _ => ⟨by simp, by simp⟩
      · simp [encoding]
    · refine ordered.setFrame rfl (ordered.follows.giveBack turn (Or.inr rfl)) rfl ?_ ?_
      · exact fun _ => ⟨by simp, by simp⟩
      · simp [encoding]
  · simp only [encoding, ne_eq, not_false_eq_true, if_true]
    exact ordered

end

theorem nextScan_ordered (ordered : s.Ordered cfg journal) (dropCnt curTai : Nat)
    (near : journal.Near cfg.framebuffCnt fun idx => (s.framebuffs idx).stat = .encoded) :
    (txSt22pNextScan cfg s dropCnt curTai).1.Ordered cfg
      (journal.record (match (txSt22pNextScan cfg s dropCnt curTai).2 with
        | some idx => .sent idx (s.framebuffs idx).seqNumber
        | none => .quiet)) := by
  unfold txSt22pNextScan
  cases found : txSt22pNewestAvailable cfg s .encoded with
  | none => exact ordered.search fun _ => False.elim
  | some idx =>
    obtain ⟨here, oldest⟩ := ordered.follows.oldest (fun _ => place_eq_three) near found
    have stat := place_eq_three.mp here
    by_cases late : txSt22pIfFrameLate cfg (s.framebuffs idx) curTai = true
    · simp only [late, if_true]
      have dropped : (s.setStat idx .dropped).Ordered cfg journal :=
        ordered.setFrame rfl (ordered.follows.leave idx (by simp [here])) rfl
          (fun _ => ⟨by simp, by simp⟩) (fun _ _ => rfl)
      refine dropped.search ?_
      rintro other rfl
      simp [St22pTxCtx.setStat, St22pTxCtx.setFrame]
    · simp only [late]
      have sent : (s.setStat idx .inTransmitting).Ordered cfg
          (journal.record (.sent idx (s.framebuffs idx).seqNumber)) :=
        ordered.setFrame rfl (ordered.follows.send here oldest (fun _ _ => place_le)) rfl
          (fun _ => ⟨by simp, by simp⟩) (by simp [stat])
      exact sent.search fun _ => False.elim

section

variable (ordered : s.Ordered cfg journal)

include ordered

theorem nextFrame_ordered (curTai : Nat)
    (near : St22pTxComparable cfg (s, journal) (.nextFrame curTai)) :
    (txSt22pNextFrame cfg s curTai).1.Ordered cfg
      (journal.record (txSt22pEvent cfg s (.nextFrame curTai))) := by
  unfold txSt22pEvent txSt22pNextFrame
  by_cases idle : (!s.ready || s.next.isSome) = true
  · simp only [idle, if_true]
    exact ordered
  · have none : s.next = none := by
      cases running : s.next <;> simp_all
    simp only [idle]
    exact nextScan_ordered ordered 0 curTai (near none)

theorem nextResume_ordered (curTai : Nat)
    (near : St22pTxComparable cfg (s, journal) (.nextResume curTai)) :
    (txSt22pNextResume cfg s curTai).1.Ordered cfg
      (journal.record (txSt22pEvent cfg s (.nextResume curTai))) := by
  unfold txSt22pEvent txSt22pNextResume
  cases search : s.next with
  | none => exact ordered
  | some stage =>
    cases stage with
    | scan dropCnt =>
      simp only [St22pTxComparable, search] at near
      exact nextScan_ordered ordered dropCnt curTai near
    | late idx dropCnt =>
      have dropped := ordered.aside idx (by rw [search]; rfl)
      have told : (s.setFrame idx
          { s.framebuffs idx with
            frameDoneCbCalled := (s.framebuffs idx).frameDoneCbCalled || cfg.notifyFrameDone }).Ordered
          cfg journal := same_ordered ordered rfl rfl
      refine told.search ?_
      rintro other rfl
      simpa [St22pTxCtx.setFrame] using dropped
    | settle idx dropCnt =>
      have dropped := ordered.aside idx (by rw [search]; rfl)
      have still : ({ s.framebuffs idx with stat := .free }).place = (s.framebuffs idx).place := by
        unfold St22pTxFrame.place
        rw [dropped]
      refine TxFrameKind.Ordered.settle ordered (fun other left => ?_) rfl still
        (fun _ => ⟨by simp, by simp⟩)
      simp only at left
      split at left <;> exact left.elim

theorem frameDone_ordered (idx : Nat) (tfmt : Anc.St10TimestampFmt)
    (timestamp : Nat) : (txSt22pFrameDone cfg s idx tfmt timestamp).1.Ordered cfg journal := by
  unfold txSt22pFrameDone
  by_cases sending : (s.framebuffs idx).stat = .inTransmitting
  · simp only [sending, if_true]
    refine ordered.unmoved rfl ?_ (fun _ => ⟨by simp, by simp⟩) (by simp [sending])
    simp [St22pTxFrame.place, sending]
  · simp only [sending, if_false]
    exact same_ordered ordered rfl rfl

theorem step_ordered {input : St22pTxInput}
    (turn : St22pTxInTurn cfg (s, journal) input) (near : St22pTxComparable cfg (s, journal) input) :
    (txSt22pStep cfg s input).Ordered cfg (journal.record (txSt22pEvent cfg s input)) := by
  cases input with
  | getFrame => exact getFrame_ordered ordered
  | putFrame idx tfmt timestamp => exact putFrame_ordered ordered tfmt timestamp turn
  | putFrameAbort idx => exact putFrameAbort_ordered ordered idx
  | putExtFrame idx tfmt timestamp insane =>
    exact putExtFrame_ordered ordered tfmt timestamp insane turn
  | encodeGet => exact encodeGetFrame_ordered ordered near
  | encodePut idx result dataSize => exact encodePutFrame_ordered ordered result dataSize turn
  | nextFrame curTai => exact nextFrame_ordered ordered curTai near
  | nextResume curTai => exact nextResume_ordered ordered curTai near
  | frameDone idx tfmt timestamp => exact frameDone_ordered ordered idx tfmt timestamp

end

theorem init_ordered (cfg : St22pTxConfig) : txSt22pInit.Ordered cfg TxJournal.start where
  follows := TxJournal.start_follows cfg.framebuffCnt (fun _ => 0)
  counter := rfl
  sane idx _ := by
    constructor <;> simp [txSt22pInit]
  aside := nofun

end St22p

/-! ## Runs -/

def txSt22pRun (inputs : List St22pTxInput) : St22pTxCtx × TxJournal :=
  run (txSt22pObserved cfg) (txSt22pInit, TxJournal.start) inputs

theorem txSt22pRun_inGetOrder {inputs : List St22pTxInput} (admitted : Admitted (txSt22pObserved cfg)
      (fun o input => St22pTxInTurn cfg o input ∧ St22pTxComparable cfg o input)
      (txSt22pInit, TxJournal.start) inputs) : (txSt22pRun cfg inputs).2.InGetOrder := by
  have ordered := run_invariant (txSt22pObserved cfg) _ (fun o => o.1.Ordered cfg o.2)
    (fun _ _ ordered guards => St22p.step_ordered ordered guards.1 guards.2)
    (St22p.init_ordered cfg) admitted
  exact ordered.follows.inGetOrder

/-! ## Both pipelines -/

/-- In every run of calls in turn, both pipelines send the frames in the order of their gets: the raw one
if its searches compare near frames, the compressed one if also its encoder finds the oldest ready frame in
the lowest slot. -/
theorem tx_pipelines_send_in_get_order (raw : St20pTxConfig) (rawInputs : List St20pTxInput)
    (compressed : St22pTxConfig) (compressedInputs : List St22pTxInput) :
    (Admitted (txSt20pObserved raw) (fun o input => St20pTxInTurn raw o input ∧ St20pTxComparable raw o input)
      (txSt20pInit, TxJournal.start) rawInputs -> (txSt20pRun raw rawInputs).2.InGetOrder) ∧
    (Admitted (txSt22pObserved compressed)
        (fun o input => St22pTxInTurn compressed o input ∧ St22pTxComparable compressed o input)
        (txSt22pInit, TxJournal.start) compressedInputs ->
      (txSt22pRun compressed compressedInputs).2.InGetOrder) :=
  ⟨fun admitted => txSt20pRun_inGetOrder raw admitted, fun admitted => txSt22pRun_inGetOrder compressed admitted⟩

/-- A raw session with a converter. -/
def convertingPair : St20pTxConfig :=
  { convertingSession with framebuffCnt := 2, notifyFrameDone := false }

/-- The first slot is used again while the second one is still on its way. -/
def convertedAgain : List St20pTxInput :=
  [.getFrame, .getFrame, .putFrame 0 .tai 0 false, .putFrame 1 .tai 0 false, .convertGet,
    .convertPut 0 false, .nextFrame 0, .frameDone 0 .tai 0, .getFrame, .putFrame 0 .tai 0 false,
    .convertGet, .convertGet, .convertPut 1 false, .convertPut 0 false, .nextFrame 0, .nextFrame 0]

/-- A compressed session with an encoder. -/
def encodingThree : St22pTxConfig where
  framebuffCnt := 3
  derive := false
  extFrame := false
  dropWhenLate := false
  userPacing := false
  notifyFrameDone := false
  framePeriodNs := 100
  codestreamMaxSize := 10000

/-- Three frames are encoded and sent, and the encoder keeps up with the application. -/
def encodedInStep : List St22pTxInput :=
  [.getFrame, .getFrame, .putFrame 0 .tai 0, .putFrame 1 .tai 0, .encodeGet, .encodeGet,
    .encodePut 0 0 8000, .nextFrame 0, .frameDone 0 .tai 0, .getFrame, .putFrame 0 .tai 0, .encodeGet,
    .encodePut 1 0 8000, .encodePut 0 0 8000, .nextFrame 0, .nextFrame 0]

theorem tx_pipelines_send_again :
    ((txSt20pRun convertingPair convertedAgain).2.InGetOrder ∧
      (txSt20pRun convertingPair convertedAgain).2.sent = [(0, 0), (1, 1), (2, 2)]) ∧
    ((txSt22pRun encodingThree encodedInStep).2.InGetOrder ∧
      (txSt22pRun encodingThree encodedInStep).2.sent = [(0, 0), (1, 1), (2, 2)]) :=
  have inOrder :=
    tx_pipelines_send_in_get_order convertingPair convertedAgain encodingThree encodedInStep
  ⟨⟨inOrder.1 (by decide +kernel), by decide +kernel⟩, inOrder.2 (by decide +kernel), by decide +kernel⟩

/-- Three frames are ready, and the first slot is used again after it was sent, while the others wait. -/
def recycledSlot : List St22pTxInput :=
  [.getFrame, .getFrame, .getFrame, .putFrame 0 .tai 0, .putFrame 1 .tai 0, .putFrame 2 .tai 0,
    .encodeGet, .encodePut 0 0 8000, .nextFrame 0, .frameDone 0 .tai 0, .getFrame, .putFrame 0 .tai 0,
    .encodeGet, .encodePut 0 0 8000, .nextFrame 0, .encodeGet, .encodePut 1 0 8000, .nextFrame 0]

/-- The encoder takes the fourth frame before the second one, and so they are sent. -/
theorem recycled_slot_overtakes :
    Admitted (txSt22pObserved encodingThree) (St22pTxInTurn encodingThree)
      (txSt22pInit, TxJournal.start) recycledSlot ∧
    (txSt22pRun encodingThree recycledSlot).2.sent = [(0, 0), (3, 3), (1, 1)] ∧
    ¬ (txSt22pRun encodingThree recycledSlot).2.InGetOrder := by
  have sent : (txSt22pRun encodingThree recycledSlot).2.sent = [(0, 0), (3, 3), (1, 1)] := by
    decide +kernel
  refine ⟨by decide +kernel, sent, fun inGetOrder => ?_⟩
  have sorted := inGetOrder.sorted
  rw [sent] at sorted
  revert sorted
  decide

end MediaTransport.Pipeline
