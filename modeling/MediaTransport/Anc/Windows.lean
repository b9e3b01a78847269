import MediaTransport.Anc.Restart

namespace MediaTransport.Anc

open Library

/-!
# Windows and timestamps

The timestamp of a session, the one before it and the two windows tell of the
same two frames.  A packet that begins a frame moves the windows first and the
timestamps at the end, with the ring in between, and a packet of the previous
frame moves the timestamps alone.  A new source resets the timestamp only.
-/

/-- `rx_ancillary_session_reset` -/
def rxAncillarySessionReset (s : RxAncSession) : RxAncSession :=
  { s with
    sessionSeqId := -1
    tmstamp := -1
    prevTmstamp := -1
    ancWindowCur := AncWindow.none
    ancWindowPrev := AncWindow.none
    stats := { AncStats.zero with
      fieldBitMismatch := s.stats.fieldBitMismatch
      ancFramesReady := s.stats.ancFramesReady
      ancFramesDropped := s.stats.ancFramesDropped
      ancPktParseErr := s.stats.ancPktParseErr }
    interlaceDetected := !s.interlaceAuto
    interlaceInterlaced := s.ops.interlaced
    latestSeqId := fun _ => -1
    redundantErrorCnt := fun _ => 0
    lastFBits := fun _ => 0xff
    lastFTmstamp := fun _ => 0 }

/-- `rx_ancillary_session_update_src`, without the network part behind it. -/
def rxAncillarySessionUpdateSrc (s : RxAncSession) : RxAncSession :=
  { s with
    sessionSeqId := -1
    latestSeqId := fun _ => -1
    tmstamp := -1
    interlaceDetected := if s.interlaceAuto then false else s.interlaceDetected
    interlaceInterlaced := if s.interlaceAuto then s.ops.interlaced else s.interlaceInterlaced }

inductive AncOp where
  | packet (receipt : AncReceipt)
  | reset
  | updateSrc

def AncOp.apply (s : RxAncSession) : AncOp -> RxAncSession
  | .packet receipt => ancRxStep s receipt
  | .reset => rxAncillarySessionReset s
  | .updateSrc => rxAncillarySessionUpdateSrc s

/-! ## What is promised -/

/-- A valid window has the timestamp of its frame. -/
structure FilterPart.Coherent (part : FilterPart) : Prop where
  current : part.ancWindowCur.valid = true -> (part.ancWindowCur.tmstamp : Int) = part.tmstamp
  previous : part.ancWindowPrev.valid = true -> (part.ancWindowPrev.tmstamp : Int) = part.prevTmstamp

def ancReturns : RxAncSession -> List AncReceipt -> List AncReturn
  | _, [] => []
  | s, receipt :: rest =>
    (rxAncillarySessionHandlePkt receipt.env s receipt.pkt receipt.port).2 ::
      ancReturns (ancRxStep s receipt) rest

def RxAncSession.withBits (s : RxAncSession) (cur prev : BitVec 64) : RxAncSession :=
  { s with
    ancWindowCur := { s.ancWindowCur with bitmap := cur }
    ancWindowPrev := { s.ancWindowPrev with bitmap := prev } }

variable (env : AncEnv) (s : RxAncSession) (part : FilterPart) (pkt : AncPkt)

def WindowsForgotten : Prop :=
  forall (cur prev : BitVec 64) (receipts : List AncReceipt),
    ancReturns (s.withBits cur prev) receipts = ancReturns s receipts

/-- The operation leaves the windows coherent, and a new stream starts without the old one's bits. -/
def AncOp.Right (op : AncOp) : Prop :=
  (op.apply s).filterPart.Coherent ∧
    match op with
    | .packet _ => True
    | .reset | .updateSrc => WindowsForgotten (op.apply s)

/-! ## The condition -/

/-- How the handler takes a packet: not at all, or with or without the threshold's bypass. -/
def rxAncTakes (pkt : AncPkt) (port : MtlSessionPort) : Option Bool :=
  match rxAncVerdict s pkt with
  | .fresh | .lateCurrent | .latePrevious => some false
  | .redundant => if rxAncThresholdReached (rxAncCountRedundant s port) then some true else none

/-- A packet that is taken is handed on and moves the session's timestamp if it begins a frame,
and does not move it to the timestamp of the previous window. -/
def FilterPart.Careful (part : FilterPart) (pkt : AncPkt) (bypass : Bool) : Prop :=
  let moves := (part.ops.type = .frameLevel ∨ env.ringTakes = true) ∧
    (mtSeq32Greater pkt.tmstamp part.tmstamp = true ∨ bypass = true)
  (pkt.tmstamp : Int) = part.tmstamp ∨
    if part.ancWindowPrev.valid = true ∧ pkt.tmstamp = part.ancWindowPrev.tmstamp then ¬moves
    else part.ancWindowCur.valid = false ∨ pkt.tmstamp ≠ part.ancWindowCur.tmstamp -> moves

/-- A source is updated only before the first packet. -/
def AncOp.Careful (s : RxAncSession) : AncOp -> Prop
  | .packet receipt =>
    rxAncWrongHeader s receipt.pkt = none ->
      let prepared := rxAncPrepare s receipt.pkt receipt.port
      forall bypass, rxAncTakes prepared receipt.pkt receipt.port = some bypass ->
        prepared.filterPart.Careful receipt.env receipt.pkt bypass
  | .reset => True
  | .updateSrc => s.ancWindowCur.valid = false

/-! ## The filter's part of a step -/

def FilterPart.uncounted (part : FilterPart) : FilterPart :=
  { part with pktsReceived := 0, pktsUnrecovered := 0, pktsEnqueueFail := 0 }

/-- The windows after an accepted packet, the current one first. -/
def FilterPart.recorded (part : FilterPart) (pkt : AncPkt) : AncWindow × AncWindow :=
  if part.ancWindowPrev.valid ∧ pkt.tmstamp = part.ancWindowPrev.tmstamp then
    (part.ancWindowCur, part.ancWindowPrev.record pkt.seqNumber)
  else if !part.ancWindowCur.valid ∨ pkt.tmstamp ≠ part.ancWindowCur.tmstamp then
    ((AncWindow.mk 0 pkt.tmstamp (u16 (part.sessionSeqId + 1)) true).record pkt.seqNumber,
      if part.ancWindowCur.valid then part.ancWindowCur else part.ancWindowPrev)
  else
    (part.ancWindowCur.record pkt.seqNumber, part.ancWindowPrev)

def FilterPart.moves (part : FilterPart) (pkt : AncPkt) (bypass : Bool) : Bool :=
  decide (part.ops.type = .frameLevel ∨ env.ringTakes = true) &&
    decide ((pkt.tmstamp : Int) ≠ part.tmstamp ∧
      (mtSeq32Greater pkt.tmstamp part.tmstamp = true ∨ bypass = true))

/-- What an accepted packet leaves behind. -/
def FilterPart.accepted (part : FilterPart) (pkt : AncPkt) (port : MtlSessionPort) (bypass : Bool)
    : FilterPart :=
  { part with
    sessionSeqId :=
      if mtSeq16Greater pkt.seqNumber part.sessionSeqId then (pkt.seqNumber : Int) else part.sessionSeqId
    redundantErrorCnt := Function.update part.redundantErrorCnt port 0
    ancWindowCur := (part.recorded pkt).1
    ancWindowPrev := (part.recorded pkt).2
    prevTmstamp := if part.moves env pkt bypass then part.tmstamp else part.prevTmstamp
    tmstamp := if part.moves env pkt bypass then pkt.tmstamp else part.tmstamp }

theorem rxAncRecordWindow_recorded :
    ((rxAncRecordWindow s pkt s.sessionSeqId).ancWindowCur,
      (rxAncRecordWindow s pkt s.sessionSeqId).ancWindowPrev) = s.filterPart.uncounted.recorded pkt := by
  unfold rxAncRecordWindow FilterPart.recorded FilterPart.uncounted RxAncSession.filterPart
  dsimp only
  split
  · rfl
  · split <;> rfl

theorem rxAncFinish_uncounted (s : RxAncSession) (pkt : AncPkt) (port : MtlSessionPort) (bypass : Bool) :
    let moved := decide ((pkt.tmstamp : Int) ≠ s.tmstamp ∧
      (mtSeq32Greater pkt.tmstamp s.tmstamp = true ∨ bypass = true))
    (rxAncFinish s pkt port bypass).filterPart.uncounted =
      { s.filterPart.uncounted with
        prevTmstamp := if moved then s.tmstamp else s.prevTmstamp
        tmstamp := if moved then pkt.tmstamp else s.tmstamp } := by
  rw [rxAncFinish_filterPart]
  split
  · next moved => simp only [decide_eq_true moved, if_true, FilterPart.uncounted]
  · next stays => simp [decide_eq_false stays, FilterPart.uncounted, RxAncSession.filterPart]

theorem rxAncAccept_uncounted (port : MtlSessionPort) (bypass : Bool) :
    (rxAncAccept env s pkt port bypass).filterPart.uncounted =
      s.filterPart.uncounted.accepted env pkt port bypass := by
  have advanced := congrArg FilterPart.uncounted (rxAncAdvance_filterPart s pkt port)
  have kind : (rxAncAdvance s pkt port).ops.type = s.ops.type :=
    congrArg (fun part => part.ops.type) advanced
  have finished : forall t : RxAncSession, t.filterPart = (rxAncAdvance s pkt port).filterPart ->
      (s.ops.type = .frameLevel ∨ env.ringTakes = true) ->
      (rxAncFinish t pkt port bypass).filterPart.uncounted =
        s.filterPart.uncounted.accepted env pkt port bypass := by
    intro t same handed
    have stamp : t.tmstamp = s.tmstamp :=
      (congrArg FilterPart.tmstamp same).trans (congrArg FilterPart.tmstamp advanced)
    have before : t.prevTmstamp = s.prevTmstamp :=
      (congrArg FilterPart.prevTmstamp same).trans (congrArg FilterPart.prevTmstamp advanced)
    have moved : s.filterPart.uncounted.moves env pkt bypass = decide ((pkt.tmstamp : Int) ≠ s.tmstamp ∧
        (mtSeq32Greater pkt.tmstamp s.tmstamp = true ∨ bypass = true)) := by
      unfold FilterPart.moves
      rw [decide_eq_true (show s.filterPart.uncounted.ops.type = .frameLevel ∨ _ from handed),
        Bool.true_and]
      rfl
    rw [rxAncFinish_uncounted, stamp, before, same, advanced]
    unfold FilterPart.accepted
    rw [moved, ← rxAncRecordWindow_recorded]
    rfl
  unfold rxAncAccept
  dsimp only
  rw [kind]
  cases type : s.ops.type with
  | frameLevel =>
    exact finished _ (rxAncillarySessionAssemblePkt_filterPart env _ pkt port) (Or.inl type)
  | rtpLevel =>
    cases taken : env.ringTakes with
    | true => exact finished _ rfl (Or.inr taken)
    | false =>
      have stays : s.filterPart.uncounted.moves env pkt bypass = false := by
        unfold FilterPart.moves
        rw [decide_eq_false, Bool.false_and]
        rintro (frame | ring)
        · cases type.symm.trans frame
        · cases taken.symm.trans ring
      unfold FilterPart.accepted
      rw [stays, ← rxAncRecordWindow_recorded]
      exact advanced

/-! ## One packet -/

/-- The whole handler, as far as the filter's part goes. -/
structure Handled (env : AncEnv) (before : RxAncSession) (pkt : AncPkt) (port : MtlSessionPort)
    (result : RxAncSession × AncReturn) : Prop where
  taken : forall bypass, rxAncTakes before pkt port = some bypass ->
    result.2 = .ok ∧
      result.1.filterPart.uncounted = before.filterPart.uncounted.accepted env pkt port bypass
  filtered : rxAncTakes before pkt port = none ->
    result.2 = .again ∧ result.1.filterPart.uncounted =
      { before.filterPart.uncounted with
        redundantErrorCnt := Function.update before.redundantErrorCnt port
          (before.redundantErrorCnt port + 1) }

theorem FilterPart.accepted_errors (pkt : AncPkt) (port : MtlSessionPort) (bypass : Bool) (count : Nat)
    :
    FilterPart.accepted env
        { part with redundantErrorCnt := Function.update part.redundantErrorCnt port count } pkt port bypass =
      part.accepted env pkt port bypass := by
  unfold FilterPart.accepted
  dsimp only
  rw [Function.update_idem]
  rfl

theorem rxAncHandleChecked_handled (port : MtlSessionPort)
    : Handled env s pkt port (rxAncHandleChecked env s pkt port) := by
  have late : (rxAncAccept env (rxAncRecover s) pkt port false).filterPart.uncounted =
      s.filterPart.uncounted.accepted env pkt port false := rxAncAccept_uncounted env (rxAncRecover s) pkt port false
  unfold rxAncHandleChecked
  constructor
  · intro bypass takes
    unfold rxAncTakes at takes
    cases verdict : rxAncVerdict s pkt with
    | fresh =>
      rw [verdict] at takes
      cases takes
      exact ⟨rfl, rxAncAccept_uncounted env s pkt port false⟩
    | lateCurrent =>
      rw [verdict] at takes
      cases takes
      exact ⟨rfl, late⟩
    | latePrevious =>
      rw [verdict] at takes
      cases takes
      exact ⟨rfl, late⟩
    | redundant =>
      rw [verdict] at takes
      dsimp only at takes ⊢
      split at takes
      · next reached =>
        cases takes
        rw [if_pos reached]
        refine ⟨rfl, (rxAncAccept_uncounted env _ pkt port true).trans ?_⟩
        exact FilterPart.accepted_errors env s.filterPart.uncounted pkt port true _
      · cases takes
  · intro filtered
    unfold rxAncTakes at filtered
    cases verdict : rxAncVerdict s pkt with
    | redundant =>
      rw [verdict] at filtered
      dsimp only at filtered ⊢
      split at filtered
      · cases filtered
      · next below =>
        rw [if_neg below]
        exact ⟨rfl, rfl⟩
    | _ =>
      rw [verdict] at filtered
      cases filtered

/-! ## Coherence -/

/-- Coherent windows, with none before the first one. -/
structure FilterPart.Kept (part : FilterPart) : Prop extends part.Coherent where
  first : part.ancWindowPrev.valid = true -> part.ancWindowCur.valid = true

theorem AncWindow.record_frame (window : AncWindow) (seqId : Nat) :
    (window.record seqId).valid = window.valid ∧ (window.record seqId).tmstamp = window.tmstamp := by
  unfold AncWindow.record
  split <;> exact ⟨rfl, rfl⟩

theorem FilterPart.moves_iff (bypass : Bool) :
    part.moves env pkt bypass = true <-> (pkt.tmstamp : Int) ≠ part.tmstamp ∧
      (part.ops.type = .frameLevel ∨ env.ringTakes = true) ∧
        (mtSeq32Greater pkt.tmstamp part.tmstamp = true ∨ bypass = true) := by
  unfold FilterPart.moves
  rw [Bool.and_eq_true, decide_eq_true_eq, decide_eq_true_eq]
  tauto

/-- An accepted packet keeps the windows coherent exactly when it is a careful one. -/
theorem FilterPart.Kept.accepted_iff {part : FilterPart} (kept : part.Kept) (env : AncEnv) (pkt : AncPkt)
    (port : MtlSessionPort) (bypass : Bool) :
    ((part.accepted env pkt port bypass).Coherent <-> part.Careful env pkt bypass) ∧
      ((part.accepted env pkt port bypass).ancWindowPrev.valid = true ->
        (part.accepted env pkt port bypass).ancWindowCur.valid = true) := by
  have moves := part.moves_iff env pkt bypass
  unfold FilterPart.Careful
  unfold FilterPart.accepted FilterPart.recorded
  dsimp only
  by_cases late : part.ancWindowPrev.valid = true ∧ pkt.tmstamp = part.ancWindowPrev.tmstamp
  · have current := kept.current (kept.first late.1)
    simp only [if_pos late]
    refine ⟨⟨fun coherent => ?_, fun careful => ?_⟩, fun _ => kept.first late.1⟩
    · by_contra careless
      rw [not_or, not_not] at careless
      have moved := moves.mpr careless
      have stamp := coherent.current (kept.first late.1)
      rw [if_pos moved] at stamp
      exact careless.1 (stamp.symm.trans current)
    · have stays : ¬part.moves env pkt bypass = true := by
        rw [moves]
        rintro ⟨other, moved⟩
        exact careful.elim other (fun still => still moved)
      simp only [if_neg stays]
      refine ⟨kept.current, ?_⟩
      rw [(part.ancWindowPrev.record_frame _).1, (part.ancWindowPrev.record_frame _).2]
      exact kept.previous
  · simp only [if_neg late]
    by_cases begins : (!part.ancWindowCur.valid) = true ∨ pkt.tmstamp ≠ part.ancWindowCur.tmstamp
    · simp only [if_pos begins]
      have fresh := (AncWindow.mk 0 pkt.tmstamp (u16 (part.sessionSeqId + 1)) true).record_frame pkt.seqNumber
      refine ⟨⟨fun coherent => ?_, fun careful => ?_⟩, fun _ => fresh.1⟩
      · by_contra careless
        rw [not_or] at careless
        have stays : ¬part.moves env pkt bypass = true := by
          rw [moves]
          rintro ⟨_, moved⟩
          exact careless.2 (fun _ => moved)
        have stamp := coherent.current fresh.1
        rw [if_neg stays, fresh.2] at stamp
        exact careless.1 stamp
      · by_cases same : (pkt.tmstamp : Int) = part.tmstamp
        · have stays : ¬part.moves env pkt bypass = true := by
            rw [moves]
            exact fun moved => moved.1 same
          have none : part.ancWindowCur.valid = false := by
            by_contra valid
            have current := kept.current (Bool.eq_true_of_not_eq_false valid)
            rcases begins with off | other
            · exact valid (by simpa using off)
            · omega
          simp only [if_neg stays]
          refine ⟨fun _ => fresh.2 ▸ same, fun valid => ?_⟩
          simp only [none, Bool.false_eq_true, if_false] at valid ⊢
          exact kept.previous valid
        · have moved : part.moves env pkt bypass = true := by
            rw [moves]
            refine ⟨same, careful.resolve_left same ?_⟩
            exact begins.imp_left (by simp)
          simp only [if_pos moved]
          refine ⟨fun _ => by rw [fresh.2], fun valid => ?_⟩
          cases off : part.ancWindowCur.valid with
          | true => exact kept.current off
          | false =>
            rw [off] at valid
            have first := kept.first valid
            rw [off] at first
            cases first
    · have going := not_or.mp begins
      have valid : part.ancWindowCur.valid = true := by simpa using going.1
      have current := kept.current valid
      have frame : (pkt.tmstamp : Int) = part.tmstamp := by
        rw [← current, not_not.mp going.2]
      have stays : ¬part.moves env pkt bypass = true := by
        rw [moves]
        exact fun moved => moved.1 frame
      have recorded := part.ancWindowCur.record_frame pkt.seqNumber
      simp only [if_neg begins, if_neg stays]
      refine ⟨⟨fun _ => Or.inl frame, fun _ => ⟨?_, kept.previous⟩⟩, fun _ => recorded.1.trans valid⟩
      rw [recorded.1, recorded.2]
      exact kept.current

/-! ## Forgetting -/

/-- Windows that the filter takes for the same: equal, or neither is valid. -/
def AncWindow.Alike (left right : AncWindow) : Prop :=
  left = right ∨ left.valid = false ∧ right.valid = false

/-- Sessions in which the filter decides alike. -/
structure FilterPart.Alike (left right : FilterPart) : Prop where
  ops : { left.ops with interlaced := false } = { right.ops with interlaced := false }
  sessionSeqId : left.sessionSeqId = right.sessionSeqId
  redundantErrorCnt : left.redundantErrorCnt = right.redundantErrorCnt
  ancWindowCur : left.ancWindowCur.Alike right.ancWindowCur
  ancWindowPrev : left.ancWindowPrev.Alike right.ancWindowPrev
  tmstamp : left.tmstamp = right.tmstamp
  prevTmstamp : left.prevTmstamp = right.prevTmstamp

section

variable {s t : RxAncSession} (alike : s.filterPart.Alike t.filterPart) (pkt : AncPkt)
  (port : MtlSessionPort)

include alike

theorem rxAncWrongHeader_alike :
    (rxAncWrongHeader s pkt).isSome = (rxAncWrongHeader t pkt).isSome := by
  have ops := alike.ops
  change { s.ops with interlaced := false } = { t.ops with interlaced := false } at ops
  injection ops with _ payloadType ssrc fastMetadata
  unfold rxAncWrongHeader
  rw [payloadType, ssrc, fastMetadata]
  split
  · rfl
  · split
    · rfl
    · split <;> rfl

theorem rxAncPrepare_alike :
    (rxAncPrepare s pkt port).filterPart.Alike (rxAncPrepare t pkt port).filterPart := by
  rcases rxAncPrepare_ops s pkt port with ⟨_, left⟩
  rcases rxAncPrepare_ops t pkt port with ⟨_, right⟩
  have number : s.sessionSeqId = t.sessionSeqId := alike.sessionSeqId
  have stamp : s.tmstamp = t.tmstamp := alike.tmstamp
  rw [(rxAncPrepare_filterPart s pkt port).1, (rxAncPrepare_filterPart t pkt port).1, left, right,
    number, stamp]
  exact ⟨alike.ops, rfl, alike.redundantErrorCnt, alike.ancWindowCur, alike.ancWindowPrev, rfl,
    alike.prevTmstamp⟩

theorem rxAncTakes_alike : rxAncTakes s pkt port = rxAncTakes t pkt port := by
  have verdict : rxAncVerdict s pkt = rxAncVerdict t pkt := by
    have number : s.sessionSeqId = t.sessionSeqId := alike.sessionSeqId
    have stamp : s.tmstamp = t.tmstamp := alike.tmstamp
    have before : s.prevTmstamp = t.prevTmstamp := alike.prevTmstamp
    have current : s.ancWindowCur.Alike t.ancWindowCur := alike.ancWindowCur
    have previous : s.ancWindowPrev.Alike t.ancWindowPrev := alike.ancWindowPrev
    unfold rxAncVerdict
    rw [number, stamp, before]
    rcases current with current | ⟨left, right⟩ <;> rcases previous with previous | ⟨left', right'⟩ <;>
      simp_all
  have ports : s.ops.ports = t.ops.ports := by
    have ops := alike.ops
    change { s.ops with interlaced := false } = { t.ops with interlaced := false } at ops
    injection ops with numPort
    unfold St40RxOps.ports
    rw [numPort]
  have reached : rxAncThresholdReached (rxAncCountRedundant s port) =
      rxAncThresholdReached (rxAncCountRedundant t port) := by
    have errors : s.redundantErrorCnt = t.redundantErrorCnt := alike.redundantErrorCnt
    unfold rxAncThresholdReached rxAncCountRedundant
    dsimp only
    rw [ports, errors]
  unfold rxAncTakes
  rw [verdict, reached]

end

theorem FilterPart.Alike.accepted {left right : FilterPart} (alike : left.Alike right) (env : AncEnv)
    (pkt : AncPkt) (port : MtlSessionPort) (bypass : Bool) :
    (left.accepted env pkt port bypass).Alike (right.accepted env pkt port bypass) := by
  rcases alike with ⟨ops, number, errors, current, previous, stamp, before⟩
  have moves : left.moves env pkt bypass = right.moves env pkt bypass := by
    injection ops with _ _ _ _ _ type
    unfold FilterPart.moves
    rw [type, stamp]
  have recorded : (left.recorded pkt).1.Alike (right.recorded pkt).1 ∧
      (left.recorded pkt).2.Alike (right.recorded pkt).2 := by
    unfold FilterPart.recorded
    rw [number]
    rcases current with current | ⟨off, off'⟩
    · rcases previous with previous | ⟨gone, gone'⟩
      · rw [current, previous]
        exact ⟨Or.inl rfl, Or.inl rfl⟩
      · simp only [gone, gone', current, Bool.false_eq_true, false_and, if_false]
        split
        · refine ⟨Or.inl rfl, ?_⟩
          split
          · exact Or.inl rfl
          · exact Or.inr ⟨gone, gone'⟩
        · exact ⟨Or.inl rfl, Or.inr ⟨gone, gone'⟩⟩
    · simp only [off, off', Bool.not_false, Bool.false_eq_true, true_or, if_true, if_false]
      rcases previous with previous | ⟨gone, gone'⟩
      · rw [previous]
        split
        · exact ⟨Or.inr ⟨off, off'⟩, Or.inl rfl⟩
        · exact ⟨Or.inl rfl, Or.inl rfl⟩
      · simp only [gone, gone', Bool.false_eq_true, false_and, if_false]
        exact ⟨Or.inl rfl, Or.inr ⟨gone, gone'⟩⟩
  unfold FilterPart.accepted
  rw [moves, number, stamp, before, errors]
  exact ⟨ops, rfl, rfl, recorded.1, recorded.2, rfl, rfl⟩

theorem rxAncHandle_alike {s t : RxAncSession} (alike : s.filterPart.Alike t.filterPart)
    (receipt : AncReceipt) :
    (rxAncillarySessionHandlePkt receipt.env s receipt.pkt receipt.port).2 =
        (rxAncillarySessionHandlePkt receipt.env t receipt.pkt receipt.port).2 ∧
      (ancRxStep s receipt).filterPart.Alike (ancRxStep t receipt).filterPart := by
  have header := rxAncWrongHeader_alike alike receipt.pkt
  have prepared := rxAncPrepare_alike alike receipt.pkt receipt.port
  unfold ancRxStep rxAncillarySessionHandlePkt
  cases wrong : rxAncWrongHeader s receipt.pkt with
  | some _ =>
    rw [wrong] at header
    rcases Option.isSome_iff_exists.mp header.symm with ⟨_, wrong'⟩
    rw [wrong']
    exact ⟨rfl, alike.1, alike.2, alike.3, alike.4, alike.5, alike.6, alike.7⟩
  | none =>
    rw [wrong] at header
    rw [Option.isSome_eq_false_iff.mp header.symm |> Option.isNone_iff_eq_none.mp]
    dsimp only
    have left := rxAncHandleChecked_handled receipt.env (rxAncPrepare s receipt.pkt receipt.port)
      receipt.pkt receipt.port
    have right := rxAncHandleChecked_handled receipt.env (rxAncPrepare t receipt.pkt receipt.port)
      receipt.pkt receipt.port
    have takes := rxAncTakes_alike prepared receipt.pkt receipt.port
    -- the counters, which `uncounted` clears, are no part of what is alike
    have counted : forall {l r : FilterPart}, l.uncounted.Alike r.uncounted -> l.Alike r :=
      fun same => ⟨same.1, same.2, same.3, same.4, same.5, same.6, same.7⟩
    have uncounted : (rxAncPrepare s receipt.pkt receipt.port).filterPart.uncounted.Alike
        (rxAncPrepare t receipt.pkt receipt.port).filterPart.uncounted :=
      ⟨prepared.1, prepared.2, prepared.3, prepared.4, prepared.5, prepared.6, prepared.7⟩
    cases taken : rxAncTakes (rxAncPrepare s receipt.pkt receipt.port) receipt.pkt receipt.port with
    | some bypass =>
      rcases left.taken bypass taken with ⟨leftReturn, leftPart⟩
      rcases right.taken bypass (takes.symm.trans taken) with ⟨rightReturn, rightPart⟩
      refine ⟨leftReturn.trans rightReturn.symm, counted ?_⟩
      rw [leftPart, rightPart]
      exact uncounted.accepted receipt.env receipt.pkt receipt.port bypass
    | none =>
      rcases left.filtered taken with ⟨leftReturn, leftPart⟩
      rcases right.filtered (takes.symm.trans taken) with ⟨rightReturn, rightPart⟩
      refine ⟨leftReturn.trans rightReturn.symm, counted ?_⟩
      have errors : (rxAncPrepare s receipt.pkt receipt.port).redundantErrorCnt =
        (rxAncPrepare t receipt.pkt receipt.port).redundantErrorCnt := prepared.redundantErrorCnt
      rw [leftPart, rightPart, errors]
      exact ⟨uncounted.1, uncounted.2, rfl, uncounted.4, uncounted.5, uncounted.6, uncounted.7⟩

theorem ancReturns_alike (receipts : List AncReceipt) :
    forall {s t : RxAncSession}, s.filterPart.Alike t.filterPart ->
      ancReturns s receipts = ancReturns t receipts := by
  induction receipts with
  | nil => exact fun _ => rfl
  | cons receipt rest ih =>
    intro s t alike
    rcases rxAncHandle_alike alike receipt with ⟨same, after⟩
    exact congrArg₂ List.cons same (ih after)

theorem windowsForgotten_of_invalid {s : RxAncSession} (current : s.ancWindowCur.valid = false)
    (previous : s.ancWindowPrev.valid = false) : WindowsForgotten s := by
  intro cur prev receipts
  exact ancReturns_alike receipts
    ⟨rfl, rfl, rfl, Or.inr ⟨current, current⟩, Or.inr ⟨previous, previous⟩, rfl, rfl⟩

/-! ## Every operation -/

theorem FilterPart.Kept.prepared {s : RxAncSession} (kept : s.filterPart.Kept) (pkt : AncPkt)
    (port : MtlSessionPort) : (rxAncPrepare s pkt port).filterPart.Kept := by
  have current : s.ancWindowCur.valid = true -> (s.ancWindowCur.tmstamp : Int) = s.tmstamp := kept.current
  rw [(rxAncPrepare_filterPart s pkt port).1]
  refine ⟨⟨fun valid => ?_, kept.previous⟩, kept.first⟩
  -- a session without a timestamp has no valid window
  have set : s.tmstamp ≠ -1 := by
    have stamp := current valid
    omega
  rw [if_neg set]
  exact current valid

theorem FilterPart.kept_uncounted : part.uncounted.Kept <-> part.Kept :=
  ⟨fun kept => ⟨⟨kept.current, kept.previous⟩, kept.first⟩,
    fun kept => ⟨⟨kept.current, kept.previous⟩, kept.first⟩⟩

theorem ancRxStep_right_iff {s : RxAncSession} (kept : s.filterPart.Kept) (receipt : AncReceipt) :
    ((AncOp.packet receipt).Right s <-> (AncOp.packet receipt).Careful s) ∧
      ((AncOp.packet receipt).Right s -> ((AncOp.packet receipt).apply s).filterPart.Kept) := by
  have prepared := kept.prepared receipt.pkt receipt.port
  unfold AncOp.Right AncOp.Careful AncOp.apply ancRxStep rxAncillarySessionHandlePkt
  dsimp only
  cases wrong : rxAncWrongHeader s receipt.pkt with
  | some _ =>
    exact ⟨⟨fun _ passes => (nomatch passes), fun _ => ⟨⟨kept.current, kept.previous⟩, trivial⟩⟩,
      fun right => ⟨right.1, kept.first⟩⟩
  | none =>
    dsimp only
    have handled := rxAncHandleChecked_handled receipt.env (rxAncPrepare s receipt.pkt receipt.port)
      receipt.pkt receipt.port
    cases taken : rxAncTakes (rxAncPrepare s receipt.pkt receipt.port) receipt.pkt receipt.port with
    | some bypass =>
      rcases handled.taken bypass taken with ⟨_, part⟩
      rcases ((FilterPart.kept_uncounted _).mpr prepared).accepted_iff receipt.env receipt.pkt receipt.port
        bypass with ⟨coherent, first⟩
      rw [← part] at coherent first
      refine ⟨⟨fun right _ other taking => ?_, fun careful => ?_⟩, fun right => ⟨right.1, first⟩⟩
      · cases taking
        exact coherent.mp ⟨right.1.current, right.1.previous⟩
      · have after := coherent.mpr (careful rfl bypass rfl)
        exact ⟨⟨after.current, after.previous⟩, trivial⟩
    | none =>
      rcases handled.filtered taken with ⟨_, part⟩
      have after : (rxAncHandleChecked receipt.env (rxAncPrepare s receipt.pkt receipt.port) receipt.pkt
          receipt.port).1.filterPart.Kept := by
        rw [← FilterPart.kept_uncounted, part]
        exact ⟨⟨prepared.current, prepared.previous⟩, prepared.first⟩
      exact ⟨⟨fun _ _ _ taking => (nomatch taking), fun _ => ⟨after.toCoherent, trivial⟩⟩, fun _ => after⟩

theorem FilterPart.Kept.right_iff {s : RxAncSession} (kept : s.filterPart.Kept) (op : AncOp) :
    (op.Right s <-> op.Careful s) ∧ (op.Right s -> (op.apply s).filterPart.Kept) := by
  cases op with
  | packet receipt => exact ancRxStep_right_iff kept receipt
  | reset =>
    have none : (AncOp.reset.apply s).filterPart.Kept :=
      ⟨⟨(fun valid => nomatch valid), (fun valid => nomatch valid)⟩, fun valid => nomatch valid⟩
    have forgotten : WindowsForgotten (AncOp.reset.apply s) := windowsForgotten_of_invalid rfl rfl
    exact ⟨⟨fun _ => trivial, fun _ => ⟨none.toCoherent, forgotten⟩⟩, fun _ => none⟩
  | updateSrc =>
    have first : s.ancWindowPrev.valid = true -> s.ancWindowCur.valid = true := kept.first
    have previous : s.ancWindowPrev.valid = true ->
      (s.ancWindowPrev.tmstamp : Int) = s.prevTmstamp := kept.previous
    refine ⟨⟨fun right => ?_, fun careful => ?_⟩, fun right => ⟨right.1, first⟩⟩
    · by_contra valid
      -- the timestamp is gone, and the window still has it
      have stamp : (s.ancWindowCur.tmstamp : Int) = -1 :=
        right.1.current (Bool.eq_true_of_not_eq_false valid)
      omega
    · have current : s.ancWindowCur.valid = false := careful
      have none : s.ancWindowPrev.valid = false := by
        by_contra valid
        have still := first (Bool.eq_true_of_not_eq_false valid)
        rw [current] at still
        cases still
      refine ⟨⟨fun valid => ?_, previous⟩, windowsForgotten_of_invalid current none⟩
      exact nomatch current.symm.trans valid

theorem rxAnc_right_iff (operations : List AncOp) : forall {s : RxAncSession}, s.filterPart.Kept ->
    (Admitted AncOp.apply (fun s op => op.Right s) s operations <->
      Admitted AncOp.apply (fun s op => op.Careful s) s operations) := by
  induction operations with
  | nil => exact fun _ => Iff.rfl
  | cons op rest ih =>
    intro s kept
    rcases kept.right_iff op with ⟨right, after⟩
    constructor
    · exact fun admitted => ⟨right.mp admitted.1, (ih (after admitted.1)).mp admitted.2⟩
    · intro admitted
      have first := right.mpr admitted.1
      exact ⟨first, (ih (after first)).mpr admitted.2⟩

/-- Every operation of a session leaves the windows coherent, and every reset and update leaves
none of the old stream's bits, exactly when every operation is careful. -/
theorem anc_windows_right_iff_careful (ops : St40RxOps) (interlaceAuto : Bool) (cnt udwBufSize : Nat)
    (operations : List AncOp) :
    Admitted AncOp.apply (fun s op => op.Right s) (rxAncInit ops interlaceAuto cnt udwBufSize)
        operations <->
      Admitted AncOp.apply (fun s op => op.Careful s) (rxAncInit ops interlaceAuto cnt udwBufSize)
        operations := by
  apply rxAnc_right_iff
  exact ⟨⟨(fun valid => nomatch valid), (fun valid => nomatch valid)⟩, fun valid => nomatch valid⟩

/-- An old stream's packet with its number decides on the new stream's, and a frame whose first
packet the ring refuses has no timestamp. -/
theorem anc_windows_not_right :
    ¬Admitted AncOp.apply (fun s op => op.Right s) (rxAncInit rtpLevelOps false 0 0)
        [.packet ⟨restartEnv, restartPkt 10 1000, .p⟩, .updateSrc] ∧
      ¬Admitted AncOp.apply (fun s op => op.Right s) (rxAncInit rtpLevelOps false 0 0)
        [.packet ⟨{ restartEnv with ringTakes := false }, restartPkt 10 1000, .p⟩] := by
  constructor
  · intro admitted
    have forgotten := admitted.2.1.2 0 0
      [⟨restartEnv, restartPkt 12 1000, .p⟩, ⟨restartEnv, restartPkt 10 1000, .p⟩]
    revert forgotten
    decide +kernel
  · intro admitted
    have current := admitted.1.1.current (by decide +kernel)
    revert current
    decide +kernel

end MediaTransport.Anc
