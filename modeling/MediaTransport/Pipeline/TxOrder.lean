import MediaTransport.Pipeline.TxJournal
import MediaTransport.Pipeline.TxLifecycle

namespace MediaTransport.Pipeline

open Library

/-!
# Order of the frames of the video transmit pipeline

The application puts the frames in the order in which it got them, and one
converter finishes them in the order in which it took them.  The pipeline then
sends them in that order, as both of its searches look for the oldest number.
-/

variable (cfg : St20pTxConfig)

def St20pTxFrame.place (frame : St20pTxFrame) : Option Nat :=
  match frame.stat with
  | .inUser => if frame.held then some 0 else none
  | .ready => some 1
  | .inConverting => some 2
  | .converted => some 3
  | _ => none

/-- What a call does with a frame. -/
def txSt20pEvent (s : St20pTxCtx) : St20pTxInput -> TxEvent
  | .getFrame =>
    match (st20pTxGetFrame cfg s).2 with
    | some idx => .got idx
    | none => .quiet
  | .convertGet =>
    match (txSt20pConvertGetFrame cfg s).2 with
    | some idx => .taken idx
    | none => .quiet
  | .convertPut idx failed =>
    match (txSt20pConvertPutFrame s idx failed).2 with
    | .ok _ => .returned idx
    | .error _ => .quiet
  | .nextFrame curTai =>
    match (txSt20pNextFrame cfg s curTai).2 with
    | some idx => .sent idx (s.framebuffs idx).seqNumber
    | none => .quiet
  | .nextResume curTai =>
    match (txSt20pNextResume cfg s curTai).2 with
    | some idx => .sent idx (s.framebuffs idx).seqNumber
    | none => .quiet
  | _ => .quiet

def txSt20pObserved (o : St20pTxCtx × TxJournal) (input : St20pTxInput) : St20pTxCtx × TxJournal :=
  (txSt20pStep cfg o.1 input, o.2.record (txSt20pEvent cfg o.1 input))

/-- The application puts the frame that it got first of those it has, and the converter gives back the
one that it took first. -/
def St20pTxInTurn (o : St20pTxCtx × TxJournal) : St20pTxInput -> Prop
  | .putFrame idx _ _ _ | .putExtFrame idx _ _ _ =>
    (o.1.framebuffs idx).held = true ∧ ∀ other < cfg.framebuffCnt,
      (o.1.framebuffs other).stat = .inUser -> (o.1.framebuffs other).held = true ->
      o.2.number idx ≤ o.2.number other
  | .convertPut idx _ => o.2.taken.head? = some idx
  | _ => True

instance (cfg : St20pTxConfig) (o : St20pTxCtx × TxJournal) (input : St20pTxInput) :
    Decidable (St20pTxInTurn cfg o input) := by
  induction input using St20pTxInput.casesOn <;> dsimp only [St20pTxInTurn] <;> infer_instance

/-- The frames that a search compares are fewer than 2^31 gets apart. -/
def St20pTxComparable (o : St20pTxCtx × TxJournal) : St20pTxInput -> Prop
  | .convertGet => o.2.Near cfg.framebuffCnt fun idx => (o.1.framebuffs idx).stat = .ready
  | .nextFrame _ => o.1.next = none ->
      o.2.Near cfg.framebuffCnt fun idx => (o.1.framebuffs idx).stat = .converted
  | .nextResume _ =>
    match o.1.next with
    | some (.scan _) => o.2.Near cfg.framebuffCnt fun idx => (o.1.framebuffs idx).stat = .converted
    | _ => True
  | _ => True

instance (cfg : St20pTxConfig) (o : St20pTxCtx × TxJournal) (input : St20pTxInput) :
    Decidable (St20pTxComparable cfg o input) := by
  induction input using St20pTxInput.casesOn <;> dsimp only [St20pTxComparable] <;> try infer_instance
  generalize o.1.next = next
  induction next using Option.casesOn with
  | none => infer_instance
  | some stage => induction stage using NextStage.casesOn <;> infer_instance

/-- A frame on its way is not the application's, and meets no converter where there is none. -/
structure St20pTxFrame.Travels (cfg : St20pTxConfig) (frame : St20pTxFrame) : Prop where
  unheld : frame.stat.onTheWay = true -> frame.held = false
  direct : (cfg.internalConverter || cfg.derive) = true ->
    frame.stat ≠ .ready ∧ frame.stat ≠ .inConverting

abbrev St20pTxFrame.kind (cfg : St20pTxConfig) : TxFrameKind St20pTxFrame where
  place := St20pTxFrame.place
  seqNumber := St20pTxFrame.seqNumber
  sane := St20pTxFrame.Travels cfg
  dropped frame := frame.stat = .dropped

/-- The frame that the search for the next one drops. -/
def NextStage.aside : Option NextStage -> Nat -> Prop
  | some (.late idx _ _), other => other = idx
  | some (.settle idx _ _), other => other = idx
  | _, _ => False

/-- The journal follows the frames, and the search for the next one drops only late frames. -/
abbrev St20pTxCtx.Ordered (cfg : St20pTxConfig) (s : St20pTxCtx) (journal : TxJournal) : Prop :=
  (St20pTxFrame.kind cfg).Ordered cfg.framebuffCnt s.framebuffs s.framebuffSequenceNumber
    (NextStage.aside s.next) journal

namespace St20p

variable {cfg : St20pTxConfig} {s : St20pTxCtx} {journal : TxJournal}

section

variable {frame : St20pTxFrame}

theorem place_eq_zero :
    frame.place = some 0 <-> frame.stat = .inUser ∧ frame.held = true := by
  unfold St20pTxFrame.place
  cases frame.stat <;> simp

theorem place_eq_one : frame.place = some 1 <-> frame.stat = .ready := by
  unfold St20pTxFrame.place
  cases frame.stat <;> simp

theorem place_eq_two : frame.place = some 2 <-> frame.stat = .inConverting := by
  unfold St20pTxFrame.place
  cases frame.stat <;> simp

theorem place_eq_three : frame.place = some 3 <-> frame.stat = .converted := by
  unfold St20pTxFrame.place
  cases frame.stat <;> simp

theorem place_le {place : Nat} (found : frame.place = some place) : place ≤ 3 := by
  unfold St20pTxFrame.place at found
  cases stat : frame.stat <;> simp [stat] at found <;> omega

end

theorem same_ordered (ordered : s.Ordered cfg journal) {idx : Nat} {frame : St20pTxFrame}
    (seqNumber : frame.seqNumber = (s.framebuffs idx).seqNumber)
    (stat : frame.stat = (s.framebuffs idx).stat) (held : frame.held = (s.framebuffs idx).held) :
    (s.setFrame idx frame).Ordered cfg journal := by
  have sane := ordered.sane idx
  refine ordered.unmoved seqNumber ?_ ⟨?_, ?_⟩ (fun _ => stat.trans)
  · show frame.place = (s.framebuffs idx).place
    unfold St20pTxFrame.place
    rw [stat, held]
  · rw [stat, held]
    exact sane.unheld
  · rw [stat]
    exact sane.direct

theorem available_stat {desired : St20pTxFrameStatus} {idx : Nat}
    (found : txSt20pNextAvailable cfg s desired = some idx) :
    idx < cfg.framebuffCnt ∧ (s.framebuffs idx).stat = desired := by
  have member := List.mem_of_find?_eq_some found
  have test := List.find?_some found
  exact ⟨List.mem_range.mp member, of_decide_eq_true test⟩

section

variable (ordered : s.Ordered cfg journal)

include ordered

variable {idx : Nat}

/-! ## The calls -/

theorem getFrame_ordered :
    (st20pTxGetFrame cfg s).1.Ordered cfg (journal.record (txSt20pEvent cfg s .getFrame)) := by
  unfold txSt20pEvent st20pTxGetFrame
  by_cases ready : s.ready = true
  · simp only [ready, Bool.not_true, Bool.false_eq_true, if_false]
    cases found : txSt20pNextAvailable cfg s .free with
    | none => exact ordered
    | some idx =>
      obtain ⟨inside, free⟩ := available_stat found
      refine ordered.get inside ?_ ?_ rfl rfl ?_
      · show (s.framebuffs idx).place = none
        unfold St20pTxFrame.place
        rw [free]
      · simp [free]
      · constructor <;> simp [St20pTxFrame.claim, St20pTxFrameStatus.onTheWay]
  · simp only [ready, Bool.not_false, if_true]
    exact ordered

theorem put_ordered {idx goal : Nat} {frame : St20pTxFrame}
    (inUser : (s.framebuffs idx).stat = .inUser) (held : (s.framebuffs idx).held = true)
    (oldest : ∀ other < cfg.framebuffCnt, (s.framebuffs other).stat = .inUser ->
      (s.framebuffs other).held = true -> journal.number idx ≤ journal.number other)
    (seqNumber : frame.seqNumber = (s.framebuffs idx).seqNumber) (place : frame.place = some goal)
    (unheld : frame.held = false)
    (target : goal = 1 ∧ (cfg.internalConverter || cfg.derive) = false ∨
      goal = 3 ∧ (cfg.internalConverter || cfg.derive) = true) :
    (s.setFrame idx frame).Ordered cfg journal := by
  refine ordered.setFrame seqNumber ?_ rfl ⟨fun _ => unheld, fun direct => ?_⟩ (by simp [inUser])
  · show journal.Follows _ (TxView.move _ idx frame.place)
    rw [place]
    apply ordered.follows.put
    · exact place_eq_zero.mpr ⟨inUser, held⟩
    · intro other present
      obtain ⟨stat, mine⟩ := place_eq_zero.mp present
      exact oldest other (ordered.follows.range other 0 present) stat mine
    · rcases target with ⟨one, -⟩ | ⟨three, direct⟩
      · exact Or.inl one
      · refine Or.inr ⟨three, fun other => ?_⟩
        obtain ⟨unready, unconverted⟩ := (ordered.sane other).direct direct
        exact ⟨fun found => unready (place_eq_one.mp found),
          fun found => unconverted (place_eq_two.mp found)⟩
  · rcases target with ⟨-, converts⟩ | ⟨rfl, -⟩
    · rw [converts] at direct
      cases direct
    · have converted := place_eq_three.mp place
      rw [converted]
      decide

theorem free_ordered {frame : St20pTxFrame} (inUser : (s.framebuffs idx).stat = .inUser)
    (seqNumber : frame.seqNumber = (s.framebuffs idx).seqNumber) (free : frame.stat = .free) :
    (s.setFrame idx frame).Ordered cfg journal := by
  have place : frame.place = none := by
    unfold St20pTxFrame.place
    rw [free]
  have elsewhere : (s.framebuffs idx).place ≠ some 2 := fun converting => by
    cases inUser.symm.trans (place_eq_two.mp converting)
  have follows := ordered.follows.leave idx elsewhere
  rw [← place] at follows
  refine ordered.setFrame seqNumber follows rfl ?_ (by simp [inUser])
  constructor <;> simp [free, St20pTxFrameStatus.onTheWay]

theorem putFrame_ordered (tfmt : Anc.St10TimestampFmt) (timestamp : Nat) (tooLarge : Bool)
    (turn : St20pTxInTurn cfg (s, journal) (.putFrame idx tfmt timestamp tooLarge)) :
    (st20pTxPutFrame cfg s idx tfmt timestamp tooLarge).1.Ordered cfg journal := by
  unfold st20pTxPutFrame
  by_cases inUser : (s.framebuffs idx).stat = .inUser
  · simp only [inUser, ne_eq, not_true_eq_false, if_false]
    split
    · exact ordered
    · split
      · exact free_ordered ordered inUser rfl rfl
      · cases direct : (cfg.internalConverter || cfg.derive) with
        | true =>
          exact put_ordered ordered inUser turn.1 turn.2 rfl rfl rfl (Or.inr ⟨rfl, direct⟩)
        | false =>
          exact put_ordered ordered inUser turn.1 turn.2 rfl rfl rfl (Or.inl ⟨rfl, direct⟩)
  · simp only [inUser, ne_eq, not_false_eq_true, if_true]
    exact ordered

theorem putFrameAbort_ordered (idx : Nat) :
    (st20pTxPutFrameAbort s idx).1.Ordered cfg journal := by
  unfold st20pTxPutFrameAbort
  by_cases inUser : (s.framebuffs idx).stat = .inUser
  · simp only [inUser, ne_eq, not_true_eq_false, if_false]
    exact free_ordered ordered inUser rfl rfl
  · simp only [inUser, ne_eq, not_false_eq_true, if_true]
    exact ordered

theorem putExtFrame_ordered (tfmt : Anc.St10TimestampFmt) (timestamp : Nat) (refused : Bool)
    (turn : St20pTxInTurn cfg (s, journal) (.putExtFrame idx tfmt timestamp refused)) :
    (st20pTxPutExtFrame cfg s idx tfmt timestamp refused).1.Ordered cfg journal := by
  unfold st20pTxPutExtFrame
  split
  · exact ordered
  · by_cases inUser : (s.framebuffs idx).stat = .inUser
    · simp only [inUser, ne_eq, not_true_eq_false, if_false]
      split
      · exact ordered
      · cases derive : cfg.derive with
        | true =>
          exact put_ordered ordered inUser turn.1 turn.2 rfl rfl rfl (Or.inr ⟨rfl, by simp [derive]⟩)
        | false =>
          cases converts : cfg.internalConverter with
          | true =>
            exact put_ordered ordered inUser turn.1 turn.2 rfl rfl rfl
              (Or.inr ⟨rfl, by simp [converts]⟩)
          | false =>
            exact put_ordered ordered inUser turn.1 turn.2 rfl rfl rfl
              (Or.inl ⟨rfl, by simp [derive, converts]⟩)
    · simp only [inUser, ne_eq, not_false_eq_true, if_true]
      exact ordered

theorem notifyExtFrameFree_ordered (idx use : Nat) :
    (st20pTxNotifyExtFrameFree cfg s idx use).1.Ordered cfg journal := by
  unfold st20pTxNotifyExtFrameFree
  have released : (s.setFrame idx { s.framebuffs idx with
      released := (s.framebuffs idx).released ++ [use] }).Ordered cfg journal :=
    same_ordered ordered rfl rfl rfl
  split
  · exact released
  · split
    · exact released
    · by_cases inUser : (s.framebuffs idx).stat = .inUser
      · simp only [inUser, ne_eq, not_true_eq_false, if_false]
        exact free_ordered ordered inUser rfl rfl
      · simp only [inUser, ne_eq, not_false_eq_true, if_true]
        exact released

end

section

variable (cfg : St20pTxConfig) (frame : St20pTxFrame) (use : Nat)

theorem notifyDone_seqNumber :
    (frame.notifyDone cfg use).seqNumber = frame.seqNumber := by
  unfold St20pTxFrame.notifyDone
  split <;> rfl

theorem notifyDone_stat :
    (frame.notifyDone cfg use).stat = frame.stat := by
  unfold St20pTxFrame.notifyDone
  split <;> rfl

theorem notifyDone_held :
    (frame.notifyDone cfg use).held = frame.held := by
  unfold St20pTxFrame.notifyDone
  split <;> rfl

end

theorem notifyFrameDone_ordered (ordered : s.Ordered cfg journal) (idx : Nat)
    (call : NotifyCall × Nat) : (txSt20pNotifyFrameDone cfg s idx call).Ordered cfg journal := by
  unfold txSt20pNotifyFrameDone
  by_cases owed : call ∈ (s.framebuffs idx).toNotify
  · simp only [owed, if_true]
    exact same_ordered ordered (notifyDone_seqNumber _ _ _) (notifyDone_stat _ _ _)
      (notifyDone_held _ _ _)
  · simp only [owed, if_false]
    exact ordered

theorem convertGetFrame_ordered (ordered : s.Ordered cfg journal)
    (near : St20pTxComparable cfg (s, journal) .convertGet) :
    (txSt20pConvertGetFrame cfg s).1.Ordered cfg
      (journal.record (txSt20pEvent cfg s .convertGet)) := by
  unfold txSt20pEvent txSt20pConvertGetFrame
  by_cases ready : s.ready = true
  · simp only [ready, Bool.not_true, Bool.false_eq_true, if_false]
    cases found : txSt20pNewestAvailable cfg s .ready with
    | none => exact ordered
    | some idx =>
      obtain ⟨here, oldest⟩ := ordered.follows.oldest (fun _ => place_eq_one) near found
      have stat := place_eq_one.mp here
      have travels := ordered.sane idx
      refine ordered.setFrame rfl (ordered.follows.take here oldest) rfl ?_ ?_
      · refine ⟨fun _ => travels.unheld (by rw [stat]; rfl), fun direct => ?_⟩
        exact absurd stat (travels.direct direct).1
      · simp [stat]
  · simp only [ready, Bool.not_false, if_true]
    exact ordered

theorem convertPutFrame_ordered (ordered : s.Ordered cfg journal) {idx : Nat} (failed : Bool)
    (turn : St20pTxInTurn cfg (s, journal) (.convertPut idx failed)) :
    (txSt20pConvertPutFrame s idx failed).1.Ordered cfg
      (journal.record (txSt20pEvent cfg s (.convertPut idx failed))) := by
  unfold txSt20pEvent txSt20pConvertPutFrame
  by_cases converting : (s.framebuffs idx).stat = .inConverting
  · simp only [converting, ne_eq, not_true_eq_false, if_false]
    have unheld := (ordered.sane idx).unheld (by rw [converting]; rfl)
    refine ordered.setFrame rfl ?_ ?_ ?_ ?_
    · apply ordered.follows.giveBack turn
      cases failed with
      | true => exact Or.inl rfl
      | false => exact Or.inr rfl
    · rfl
    · refine ⟨fun _ => unheld, fun _ => ?_⟩
      cases failed <;> exact ⟨by simp [St20pTxFrame.oweNotify], by simp [St20pTxFrame.oweNotify]⟩
    · simp [converting]
  · simp only [converting, ne_eq, not_false_eq_true, if_true]
    exact ordered

theorem nextScan_ordered (ordered : s.Ordered cfg journal) (dropCnt curTai : Nat)
    (near : journal.Near cfg.framebuffCnt fun idx => (s.framebuffs idx).stat = .converted) :
    (txSt20pNextScan cfg s dropCnt curTai).1.Ordered cfg
      (journal.record (match (txSt20pNextScan cfg s dropCnt curTai).2 with
        | some idx => .sent idx (s.framebuffs idx).seqNumber
        | none => .quiet)) := by
  unfold txSt20pNextScan
  cases found : txSt20pNewestAvailable cfg s .converted with
  | none => exact ordered.search fun _ => False.elim
  | some idx =>
    obtain ⟨here, oldest⟩ := ordered.follows.oldest (fun _ => place_eq_three) near found
    have stat := place_eq_three.mp here
    have unheld := (ordered.sane idx).unheld (by rw [stat]; rfl)
    by_cases late : txSt20pIfFrameLate cfg (s.framebuffs idx) curTai = true
    · simp only [late, if_true]
      have dropped : (s.setFrame idx { s.framebuffs idx with stat := .dropped }).Ordered cfg journal :=
        ordered.setFrame rfl (ordered.follows.leave idx (by simp [here])) rfl
          ⟨fun _ => unheld, fun _ => ⟨by simp, by simp⟩⟩ (fun _ _ => rfl)
      refine dropped.search ?_
      rintro other rfl
      simp [St20pTxCtx.setFrame]
    · simp only [late]
      have sent : (s.setFrame idx
          { s.framebuffs idx with stat := .inTransmitting, sending := true }).Ordered cfg
          (journal.record (.sent idx (s.framebuffs idx).seqNumber)) :=
        ordered.setFrame rfl (ordered.follows.send here oldest (fun _ _ => place_le)) rfl
          ⟨fun _ => unheld, fun _ => ⟨by simp, by simp⟩⟩ (by simp [stat])
      exact sent.search fun _ => False.elim

section

variable (ordered : s.Ordered cfg journal)

include ordered

theorem nextFrame_ordered (curTai : Nat)
    (near : St20pTxComparable cfg (s, journal) (.nextFrame curTai)) :
    (txSt20pNextFrame cfg s curTai).1.Ordered cfg
      (journal.record (txSt20pEvent cfg s (.nextFrame curTai))) := by
  unfold txSt20pEvent txSt20pNextFrame
  by_cases idle : (!s.ready || s.next.isSome) = true
  · simp only [idle, if_true]
    exact ordered
  · have none : s.next = none := by
      cases running : s.next <;> simp_all
    simp only [idle]
    exact nextScan_ordered ordered 0 curTai (near none)

theorem nextResume_ordered (curTai : Nat)
    (near : St20pTxComparable cfg (s, journal) (.nextResume curTai)) :
    (txSt20pNextResume cfg s curTai).1.Ordered cfg
      (journal.record (txSt20pEvent cfg s (.nextResume curTai))) := by
  unfold txSt20pEvent txSt20pNextResume
  cases search : s.next with
  | none => exact ordered
  | some stage =>
    cases stage with
    | scan dropCnt =>
      simp only [St20pTxComparable, search] at near
      exact nextScan_ordered ordered dropCnt curTai near
    | late idx needInUser dropCnt =>
      have dropped := ordered.aside idx (by rw [search]; rfl)
      refine TxFrameKind.Ordered.search (same_ordered ordered (notifyDone_seqNumber _ _ _)
        (notifyDone_stat _ _ _) (notifyDone_held _ _ _)) ?_
      rintro other rfl
      simpa [St20pTxCtx.setFrame, notifyDone_stat] using dropped
    | settle idx needInUser dropCnt =>
      have dropped := ordered.aside idx (by rw [search]; rfl)
      have unheld := (ordered.sane idx).unheld (by rw [dropped]; rfl)
      have still : ({ s.framebuffs idx with
          stat := if needInUser = true then .inUser else .free }).place = (s.framebuffs idx).place := by
        unfold St20pTxFrame.place
        rw [dropped]
        cases needInUser <;> simp [unheld]
      refine TxFrameKind.Ordered.settle ordered (fun other left => ?_) rfl still ⟨?_, fun _ => ?_⟩
      · simp only at left
        split at left <;> exact left.elim
      · cases needInUser <;> simp [St20pTxFrameStatus.onTheWay]
      · cases needInUser <;> simp

theorem frameDone_ordered (idx : Nat) (tfmt : Anc.St10TimestampFmt)
    (timestamp : Nat) : (txSt20pFrameDone cfg s idx tfmt timestamp).1.Ordered cfg journal := by
  unfold txSt20pFrameDone
  by_cases sending : (s.framebuffs idx).stat = .inTransmitting
  · simp only [sending, if_true]
    have unheld := (ordered.sane idx).unheld (by rw [sending]; rfl)
    refine ordered.unmoved rfl ?_ ?_ (by simp [sending])
    · show St20pTxFrame.place _ = (s.framebuffs idx).place
      unfold St20pTxFrame.place St20pTxFrame.oweNotify
      rw [sending]
      cases (s.framebuffs idx).needInUser cfg <;> simp [unheld]
    · constructor <;> cases (s.framebuffs idx).needInUser cfg <;>
        simp [St20pTxFrame.oweNotify, St20pTxFrameStatus.onTheWay]
  · simp only [sending, if_false]
    exact same_ordered ordered rfl rfl rfl

theorem step_ordered {input : St20pTxInput}
    (turn : St20pTxInTurn cfg (s, journal) input) (near : St20pTxComparable cfg (s, journal) input) :
    (txSt20pStep cfg s input).Ordered cfg (journal.record (txSt20pEvent cfg s input)) := by
  cases input with
  | getFrame => exact getFrame_ordered ordered
  | putFrame idx tfmt timestamp tooLarge => exact putFrame_ordered ordered tfmt timestamp tooLarge turn
  | putFrameAbort idx => exact putFrameAbort_ordered ordered idx
  | putExtFrame idx tfmt timestamp refused =>
    exact putExtFrame_ordered ordered tfmt timestamp refused turn
  | notifyExtFrameFree idx use => exact notifyExtFrameFree_ordered ordered idx use
  | convertGet => exact convertGetFrame_ordered ordered near
  | convertPut idx failed => exact convertPutFrame_ordered ordered failed turn
  | nextFrame curTai => exact nextFrame_ordered ordered curTai near
  | nextResume curTai => exact nextResume_ordered ordered curTai near
  | frameDone idx tfmt timestamp => exact frameDone_ordered ordered idx tfmt timestamp
  | notifyDone idx call => exact notifyFrameDone_ordered ordered idx call

end

theorem init_ordered (cfg : St20pTxConfig) : txSt20pInit.Ordered cfg TxJournal.start where
  follows := TxJournal.start_follows cfg.framebuffCnt (fun _ => 0)
  counter := rfl
  sane idx := by
    constructor <;> simp [txSt20pInit, St20pTxFrameStatus.onTheWay]
  aside := nofun

end St20p

def txSt20pRun (inputs : List St20pTxInput) : St20pTxCtx × TxJournal :=
  run (txSt20pObserved cfg) (txSt20pInit, TxJournal.start) inputs

theorem txSt20pRun_inGetOrder {inputs : List St20pTxInput} (admitted : Admitted (txSt20pObserved cfg)
      (fun o input => St20pTxInTurn cfg o input ∧ St20pTxComparable cfg o input)
      (txSt20pInit, TxJournal.start) inputs) : (txSt20pRun cfg inputs).2.InGetOrder := by
  have ordered := run_invariant (txSt20pObserved cfg) _ (fun o => o.1.Ordered cfg o.2)
    (fun _ _ ordered guards => St20p.step_ordered ordered guards.1 guards.2)
    (St20p.init_ordered cfg) admitted
  exact ordered.follows.inGetOrder

end MediaTransport.Pipeline
