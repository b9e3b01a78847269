import MediaTransport.Anc.SlotMoves

namespace MediaTransport.Anc

open Library Relation AncPool

/-!
# The slot state machine

Every slot is free, open, parked or with the application, and the two pointers
of the session say which slots are open and parked.  Each slot is delivered
exactly once between two allocations.
-/

variable {idx slot : Nat} {s : RxAncSession}

/-! ## Matching allocations and deliveries -/

/-- Whether the slot is between an allocation and its delivery, reading the newest event first.
The answer is `none` when a slot was allocated twice without a delivery between, or delivered
without an allocation before. -/
def slotOpen (idx : Nat) : List AncEvent -> Option Bool
  | [] => some false
  | .allocated slot _ :: earlier =>
    if slot = idx then
      match slotOpen idx earlier with
      | some false => some true
      | _ => none
    else
      slotOpen idx earlier
  | .notified slot _ :: earlier =>
    if slot = idx then
      match slotOpen idx earlier with
      | some true => some false
      | _ => none
    else
      slotOpen idx earlier

def AncSlotState.isOpen (state : AncSlotState) : Bool := decide (state = .receiving ∨ state = .pending)

/-- The pointers and the events agree with the state of a slot. -/
structure AncPool.Agrees (pool : AncPool) (idx : Nat) : Prop where
  receiving : (pool.slots idx).state = .receiving <-> pool.inflight = some idx
  pending : (pool.slots idx).state = .pending <-> pool.pending = some idx
  ready : (pool.slots idx).state ≠ .ready
  outside : pool.cnt ≤ idx -> (pool.slots idx).state = .free
  matched : slotOpen idx pool.events = some (pool.slots idx).state.isOpen

def AncPool.Sound (pool : AncPool) : Prop := forall idx, pool.Agrees idx

namespace AncPool

variable {pool other : AncPool}

theorem Sound.bounded (sound : pool.Sound) : pool.Bounded where
  inflight idx same := by
    by_contra outside
    have free := (sound idx).outside (Nat.not_lt.mp outside)
    rw [(sound idx).receiving.mpr same] at free
    cases free
  pending idx same := by
    by_contra outside
    have free := (sound idx).outside (Nat.not_lt.mp outside)
    rw [(sound idx).pending.mpr same] at free
    cases free

theorem Sound.pointers_ne (sound : pool.Sound) (open_frame : pool.inflight = some idx) :
    pool.pending ≠ some idx := by
  intro waiting
  have receiving := (sound idx).receiving.mpr open_frame
  rw [(sound idx).pending.mpr waiting] at receiving
  cases receiving

/-- A move changes one slot; what points elsewhere stays. -/
structure SameElsewhere (pool other : AncPool) (idx : Nat) : Prop where
  cnt : other.cnt = pool.cnt
  state : ∀ slot ≠ idx, (other.slots slot).state = (pool.slots slot).state
  inflight : ∀ slot ≠ idx, (other.inflight = some slot <-> pool.inflight = some slot)
  pending : ∀ slot ≠ idx, (other.pending = some slot <-> pool.pending = some slot)
  matched : ∀ slot ≠ idx, slotOpen slot other.events = slotOpen slot pool.events

theorem Sound.move (sound : pool.Sound) (idx : Nat) (elsewhere : SameElsewhere pool other idx)
    (here : other.Agrees idx) : other.Sound := by
  intro slot
  by_cases same : slot = idx
  · exact same ▸ here
  · have before := sound slot
    have state := elsewhere.state slot same
    exact ⟨by rw [state, elsewhere.inflight slot same]; exact before.receiving,
      by rw [state, elsewhere.pending slot same]; exact before.pending,
      by rw [state]; exact before.ready,
      by rw [state, elsewhere.cnt]; exact before.outside,
      by rw [state, elsewhere.matched slot same]; exact before.matched⟩

theorem slots_setState_ne (different : slot ≠ idx) (state : AncSlotState) :
    (pool.setState idx state).slots slot = pool.slots slot := by
  rw [slots_setState, if_neg different]

theorem state_setState (pool : AncPool) (idx : Nat) (state : AncSlotState) :
    ((pool.setState idx state).slots idx).state = state := by
  rw [slots_setState, if_pos rfl]

theorem Sound.setSlot {slot : AncSlot} (sound : pool.Sound)
    (same : slot.state = (pool.slots idx).state) : (pool.setSlot idx slot).Sound := by
  have before := sound idx
  have state : ((pool.setSlot idx slot).slots idx).state = (pool.slots idx).state := by
    rw [slots_setSlot, if_pos rfl, same]
  refine sound.move idx ⟨rfl, ?_, fun _ _ => Iff.rfl, fun _ _ => Iff.rfl, fun _ _ => rfl⟩ ?_
  · intro other different
    rw [slots_setSlot, if_neg different]
  · exact ⟨by rw [state]; exact before.receiving, by rw [state]; exact before.pending,
      by rw [state]; exact before.ready, by rw [state]; exact before.outside,
      by rw [state]; exact before.matched⟩

theorem Sound.returned (sound : pool.Sound) (returns : Returns pool other) : other.Sound := by
  cases returns with
  | put idx bound held =>
    have before := sound idx
    have state := state_setState pool idx .free
    refine sound.move idx ⟨rfl, fun slot different => ?_, fun _ _ => Iff.rfl, fun _ _ => Iff.rfl,
      fun _ _ => rfl⟩ ⟨?_, ?_, ?_, ?_, ?_⟩
    · rw [slots_setState_ne different]
    · rw [state]
      have receiving := before.receiving
      rw [held] at receiving
      exact ⟨fun absurd => (by cases absurd), fun current => (by cases receiving.mpr current)⟩
    · rw [state]
      have pending := before.pending
      rw [held] at pending
      exact ⟨fun absurd => (by cases absurd), fun waiting => (by cases pending.mpr waiting)⟩
    · rw [state]
      decide
    · exact fun _ => state
    · rw [state]
      have matched := before.matched
      rw [held] at matched
      exact matched

theorem slotOpen_notified_ne (different : slot ≠ idx) (frame : AncFrame)
    (events : List AncEvent) : slotOpen slot (.notified idx frame :: events) = slotOpen slot events := by
  rw [slotOpen, if_neg (fun same => different same.symm)]

theorem slotOpen_allocated_ne (different : slot ≠ idx) (tmstamp : Nat)
    (events : List AncEvent) :
    slotOpen slot (.allocated idx tmstamp :: events) = slotOpen slot events := by
  rw [slotOpen, if_neg (fun same => different same.symm)]

theorem slotOpen_notified {frame : AncFrame} {events : List AncEvent}
    (open_slot : slotOpen idx events = some true) :
    slotOpen idx (.notified idx frame :: events) = some false := by
  rw [slotOpen, if_pos rfl, open_slot]

theorem slotOpen_allocated {tmstamp : Nat} {events : List AncEvent}
    (closed : slotOpen idx events = some false) :
    slotOpen idx (.allocated idx tmstamp :: events) = some true := by
  rw [slotOpen, if_pos rfl, closed]

theorem some_ne (different : slot ≠ idx) : ¬ some idx = some slot := by
  intro same
  cases same
  exact different rfl

/-- The moves that make room. -/
theorem Sound.closes (sound : pool.Sound) (closed : Closes pool other) : other.Sound := by
  cases closed with
  | returned returns => exact sound.returned returns
  | park idx open_frame empty =>
    have before := sound idx
    have state : ((pool.parked idx).slots idx).state = .pending := state_setState pool idx .pending
    have receiving := before.receiving.mpr open_frame
    refine sound.move idx ⟨rfl, ?_, ?_, ?_, fun _ _ => rfl⟩ ⟨?_, ?_, ?_, ?_, ?_⟩
    · intro slot different
      exact congrArg AncSlot.state (slots_setState_ne different .pending)
    · intro slot different
      rw [open_frame]
      exact ⟨fun absurd => (by cases absurd), fun same => absurd same (some_ne different)⟩
    · intro slot different
      rw [empty]
      exact ⟨fun same => absurd same (some_ne different), fun absurd => (by cases absurd)⟩
    · rw [state]
      exact ⟨fun absurd => (by cases absurd), fun absurd => (by cases absurd)⟩
    · rw [state]
      exact ⟨fun _ => rfl, fun _ => rfl⟩
    · rw [state]
      decide
    · intro outside
      have free := before.outside outside
      rw [receiving] at free
      cases free
    · rw [state]
      have matched := before.matched
      rw [receiving] at matched
      exact matched
  | deliverPending idx waiting =>
    have before := sound idx
    have pending := before.pending.mpr waiting
    have state : (({ pool with pending := none }.delivered idx).slots idx).state = .inUser :=
      state_setState { pool with pending := none } idx .inUser
    refine sound.move idx ⟨rfl, ?_, fun _ _ => Iff.rfl, ?_, ?_⟩ ⟨?_, ?_, ?_, ?_, ?_⟩
    · intro slot different
      exact congrArg AncSlot.state (slots_setState_ne different .inUser)
    · intro slot different
      rw [waiting]
      exact ⟨fun absurd => (by cases absurd), fun same => absurd same (some_ne different)⟩
    · intro slot different
      exact slotOpen_notified_ne different _ pool.events
    · rw [state]
      refine ⟨fun absurd => (by cases absurd), fun current => ?_⟩
      exact absurd waiting (sound.pointers_ne current)
    · rw [state]
      exact ⟨fun absurd => (by cases absurd), fun absurd => (by cases absurd)⟩
    · rw [state]
      decide
    · intro outside
      have free := before.outside outside
      rw [pending] at free
      cases free
    · rw [state]
      have matched := before.matched
      rw [pending] at matched
      exact slotOpen_notified matched
  | deliverInflight idx open_frame =>
    have before := sound idx
    have receiving := before.receiving.mpr open_frame
    have state : (({ pool with inflight := none }.delivered idx).slots idx).state = .inUser :=
      state_setState { pool with inflight := none } idx .inUser
    refine sound.move idx ⟨rfl, ?_, ?_, fun _ _ => Iff.rfl, ?_⟩ ⟨?_, ?_, ?_, ?_, ?_⟩
    · intro slot different
      exact congrArg AncSlot.state (slots_setState_ne different .inUser)
    · intro slot different
      rw [open_frame]
      exact ⟨fun absurd => (by cases absurd), fun same => absurd same (some_ne different)⟩
    · intro slot different
      exact slotOpen_notified_ne different _ pool.events
    · rw [state]
      exact ⟨fun absurd => (by cases absurd), fun absurd => (by cases absurd)⟩
    · rw [state]
      refine ⟨fun absurd => (by cases absurd), fun waiting => ?_⟩
      exact absurd waiting (sound.pointers_ne open_frame)
    · rw [state]
      decide
    · intro outside
      have free := before.outside outside
      rw [receiving] at free
      cases free
    · rw [state]
      have matched := before.matched
      rw [receiving] at matched
      exact slotOpen_notified matched

theorem Sound.allocated {slot : AncSlot} (sound : pool.Sound)
    (cleared : pool.inflight = none) (bound : idx < pool.cnt)
    (free : (pool.slots idx).state = .free) (opens : slot.state = .receiving) :
    (pool.allocated idx slot).Sound := by
  have before := sound idx
  have state : ((pool.allocated idx slot).slots idx).state = .receiving := by
    have here : (pool.allocated idx slot).slots idx = slot := by
      change (pool.setSlot idx slot).slots idx = slot
      rw [slots_setSlot, if_pos rfl]
    rw [here, opens]
  refine sound.move idx ⟨rfl, ?_, ?_, fun _ _ => Iff.rfl, ?_⟩ ⟨?_, ?_, ?_, ?_, ?_⟩
  · intro other different
    have there : (pool.allocated idx slot).slots other = pool.slots other := by
      change (pool.setSlot idx slot).slots other = pool.slots other
      rw [slots_setSlot, if_neg different]
    rw [there]
  · intro other different
    rw [cleared]
    exact ⟨fun same => absurd same (some_ne different), fun absurd => (by cases absurd)⟩
  · intro other different
    exact slotOpen_allocated_ne different slot.rtpTimestamp pool.events
  · rw [state]
    exact ⟨fun _ => rfl, fun _ => rfl⟩
  · rw [state]
    refine ⟨fun absurd => (by cases absurd), fun waiting => ?_⟩
    have parked := before.pending.mpr waiting
    rw [free] at parked
    cases parked
  · rw [state]
    decide
  · intro outside
    exact absurd bound (Nat.not_lt.mpr outside)
  · rw [state]
    have matched := before.matched
    rw [free] at matched
    exact slotOpen_allocated matched

theorem Sound.closed (sound : pool.Sound) (moves : ReflTransGen Closes pool other) : other.Sound := by
  induction moves with
  | refl => exact sound
  | tail _ move ih => exact ih.closes move

theorem Target.sound {mid : AncPool} {pkt : AncPkt} (sound : pool.Sound)
    (target : pool.Target pkt mid idx) :
    mid.Sound ∧ (mid.pending = some idx ∨ mid.inflight = some idx) := by
  cases target with
  | existing idx found => exact ⟨sound.setSlot rfl, found.1⟩
  | fresh mid idx closed absent cleared bound free =>
    exact ⟨(sound.closed closed).allocated cleared bound free rfl, Or.inr rfl⟩

theorem Sound.marked (sound : pool.Sound)
    (open_slot : pool.pending = some idx ∨ pool.inflight = some idx) : (pool.marked idx).Sound := by
  have flagged : (pool.setSlot idx { pool.slots idx with rtpMarker := true }).Sound :=
    sound.setSlot rfl
  unfold AncPool.marked
  dsimp only
  split
  next waiting => exact flagged.closes (Closes.deliverPending _ idx waiting)
  next parked =>
    have current := open_slot.resolve_left parked
    exact flagged.closes (Closes.deliverInflight _ idx current)

end AncPool

/-! ## Packets and runs -/

/-- The data of a frame and the number of its packets. -/
structure AncContent where
  metas : List St40Meta
  udwBuf : List Byte
  pktsTotal : Nat

def AncSlot.content (slot : AncSlot) : AncContent := ⟨slot.metas, slot.udwBuf, slot.pktsTotal⟩

theorem AncSlot.content_eq {first second : AncSlot} (metas : first.metas = second.metas)
    (udwBuf : first.udwBuf = second.udwBuf) (total : first.pktsTotal = second.pktsTotal) :
    first.content = second.content := by
  unfold AncSlot.content
  rw [metas, udwBuf, total]

/-- Two slots in one state with one frame, up to what is known about sequence numbers. -/
structure AncSlot.SameFrame (first second : AncSlot) : Prop where
  state : first.state = second.state
  rtpTimestamp : first.rtpTimestamp = second.rtpTimestamp
  content : first.content = second.content

theorem rxAncSlotRecordBitmap_sameFrame (slot : AncSlot) (seqId : Nat) :
    (rxAncSlotRecordBitmap slot seqId).SameFrame slot := by
  unfold rxAncSlotRecordBitmap
  dsimp only
  generalize seqDelta seqId slot.seqBase = delta
  by_cases unset : (!slot.seqBaseValid) = true
  · rw [if_pos unset]
    exact ⟨rfl, rfl, AncSlot.content_eq rfl rfl rfl⟩
  · rw [if_neg unset]
    by_cases backward : delta < 0
    · rw [if_pos backward]
      by_cases fits : (-delta).toNat < 64
      · rw [if_pos fits]
        exact ⟨rfl, rfl, AncSlot.content_eq rfl rfl rfl⟩
      · rw [if_neg fits]
        exact ⟨rfl, rfl, AncSlot.content_eq rfl rfl rfl⟩
    · rw [if_neg backward]
      by_cases fits : delta.toNat < 64
      · rw [if_pos fits]
        exact ⟨rfl, rfl, AncSlot.content_eq rfl rfl rfl⟩
      · rw [if_neg fits]
        exact ⟨rfl, rfl, AncSlot.content_eq rfl rfl rfl⟩

theorem rxAncSlotRecordPort_sameFrame (slot : AncSlot) (seqId : Nat) (port : MtlSessionPort) :
    (rxAncSlotRecordPort slot seqId port).SameFrame slot := by
  unfold rxAncSlotRecordPort
  dsimp only
  split
  · split <;> exact ⟨rfl, rfl, AncSlot.content_eq rfl rfl rfl⟩
  · split <;> exact ⟨rfl, rfl, AncSlot.content_eq rfl rfl rfl⟩

theorem rxAncSlotRecordSeq_sameFrame (slot : AncSlot) (seqId : Nat) (port : MtlSessionPort) :
    (rxAncSlotRecordSeq slot seqId port).SameFrame slot := by
  have first := rxAncSlotRecordBitmap_sameFrame slot seqId
  have second := rxAncSlotRecordPort_sameFrame (rxAncSlotRecordBitmap slot seqId) seqId port
  exact ⟨second.state.trans first.state, second.rtpTimestamp.trans first.rtpTimestamp,
    second.content.trans first.content⟩

theorem rxAncSlotParseEntries_kept (udwBufSize room : Nat) (payload : Nat -> Byte) (slot : AncSlot)
    (left offset : Nat) :
    (rxAncSlotParseEntries udwBufSize room payload slot left offset).1.state = slot.state ∧
      (rxAncSlotParseEntries udwBufSize room payload slot left offset).1.rtpTimestamp =
        slot.rtpTimestamp := by
  induction left generalizing slot offset with
  | zero => exact ⟨rfl, rfl⟩
  | succ left ih =>
    rw [rxAncSlotParseEntries]
    split
    · exact ⟨rfl, rfl⟩
    · split
      · exact ⟨rfl, rfl⟩
      · exact ih _ _

theorem AncSlot.addPkt_kept (slot : AncSlot) (udwBufSize : Nat) (pkt : AncPkt)
    (port : MtlSessionPort) :
    (slot.addPkt udwBufSize pkt port).1.state = slot.state ∧
      (slot.addPkt udwBufSize pkt port).1.rtpTimestamp = slot.rtpTimestamp := by
  unfold AncSlot.addPkt rxAncSlotParsePkt
  dsimp only
  generalize counted : ({ slot with
    pktsTotal := u16 (slot.pktsTotal + 1)
    pktsRecv := Function.update slot.pktsRecv port (u16 (slot.pktsRecv port + 1)) } : AncSlot) = start
  rcases rxAncSlotParseEntries_kept udwBufSize (pkt.len - rfc8331RtpHdrSize) pkt.payload
    (rxAncSlotRecordSeq start pkt.seqNumber port) pkt.ancCount 0 with ⟨state, stamp⟩
  have same := rxAncSlotRecordSeq_sameFrame start pkt.seqNumber port
  rw [state, stamp, same.state, same.rtpTimestamp, ← counted]
  exact ⟨rfl, rfl⟩

theorem rxAncillarySessionAssemblePkt_sound (env : AncEnv) (pkt : AncPkt)
    (port : MtlSessionPort) (sound : s.pool.Sound) :
    (rxAncillarySessionAssemblePkt env s pkt port).pool.Sound := by
  rcases rxAncillarySessionAssemblePkt_cases env s pkt port sound.bounded with
    ⟨closed, -, -⟩ | ⟨mid, idx, target, outcome⟩
  · exact sound.closed closed
  · rcases target.sound sound with ⟨midSound, open_slot⟩
    have fed : (mid.fed idx s.udwBufSize pkt port).Sound :=
      midSound.setSlot (AncSlot.addPkt_kept _ _ _ _).1
    split at outcome
    · exact (fed.marked open_slot).closed (returns_closes outcome)
    · rw [outcome]
      exact fed

theorem rxAncillarySessionAssemblePkt_cnt (env : AncEnv) (pkt : AncPkt)
    (port : MtlSessionPort) (sound : s.pool.Sound) :
    (rxAncillarySessionAssemblePkt env s pkt port).pool.cnt = s.pool.cnt := by
  rcases rxAncillarySessionAssemblePkt_cases env s pkt port sound.bounded with
    ⟨closed, -, -⟩ | ⟨mid, idx, target, outcome⟩
  · exact closes_cnt closed
  · have midCnt : mid.cnt = s.pool.cnt := by
      cases target with
      | existing idx found => rfl
      | fresh mid idx closed absent cleared bound free =>
        have kept := closes_cnt closed
        exact kept
    split at outcome
    · refine (returns_pointers outcome).2.2.1.trans ?_
      unfold AncPool.marked
      dsimp only
      split <;> exact midCnt
    · rw [outcome]
      exact midCnt

/-- An accepted packet, or a frame that the application returns. -/
inductive SlotInput where
  | packet (env : AncEnv) (pkt : AncPkt) (port : MtlSessionPort)
  | put (idx : Nat)

def slotStep (s : RxAncSession) : SlotInput -> RxAncSession
  | .packet env pkt port => rxAncillarySessionAssemblePkt env s pkt port
  | .put idx => returnFrame s idx

theorem slotStep_sound (input : SlotInput) (sound : s.pool.Sound) :
    (slotStep s input).pool.Sound ∧ (slotStep s input).pool.cnt = s.pool.cnt := by
  cases input with
  | packet env pkt port =>
    exact ⟨rxAncillarySessionAssemblePkt_sound env pkt port sound,
      rxAncillarySessionAssemblePkt_cnt env pkt port sound⟩
  | put idx =>
    have returned := returnFrame_returns s idx
    exact ⟨sound.closed (returns_closes returned), (returns_pointers returned).2.2.1⟩

theorem rxAncInit_sound (ops : St40RxOps) (interlaceAuto : Bool) (cnt udwBufSize : Nat) :
    (rxAncInit ops interlaceAuto cnt udwBufSize).pool.Sound := by
  intro idx
  exact ⟨⟨fun absurd => (by cases absurd), fun absurd => (by cases absurd)⟩,
    ⟨fun absurd => (by cases absurd), fun absurd => (by cases absurd)⟩,
    (fun absurd => (by cases absurd)), fun _ => rfl, rfl⟩

/-- In every run the slots are free, open, parked or with the application; the pointers name the
open and the parked slot and no other; and between two allocations of a slot, and after the last
one unless the slot is still open or parked, there is exactly one delivery of it. -/
theorem slot_state_machine (ops : St40RxOps) (interlaceAuto : Bool) (cnt udwBufSize : Nat)
    (inputs : List SlotInput) :
    let s := run slotStep (rxAncInit ops interlaceAuto cnt udwBufSize) inputs
    (∀ idx < cnt,
      (s.frameSlots idx).state = .free ∨ (s.frameSlots idx).state = .receiving ∨
        (s.frameSlots idx).state = .pending ∨ (s.frameSlots idx).state = .inUser) ∧
    (forall idx, (s.frameSlots idx).state = .receiving <-> s.ancInflightSlot = some idx) ∧
    (forall idx, (s.frameSlots idx).state = .pending <-> s.ancPendingSlot = some idx) ∧
    (forall idx, s.ancInflightSlot = some idx -> idx < cnt ∧ s.ancPendingSlot ≠ some idx) ∧
    (forall idx, s.ancPendingSlot = some idx -> idx < cnt) ∧
    (forall idx, slotOpen idx s.events =
      some (decide ((s.frameSlots idx).state = .receiving ∨ (s.frameSlots idx).state = .pending))) := by
  have invariant := run_invariant slotStep (fun _ _ => True)
    (fun s => s.pool.Sound ∧ s.pool.cnt = cnt)
    (fun s input before _ => by
      rcases slotStep_sound input before.1 with ⟨sound, same⟩
      exact ⟨sound, same.trans before.2⟩)
    ⟨rxAncInit_sound ops interlaceAuto cnt udwBufSize, rfl⟩
    (admitted_of_forall slotStep (fun _ _ => trivial) : Admitted slotStep (fun _ _ => True)
      (rxAncInit ops interlaceAuto cnt udwBufSize) inputs)
  generalize run slotStep (rxAncInit ops interlaceAuto cnt udwBufSize) inputs = s at invariant ⊢
  rcases invariant with ⟨sound, size⟩
  refine ⟨?_, fun idx => (sound idx).receiving, fun idx => (sound idx).pending, ?_, ?_,
    fun idx => (sound idx).matched⟩
  · intro idx _
    have notReady : (s.frameSlots idx).state ≠ .ready := (sound idx).ready
    cases state : (s.frameSlots idx).state with
    | free => exact Or.inl rfl
    | receiving => exact Or.inr (Or.inl rfl)
    | pending => exact Or.inr (Or.inr (Or.inl rfl))
    | ready => exact absurd state notReady
    | inUser => exact Or.inr (Or.inr (Or.inr rfl))
  · intro idx current
    exact ⟨size ▸ sound.bounded.inflight idx current, sound.pointers_ne current⟩
  · intro idx waiting
    exact size ▸ sound.bounded.pending idx waiting

end MediaTransport.Anc
