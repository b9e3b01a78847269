import MediaTransport.Anc.FilterPart
import MediaTransport.Library.Run

namespace MediaTransport.Anc

open Relation

/-!
# Moves of the frame slots

The assembler's work on one packet is taken apart into moves of a pool of
slots: the application returns a frame, the open frame is parked, a frame is
delivered, a free slot is taken for a new frame, the packet is added to its
slot.  What holds for each move holds for every packet and every run.
-/

/-! ## The pool -/

variable (env : AncEnv) (s : RxAncSession) (idx : Nat)

/-- The slots of a session and what points to them. -/
structure AncPool where
  slots : Nat -> AncSlot
  cnt : Nat
  inflight : Option Nat
  pending : Option Nat
  events : List AncEvent

def RxAncSession.pool : AncPool where
  slots := s.frameSlots
  cnt := s.frameSlotsCnt
  inflight := s.ancInflightSlot
  pending := s.ancPendingSlot
  events := s.events

namespace AncPool

def setSlot (pool : AncPool) (idx : Nat) (slot : AncSlot) : AncPool :=
  { pool with slots := Function.update pool.slots idx slot }

def setState (pool : AncPool) (idx : Nat) (state : AncSlotState) : AncPool :=
  pool.setSlot idx { pool.slots idx with state := state }

def delivered (pool : AncPool) (idx : Nat) : AncPool :=
  { pool.setState idx .inUser with
    events := .notified idx (rxAncSlotFrame (pool.slots idx)) :: pool.events }

def allocated (pool : AncPool) (idx : Nat) (slot : AncSlot) : AncPool :=
  { pool.setSlot idx slot with
    inflight := some idx
    events := .allocated idx slot.rtpTimestamp :: pool.events }

def parked (pool : AncPool) (idx : Nat) : AncPool :=
  { pool.setState idx .pending with inflight := none, pending := some idx }

/-- The application returns a frame it holds. -/
inductive Returns : AncPool -> AncPool -> Prop where
  | put (pool : AncPool) (idx : Nat) (bound : idx < pool.cnt)
      (held : (pool.slots idx).state = .inUser) : Returns pool (pool.setState idx .free)

/-- The moves that make room for another frame. -/
inductive Closes : AncPool -> AncPool -> Prop where
  | returned {pool other : AncPool} (returns : Returns pool other) : Closes pool other
  | park (pool : AncPool) (idx : Nat) (open_frame : pool.inflight = some idx)
      (empty : pool.pending = none) : Closes pool (pool.parked idx)
  | deliverPending (pool : AncPool) (idx : Nat) (waiting : pool.pending = some idx) :
      Closes pool ({ pool with pending := none }.delivered idx)
  | deliverInflight (pool : AncPool) (idx : Nat) (open_frame : pool.inflight = some idx) :
      Closes pool ({ pool with inflight := none }.delivered idx)

section

variable (pool : AncPool) (idx : Nat)

theorem slots_setSlot (slot : AncSlot) (other : Nat) :
    (pool.setSlot idx slot).slots other = if other = idx then slot else pool.slots other :=
  Function.update_apply pool.slots idx slot other

theorem slots_setState (state : AncSlotState) (other : Nat) :
    (pool.setState idx state).slots other =
      if other = idx then { pool.slots idx with state := state } else pool.slots other :=
  slots_setSlot pool idx _ other

@[simp] theorem setState_idem (first second : AncSlotState) :
    (pool.setState idx first).setState idx second = pool.setState idx second := by
  unfold setState setSlot
  simp only [Function.update_self, Function.update_idem]

theorem delivered_setState (state : AncSlotState) :
    (pool.setState idx state).delivered idx = pool.delivered idx := by
  have frame : rxAncSlotFrame ((pool.setState idx state).slots idx) =
      rxAncSlotFrame (pool.slots idx) := by
    rw [slots_setState, if_pos rfl]
    rfl
  unfold delivered
  rw [setState_idem, frame]
  rfl

end

section

variable {pool other : AncPool} (returns : ReflTransGen Returns pool other)

include returns

theorem returns_pointers :
    other.inflight = pool.inflight ∧ other.pending = pool.pending ∧ other.cnt = pool.cnt ∧
      other.events = pool.events := by
  induction returns with
  | refl => exact ⟨rfl, rfl, rfl, rfl⟩
  | tail _ move ih =>
    cases move with
    | put idx bound held => exact ih

theorem returns_with_inflight (inflight : Option Nat) :
    ReflTransGen Returns { pool with inflight := inflight } { other with inflight := inflight } := by
  induction returns with
  | refl => exact ReflTransGen.refl
  | tail _ move ih =>
    cases move with
    | put idx bound held => exact ih.tail (Returns.put _ idx bound held)

theorem returns_closes :
    ReflTransGen Closes pool other := by
  induction returns with
  | refl => exact ReflTransGen.refl
  | tail _ move ih => exact ih.tail (Closes.returned move)

theorem returns_slots (idx : Nat) :
    other.slots idx = pool.slots idx ∨
      (idx < pool.cnt ∧ (pool.slots idx).state = .inUser ∧
        other.slots idx = { pool.slots idx with state := .free }) := by
  induction returns with
  | refl => exact Or.inl rfl
  | tail before move ih =>
    have kept := returns_pointers before
    cases move with
    | put frame bound held =>
      rw [slots_setState]
      by_cases same : idx = frame
      · rw [if_pos same, ← same]
        rw [← same] at held bound
        rcases ih with unchanged | ⟨-, -, freed⟩
        · rw [unchanged] at held ⊢
          exact Or.inr ⟨kept.2.2.1 ▸ bound, held, rfl⟩
        · rw [freed] at held
          cases held
      · rw [if_neg same]
        exact ih

end

end AncPool

open AncPool

/-! ## Returned frames -/

theorem returnFrame_returns : ReflTransGen Returns s.pool (returnFrame s idx).pool := by
  unfold returnFrame st40RxPutFramebuff
  split
  next held =>
    rw [if_pos held.1]
    exact ReflTransGen.single (Returns.put s.pool idx held.1 held.2)
  next => exact ReflTransGen.refl

theorem putFramebuffs_returns (frames : List Nat) :
    ReflTransGen Returns s.pool (putFramebuffs s frames).pool := by
  unfold putFramebuffs
  induction frames generalizing s with
  | nil => exact ReflTransGen.refl
  | cons frame rest ih => exact (returnFrame_returns s frame).trans (ih (returnFrame s frame))

theorem rxAncScanSlots_returns (racing : Nat -> List Nat) (s : RxAncSession) (idx left : Nat) :
    ReflTransGen Returns s.pool (rxAncScanSlots racing s idx left).1.pool ∧
      (forall found, (rxAncScanSlots racing s idx left).2 = some found ->
        found < idx + left ∧ ((rxAncScanSlots racing s idx left).1.frameSlots found).state = .free) ∧
      ((rxAncScanSlots racing s idx left).2 = none -> forall other, idx ≤ other -> other < idx + left ->
        (s.frameSlots other).state ≠ .free) := by
  induction left generalizing s idx with
  | zero =>
    exact ⟨ReflTransGen.refl, fun found absurd => (by cases absurd),
      fun _ other lower upper => absurd upper (by omega)⟩
  | succ left ih =>
    rw [rxAncScanSlots]
    have puts := putFramebuffs_returns s (racing idx)
    generalize putFramebuffs s (racing idx) = after at puts ⊢
    split
    next free =>
      refine ⟨puts, fun found same => ?_, fun absurd => (by cases absurd)⟩
      cases same
      exact ⟨by omega, free⟩
    next busy =>
      rcases ih after (idx + 1) with ⟨rest, answer, exhausted⟩
      -- a slot that was free stays free while frames are returned
      have stays : forall other, (s.frameSlots other).state = .free ->
          (after.frameSlots other).state = .free := by
        intro other free
        rcases returns_slots puts other with same | ⟨-, held, -⟩
        · exact (congrArg AncSlot.state same).trans free
        · exact absurd (held.symm.trans free) (by decide)
      refine ⟨puts.trans rest, fun found same => ?_, fun none other lower upper free => ?_⟩
      · rcases answer found same with ⟨bound, free⟩
        exact ⟨by omega, free⟩
      · by_cases here : other = idx
        · exact busy (here ▸ stays other free)
        · exact exhausted none other (by omega) (by omega) (stays other free)

theorem rxAncGetFreeSlot_returns (racing : Nat -> List Nat) (s : RxAncSession) :
    ReflTransGen Returns s.pool (rxAncGetFreeSlot racing s).1.pool ∧
      (forall found, (rxAncGetFreeSlot racing s).2 = some found ->
        found < s.frameSlotsCnt ∧
          ((rxAncGetFreeSlot racing s).1.frameSlots found).state = .free) ∧
      ((rxAncGetFreeSlot racing s).2 = none -> ∀ other < s.frameSlotsCnt,
        (s.frameSlots other).state ≠ .free) := by
  rcases rxAncScanSlots_returns racing s 0 s.frameSlotsCnt with ⟨puts, answer, exhausted⟩
  rw [Nat.zero_add] at answer exhausted
  exact ⟨puts, answer, fun none other bound => exhausted none other (Nat.zero_le other) bound⟩

/-! ## Deliveries -/

theorem rxAncSlotDeliver_returns (bound : idx < s.frameSlotsCnt) :
    ReflTransGen Returns (s.pool.delivered idx) (rxAncSlotDeliver env s idx).pool := by
  unfold rxAncSlotDeliver
  dsimp only
  have start_pool : s.pool.delivered idx = (rxAncSlotHandOff s idx).pool := rfl
  have puts := putFramebuffs_returns (rxAncSlotHandOff s idx) (env.notify s.stats.ancFramesReady).puts
  generalize putFramebuffs (rxAncSlotHandOff s idx) (env.notify s.stats.ancFramesReady).puts = after
    at puts ⊢
  rw [← start_pool] at puts
  split
  next refused =>
    refine puts.trans ?_
    -- the application may have returned the frame before it refused it
    have start_state : ((s.pool.delivered idx).slots idx).state = .inUser := by
      change (((s.pool.setState idx .inUser).slots idx)).state = .inUser
      rw [slots_setState, if_pos rfl]
    have kept := returns_pointers puts
    rcases returns_slots puts idx with unchanged | ⟨-, -, freed⟩
    · refine ReflTransGen.single (Returns.put after.pool idx ?_ ?_)
      · rw [kept.2.2.1]
        exact bound
      · rw [unchanged]
        exact start_state
    · have free : (after.frameSlots idx).state = .free := by
        change (after.pool.slots idx).state = .free
        rw [freed]
      have same : after.setState idx .free = after := by
        unfold RxAncSession.setState RxAncSession.setSlot
        rw [← free, Function.update_eq_self]
      rw [same]
  next => exact puts

/-- The pointers name slots of the pool. -/
structure AncPool.Bounded (pool : AncPool) : Prop where
  inflight : forall idx, pool.inflight = some idx -> idx < pool.cnt
  pending : forall idx, pool.pending = some idx -> idx < pool.cnt

def AncPool.OpenFor (pool : AncPool) (idx tmstamp : Nat) : Prop :=
  (pool.pending = some idx ∨ pool.inflight = some idx) ∧ (pool.slots idx).rtpTimestamp = tmstamp

theorem rxAncForceDeliverPending_returns (env : AncEnv) (s : RxAncSession) (idx : Nat)
    (bound : idx < s.frameSlotsCnt) :
    ReflTransGen Returns ({ s.pool with pending := none }.delivered idx)
      (rxAncForceDeliverPending env s idx).pool := by
  have ready := rxAncSlotDeliver_returns env (s.clearPending.setState idx .ready) idx bound
  have pool_eq : (s.clearPending.setState idx .ready).pool =
      AncPool.setState { s.pool with pending := none } idx .ready := rfl
  rw [pool_eq, delivered_setState] at ready
  exact ready

section

variable (env : AncEnv) {s : RxAncSession} {old : Nat} (open_frame : s.ancInflightSlot = some old)
    (bounded : s.pool.Bounded)

include open_frame bounded

theorem rxAncEvictPending_closes :
    ReflTransGen Closes s.pool { (rxAncEvictPending env s.clearInflight).pool with
        inflight := some old } ∧
      (rxAncEvictPending env s.clearInflight).pool.pending = none ∧
      (rxAncEvictPending env s.clearInflight).pool.inflight = none := by
  have same : s.pool.inflight = some old := open_frame
  unfold rxAncEvictPending
  cases waiting : s.clearInflight.ancPendingSlot with
  | none =>
    refine ⟨?_, waiting, rfl⟩
    rw [← same]
    exact ReflTransGen.refl
  | some pending =>
    have force := rxAncForceDeliverPending_returns env s.clearInflight pending
      (bounded.pending pending waiting)
    -- the delivery does not look at the open frame, so it may as well be cleared later
    have later := returns_with_inflight force (some old)
    rw [← same] at later ⊢
    have kept := returns_pointers force
    refine ⟨?_, kept.2.1, kept.1⟩
    exact (ReflTransGen.single (Closes.deliverPending s.pool pending waiting)).trans
      (returns_closes later)

theorem rxAncRollover_closes :
    ReflTransGen Closes s.pool (rxAncRollover env s old).pool ∧
      (rxAncRollover env s old).pool.inflight = none := by
  have oldBound : old < s.frameSlotsCnt := bounded.inflight old open_frame
  unfold rxAncRollover
  dsimp only
  split
  next ports =>
    rcases rxAncEvictPending_closes env open_frame bounded with ⟨evicted, empty, cleared⟩
    generalize rxAncEvictPending env s.clearInflight = after at evicted empty cleared ⊢
    refine ⟨evicted.tail ?_, cleared⟩
    have parked := Closes.park { after.pool with inflight := some old } old rfl empty
    have pool_eq : (AncPool.parked { after.pool with inflight := some old } old) =
        (after.park old).pool := by
      unfold RxAncSession.park RxAncSession.pool
      dsimp only
      rw [show (after.setState old AncSlotState.pending).ancInflightSlot = none from cleared]
      rfl
    rw [← pool_eq]
    exact parked
  next single =>
    have deliver := rxAncSlotDeliver_returns env (s.clearInflight.setState old .ready) old oldBound
    have pool_eq : (s.clearInflight.setState old .ready).pool =
        AncPool.setState { s.pool with inflight := none } old .ready := rfl
    rw [pool_eq, delivered_setState] at deliver
    have first := Closes.deliverInflight s.pool old open_frame
    exact ⟨(ReflTransGen.single first).trans (returns_closes deliver), (returns_pointers deliver).1⟩

end

/-! ## The slot of a packet -/

/-- The open slot of the timestamp, or the room made for a new frame. -/
theorem rxAncFindOpen_cases (tmstamp : Nat) (bounded : s.pool.Bounded) :
    (Exists fun idx => rxAncFindOpen env s tmstamp = (s, some idx) ∧ s.pool.OpenFor idx tmstamp) ∨
      (Exists fun after => rxAncFindOpen env s tmstamp = (after, none) ∧
        (forall idx, ¬ s.pool.OpenFor idx tmstamp) ∧
        ReflTransGen Closes s.pool after.pool ∧ after.pool.inflight = none) := by
  have notPending : forall pending, s.ancPendingSlot = some pending ->
      ¬ (s.frameSlots pending).rtpTimestamp = tmstamp ->
      (forall old, s.ancInflightSlot = some old -> ¬ (s.frameSlots old).rtpTimestamp = tmstamp) ->
      forall idx, ¬ s.pool.OpenFor idx tmstamp := by
    rintro pending waiting different others idx ⟨same | same, stamp⟩
    · have equal : some pending = some idx := waiting.symm.trans same
      cases equal
      exact different stamp
    · exact others idx same stamp
  have notInflight : s.ancPendingSlot = none ->
      (forall old, s.ancInflightSlot = some old -> ¬ (s.frameSlots old).rtpTimestamp = tmstamp) ->
      forall idx, ¬ s.pool.OpenFor idx tmstamp := by
    rintro empty others idx ⟨same | same, stamp⟩
    · exact absurd (empty.symm.trans same) (by simp)
    · exact others idx same stamp
  unfold rxAncFindOpen
  cases pending_eq : s.ancPendingSlot with
  | some pending =>
    dsimp only
    by_cases waiting : (s.frameSlots pending).rtpTimestamp = tmstamp
    · rw [if_pos waiting]
      exact Or.inl ⟨pending, rfl, Or.inl pending_eq, waiting⟩
    · rw [if_neg waiting]
      cases inflight_eq : s.ancInflightSlot with
      | some old =>
        dsimp only
        by_cases current : (s.frameSlots old).rtpTimestamp = tmstamp
        · rw [if_pos current]
          exact Or.inl ⟨old, rfl, Or.inr inflight_eq, current⟩
        · rw [if_neg current]
          rcases rxAncRollover_closes env inflight_eq bounded with ⟨closed, cleared⟩
          refine Or.inr ⟨_, rfl, notPending pending pending_eq waiting ?_, closed, cleared⟩
          intro other same
          cases inflight_eq.symm.trans same
          exact current
      | none =>
        refine Or.inr ⟨s, rfl, notPending pending pending_eq waiting ?_, ReflTransGen.refl,
          inflight_eq⟩
        intro other same
        cases inflight_eq.symm.trans same
  | none =>
    cases inflight_eq : s.ancInflightSlot with
    | some old =>
      dsimp only
      by_cases current : (s.frameSlots old).rtpTimestamp = tmstamp
      · rw [if_pos current]
        exact Or.inl ⟨old, rfl, Or.inr inflight_eq, current⟩
      · rw [if_neg current]
        rcases rxAncRollover_closes env inflight_eq bounded with ⟨closed, cleared⟩
        refine Or.inr ⟨_, rfl, notInflight pending_eq ?_, closed, cleared⟩
        intro other same
        cases inflight_eq.symm.trans same
        exact current
    | none =>
      refine Or.inr ⟨s, rfl, notInflight pending_eq ?_, ReflTransGen.refl, inflight_eq⟩
      intro other same
      cases inflight_eq.symm.trans same

theorem AncPool.closes_cnt {pool other : AncPool} (closed : ReflTransGen Closes pool other) :
    other.cnt = pool.cnt := by
  induction closed with
  | refl => rfl
  | tail _ move ih =>
    cases move with
    | returned returns =>
      cases returns with
      | put idx bound held => exact ih
    | park idx open_frame empty => exact ih
    | deliverPending idx waiting => exact ih
    | deliverInflight idx open_frame => exact ih

theorem AncPool.Bounded.closes {pool other : AncPool} (bounded : pool.Bounded)
    (closed : ReflTransGen Closes pool other) : other.Bounded := by
  induction closed with
  | refl => exact bounded
  | tail _ move ih =>
    cases move with
    | returned returns =>
      cases returns with
      | put idx bound held => exact ⟨ih.inflight, ih.pending⟩
    | park idx open_frame empty =>
      refine ⟨fun other absurd => (by cases absurd), fun other same => ?_⟩
      cases same
      exact ih.inflight idx open_frame
    | deliverPending idx waiting => exact ⟨ih.inflight, fun other absurd => (by cases absurd)⟩
    | deliverInflight idx open_frame => exact ⟨fun other absurd => (by cases absurd), ih.pending⟩

theorem rxAncAllocate_cases (env : AncEnv) (s : RxAncSession) (pendingAtEntry : Option Nat)
    (bounded : s.pool.Bounded) :
    let after := (rxAncAllocate env s pendingAtEntry).1
    ReflTransGen Closes s.pool after.pool ∧ after.pool.inflight = s.pool.inflight ∧
      (forall idx, (rxAncAllocate env s pendingAtEntry).2 = some idx ->
        idx < after.pool.cnt ∧ (after.pool.slots idx).state = .free) ∧
      ((rxAncAllocate env s pendingAtEntry).2 = none -> ∀ idx < s.frameSlotsCnt,
        (s.frameSlots idx).state ≠ .free) := by
  rcases rxAncGetFreeSlot_returns (env.racing 0) s with ⟨puts, answer, exhausted⟩
  have kept := returns_pointers puts
  unfold rxAncAllocate
  cases search : rxAncGetFreeSlot (env.racing 0) s with
  | mk after found =>
    rw [search] at puts answer exhausted kept
    cases found with
    | some idx =>
      refine ⟨returns_closes puts, kept.1, fun other same => ?_, fun absurd => (by cases absurd)⟩
      cases same
      rcases answer idx rfl with ⟨bound, free⟩
      exact ⟨Nat.lt_of_lt_of_eq bound kept.2.2.1.symm, free⟩
    | none =>
      dsimp only
      have none_free := exhausted rfl
      have stop : ReflTransGen Closes s.pool after.pool ∧ after.pool.inflight = s.pool.inflight ∧
          (forall idx, (none : Option Nat) = some idx ->
            idx < after.pool.cnt ∧ (after.pool.slots idx).state = .free) ∧
          ((none : Option Nat) = none -> ∀ idx < s.frameSlotsCnt,
            (s.frameSlots idx).state ≠ .free) :=
        ⟨returns_closes puts, kept.1, fun idx absurd => (by cases absurd), fun _ => none_free⟩
      cases waiting : after.ancPendingSlot with
      | none => exact stop
      | some pending =>
        dsimp only
        by_cases entry : some pending = pendingAtEntry
        · rw [if_pos entry]
          have inside := (bounded.closes (returns_closes puts)).pending pending waiting
          have force := rxAncForceDeliverPending_returns env after pending inside
          rcases rxAncGetFreeSlot_returns (env.racing 1) (rxAncForceDeliverPending env after pending)
            with ⟨again, second, -⟩
          have forced := returns_pointers force
          have last := returns_pointers again
          refine ⟨?_, ?_, fun idx same => ?_, fun _ => none_free⟩
          · exact ((returns_closes puts).tail (Closes.deliverPending after.pool pending waiting)).trans
              ((returns_closes force).trans (returns_closes again))
          · exact last.1.trans (forced.1.trans kept.1)
          · rcases second idx same with ⟨bound, free⟩
            exact ⟨Nat.lt_of_lt_of_eq bound last.2.2.1.symm, free⟩
        · rw [if_neg entry]
          exact stop

/-- The pool in which a packet finds its slot: an open one, or a free one taken for it. -/
inductive AncPool.Target (pool : AncPool) (pkt : AncPkt) : AncPool -> Nat -> Prop where
  | existing (idx : Nat) (found : pool.OpenFor idx pkt.tmstamp) :
      Target pool pkt (pool.setSlot idx
        ((pool.slots idx).refresh pkt.interlaced pkt.secondField pkt.recvTs)) idx
  | fresh (mid : AncPool) (idx : Nat) (closed : ReflTransGen Closes pool mid)
      (absent : forall other, ¬ pool.OpenFor other pkt.tmstamp) (cleared : mid.inflight = none)
      (bound : idx < mid.cnt) (free : (mid.slots idx).state = .free) :
      Target pool pkt (mid.allocated idx
        (rxAncSlotInitFrame pkt.tmstamp pkt.interlaced pkt.secondField pkt.recvTs)) idx

/-- The frames were closed to make room, and no slot was free even so. -/
structure AncPool.Exhausted (pool : AncPool) (pkt : AncPkt) : Prop where
  absent : forall other, ¬ pool.OpenFor other pkt.tmstamp
  full : Exists fun mid => ReflTransGen Closes pool mid ∧
    ∀ idx < mid.cnt, (mid.slots idx).state ≠ .free

theorem rxAncSelectSlot_cases (pkt : AncPkt) (bounded : s.pool.Bounded) :
    (Exists fun after => Exists fun idx =>
      rxAncSelectSlot env s pkt.tmstamp pkt.interlaced pkt.secondField pkt.recvTs =
        (after, some idx) ∧ s.pool.Target pkt after.pool idx) ∨
    (Exists fun after =>
      rxAncSelectSlot env s pkt.tmstamp pkt.interlaced pkt.secondField pkt.recvTs = (after, none) ∧
        ReflTransGen Closes s.pool after.pool ∧ s.pool.Exhausted pkt) := by
  unfold rxAncSelectSlot
  rcases rxAncFindOpen_cases env s pkt.tmstamp bounded with ⟨idx, found_eq, found⟩ |
    ⟨mid, missing_eq, absent, closed, cleared⟩
  · rw [found_eq]
    exact Or.inl ⟨_, idx, rfl, Target.existing idx found⟩
  · rw [missing_eq]
    dsimp only
    rcases rxAncAllocate_cases env mid s.ancPendingSlot (bounded.closes closed) with
      ⟨more, inflight, answer, exhausted⟩
    cases alloc_eq : rxAncAllocate env mid s.ancPendingSlot with
    | mk after found =>
      rw [alloc_eq] at more inflight answer exhausted
      cases found with
      | some idx =>
        rcases answer idx rfl with ⟨bound, free⟩
        exact Or.inl ⟨_, idx, rfl, Target.fresh after.pool idx (closed.trans more) absent
          (inflight.trans cleared) bound free⟩
      | none =>
        exact Or.inr ⟨_, rfl, closed.trans more, absent, mid.pool, closed, exhausted rfl⟩

theorem AncPool.Target.bound {pool mid : AncPool} {pkt : AncPkt} {idx : Nat}
    (bounded : pool.Bounded) (target : pool.Target pkt mid idx) : idx < mid.cnt := by
  cases target with
  | existing idx found =>
    rcases found.1 with waiting | current
    · exact bounded.pending idx waiting
    · exact bounded.inflight idx current
  | fresh mid idx closed absent cleared bound free => exact bound

/-! ## One packet -/

def AncPool.fed (pool : AncPool) (idx udwBufSize : Nat) (pkt : AncPkt) (port : MtlSessionPort) :
    AncPool :=
  pool.setSlot idx ((pool.slots idx).addPkt udwBufSize pkt port).1

def AncPool.marked (pool : AncPool) (idx : Nat) : AncPool :=
  let pool := pool.setSlot idx { pool.slots idx with rtpMarker := true }
  (if pool.pending = some idx then { pool with pending := none }
   else { pool with inflight := none }).delivered idx

theorem rxAncClose_returns (bound : idx < s.frameSlotsCnt) :
    ReflTransGen Returns (s.pool.marked idx) (rxAncClose env s idx).pool := by
  have released : ((s.setSlot idx { s.frameSlots idx with rtpMarker := true }).release idx).frameSlotsCnt =
      s.frameSlotsCnt := by
    unfold RxAncSession.release
    split <;> rfl
  have deliver := rxAncSlotDeliver_returns env
    (((s.setSlot idx { s.frameSlots idx with rtpMarker := true }).release idx).setState idx .ready) idx
    (Nat.lt_of_lt_of_eq bound released.symm)
  have pool_eq : (((s.setSlot idx { s.frameSlots idx with rtpMarker := true }).release idx).setState idx
      .ready).pool = ((s.setSlot idx { s.frameSlots idx with rtpMarker := true }).release idx).pool.setState
        idx .ready := rfl
  have marked : s.pool.marked idx =
      ((s.setSlot idx { s.frameSlots idx with rtpMarker := true }).release idx).pool.delivered idx := by
    unfold AncPool.marked RxAncSession.release
    dsimp only
    by_cases waiting : s.ancPendingSlot = some idx
    · rw [if_pos (show (s.pool.setSlot idx { s.pool.slots idx with rtpMarker := true }).pending = some idx
        from waiting), if_pos (show (s.setSlot idx { s.frameSlots idx with
          rtpMarker := true }).ancPendingSlot = some idx from waiting)]
      rfl
    · rw [if_neg (show ¬ (s.pool.setSlot idx { s.pool.slots idx with rtpMarker := true }).pending = some idx
        from waiting), if_neg (show ¬ (s.setSlot idx { s.frameSlots idx with
          rtpMarker := true }).ancPendingSlot = some idx from waiting)]
      rfl
  rw [pool_eq, delivered_setState, ← marked] at deliver
  exact deliver

theorem rxAncillarySessionAssemblePkt_cases (env : AncEnv) (s : RxAncSession) (pkt : AncPkt)
    (port : MtlSessionPort) (bounded : s.pool.Bounded) :
    let after := rxAncillarySessionAssemblePkt env s pkt port
    (ReflTransGen Closes s.pool after.pool ∧ s.pool.Exhausted pkt ∧
        after.stats.ancFramesDropped = s.stats.ancFramesDropped + 1) ∨
      (Exists fun mid => Exists fun idx => s.pool.Target pkt mid idx ∧
        if pkt.marker then
          ReflTransGen Returns ((mid.fed idx s.udwBufSize pkt port).marked idx) after.pool
        else after.pool = mid.fed idx s.udwBufSize pkt port) := by
  have kept := rxAncSelectSlot_filterPart env (rxAncCountDispatch s) pkt.tmstamp pkt.interlaced
    pkt.secondField pkt.recvTs
  unfold rxAncillarySessionAssemblePkt
  rcases rxAncSelectSlot_cases env (rxAncCountDispatch s) pkt bounded with
    ⟨after, idx, select_eq, target⟩ | ⟨after, select_eq, closed, exhausted⟩
  · rw [select_eq] at kept ⊢
    have size : after.udwBufSize = s.udwBufSize := congrArg FilterPart.udwBufSize kept
    have fed : (rxAncFeed after idx pkt port).pool = after.pool.fed idx s.udwBufSize pkt port := by
      rw [← size]
      rfl
    refine Or.inr ⟨after.pool, idx, target, ?_⟩
    dsimp only
    cases pkt.marker with
    | true =>
      have closed := rxAncClose_returns env (rxAncFeed after idx pkt port) idx (target.bound bounded)
      rw [fed] at closed
      exact closed
    | false => exact fed
  · have dropped := rxAncSelectSlot_dropped env (rxAncCountDispatch s) pkt.tmstamp pkt.interlaced
      pkt.secondField pkt.recvTs (by rw [select_eq])
    rw [select_eq] at dropped ⊢
    exact Or.inl ⟨closed, exhausted, dropped⟩

end MediaTransport.Anc
