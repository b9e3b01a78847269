import MediaTransport.Anc.Redundancy
import MediaTransport.Anc.SlotPool

namespace MediaTransport.Anc

open Library Relation AncPool

/-!
# Frames from accepted packets

A frame that is delivered should hold the data of every accepted packet of its
time, and there should be one such frame for each time.  The redundancy filter
still accepts packets of the current and the previous timestamp when their
frame has gone to the application; such a packet opens a second frame.  In
runs without such packets each frame is delivered once and whole.
-/

variable (s : RxAncSession)

variable {arrival : AncArrival} {idx : Nat} {slot : AncSlot} {stamp : Int}

/-! ## What packets put into a slot -/

def AncFrame.content (frame : AncFrame) : AncContent := ⟨frame.metas, frame.udwBuf, frame.pktsTotal⟩

theorem rxAncSlotFrame_content (slot : AncSlot) : (rxAncSlotFrame slot).content = slot.content := rfl

def assembled (udwBufSize : Nat) (packets : List AncArrival) : AncContent :=
  (packets.foldl (fun slot packet => (slot.addPkt udwBufSize packet.pkt packet.port).1)
    AncSlot.empty).content

theorem rxAncSlotParseEntries_content (udwBufSize room : Nat) (payload : Nat -> Byte)
    {first second : AncSlot} (same : first.content = second.content) (left offset : Nat) :
    (rxAncSlotParseEntries udwBufSize room payload first left offset).1.content =
      (rxAncSlotParseEntries udwBufSize room payload second left offset).1.content := by
  induction left generalizing first second offset with
  | zero => exact same
  | succ left ih =>
    have metas : first.metas = second.metas := congrArg AncContent.metas same
    have udwBuf : first.udwBuf = second.udwBuf := congrArg AncContent.udwBuf same
    have total : first.pktsTotal = second.pktsTotal := congrArg AncContent.pktsTotal same
    rw [rxAncSlotParseEntries, rxAncSlotParseEntries, metas, udwBuf]
    split
    · exact same
    · split
      · exact same
      · apply ih
        exact AncSlot.content_eq rfl rfl total

theorem AncSlot.addPkt_content {first second : AncSlot} (same : first.content = second.content)
    (udwBufSize : Nat) (pkt : AncPkt) (port : MtlSessionPort) :
    (first.addPkt udwBufSize pkt port).1.content = (second.addPkt udwBufSize pkt port).1.content := by
  unfold AncSlot.addPkt rxAncSlotParsePkt
  dsimp only
  apply rxAncSlotParseEntries_content
  rw [(rxAncSlotRecordSeq_sameFrame _ pkt.seqNumber port).content,
    (rxAncSlotRecordSeq_sameFrame _ pkt.seqNumber port).content]
  have metas : first.metas = second.metas := congrArg AncContent.metas same
  have udwBuf : first.udwBuf = second.udwBuf := congrArg AncContent.udwBuf same
  have total : first.pktsTotal = second.pktsTotal := congrArg AncContent.pktsTotal same
  exact AncSlot.content_eq metas udwBuf (by dsimp only; rw [total])

theorem assembled_append {udwBufSize : Nat} {packets : List AncArrival}
    (holds : slot.content = assembled udwBufSize packets) (arrival : AncArrival) :
    (slot.addPkt udwBufSize arrival.pkt arrival.port).1.content =
      assembled udwBufSize (packets ++ [arrival]) := by
  unfold assembled
  rw [List.foldl_append]
  exact AncSlot.addPkt_content holds udwBufSize arrival.pkt arrival.port

/-! ## The frames an observer sees -/

/-- For each slot the time of the packet for which it was last taken, and the frames that went to
the application with the times of their slots, newest first. -/
structure FrameLog where
  times : Nat -> Int
  delivered : List (Int × AncFrame)

/-- An event while a packet of time `stamp` is handled. -/
def FrameLog.observe (stamp : Int) (event : AncEvent) (log : FrameLog) : FrameLog :=
  match event with
  | .allocated idx _ => { log with times := Function.update log.times idx stamp }
  | .notified idx frame => { log with delivered := (log.times idx, frame) :: log.delivered }

def FrameLog.observeAll (stamp : Int) (events : List AncEvent) (log : FrameLog) : FrameLog :=
  events.foldr (FrameLog.observe stamp) log

def newEvents (before after : List AncEvent) : List AncEvent := after.take (after.length - before.length)

theorem newEvents_append (fresh before : List AncEvent) : newEvents before (fresh ++ before) = fresh := by
  unfold newEvents
  rw [List.length_append, Nat.add_sub_cancel, List.take_left]

theorem FrameLog.observeAll_append (stamp : Int) (late early : List AncEvent) (log : FrameLog) :
    log.observeAll stamp (late ++ early) = (log.observeAll stamp early).observeAll stamp late :=
  List.foldr_append

def packetsAt (time : Int -> Int) (packets : List AncArrival) (stamp : Int) : List AncArrival :=
  packets.filter (fun packet => decide (time packet.number = stamp))

section

variable {time : Int -> Int} {packets : List AncArrival}

theorem packetsAt_append_same
    (same : time arrival.number = stamp) :
    packetsAt time (packets ++ [arrival]) stamp = packetsAt time packets stamp ++ [arrival] := by
  unfold packetsAt
  rw [List.filter_append]
  simp [same]

theorem packetsAt_append_other
    (different : time arrival.number ≠ stamp) :
    packetsAt time (packets ++ [arrival]) stamp = packetsAt time packets stamp := by
  unfold packetsAt
  rw [List.filter_append]
  simp [different]

theorem packetsAt_eq_nil
    (none : ∀ packet ∈ packets, time packet.number ≠ stamp) :
    packetsAt time packets stamp = [] := by
  unfold packetsAt
  rw [List.filter_eq_nil_iff]
  intro packet member
  simpa using none packet member

end

/-! ## What the open slots and the delivered frames hold -/

def AncPool.IsOpen (pool : AncPool) (idx : Nat) : Prop :=
  pool.pending = some idx ∨ pool.inflight = some idx

/-- A frame for each time at most, open or delivered, with all accepted packets of that time. -/
structure Collected (time : Int -> Int) (udwBufSize : Nat) (packets : List AncArrival)
    (pool : AncPool) (log : FrameLog) : Prop where
  stamp : forall idx, pool.IsOpen idx -> (pool.slots idx).rtpTimestamp = u32 (log.times idx)
  content : forall idx, pool.IsOpen idx ->
    (pool.slots idx).content = assembled udwBufSize (packetsAt time packets (log.times idx))
  started : forall idx, pool.IsOpen idx -> Exists fun packet =>
    packet ∈ packets ∧ time packet.number = log.times idx
  apart : forall current waiting, pool.inflight = some current -> pool.pending = some waiting ->
    log.times current ≠ log.times waiting
  once : (log.delivered.map Prod.fst).Nodup
  whole : ∀ done ∈ log.delivered,
    done.2.content = assembled udwBufSize (packetsAt time packets done.1)
  stamped : ∀ done ∈ log.delivered, done.2.rtpTimestamp = u32 done.1
  seen : ∀ done ∈ log.delivered, Exists fun packet =>
    packet ∈ packets ∧ time packet.number = done.1
  undelivered : forall idx, pool.IsOpen idx -> log.times idx ∉ log.delivered.map Prod.fst
  all : ∀ packet ∈ packets, time packet.number ∈ log.delivered.map Prod.fst ∨
    Exists fun idx => pool.IsOpen idx ∧ log.times idx = time packet.number

namespace Collected

variable {time : Int -> Int} {udwBufSize : Nat} {packets : List AncArrival} {pool other : AncPool}
  {log : FrameLog}

theorem keep (collected : Collected time udwBufSize packets pool log)
    (same : forall idx, other.IsOpen idx <-> pool.IsOpen idx)
    (apart : forall current waiting, other.inflight = some current -> other.pending = some waiting ->
      log.times current ≠ log.times waiting)
    (stamp : forall idx, (other.slots idx).rtpTimestamp = (pool.slots idx).rtpTimestamp)
    (content : forall idx, (other.slots idx).content = (pool.slots idx).content) :
    Collected time udwBufSize packets other log := by
  constructor
  · intro idx is_open
    rw [stamp]
    exact collected.stamp idx ((same idx).mp is_open)
  · intro idx is_open
    rw [content]
    exact collected.content idx ((same idx).mp is_open)
  · exact fun idx is_open => collected.started idx ((same idx).mp is_open)
  · exact apart
  · exact collected.once
  · exact collected.whole
  · exact collected.stamped
  · exact collected.seen
  · exact fun idx is_open => collected.undelivered idx ((same idx).mp is_open)
  · intro packet member
    rcases collected.all packet member with done | ⟨idx, is_open, at_time⟩
    · exact Or.inl done
    · exact Or.inr ⟨idx, (same idx).mpr is_open, at_time⟩

theorem deliver {idx : Nat} (collected : Collected time udwBufSize packets pool log)
    (is_open : pool.IsOpen idx)
    (remaining : forall slot, other.IsOpen slot -> pool.IsOpen slot ∧ log.times slot ≠ log.times idx)
    (covered : forall slot, pool.IsOpen slot -> slot = idx ∨ other.IsOpen slot)
    (apart : forall current waiting, other.inflight = some current -> other.pending = some waiting ->
      log.times current ≠ log.times waiting)
    (stamp : forall slot, (other.slots slot).rtpTimestamp = (pool.slots slot).rtpTimestamp)
    (content : forall slot, (other.slots slot).content = (pool.slots slot).content)
    {frame : AncFrame} (frame_eq : frame.content = (pool.slots idx).content)
    (frame_stamp : frame.rtpTimestamp = (pool.slots idx).rtpTimestamp) :
    Collected time udwBufSize packets other
      { log with delivered := (log.times idx, frame) :: log.delivered } := by
  constructor
  · intro slot still
    rw [stamp]
    exact collected.stamp slot (remaining slot still).1
  · intro slot still
    rw [content]
    exact collected.content slot (remaining slot still).1
  · exact fun slot still => collected.started slot (remaining slot still).1
  · exact apart
  · rw [List.map_cons, List.nodup_cons]
    exact ⟨collected.undelivered idx is_open, collected.once⟩
  · intro done member
    rcases List.mem_cons.mp member with newest | old
    · rw [newest]
      exact frame_eq.trans (collected.content idx is_open)
    · exact collected.whole done old
  · intro done member
    rcases List.mem_cons.mp member with newest | old
    · rw [newest]
      exact frame_stamp.trans (collected.stamp idx is_open)
    · exact collected.stamped done old
  · intro done member
    rcases List.mem_cons.mp member with newest | old
    · rw [newest]
      exact collected.started idx is_open
    · exact collected.seen done old
  · intro slot still
    rw [List.map_cons, List.mem_cons, not_or]
    exact ⟨(remaining slot still).2, collected.undelivered slot (remaining slot still).1⟩
  · intro packet member
    rw [List.map_cons, List.mem_cons]
    rcases collected.all packet member with done | ⟨slot, slot_open, at_time⟩
    · exact Or.inl (Or.inr done)
    · rcases covered slot slot_open with same | still
      · rw [same] at at_time
        exact Or.inl (Or.inl at_time.symm)
      · exact Or.inr ⟨slot, still, at_time⟩

theorem setState_stamp (pool : AncPool) (idx : Nat) (state : AncSlotState) (slot : Nat) :
    ((pool.setState idx state).slots slot).rtpTimestamp = (pool.slots slot).rtpTimestamp := by
  rw [slots_setState]
  by_cases here : slot = idx
  · rw [if_pos here, here]
  · rw [if_neg here]

theorem setState_content (pool : AncPool) (idx : Nat) (state : AncSlotState) (slot : Nat) :
    ((pool.setState idx state).slots slot).content = (pool.slots slot).content := by
  rw [slots_setState]
  by_cases here : slot = idx
  · rw [if_pos here, here]
    exact AncSlot.content_eq rfl rfl rfl
  · rw [if_neg here]

/-- Making room keeps every frame whole. -/
theorem closes (stamp : Int) (collected : Collected time udwBufSize packets pool log)
    (move : Closes pool other) :
    Exists fun fresh => other.events = fresh ++ pool.events ∧
      Collected time udwBufSize packets other (log.observeAll stamp fresh) := by
  cases move with
  | returned returns =>
    cases returns with
    | put idx bound held =>
      exact ⟨[], rfl, collected.keep (fun _ => Iff.rfl) collected.apart
        (setState_stamp pool idx .free) (setState_content pool idx .free)⟩
  | park idx open_frame empty =>
    refine ⟨[], rfl, collected.keep ?_ ?_ (setState_stamp pool idx .pending)
      (setState_content pool idx .pending)⟩
    · intro slot
      unfold AncPool.IsOpen
      rw [open_frame, empty]
      exact ⟨fun is_open => is_open.elim Or.inr (fun absurd => (by cases absurd)),
        fun is_open => is_open.elim (fun absurd => (by cases absurd)) Or.inl⟩
    · intro current waiting absurd
      cases absurd
  | deliverPending idx waiting =>
    refine ⟨[.notified idx (rxAncSlotFrame (pool.slots idx))], rfl, ?_⟩
    refine @deliver time udwBufSize packets pool ({ pool with pending := none }.delivered idx) log idx
      collected (Or.inl waiting) ?_ ?_ ?_ (setState_stamp pool idx .inUser)
      (setState_content pool idx .inUser) _ (rxAncSlotFrame_content (pool.slots idx)) rfl
    · intro slot still
      rcases still with absurd | current
      · cases absurd
      · exact ⟨Or.inr current, collected.apart slot idx current waiting⟩
    · intro slot slot_open
      rcases slot_open with same | current
      · cases waiting.symm.trans same
        exact Or.inl rfl
      · exact Or.inr (Or.inr current)
    · intro current other _ absurd
      cases absurd
  | deliverInflight idx open_frame =>
    refine ⟨[.notified idx (rxAncSlotFrame (pool.slots idx))], rfl, ?_⟩
    refine @deliver time udwBufSize packets pool ({ pool with inflight := none }.delivered idx) log idx
      collected (Or.inr open_frame) ?_ ?_ ?_ (setState_stamp pool idx .inUser)
      (setState_content pool idx .inUser) _ (rxAncSlotFrame_content (pool.slots idx)) rfl
    · intro slot still
      rcases still with waiting | absurd
      · exact ⟨Or.inl waiting, fun same => collected.apart idx slot open_frame waiting same.symm⟩
      · cases absurd
    · intro slot slot_open
      rcases slot_open with waiting | same
      · exact Or.inr (Or.inl waiting)
      · cases open_frame.symm.trans same
        exact Or.inl rfl
    · intro current other absurd
      cases absurd

theorem closed (stamp : Int) (collected : Collected time udwBufSize packets pool log)
    (moves : ReflTransGen Closes pool other) :
    Exists fun fresh => other.events = fresh ++ pool.events ∧
      Collected time udwBufSize packets other (log.observeAll stamp fresh) := by
  induction moves with
  | refl => exact ⟨[], rfl, collected⟩
  | tail before move ih =>
    rcases ih with ⟨early, early_eq, between⟩
    rcases between.closes stamp move with ⟨late, late_eq, after⟩
    refine ⟨late ++ early, ?_, ?_⟩
    · rw [late_eq, early_eq, List.append_assoc]
    · rw [FrameLog.observeAll_append]
      exact after

section

variable (collected : Collected time udwBufSize packets pool log)

include collected

theorem times_ne {slot : Nat}
    (is_open : pool.IsOpen idx) (slot_open : pool.IsOpen slot) (different : slot ≠ idx) :
    log.times slot ≠ log.times idx := by
  rcases is_open with waiting | current
  · rcases slot_open with same | current
    · cases waiting.symm.trans same
      exact absurd rfl different
    · exact collected.apart slot idx current waiting
  · rcases slot_open with waiting | same
    · exact fun equal => collected.apart idx slot current waiting equal.symm
    · cases current.symm.trans same
      exact absurd rfl different

theorem feed
    (is_open : pool.IsOpen idx) (at_time : time arrival.number = log.times idx) :
    Collected time udwBufSize (packets ++ [arrival])
      (pool.fed idx udwBufSize arrival.pkt arrival.port) log := by
  have fed_slots : forall slot, (pool.fed idx udwBufSize arrival.pkt arrival.port).slots slot =
      if slot = idx then ((pool.slots idx).addPkt udwBufSize arrival.pkt arrival.port).1
      else pool.slots slot := slots_setSlot pool idx _
  have elsewhere : ∀ stamp ≠ log.times idx,
      packetsAt time (packets ++ [arrival]) stamp = packetsAt time packets stamp := by
    intro stamp different
    exact packetsAt_append_other (fun same => different (same.symm.trans at_time))
  constructor
  · intro slot slot_open
    rw [fed_slots]
    by_cases here : slot = idx
    · rw [if_pos here, (AncSlot.addPkt_kept _ _ _ _).2, here]
      exact collected.stamp idx is_open
    · rw [if_neg here]
      exact collected.stamp slot slot_open
  · intro slot slot_open
    rw [fed_slots]
    by_cases here : slot = idx
    · rw [if_pos here, here, packetsAt_append_same at_time]
      exact assembled_append (collected.content idx is_open) arrival
    · rw [if_neg here, elsewhere _ (collected.times_ne is_open slot_open here)]
      exact collected.content slot slot_open
  · intro slot slot_open
    rcases collected.started slot slot_open with ⟨packet, member, same⟩
    exact ⟨packet, List.mem_append_left _ member, same⟩
  · exact collected.apart
  · exact collected.once
  · intro done member
    have different : done.1 ≠ log.times idx := by
      intro same
      exact collected.undelivered idx is_open (same ▸ List.mem_map_of_mem member)
    rw [elsewhere done.1 different]
    exact collected.whole done member
  · exact collected.stamped
  · intro done member
    rcases collected.seen done member with ⟨packet, inList, same⟩
    exact ⟨packet, List.mem_append_left _ inList, same⟩
  · exact collected.undelivered
  · intro packet member
    rcases List.mem_append.mp member with old | newest
    · exact collected.all packet old
    · rw [List.mem_singleton.mp newest]
      exact Or.inr ⟨idx, is_open, at_time.symm⟩

end

/-! The first packet of a time goes into a slot of its own. -/

section Start

/-- The slots when the first packet of `arrival`'s time has been put into the slot it takes. -/
def begun (pool : AncPool) (idx udwBufSize : Nat) (slot : AncSlot) (arrival : AncArrival) : AncPool :=
  (pool.allocated idx slot).fed idx udwBufSize arrival.pkt arrival.port

def begunLog (time : Int -> Int) (log : FrameLog) (idx : Nat) (slot : AncSlot) (arrival : AncArrival) :
    FrameLog :=
  log.observe (time arrival.number) (.allocated idx slot.rtpTimestamp)

theorem begun_slots (other : Nat) : (begun pool idx udwBufSize slot arrival).slots other =
    if other = idx then (slot.addPkt udwBufSize arrival.pkt arrival.port).1 else pool.slots other := by
  have taken : (pool.allocated idx slot).slots other = if other = idx then slot else pool.slots other :=
    slots_setSlot pool idx slot other
  have here : (pool.allocated idx slot).slots idx = slot := by
    change (pool.setSlot idx slot).slots idx = slot
    rw [slots_setSlot, if_pos rfl]
  unfold begun AncPool.fed
  rw [slots_setSlot, here, taken]
  by_cases same : other = idx
  · rw [if_pos same, if_pos same]
  · rw [if_neg same, if_neg same, if_neg same]

theorem begunLog_here : (begunLog time log idx slot arrival).times idx = time arrival.number :=
  Function.update_self idx _ _

theorem begunLog_there {slot : AncSlot} {other : Nat} (different : other ≠ idx) :
    (begunLog time log idx slot arrival).times other = log.times other :=
  Function.update_of_ne different _ _

theorem pending_ne (sound : pool.Sound) (free : (pool.slots idx).state = .free) {waiting : Nat}
    (is_pending : pool.pending = some waiting) : waiting ≠ idx := by
  intro same
  have state := (sound waiting).pending.mpr is_pending
  rw [same, free] at state
  cases state

theorem begun_open (sound : pool.Sound) (free : (pool.slots idx).state = .free) {other : Nat}
    (is_open : (begun pool idx udwBufSize slot arrival).IsOpen other) :
    other = idx ∨ (other ≠ idx ∧ pool.IsOpen other) := by
  rcases is_open with waiting | current
  · exact Or.inr ⟨pending_ne sound free waiting, Or.inl waiting⟩
  · cases current
    exact Or.inl rfl

variable (collected : Collected time udwBufSize packets pool log) (sound : pool.Sound)
  (free : (pool.slots idx).state = .free)
  (first : ∀ packet ∈ packets, time packet.number ≠ time arrival.number)

include collected sound free

theorem start_stamp (stamp : slot.rtpTimestamp = u32 (time arrival.number)) {other : Nat}
    (is_open : (begun pool idx udwBufSize slot arrival).IsOpen other) :
    ((begun pool idx udwBufSize slot arrival).slots other).rtpTimestamp =
      u32 ((begunLog time log idx slot arrival).times other) := by
  rw [begun_slots]
  rcases begun_open sound free is_open with here | ⟨different, before⟩
  · rw [if_pos here, (AncSlot.addPkt_kept _ _ _ _).2, here, begunLog_here, stamp]
  · rw [if_neg different, begunLog_there different]
    exact collected.stamp other before

theorem start_started {other : Nat} (is_open : (begun pool idx udwBufSize slot arrival).IsOpen other) :
    Exists fun packet => packet ∈ packets ++ [arrival] ∧
      time packet.number = (begunLog time log idx slot arrival).times other := by
  rcases begun_open sound free is_open with here | ⟨different, before⟩
  · rw [here, begunLog_here]
    exact ⟨arrival, List.mem_append_right _ List.mem_cons_self, rfl⟩
  · rw [begunLog_there different]
    rcases collected.started other before with ⟨packet, member, same⟩
    exact ⟨packet, List.mem_append_left _ member, same⟩

theorem start_all (cleared : pool.inflight = none) {packet : AncArrival}
    (member : packet ∈ packets ++ [arrival]) :
    time packet.number ∈ (begunLog time log idx slot arrival).delivered.map Prod.fst ∨
      Exists fun other => (begun pool idx udwBufSize slot arrival).IsOpen other ∧
        (begunLog time log idx slot arrival).times other = time packet.number := by
  rcases List.mem_append.mp member with old | newest
  · rcases collected.all packet old with done | ⟨other, is_open, at_time⟩
    · exact Or.inl done
    · rcases is_open with waiting | current
      · refine Or.inr ⟨other, Or.inl waiting, ?_⟩
        rw [begunLog_there (pending_ne sound free waiting)]
        exact at_time
      · exact absurd (cleared.symm.trans current) (by simp)
  · rw [List.mem_singleton.mp newest]
    exact Or.inr ⟨idx, Or.inr rfl, begunLog_here⟩

include first

omit collected sound free in
theorem packetsAt_begun {stamp : Int}
    (taken : Exists fun packet => packet ∈ packets ∧ time packet.number = stamp) :
    packetsAt time (packets ++ [arrival]) stamp = packetsAt time packets stamp := by
  rcases taken with ⟨packet, member, same⟩
  exact packetsAt_append_other (fun equal => first packet member (same.trans equal.symm))

theorem start_content (empty : slot.content = AncSlot.empty.content) {other : Nat}
    (is_open : (begun pool idx udwBufSize slot arrival).IsOpen other) :
    ((begun pool idx udwBufSize slot arrival).slots other).content =
      assembled udwBufSize (packetsAt time (packets ++ [arrival])
        ((begunLog time log idx slot arrival).times other)) := by
  rw [begun_slots]
  rcases begun_open sound free is_open with here | ⟨different, before⟩
  · have none := packetsAt_eq_nil first
    rw [if_pos here, here, begunLog_here, packetsAt_append_same rfl, none]
    exact assembled_append empty arrival
  · rw [if_neg different, begunLog_there different, packetsAt_begun first (collected.started other before)]
    exact collected.content other before

theorem start_apart {waiting : Nat} (is_pending : pool.pending = some waiting) :
    (begunLog time log idx slot arrival).times idx ≠ (begunLog time log idx slot arrival).times waiting := by
  rw [begunLog_here, begunLog_there (pending_ne sound free is_pending)]
  rcases collected.started waiting (Or.inl is_pending) with ⟨packet, member, same⟩
  exact fun equal => first packet member (same.trans equal.symm)

theorem start_undelivered {other : Nat} (is_open : (begun pool idx udwBufSize slot arrival).IsOpen other) :
    (begunLog time log idx slot arrival).times other ∉
      (begunLog time log idx slot arrival).delivered.map Prod.fst := by
  have delivered_eq : (begunLog time log idx slot arrival).delivered = log.delivered := rfl
  rw [delivered_eq]
  rcases begun_open sound free is_open with here | ⟨different, before⟩
  · rw [here, begunLog_here, List.mem_map]
    rintro ⟨done, member, same⟩
    rcases collected.seen done member with ⟨packet, inList, equal⟩
    exact first packet inList (equal.trans same)
  · rw [begunLog_there different]
    exact collected.undelivered other before

theorem start (cleared : pool.inflight = none) (stamp : slot.rtpTimestamp = u32 (time arrival.number))
    (empty : slot.content = AncSlot.empty.content) :
    Collected time udwBufSize (packets ++ [arrival]) (begun pool idx udwBufSize slot arrival)
      (begunLog time log idx slot arrival) := by
  constructor
  · exact fun _ is_open => collected.start_stamp sound free stamp is_open
  · exact fun _ is_open => collected.start_content sound free first empty is_open
  · exact fun _ is_open => collected.start_started sound free is_open
  · intro current waiting is_inflight is_pending
    cases is_inflight
    exact collected.start_apart sound free first is_pending
  · exact collected.once
  · intro done member
    rw [packetsAt_begun first (collected.seen done member)]
    exact collected.whole done member
  · exact collected.stamped
  · intro done member
    rcases collected.seen done member with ⟨packet, inList, same⟩
    exact ⟨packet, List.mem_append_left _ inList, same⟩
  · exact fun _ is_open => collected.start_undelivered sound free first is_open
  · exact fun _ member => collected.start_all sound free cleared member

end Start

section

variable (collected : Collected time udwBufSize packets pool log)

include collected

theorem setSlot
    (stamp : slot.rtpTimestamp = (pool.slots idx).rtpTimestamp)
    (content : slot.content = (pool.slots idx).content) :
    Collected time udwBufSize packets (pool.setSlot idx slot) log := by
  refine collected.keep (fun _ => Iff.rfl) collected.apart (fun other => ?_) (fun other => ?_)
  · rw [slots_setSlot]
    by_cases here : other = idx
    · rw [if_pos here, here, stamp]
    · rw [if_neg here]
  · rw [slots_setSlot]
    by_cases here : other = idx
    · rw [if_pos here, here, content]
    · rw [if_neg here]

end

theorem marked (stamp : Int) (collected : Collected time udwBufSize packets pool log)
    (is_open : pool.IsOpen idx) :
    Exists fun fresh => (pool.marked idx).events = fresh ++ pool.events ∧
      Collected time udwBufSize packets (pool.marked idx) (log.observeAll stamp fresh) := by
  have flagged : Collected time udwBufSize packets
      (pool.setSlot idx { pool.slots idx with rtpMarker := true }) log :=
    collected.setSlot rfl (AncSlot.content_eq rfl rfl rfl)
  unfold AncPool.marked
  dsimp only
  split
  next waiting => exact flagged.closes stamp (Closes.deliverPending _ idx waiting)
  next parked =>
    have current := is_open.resolve_left parked
    exact flagged.closes stamp (Closes.deliverInflight _ idx current)

theorem target {mid : AncPool}
    (collected : Collected time udwBufSize packets pool log) (sound : pool.Sound)
    (target : pool.Target arrival.pkt mid idx)
    (tmstamp : arrival.pkt.tmstamp = u32 (time arrival.number))
    (unaliased : forall slot, pool.OpenFor slot arrival.pkt.tmstamp ->
      log.times slot = time arrival.number)
    (timely : (Exists fun slot => pool.OpenFor slot arrival.pkt.tmstamp) ∨
      ∀ packet ∈ packets, time packet.number ≠ time arrival.number) :
    Exists fun fresh =>
      (mid.fed idx udwBufSize arrival.pkt arrival.port).events = fresh ++ pool.events ∧
      Collected time udwBufSize (packets ++ [arrival])
        (mid.fed idx udwBufSize arrival.pkt arrival.port)
        (log.observeAll (time arrival.number) fresh) := by
  cases target with
  | existing idx found =>
    have refreshed : Collected time udwBufSize packets (pool.setSlot idx
        ((pool.slots idx).refresh arrival.pkt.interlaced arrival.pkt.secondField
          arrival.pkt.recvTs)) log :=
      collected.setSlot rfl (AncSlot.content_eq rfl rfl rfl)
    exact ⟨[], rfl, refreshed.feed found.1 (unaliased idx found).symm⟩
  | fresh mid idx closed absent cleared bound free =>
    rcases timely with ⟨slot, found⟩ | first
    · exact absurd found (absent slot)
    · rcases collected.closed (time arrival.number) closed with ⟨early, early_eq, room⟩
      refine ⟨.allocated idx arrival.pkt.tmstamp :: early, ?_, ?_⟩
      · exact congrArg (List.cons _) early_eq
      · exact room.start (sound.closed closed) free first cleared tmstamp (AncSlot.content_eq rfl rfl rfl)

end Collected

theorem rxAncillarySessionAssemblePkt_collected {time : Int -> Int} {packets : List AncArrival}
    {s : RxAncSession} {log : FrameLog}
    (collected : Collected time s.udwBufSize packets s.pool log) (sound : s.pool.Sound)
    (tmstamp : arrival.pkt.tmstamp = u32 (time arrival.number))
    (unaliased : forall slot, s.pool.OpenFor slot arrival.pkt.tmstamp ->
      log.times slot = time arrival.number)
    (timely : (Exists fun slot => s.pool.OpenFor slot arrival.pkt.tmstamp) ∨
      ∀ packet ∈ packets, time packet.number ≠ time arrival.number)
    (room : (rxAncillarySessionAssemblePkt arrival.env s arrival.pkt
      arrival.port).stats.ancFramesDropped = s.stats.ancFramesDropped) :
    let after := rxAncillarySessionAssemblePkt arrival.env s arrival.pkt arrival.port
    Exists fun fresh => after.pool.events = fresh ++ s.pool.events ∧
      Collected time s.udwBufSize (packets ++ [arrival]) after.pool
        (log.observeAll (time arrival.number) fresh) := by
  rcases rxAncillarySessionAssemblePkt_cases arrival.env s arrival.pkt arrival.port sound.bounded with
    ⟨-, -, dropped⟩ | ⟨mid, idx, target, outcome⟩
  · rw [room] at dropped
    exact absurd dropped (by simp)
  · rcases collected.target sound target tmstamp unaliased timely with ⟨early, early_eq, fed⟩
    by_cases last : arrival.pkt.marker = true
    · rw [if_pos last] at outcome
      rcases fed.marked (time arrival.number) (target.sound sound).2 with ⟨mark, mark_eq, marked⟩
      rcases marked.closed (time arrival.number) (returns_closes outcome) with ⟨late, late_eq, after⟩
      refine ⟨late ++ (mark ++ early), ?_, ?_⟩
      · rw [late_eq, mark_eq, early_eq, List.append_assoc, List.append_assoc]
      · rw [FrameLog.observeAll_append, FrameLog.observeAll_append]
        exact after
    · rw [if_neg last] at outcome
      dsimp only
      rw [outcome]
      exact ⟨early, early_eq, fed⟩

/-! ## What the filter leaves alone -/

def RxAncSession.assemblyPart : AncPool × St40Type × Nat × Nat :=
  (s.pool, s.ops.type, s.udwBufSize, s.stats.ancFramesDropped)

section

variable (s : RxAncSession) (pkt : AncPkt) (port : MtlSessionPort)

theorem rxAncNoteField_assemblyPart :
    (rxAncNoteField s pkt port).assemblyPart = s.assemblyPart := by
  have detected : (rxAncDetect s pkt).assemblyPart = s.assemblyPart := by
    unfold rxAncDetect
    split <;> rfl
  have stats : (rxAncFieldStats (rxAncDetect s pkt) pkt port).ancFramesDropped =
      (rxAncDetect s pkt).stats.ancFramesDropped := by
    unfold rxAncFieldStats
    dsimp only
    split <;> (split <;> [split; skip]) <;> rfl
  unfold rxAncNoteField
  split
  · rfl
  · refine Eq.trans ?_ detected
    unfold RxAncSession.assemblyPart
    rw [← stats]
    rfl

theorem rxAncCountPort_assemblyPart :
    (rxAncCountPort s pkt port).assemblyPart = s.assemblyPart := by
  unfold rxAncCountPort RxAncSession.assemblyPart
  dsimp only
  refine Prod.ext rfl (Prod.ext rfl (Prod.ext rfl ?_))
  unfold AncStats.setPort
  dsimp only
  split <;> rfl

theorem rxAncPrepare_assemblyPart :
    (rxAncPrepare s pkt port).assemblyPart = s.assemblyPart :=
  (rxAncCountPort_assemblyPart _ pkt port).trans (rxAncNoteField_assemblyPart s pkt port)

theorem rxAncAdvance_assemblyPart :
    (rxAncAdvance s pkt port).assemblyPart = s.assemblyPart := by
  have recorded : forall (before : RxAncSession) (old : Int),
      (rxAncRecordWindow before pkt old).assemblyPart = before.assemblyPart := by
    intro before old
    unfold rxAncRecordWindow
    split
    · rfl
    · split <;> rfl
  unfold rxAncAdvance
  dsimp only
  rw [recorded]
  unfold RxAncSession.assemblyPart
  refine Prod.ext rfl (Prod.ext rfl (Prod.ext rfl ?_))
  dsimp only
  split <;> rfl

theorem rxAncFinish_assemblyPart
    (bypass : Bool) : (rxAncFinish s pkt port bypass).assemblyPart = s.assemblyPart := by
  unfold rxAncFinish
  dsimp only
  split <;> rfl

end

variable (time : Int -> Int)

/-- In frame level mode an accepted packet goes to the assembler, and other packets leave the
slots alone. -/
theorem rxAncillarySessionHandlePkt_assemblyPart (env : AncEnv) {s : RxAncSession} (pkt : AncPkt)
    (port : MtlSessionPort) (level : s.ops.type = .frameLevel) :
    let result := rxAncillarySessionHandlePkt env s pkt port
    (result.2 ≠ .ok -> result.1.assemblyPart = s.assemblyPart) ∧
    (result.2 = .ok -> Exists fun before => before.assemblyPart = s.assemblyPart ∧
      result.1.assemblyPart = (rxAncillarySessionAssemblePkt env before pkt port).assemblyPart) := by
  have accept : forall (before : RxAncSession) (bypass : Bool),
      before.assemblyPart = s.assemblyPart -> Exists fun mid => mid.assemblyPart = s.assemblyPart ∧
        (rxAncAccept env before pkt port bypass).assemblyPart =
          (rxAncillarySessionAssemblePkt env mid pkt port).assemblyPart := by
    intro before bypass same
    have advanced := (rxAncAdvance_assemblyPart before pkt port).trans same
    have type_eq : (rxAncAdvance before pkt port).ops.type = .frameLevel :=
      (congrArg (fun part => part.2.1) advanced).trans level
    refine ⟨rxAncAdvance before pkt port, advanced, ?_⟩
    unfold rxAncAccept
    dsimp only
    rw [type_eq]
    exact rxAncFinish_assemblyPart _ pkt port bypass
  have prepared := rxAncPrepare_assemblyPart s pkt port
  unfold rxAncillarySessionHandlePkt
  cases header : rxAncWrongHeader s pkt with
  | some stats =>
    refine ⟨fun _ => ?_, fun absurd => (by cases absurd)⟩
    have same : stats.ancFramesDropped = s.stats.ancFramesDropped := by
      unfold rxAncWrongHeader at header
      split at header
      · cases header
        rfl
      · split at header
        · cases header
          rfl
        · split at header
          · cases header
            rfl
          · cases header
    exact Prod.ext rfl (Prod.ext rfl (Prod.ext rfl same))
  | none =>
    dsimp only
    unfold rxAncHandleChecked
    generalize rxAncPrepare s pkt port = before at prepared ⊢
    cases rxAncVerdict before pkt with
    | fresh => exact ⟨fun failed => absurd rfl failed, fun _ => accept before false prepared⟩
    | lateCurrent =>
      exact ⟨fun failed => absurd rfl failed, fun _ => accept (rxAncRecover before) false prepared⟩
    | latePrevious =>
      exact ⟨fun failed => absurd rfl failed, fun _ => accept (rxAncRecover before) false prepared⟩
    | redundant =>
      dsimp only
      split
      · exact ⟨fun failed => absurd rfl failed,
          fun _ => accept { rxAncCountRedundant before port with stats := before.stats } true prepared⟩
      · exact ⟨fun _ => prepared, fun absurd => (by cases absurd)⟩

/-! ## Whole runs -/

def AncPool.openFor (pool : AncPool) (tmstamp : Nat) : List Nat :=
  (pool.pending.toList ++ pool.inflight.toList).filter
    (fun idx => decide ((pool.slots idx).rtpTimestamp = tmstamp))

theorem AncPool.mem_openFor {pool : AncPool} {tmstamp : Nat} :
    idx ∈ pool.openFor tmstamp <-> pool.OpenFor idx tmstamp := by
  unfold AncPool.openFor AncPool.OpenFor
  rw [List.mem_filter, List.mem_append, Option.mem_toList, Option.mem_toList, decide_eq_true_eq]

/-- The session with the packets it accepted, oldest first, and what was seen of its frames. -/
structure Followed where
  session : RxAncSession
  packets : List AncArrival
  log : FrameLog

/-- A packet arrives, or the application returns a frame. -/
inductive AncInput where
  | packet (arrival : AncArrival)
  | put (idx : Nat)

def followStep (w : Followed) : AncInput -> Followed
  | .packet arrival =>
    let result := rxAncillarySessionHandlePkt arrival.env w.session arrival.pkt arrival.port
    { session := result.1
      packets := if result.2 = .ok then w.packets ++ [arrival] else w.packets
      log := w.log.observeAll (time arrival.number) (newEvents w.session.events result.1.events) }
  | .put idx => { w with session := returnFrame w.session idx }

def followStart : Followed :=
  { session := s, packets := [], log := { times := fun _ => 0, delivered := [] } }

/-- The pool has a slot for the frame of the packet, and the packet is the first of its time to be
accepted or finds the slot of its time open. -/
structure Followed.Timely (time : Int -> Int) (w : Followed) (arrival : AncArrival) : Prop where
  tmstamp : arrival.pkt.tmstamp = u32 (time arrival.number)
  room : (rxAncillarySessionHandlePkt arrival.env w.session arrival.pkt
    arrival.port).1.stats.ancFramesDropped = w.session.stats.ancFramesDropped
  unaliased : ∀ slot ∈ w.session.pool.openFor arrival.pkt.tmstamp,
    w.log.times slot = time arrival.number
  timely : w.session.pool.openFor arrival.pkt.tmstamp ≠ [] ∨
    ∀ packet ∈ w.packets, time packet.number ≠ time arrival.number

def Followed.Orderly (w : Followed) : AncInput -> Prop
  | .packet arrival =>
    (rxAncillarySessionHandlePkt arrival.env w.session arrival.pkt arrival.port).2 = .ok ->
      w.Timely time arrival
  | .put _ => True

instance (time : Int -> Int) (w : Followed) (arrival : AncArrival) :
    Decidable (w.Timely time arrival) :=
  decidable_of_iff (arrival.pkt.tmstamp = u32 (time arrival.number) ∧
      (rxAncillarySessionHandlePkt arrival.env w.session arrival.pkt
        arrival.port).1.stats.ancFramesDropped = w.session.stats.ancFramesDropped ∧
      (∀ slot ∈ w.session.pool.openFor arrival.pkt.tmstamp,
        w.log.times slot = time arrival.number) ∧
      (w.session.pool.openFor arrival.pkt.tmstamp ≠ [] ∨
        ∀ packet ∈ w.packets, time packet.number ≠ time arrival.number))
    ⟨fun all => ⟨all.1, all.2.1, all.2.2.1, all.2.2.2⟩,
      fun timely => ⟨timely.tmstamp, timely.room, timely.unaliased, timely.timely⟩⟩

instance (time : Int -> Int) (w : Followed) : forall input, Decidable (w.Orderly time input)
  | .packet arrival => inferInstanceAs (Decidable
      ((rxAncillarySessionHandlePkt arrival.env w.session arrival.pkt arrival.port).2 = .ok ->
        w.Timely time arrival))
  | .put _ => inferInstanceAs (Decidable True)

/-- The session assembles frames, and the slots and what was seen of them fit the packets. -/
structure Followed.Sound (time : Int -> Int) (udwBufSize : Nat) (w : Followed) : Prop where
  level : w.session.ops.type = .frameLevel
  size : w.session.udwBufSize = udwBufSize
  pool : w.session.pool.Sound
  collected : Collected time udwBufSize w.packets w.session.pool w.log

theorem returnFrame_assemblyPart (idx : Nat) :
    (returnFrame s idx).assemblyPart.2 = s.assemblyPart.2 := by
  unfold returnFrame st40RxPutFramebuff
  split
  · split <;> rfl
  · rfl

theorem Followed.Sound.put {time : Int -> Int} {udwBufSize : Nat} {w : Followed}
    (sound : w.Sound time udwBufSize) (idx : Nat) :
    (followStep time w (.put idx)).Sound time udwBufSize := by
  have same := returnFrame_assemblyPart w.session idx
  have returned := returnFrame_returns w.session idx
  refine ⟨(congrArg Prod.fst same).trans sound.level,
    (congrArg (fun part => part.2.1) same).trans sound.size,
    sound.pool.closed (returns_closes returned), ?_⟩
  rcases sound.collected.closed 0 (returns_closes returned) with ⟨fresh, fresh_eq, collected⟩
  -- returning a frame is no event
  have quiet : fresh = [] := List.append_left_eq_self.mp
    (fresh_eq.symm.trans (returns_pointers returned).2.2.2)
  rw [quiet] at collected
  exact collected

theorem Followed.Sound.packet {time : Int -> Int} {udwBufSize : Nat} {w : Followed}
    (sound : w.Sound time udwBufSize)
    (orderly : w.Orderly time (.packet arrival)) :
    (followStep time w (.packet arrival)).Sound time udwBufSize := by
  rcases rxAncillarySessionHandlePkt_assemblyPart arrival.env arrival.pkt arrival.port sound.level with
    ⟨refused, accepted⟩
  have orderly' : (rxAncillarySessionHandlePkt arrival.env w.session arrival.pkt arrival.port).2 = .ok ->
      w.Timely time arrival := orderly
  unfold followStep
  dsimp only
  by_cases ok : (rxAncillarySessionHandlePkt arrival.env w.session arrival.pkt arrival.port).2 = .ok
  · rcases accepted ok with ⟨before, before_eq, after_eq⟩
    have timely := orderly' ok
    rw [if_pos ok]
    have room := timely.room
    generalize (rxAncillarySessionHandlePkt arrival.env w.session arrival.pkt arrival.port).1 = after
      at room after_eq ⊢
    have pool_eq : before.pool = w.session.pool := congrArg Prod.fst before_eq
    have size_eq : before.udwBufSize = udwBufSize :=
      (congrArg (fun part => part.2.2.1) before_eq).trans sound.size
    have dropped_eq : before.stats.ancFramesDropped = w.session.stats.ancFramesDropped :=
      congrArg (fun part => part.2.2.2) before_eq
    have kept := rxAncillarySessionAssemblePkt_filterPart arrival.env before arrival.pkt arrival.port
    have beforeSound : before.pool.Sound := pool_eq ▸ sound.pool
    have collected : Collected time before.udwBufSize w.packets before.pool w.log := by
      rw [pool_eq, size_eq]
      exact sound.collected
    rcases rxAncillarySessionAssemblePkt_collected collected beforeSound timely.tmstamp
      (fun slot found => timely.unaliased slot (AncPool.mem_openFor.mpr (pool_eq ▸ found)))
      (timely.timely.imp_left (fun some => by
        rcases List.exists_mem_of_ne_nil _ some with ⟨slot, member⟩
        exact ⟨slot, pool_eq ▸ AncPool.mem_openFor.mp member⟩))
      ((congrArg (fun part => part.2.2.2) after_eq).symm.trans (room.trans dropped_eq.symm))
      with ⟨fresh, fresh_eq, assembled⟩
    have after_pool : after.pool =
        (rxAncillarySessionAssemblePkt arrival.env before arrival.pkt arrival.port).pool :=
      congrArg Prod.fst after_eq
    have events_eq : after.events = fresh ++ w.session.events := by
      have mid := (congrArg AncPool.events after_pool).trans fresh_eq
      rw [pool_eq] at mid
      exact mid
    refine ⟨?_, ?_, ?_, ?_⟩
    · exact (congrArg (fun part => part.2.1) after_eq).trans
        ((congrArg (fun part => part.ops.type) kept).trans
          ((congrArg (fun part => part.2.1) before_eq).trans sound.level))
    · exact (congrArg (fun part => part.2.2.1) after_eq).trans
        ((congrArg FilterPart.udwBufSize kept).trans size_eq)
    · dsimp only
      rw [after_pool]
      exact rxAncillarySessionAssemblePkt_sound arrival.env arrival.pkt arrival.port beforeSound
    · dsimp only
      rw [events_eq, newEvents_append, after_pool, ← size_eq]
      exact assembled
  · have same := refused ok
    rw [if_neg ok]
    generalize (rxAncillarySessionHandlePkt arrival.env w.session arrival.pkt arrival.port).1 = after
      at same ⊢
    have pool_eq : after.pool = w.session.pool := congrArg Prod.fst same
    have events_eq : after.events = [] ++ w.session.events := congrArg AncPool.events pool_eq
    refine ⟨(congrArg (fun part => part.2.1) same).trans sound.level,
      (congrArg (fun part => part.2.2.1) same).trans sound.size, ?_, ?_⟩
    · dsimp only
      rw [pool_eq]
      exact sound.pool
    · dsimp only
      rw [events_eq, newEvents_append, pool_eq]
      exact sound.collected

theorem followStart_sound {ops : St40RxOps} (level : ops.type = .frameLevel) (interlaceAuto : Bool)
    (cnt udwBufSize : Nat) :
    (followStart (rxAncInit ops interlaceAuto cnt udwBufSize)).Sound time udwBufSize := by
  have closed : forall idx, ¬ (rxAncInit ops interlaceAuto cnt udwBufSize).pool.IsOpen idx := by
    intro idx is_open
    rcases is_open with absurd | absurd
    · cases absurd
    · cases absurd
  refine ⟨level, rfl, rxAncInit_sound ops interlaceAuto cnt udwBufSize, ?_⟩
  exact {
    stamp := fun idx is_open => absurd is_open (closed idx)
    content := fun idx is_open => absurd is_open (closed idx)
    started := fun idx is_open => absurd is_open (closed idx)
    apart := fun current waiting absurd => (by cases absurd)
    once := List.nodup_nil
    whole := fun done member => absurd member List.not_mem_nil
    stamped := fun done member => absurd member List.not_mem_nil
    seen := fun done member => absurd member List.not_mem_nil
    undelivered := fun idx is_open => absurd is_open (closed idx)
    all := fun packet member => absurd member List.not_mem_nil }

/-- In every run in which no packet is accepted after its frame was closed, each time is delivered
at most once, as a frame that holds what all accepted packets of that time carry; the frames that
were not delivered yet are open. -/
theorem frames_collected_once (time : Int -> Int) (ops : St40RxOps) (level : ops.type = .frameLevel)
    (interlaceAuto : Bool) (cnt udwBufSize : Nat) (inputs : List AncInput)
    (orderly : Admitted (followStep time) (Followed.Orderly time)
      (followStart (rxAncInit ops interlaceAuto cnt udwBufSize)) inputs) :
    let w := run (followStep time) (followStart (rxAncInit ops interlaceAuto cnt udwBufSize)) inputs
    (w.log.delivered.map Prod.fst).Nodup ∧
    (∀ done ∈ w.log.delivered, done.2.rtpTimestamp = u32 done.1 ∧
      done.2.content = assembled udwBufSize (packetsAt time w.packets done.1)) ∧
    (∀ packet ∈ w.packets,
      time packet.number ∈ w.log.delivered.map Prod.fst ∨
      Exists fun idx =>
        (w.session.ancPendingSlot = some idx ∨ w.session.ancInflightSlot = some idx) ∧
        w.log.times idx = time packet.number ∧
        (w.session.frameSlots idx).content =
          assembled udwBufSize (packetsAt time w.packets (time packet.number))) := by
  have sound := run_invariant (followStep time) (Followed.Orderly time)
    (Followed.Sound time udwBufSize)
    (fun w input sound orderly => by
      cases input with
      | packet arrival => exact sound.packet orderly
      | put idx => exact sound.put idx)
    (followStart_sound time level interlaceAuto cnt udwBufSize) orderly
  generalize run (followStep time) (followStart (rxAncInit ops interlaceAuto cnt udwBufSize)) inputs = w
    at sound ⊢
  have collected := sound.collected
  refine ⟨collected.once, fun done member =>
    ⟨collected.stamped done member, collected.whole done member⟩, fun packet member => ?_⟩
  rcases collected.all packet member with done | ⟨idx, is_open, at_time⟩
  · exact Or.inl done
  · refine Or.inr ⟨idx, is_open, at_time, ?_⟩
    rw [← at_time]
    exact collected.content idx is_open

def threesTime (number : Int) : Int := number / 3 * 1500

/-- A packet of that stream without ancillary data; the third packet of a frame has the marker. -/
def threesArrival (number : Int) (port : MtlSessionPort) : AncArrival where
  number := number
  port := port
  pkt := {
    payloadType := 0, ssrc := 0, seqNumber := u16 number, tmstamp := u32 (threesTime number)
    marker := decide (number % 3 = 2), f := 0, ancCount := 0, len := 20, pktLen := 62
    payload := fun _ => 0, recvTs := 0 }
  env := { ringTakes := true, notify := fun _ => ⟨false, []⟩, racing := fun _ _ => [] }

def frameLevelOps : St40RxOps where
  numPort := 2
  payloadType := 0
  ssrc := 0
  fastMetadata := false
  interlaced := false
  type := .frameLevel

/-- The next frame begins before the marker of the first arrives on the other port, and one packet
is lost on both. -/
def threesRun : List AncInput := [
  .packet (threesArrival 3 .p), .packet (threesArrival 4 .r), .packet (threesArrival 4 .p),
  .packet (threesArrival 6 .p), .packet (threesArrival 5 .r), .put 0, .packet (threesArrival 8 .p)]

theorem frames_collected_once_threes :
    let w := run (followStep threesTime) (followStart (rxAncInit frameLevelOps true 2 64)) threesRun
    (w.log.delivered.map Prod.fst).Nodup ∧ w.log.delivered.map Prod.fst = [3000, 1500] ∧
      ∀ done ∈ w.log.delivered, done.2.rtpTimestamp = u32 done.1 ∧
        done.2.content = assembled 64 (packetsAt threesTime w.packets done.1) := by
  have orderly : Admitted (followStep threesTime) (Followed.Orderly threesTime)
      (followStart (rxAncInit frameLevelOps true 2 64)) threesRun := by
    decide +kernel
  have result := frames_collected_once threesTime frameLevelOps rfl true 2 64 threesRun orderly
  exact ⟨result.1, by decide +kernel, result.2.1⟩

/-- The second packet of a frame arrives after its third, and then the next two frames begin. -/
def lateRun : List AncArrival :=
  [threesArrival 3 .p, threesArrival 5 .p, threesArrival 4 .r, threesArrival 6 .p, threesArrival 9 .p]

/-- The late packet opens a second frame for its time: the filter takes every packet of the run,
no frame lacks a slot, and the time is delivered twice. -/
theorem late_packet_delivers_twice :
    let w := run (followStep threesTime) (followStart (rxAncInit frameLevelOps true 8 64))
      (lateRun.map AncInput.packet)
    Monotone threesTime ∧
    (∀ arrival ∈ lateRun, (arrival.pkt.marker = true <->
      threesTime (arrival.number + 1) ≠ threesTime arrival.number)) ∧
    Admitted (watchPkt threesTime) (Watched.Live threesTime)
      (watchStart (rxAncInit frameLevelOps true 8 64)) lateRun ∧
    w.packets.map AncArrival.number = [3, 5, 4, 6, 9] ∧ w.session.stats.ancFramesDropped = 0 ∧
    w.log.delivered.map (fun done => (done.1, done.2.rtpTimestamp, done.2.pktsTotal)) =
      [(1500, 1500, 1), (1500, 1500, 2)] ∧
    ¬ (w.log.delivered.map Prod.fst).Nodup := by
  refine ⟨?_, ?_, ?_, ?_, ?_, ?_, ?_⟩
  · intro first second le
    unfold threesTime
    omega
  all_goals decide +kernel

end MediaTransport.Anc
