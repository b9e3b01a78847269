import MediaTransport.Video.Receiver

namespace MediaTransport.Video

open Library

/-!
# What the slot functions change

Handing a frame over and reusing a slot touch one slot, the reference count of
one frame and counters.  This is said once for every function, with its events,
so that proofs about whole runs never look inside.
-/

variable (env : RvEnv)

variable {first s second : RvSession} {frame idx tmstamp : Nat}

/-! ## Counters -/

/-- The two counters that tell new packets from repeated ones are kept. -/
structure SameCounts (before after : RvStats) : Prop where
  received : after.pktsReceived = before.pktsReceived
  redundant : after.pktsRedundant = before.pktsRedundant

theorem SameCounts.refl (stats : RvStats) : SameCounts stats stats := ⟨rfl, rfl⟩

theorem SameCounts.trans {first second third : RvStats} (left : SameCounts first second)
    (right : SameCounts second third) : SameCounts first third :=
  ⟨right.received.trans left.received, right.redundant.trans left.redundant⟩

theorem sameCounts_countField (cfg : RvConfig) (secondField : Bool) (stats : RvStats) :
    SameCounts stats (rvCountField cfg secondField stats) := by
  unfold rvCountField
  split
  · exact SameCounts.refl stats
  · split <;> exact ⟨rfl, rfl⟩

theorem sameCounts_countFramePort (slot : RvSlot) (stats : RvStats) (port : MtlSessionPort) :
    SameCounts stats (rvCountFramePort slot stats port) := by
  unfold rvCountFramePort
  dsimp only
  split <;> exact ⟨rfl, rfl⟩

theorem sameCounts_accountPort (slot : RvSlot) (expected : Nat) (stats : RvStats)
    (port : MtlSessionPort) : SameCounts stats (rvAccountPort env slot expected stats port) := by
  unfold rvAccountPort
  dsimp only
  split
  · exact SameCounts.refl stats
  · exact ⟨rfl, rfl⟩

theorem sameCounts_foldl {step : RvStats -> MtlSessionPort -> RvStats}
    (each : forall stats port, SameCounts stats (step stats port)) (ports : List MtlSessionPort)
    (stats : RvStats) : SameCounts stats (ports.foldl step stats) := by
  induction ports generalizing stats with
  | nil => exact SameCounts.refl stats
  | cons port rest ih => exact (each stats port).trans (ih (step stats port))

/-! ## Sessions that differ in counters only -/

/-- Everything but counters and the size learnt from a marker is kept. -/
structure OnlyCounted (before after : RvSession) : Prop where
  cfg : after.cfg = before.cfg
  frames : after.frames = before.frames
  slots : after.slots = before.slots
  slotIdx : after.slotIdx = before.slotIdx
  counts : SameCounts before.stats after.stats

theorem OnlyCounted.refl (s : RvSession) : OnlyCounted s s :=
  ⟨rfl, rfl, rfl, rfl, SameCounts.refl _⟩

theorem OnlyCounted.trans {third : RvSession} (left : OnlyCounted first second)
    (right : OnlyCounted second third) : OnlyCounted first third where
  cfg := right.cfg.trans left.cfg
  frames := right.frames.trans left.frames
  slots := right.slots.trans left.slots
  slotIdx := right.slotIdx.trans left.slotIdx
  counts := left.counts.trans right.counts

theorem onlyCounted_withStats (s : RvSession) {stats : RvStats} (counts : SameCounts s.stats stats) :
    OnlyCounted s (s.withStats stats) := ⟨rfl, rfl, rfl, rfl, counts⟩

theorem onlyCounted_setRedundant (s : RvSession) (port : MtlSessionPort) (count : Nat) :
    OnlyCounted s (s.setRedundant port count) := ⟨rfl, rfl, rfl, rfl, SameCounts.refl _⟩

theorem onlyCounted_account (s : RvSession) (slot : RvSlot) (expected : Nat) :
    OnlyCounted s (rvSlotAccountPerPortLoss env s slot expected) :=
  onlyCounted_withStats s (sameCounts_foldl (sameCounts_accountPort env slot expected) _ _)

theorem onlyCounted_countNotify (s : RvSession) (slotIdx : Nat) :
    OnlyCounted s (rvCountNotify s slotIdx) :=
  onlyCounted_withStats s (sameCounts_countField _ _ _)

theorem onlyCounted_countFrame (s : RvSession) (slotIdx : Nat) :
    OnlyCounted s (rvCountFrame s slotIdx) := by
  have ports := sameCounts_foldl (sameCounts_countFramePort (s.slots slotIdx))
    [MtlSessionPort.p, .r] s.stats
  exact ⟨rfl, rfl, rfl, rfl, ports.received, ports.redundant⟩

theorem onlyCounted_st22CountFrame (s : RvSession) (slotIdx : Nat) :
    OnlyCounted s (rvSt22CountFrame s slotIdx) := by
  unfold rvSt22CountFrame
  split
  · exact onlyCounted_withStats s (sameCounts_foldl (sameCounts_countFramePort _) _ _)
  · exact onlyCounted_withStats s ⟨rfl, rfl⟩

/-! ## Notification -/

def givesBack (cfg : RvConfig) (full : Bool) (ret : Int) : Bool :=
  if full then decide (ret < 0) else !cfg.ops.receiveIncompleteFrame

/-- What a notification about the frame of a slot changes and tells. -/
structure Notified (before after : RvSession) (events : List RvEvent) (slotIdx frame : Nat)
    (full : Bool) (ret : Int) (event : RvEvent) : Prop where
  cfg : after.cfg = before.cfg
  frames : after.frames =
    if givesBack before.cfg full ret then (rvPutFrame before frame).frames else before.frames
  slots : after.slots = Function.update before.slots slotIdx
    { before.slots slotIdx with
      lossPending := full || (before.slots slotIdx).lossPending
      frame := if givesBack before.cfg full ret then none else (before.slots slotIdx).frame }
  slotIdx_eq : after.slotIdx = before.slotIdx
  counts : SameCounts before.stats after.stats
  events_eq : events = if full || before.cfg.ops.receiveIncompleteFrame then [event] else []

theorem Notified.of_counted {third : RvSession} {events : List RvEvent}
    {slotIdx : Nat} {full : Bool} {ret : Int} {event : RvEvent}
    (counted : OnlyCounted first second)
    (notified : Notified second third events slotIdx frame full ret event) :
    Notified first third events slotIdx frame full ret event := by
  have frames := notified.frames
  have slots := notified.slots
  have events := notified.events_eq
  rw [rvPutFrame, RvSession.setFrame, counted.cfg, counted.frames] at frames
  rw [counted.cfg, counted.slots] at slots
  rw [counted.cfg] at events
  exact
    { cfg := notified.cfg.trans counted.cfg
      frames := frames
      slots := slots
      slotIdx_eq := notified.slotIdx_eq.trans counted.slotIdx
      counts := counted.counts.trans notified.counts
      events_eq := events }

theorem rvHandOver_notified (s : RvSession) (slotIdx frame : Nat) (event : RvEvent) (ret : Int) :
    Notified s (rvHandOver s slotIdx frame event ret).1 (rvHandOver s slotIdx frame event ret).2
      slotIdx frame true ret event := by
  unfold rvHandOver
  dsimp only
  by_cases failed : ret < 0
  · have gives : givesBack s.cfg true ret = true := decide_eq_true failed
    rw [if_pos failed]
    exact ⟨rfl, by rw [gives]; rfl, by rw [gives]; rfl, rfl, SameCounts.refl _, rfl⟩
  · have keeps : givesBack s.cfg true ret = false := decide_eq_false failed
    rw [if_neg failed]
    exact ⟨rfl, by rw [keeps]; rfl, by rw [keeps]; rfl, rfl, SameCounts.refl _, rfl⟩

theorem rvGiveUp_notified (s : RvSession) (slotIdx frame miss : Nat) (event : RvEvent) (ret : Int) :
    Notified s (rvGiveUp env s slotIdx frame miss event).1
      (rvGiveUp env s slotIdx frame miss event).2 slotIdx frame false ret event := by
  have counted := @onlyCounted_withStats s
    { s.stats with
      framesIncomplete := s.stats.framesIncomplete + 1
      pktsUnrecovered := s.stats.pktsUnrecovered + miss } ⟨rfl, rfl⟩
  have charged := counted.trans (onlyCounted_account env _ (s.slots slotIdx)
    ((s.slots slotIdx).pktsReceived + miss))
  refine Notified.of_counted charged ?_
  unfold rvGiveUp
  dsimp only
  cases wanted : s.cfg.ops.receiveIncompleteFrame with
  | true =>
    have keeps : givesBack s.cfg false ret = false := by
      rw [givesBack, wanted]
      rfl
    rw [if_pos rfl]
    refine ⟨rfl, ?_, ?_, rfl, SameCounts.refl _, ?_⟩
    · rw [charged.cfg, keeps]
      rfl
    · rw [charged.cfg, keeps]
      exact (Function.update_eq_self _ _).symm
    · rw [charged.cfg, wanted]
      rfl
  | false =>
    have gives : givesBack s.cfg false ret = true := by
      rw [givesBack, wanted]
      rfl
    rw [if_neg (by decide)]
    refine ⟨rfl, ?_, ?_, rfl, SameCounts.refl _, ?_⟩
    · rw [charged.cfg, gives]
      rfl
    · rw [charged.cfg, gives]
      rfl
    · rw [charged.cfg, wanted]
      rfl

def isFull (s : RvSession) (slotIdx : Nat) : Bool :=
  decide (s.cfg.st20FrameSize ≤ rvSlotGetFrameSize (s.slots slotIdx))

def rvReady (s : RvSession) (slotIdx frame : Nat) (ret : Int) : RvEvent :=
  .frameReady frame (rvFrameMeta s (s.slots slotIdx) (s.frames frame)) (s.frames frame).addr ret

theorem rvFrameNotify_notified (ret : Int) (s : RvSession) (slotIdx frame : Nat) :
    Notified s (rvFrameNotify env ret s slotIdx frame).1 (rvFrameNotify env ret s slotIdx frame).2
      slotIdx frame (isFull s slotIdx) ret (rvReady s slotIdx frame ret) := by
  have counted := onlyCounted_countNotify s slotIdx
  unfold rvFrameNotify
  dsimp only
  by_cases full : s.cfg.st20FrameSize ≤ rvSlotGetFrameSize (s.slots slotIdx)
  · rw [isFull, decide_eq_true full, if_pos full]
    exact (rvHandOver_notified _ slotIdx frame _ ret).of_counted
      (counted.trans (onlyCounted_countFrame _ slotIdx))
  · rw [isFull, decide_eq_false full, if_neg full]
    exact (rvGiveUp_notified env _ slotIdx frame _ _ ret).of_counted counted

def rvSt22Ready (s : RvSession) (slotIdx frame : Nat) (status : StFrameStatus) (ret : Int) :
    RvEvent :=
  .frameReady frame (rvSt22FrameMeta (s.slots slotIdx) status) (s.frames frame).addr ret

theorem rvSt22FrameNotify_notified (ret : Int) (s : RvSession) (slotIdx frame : Nat)
    (status : StFrameStatus) :
    Notified s (rvSt22FrameNotify env ret s slotIdx frame status).1
      (rvSt22FrameNotify env ret s slotIdx frame status).2 slotIdx frame
      (decide (status = .complete ∨ status = .reconstructed)) ret
      (rvSt22Ready s slotIdx frame status ret) := by
  have counted : OnlyCounted s { rvCountNotify s slotIdx with st22ExpectFrameSize := 0 } :=
    ⟨rfl, rfl, rfl, rfl, (onlyCounted_countNotify s slotIdx).counts⟩
  unfold rvSt22FrameNotify
  dsimp only
  by_cases full : status = .complete ∨ status = .reconstructed
  · rw [if_pos full, decide_eq_true full]
    exact (rvHandOver_notified _ slotIdx frame _ ret).of_counted
      (counted.trans (onlyCounted_st22CountFrame _ slotIdx))
  · rw [if_neg full, decide_eq_false full]
    exact (rvGiveUp_notified env _ slotIdx frame _ _ ret).of_counted counted

/-! ## Reusing a slot -/

/-- Whether the frame of a slot counts as full when the slot is reused; a
frame of ST 2110-22 never does. -/
def recycledFull (s : RvSession) (slotIdx : Nat) : Bool :=
  s.cfg.st22.isNone && isFull s slotIdx

def recycledReady (s : RvSession) (slotIdx frame : Nat) (ret : Int) : RvEvent :=
  match s.cfg.st22 with
  | some _ => rvSt22Ready s slotIdx frame .corrupted ret
  | none => rvReady s slotIdx frame ret

/-- The pool after a slot was retired. -/
def retiredFrames (env : RvEnv) (s : RvSession) (slotIdx : Nat) : Nat -> RvFrame :=
  match (s.slots slotIdx).frame with
  | none => s.frames
  | some frame =>
    if givesBack s.cfg (recycledFull s slotIdx) env.notifyRecycled then
      (rvPutFrame s frame).frames
    else
      s.frames

/-- What the application hears when a slot is retired. -/
def retiredEvents (env : RvEnv) (s : RvSession) (slotIdx : Nat) : List RvEvent :=
  match (s.slots slotIdx).frame with
  | none => []
  | some frame =>
    if recycledFull s slotIdx || s.cfg.ops.receiveIncompleteFrame then
      [recycledReady s slotIdx frame env.notifyRecycled]
    else
      []

/-- What retiring a slot changes and tells. -/
structure Retired (env : RvEnv) (before after : RvSession) (events : List RvEvent)
    (slotIdx : Nat) : Prop where
  cfg : after.cfg = before.cfg
  frames : after.frames = retiredFrames env before slotIdx
  slots : after.slots = Function.update before.slots slotIdx
    { before.slots slotIdx with frame := none, lossPending := false }
  slotIdx_eq : after.slotIdx = before.slotIdx
  counts : SameCounts before.stats after.stats
  events_eq : events = retiredEvents env before slotIdx

theorem rvRecycle_notified (s : RvSession) (slotIdx frame : Nat) :
    Notified s (rvRecycle env s slotIdx frame).1 (rvRecycle env s slotIdx frame).2 slotIdx frame
      (recycledFull s slotIdx) env.notifyRecycled
      (recycledReady s slotIdx frame env.notifyRecycled) := by
  unfold rvRecycle recycledReady recycledFull
  cases s.cfg.st22 with
  | some ops =>
    exact rvSt22FrameNotify_notified env env.notifyRecycled s slotIdx frame .corrupted
  | none => exact rvFrameNotify_notified env env.notifyRecycled s slotIdx frame

/-- What emptying a slot changes and tells; `loss` is the losses still put off. -/
structure Emptied (env : RvEnv) (before after : RvSession) (events : List RvEvent)
    (slotIdx : Nat) (loss : Bool) : Prop where
  cfg : after.cfg = before.cfg
  frames : after.frames = retiredFrames env before slotIdx
  slots : after.slots = Function.update before.slots slotIdx
    { before.slots slotIdx with frame := none, lossPending := loss }
  slotIdx_eq : after.slotIdx = before.slotIdx
  counts : SameCounts before.stats after.stats
  events_eq : events = retiredEvents env before slotIdx

theorem rvEmptySlot_emptied (env : RvEnv) (s : RvSession) (slotIdx : Nat) :
    Exists fun loss => Emptied env s (rvEmptySlot env s slotIdx).1 (rvEmptySlot env s slotIdx).2
      slotIdx loss := by
  unfold rvEmptySlot
  cases holds : (s.slots slotIdx).frame with
  | none =>
    refine ⟨(s.slots slotIdx).lossPending, rfl, ?_, ?_, rfl, SameCounts.refl _, ?_⟩
    · rw [retiredFrames, holds]
    · have same : { s.slots slotIdx with frame := none } = s.slots slotIdx := by rw [← holds]
      exact (same ▸ Function.update_eq_self slotIdx s.slots).symm
    · rw [retiredEvents, holds]
  | some frame =>
    have notified := rvRecycle_notified env s slotIdx frame
    dsimp only
    generalize rvRecycle env s slotIdx frame = answer at notified ⊢
    refine ⟨recycledFull s slotIdx || (s.slots slotIdx).lossPending, notified.cfg, ?_, ?_,
      notified.slotIdx_eq, notified.counts, ?_⟩
    · rw [retiredFrames, holds]
      exact notified.frames
    · rw [RvSession.setSlot_slots, notified.slots, Function.update_idem, Function.update_self]
    · rw [retiredEvents, holds]
      exact notified.events_eq

theorem rvRetireSlot_retired (env : RvEnv) (s : RvSession) (slotIdx : Nat) :
    Retired env s (rvRetireSlot env s slotIdx).1 (rvRetireSlot env s slotIdx).2 slotIdx := by
  rcases rvEmptySlot_emptied env s slotIdx with ⟨loss, emptied⟩
  unfold rvRetireSlot rvChargePending
  generalize rvEmptySlot env s slotIdx = answer at emptied ⊢
  have slot : answer.1.slots slotIdx =
      { s.slots slotIdx with frame := none, lossPending := loss } := by
    rw [emptied.slots, Function.update_self]
  dsimp only
  cases loss with
  | true =>
    have account := onlyCounted_account env answer.1 (answer.1.slots slotIdx)
      (answer.1.slots slotIdx).pktsReceived
    rw [if_pos (by rw [slot])]
    refine ⟨account.cfg.trans emptied.cfg, account.frames.trans emptied.frames, ?_,
      account.slotIdx.trans emptied.slotIdx_eq,
      emptied.counts.trans account.counts, emptied.events_eq⟩
    rw [RvSession.setSlot_slots, account.slots, emptied.slots, Function.update_idem, Function.update_self]
  | false =>
    have clear : ¬ (answer.1.slots slotIdx).lossPending = true := by
      rw [slot]
      exact Bool.false_ne_true
    rw [if_neg clear]
    exact ⟨emptied.cfg, emptied.frames, emptied.slots, emptied.slotIdx_eq,
      emptied.counts, emptied.events_eq⟩

/-- What reusing a slot for another timestamp changes and tells. -/
structure Reused (env : RvEnv) (before after : RvSession) (events : List RvEvent)
    (slotIdx tmstamp : Nat) : Prop where
  cfg : after.cfg = before.cfg
  frames : after.frames = retiredFrames env before slotIdx
  slots : after.slots = Function.update before.slots slotIdx
    ({ before.slots slotIdx with frame := none, lossPending := false }.restart tmstamp)
  slotIdx_eq : after.slotIdx = slotIdx
  counts : SameCounts before.stats after.stats
  events_eq : events = retiredEvents env before slotIdx

theorem rvReuseSlot_reused (s : RvSession) (slotIdx tmstamp : Nat) :
    Reused env s (rvReuseSlot env s slotIdx tmstamp).1 (rvReuseSlot env s slotIdx tmstamp).2
      slotIdx tmstamp := by
  have retired := rvRetireSlot_retired env s slotIdx
  unfold rvReuseSlot
  generalize rvRetireSlot env s slotIdx = answer at retired ⊢
  refine ⟨retired.cfg, retired.frames, ?_, rfl, retired.counts,
    retired.events_eq⟩
  dsimp only
  rw [RvSession.setSlot_slots, retired.slots, Function.update_idem, Function.update_self]

theorem rvAssignFrame_some {env : RvEnv} {slotIdx : Nat}
    {addr : Nat -> Byte} (free : rvGetFrame s = some frame)
    (buffer : rvFrameBuffer env s frame = some addr) :
    rvAssignFrame env s slotIdx =
      ((s.setFrame frame ((s.frames frame).take addr)).setSlot slotIdx
        ((s.slots slotIdx).begin s.cfg frame env.timeStamp), true) := by
  rw [rvAssignFrame, free]
  dsimp only
  rw [buffer]

theorem rvAssignFrame_cases (env : RvEnv) (s : RvSession) (slotIdx : Nat) :
    ((rvAssignFrame env s slotIdx).2 = false ∧ OnlyCounted s (rvAssignFrame env s slotIdx).1) ∨
    Exists fun frame => Exists fun addr => rvGetFrame s = some frame ∧
      rvAssignFrame env s slotIdx =
        ((s.setFrame frame ((s.frames frame).take addr)).setSlot slotIdx
          ((s.slots slotIdx).begin s.cfg frame env.timeStamp), true) := by
  cases free : rvGetFrame s with
  | none =>
    rw [rvAssignFrame, free]
    exact Or.inl ⟨rfl, rfl, rfl, rfl, rfl, rfl, rfl⟩
  | some frame =>
    cases buffer : rvFrameBuffer env s frame with
    | none =>
      rw [rvAssignFrame, free]
      dsimp only
      rw [buffer]
      exact Or.inl ⟨rfl, rfl, rfl, rfl, rfl, rfl, rfl⟩
    | some addr => exact Or.inr ⟨frame, addr, rfl, rvAssignFrame_some free buffer⟩

/-- A packet of the timestamp makes the session reuse its next slot. -/
def rvOpens (s : RvSession) (tmstamp : Nat) : Bool :=
  (rvFindSlot s tmstamp).isNone && !(rvInThePast s tmstamp && !rvGuardGivesWay s)

theorem rvSlotByTmstamp_cases (env : RvEnv) (s : RvSession) (tmstamp : Nat) :
    (Exists fun idx => rvFindSlot s tmstamp = some idx ∧
      rvSlotByTmstamp env s tmstamp = ⟨s, some idx, true, []⟩) ∨
    (rvSlotByTmstamp env s tmstamp = ⟨s, none, false, []⟩) ∨
    (rvOpens s tmstamp = true ∧
      rvSlotByTmstamp env s tmstamp =
        let reused := rvReuseSlot env s (rvNextSlot s) tmstamp
        let answer := rvAssignFrame env reused.1 (rvNextSlot s)
        ⟨answer.1, if answer.2 then some (rvNextSlot s) else none, false, reused.2⟩) := by
  unfold rvSlotByTmstamp rvOpens
  cases found : rvFindSlot s tmstamp with
  | some idx => exact Or.inl ⟨idx, rfl, rfl⟩
  | none =>
    refine Or.inr ?_
    cases refused : rvInThePast s tmstamp && !rvGuardGivesWay s with
    | true => exact Or.inl rfl
    | false => exact Or.inr ⟨rfl, rfl⟩

theorem rvFindSlot_some (found : rvFindSlot s tmstamp = some idx) :
    idx < s.cfg.slotMax ∧ (s.slots idx).tmstamp = tmstamp := by
  have holds := List.find?_some found
  exact ⟨List.mem_range.mp (List.mem_of_find?_eq_some found), of_decide_eq_true holds⟩

theorem rvFindSlot_none (unknown : rvFindSlot s tmstamp = none)
    (inside : idx < s.cfg.slotMax) : (s.slots idx).tmstamp ≠ tmstamp :=
  of_decide_eq_false (Bool.eq_false_iff.mpr
    (List.find?_eq_none.mp unknown idx (List.mem_range.mpr inside)))

theorem rvSlotByTmstamp_found {env : RvEnv} {s : RvSession} {tmstamp slotIdx : Nat}
    (found : rvFindSlot s tmstamp = some slotIdx) :
    rvSlotByTmstamp env s tmstamp = ⟨s, some slotIdx, true, []⟩ := by
  rw [rvSlotByTmstamp, found]

theorem rvFindSlot_congr (cfg : first.cfg = second.cfg)
    (same : forall idx, (first.slots idx).tmstamp = (second.slots idx).tmstamp) :
    rvFindSlot first tmstamp = rvFindSlot second tmstamp := by
  simp only [rvFindSlot, cfg, same]

theorem rvFindSlot_update {slot : RvSlot}
    (cfg : second.cfg = first.cfg) (slots : second.slots = Function.update first.slots idx slot)
    (kept : slot.tmstamp = (first.slots idx).tmstamp) :
    rvFindSlot second tmstamp = rvFindSlot first tmstamp := by
  refine rvFindSlot_congr cfg (fun other => ?_)
  by_cases same : other = idx
  · rw [same, slots, Function.update_self, kept]
  · rw [slots, Function.update_of_ne same]

theorem rvGetFrame_some (free : rvGetFrame s = some frame) :
    frame < s.cfg.ops.framebuffCnt ∧ (s.frames frame).refcnt = 0 := by
  have unused := List.find?_some free
  exact ⟨List.mem_range.mp (List.mem_of_find?_eq_some free), of_decide_eq_true unused⟩

theorem rvGetFrame_isSome {s : RvSession} {frame : Nat} (inside : frame < s.cfg.ops.framebuffCnt)
    (unused : (s.frames frame).refcnt = 0) : (rvGetFrame s).isSome := by
  rw [rvGetFrame, List.find?_isSome]
  exact ⟨frame, List.mem_range.mpr inside, decide_eq_true unused⟩

theorem rvFindSlot_of_unique (inside : idx < s.cfg.slotMax)
    (holds : (s.slots idx).tmstamp = tmstamp)
    (others : ∀ other < s.cfg.slotMax, other ≠ idx ->
      (s.slots other).tmstamp ≠ tmstamp) : rvFindSlot s tmstamp = some idx := by
  cases found : rvFindSlot s tmstamp with
  | none => exact False.elim (rvFindSlot_none found inside holds)
  | some other =>
    rcases rvFindSlot_some found with ⟨bound, same⟩
    by_cases equal : other = idx
    · rw [equal]
    · exact False.elim (others other bound equal same)

theorem rvNextSlot_lt (some_slots : 0 < s.cfg.slotMax) :
    rvNextSlot s < s.cfg.slotMax := by
  have upper := Int.emod_lt_of_pos (s.slotIdx + 1) (Int.natCast_pos.mpr some_slots)
  rw [rvNextSlot]
  omega

end MediaTransport.Video
