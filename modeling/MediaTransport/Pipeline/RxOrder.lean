import MediaTransport.Pipeline.RxFrames
import MediaTransport.Library.Run

namespace MediaTransport.Pipeline

open Library

/-!
# Order of the receive pipelines

The waiting frames are a queue on the ring, seen from the application's index,
as long as every buffer is accepted behind all of them.  The transport takes the
first free frame from its own index on, and once the application has put frames
back out of order that frame may lie before the waiting ones.
-/

variable {Stat : Type} [DecidableEq Stat]

/-! ## Invariants of a ring of frames -/

/-- The frames that wait, in the order in which the application finds them. -/
structure RxCtx.Waiting (s : RxCtx Stat) (waiting : Stat) (slots : List Nat) : Prop where
  queued : Queued s.framebuffCnt s.framebuffConsumerIdx slots
  all : ∀ idx < s.framebuffCnt, ((s.framebuffs idx).stat = waiting <-> idx ∈ slots)
  order : s.accepted = s.delivered ++ slots.map (fun idx => (s.framebuffs idx).addr)

/-- The frames were delivered in the order of acceptance, and those that wait are next. -/
structure RxCtx.Ordered (s : RxCtx Stat) (waiting : Stat) : Prop where
  producer : s.framebuffProducerIdx < s.framebuffCnt
  consumer : s.framebuffConsumerIdx < s.framebuffCnt
  queue : Exists (s.Waiting waiting)

def RxCtx.holding (s : RxCtx Stat) (waiting inUser : Stat) : Finset Nat :=
  (Finset.range s.framebuffCnt).filter
    (fun idx => (s.framebuffs idx).stat = waiting ∨ (s.framebuffs idx).stat = inUser)

def RxCtx.held (s : RxCtx Stat) (waiting inUser : Stat) : Multiset Nat :=
  (s.holding waiting inUser).val.map (fun idx => (s.framebuffs idx).addr)

/-- Every accepted buffer is in a frame or was given back, and each once. -/
def RxCtx.Conserved (s : RxCtx Stat) (waiting inUser : Stat) : Prop :=
  (s.givenBack : Multiset Nat) + s.held waiting inUser = s.accepted

variable {s : RxCtx Stat} {waiting inUser free : Stat} {idx : Nat}

theorem mem_holding : idx ∈ s.holding waiting inUser <->
    idx < s.framebuffCnt ∧ ((s.framebuffs idx).stat = waiting ∨ (s.framebuffs idx).stat = inUser) := by
  simp [RxCtx.holding]

theorem nextAvailable_spec {start : Nat} {desired : Stat} (inside : start < s.framebuffCnt)
    (found : s.nextAvailable start desired = some idx) :
    idx < s.framebuffCnt ∧ (s.framebuffs idx).stat = desired := by
  rcases scan_some inside found with ⟨found_inside, wanted, -⟩
  exact ⟨found_inside, of_decide_eq_true wanted⟩

omit [DecidableEq Stat] in
theorem RxCtx.Ordered.accept (ordered : s.Ordered waiting) (inside : idx < s.framebuffCnt)
    (unused : (s.framebuffs idx).stat ≠ waiting)
    (behind : ∀ other < s.framebuffCnt, (s.framebuffs other).stat = waiting ->
      ahead s.framebuffCnt s.framebuffConsumerIdx other <
        ahead s.framebuffCnt s.framebuffConsumerIdx idx)
    (addr : Nat) (fm : RxFrameMeta) : (s.accept idx waiting addr fm).Ordered waiting := by
  rcases ordered.queue with ⟨slots, queue⟩
  have new : idx ∉ slots := fun member => unused ((queue.all idx inside).mpr member)
  refine ⟨nextSlot_lt inside, ordered.consumer, slots ++ [idx], ?_, ?_, ?_⟩
  · refine queue.queued.concat inside (fun other member => ?_)
    have other_inside := queue.queued.2 other member
    exact behind other other_inside ((queue.all other other_inside).mpr member)
  · intro other other_inside
    by_cases same : other = idx
    · simp [RxCtx.accept, same]
    · simp [RxCtx.accept, same, queue.all other other_inside]
  · have kept : slots.map (fun other => ((s.accept idx waiting addr fm).framebuffs other).addr) =
        slots.map (fun other => (s.framebuffs other).addr) := by
      apply List.map_congr_left
      intro other member
      have different : other ≠ idx := fun same => new (same ▸ member)
      simp [RxCtx.accept, different]
    rw [List.map_append, kept]
    simp [RxCtx.accept, queue.order]

theorem RxCtx.Ordered.take (ordered : s.Ordered waiting)
    (found : s.nextAvailable s.framebuffConsumerIdx waiting = some idx) (apart : inUser ≠ waiting) :
    (s.take idx inUser).Ordered waiting := by
  rcases ordered.queue with ⟨slots, queue⟩
  have inside := (nextAvailable_spec ordered.consumer found).1
  rcases queue.queued.scan_head ordered.consumer
    (fun other other_inside => by simpa using queue.all other other_inside) found
    with ⟨rest, rfl, queued⟩
  have new : idx ∉ rest := by
    intro member
    have farther := (List.pairwise_cons.mp queue.queued.1).1 idx member
    exact absurd farther (Nat.lt_irrefl _)
  refine ⟨ordered.producer, nextSlot_lt inside, rest, queued, ?_, ?_⟩
  · intro other other_inside
    by_cases same : other = idx
    · simp [RxCtx.take, RxCtx.setStat, same, apart, new]
    · have before := queue.all other other_inside
      simp only [List.mem_cons, same, false_or] at before
      simpa [RxCtx.take, RxCtx.setStat, same] using before
  · have kept : rest.map (fun other => ((s.take idx inUser).framebuffs other).addr) =
        rest.map (fun other => (s.framebuffs other).addr) := by
      apply List.map_congr_left
      intro other member
      have different : other ≠ idx := fun same => new (same ▸ member)
      simp [RxCtx.take, RxCtx.setStat, different]
    rw [kept]
    simp [RxCtx.take, RxCtx.setStat, queue.order]

omit [DecidableEq Stat] in
theorem RxCtx.Ordered.setStat (ordered : s.Ordered waiting)
    (apart : (s.framebuffs idx).stat ≠ waiting) {frame : RxFramebuff Stat} (other : frame.stat ≠ waiting) :
    ({ s with framebuffs := Function.update s.framebuffs idx frame } : RxCtx Stat).Ordered waiting := by
  rcases ordered.queue with ⟨slots, queue⟩
  refine ⟨ordered.producer, ordered.consumer, slots, queue.queued, ?_, ?_⟩
  · intro place inside
    by_cases same : place = idx
    · have before := queue.all idx (same ▸ inside)
      simp only [apart, false_iff] at before
      simp [same, other, before]
    · simpa [same] using queue.all place inside
  · have kept : slots.map (fun place => (Function.update s.framebuffs idx frame place).addr) =
        slots.map (fun place => (s.framebuffs place).addr) := by
      apply List.map_congr_left
      intro place member
      have different : place ≠ idx := by
        rintro rfl
        exact apart ((queue.all place (queue.queued.2 place member)).mpr member)
      simp [different]
    dsimp only
    rw [kept]
    exact queue.order

/-! ## Conservation -/

section

variable (conserved : s.Conserved waiting inUser)

include conserved

theorem RxCtx.Conserved.accept (inside : idx < s.framebuffCnt)
    (unused : (s.framebuffs idx).stat ≠ waiting) (unheld : (s.framebuffs idx).stat ≠ inUser)
    (addr : Nat) (fm : RxFrameMeta) : (s.accept idx waiting addr fm).Conserved waiting inUser := by
  have new : idx ∉ s.holding waiting inUser := by
    simp [mem_holding, unused, unheld]
  have grown : (s.accept idx waiting addr fm).holding waiting inUser =
      insert idx (s.holding waiting inUser) := by
    ext other
    by_cases same : other = idx
    · simp [mem_holding, RxCtx.accept, same, inside]
    · simp [mem_holding, RxCtx.accept, same]
  have kept : (s.holding waiting inUser).val.map
      (fun other => ((s.accept idx waiting addr fm).framebuffs other).addr) = s.held waiting inUser := by
    apply Multiset.map_congr rfl
    intro other member
    have different : other ≠ idx := fun same => new (same ▸ member)
    simp [RxCtx.accept, different]
  unfold RxCtx.Conserved RxCtx.held at *
  rw [grown, Finset.insert_val_of_notMem new, Multiset.map_cons, kept]
  change (s.givenBack : Multiset Nat) + _ = ((s.accepted ++ [addr] : List Nat) : Multiset Nat)
  rw [← Multiset.coe_add, ← conserved]
  simp [RxCtx.accept, Multiset.add_cons, Multiset.singleton_add, add_comm]

theorem RxCtx.Conserved.take
    (here : (s.framebuffs idx).stat = waiting) : (s.take idx inUser).Conserved waiting inUser := by
  have same_slots : (s.take idx inUser).holding waiting inUser = s.holding waiting inUser := by
    ext other
    by_cases same : other = idx
    · simp [mem_holding, RxCtx.take, RxCtx.setStat, same, here]
    · simp [mem_holding, RxCtx.take, RxCtx.setStat, same]
  have same_buffers : forall other, ((s.take idx inUser).framebuffs other).addr =
      (s.framebuffs other).addr := by
    intro other
    by_cases same : other = idx
    · simp [RxCtx.take, RxCtx.setStat, same]
    · simp [RxCtx.take, RxCtx.setStat, same]
  unfold RxCtx.Conserved RxCtx.held at *
  rw [same_slots]
  simp only [same_buffers]
  exact conserved

theorem RxCtx.Conserved.unheld {frame : RxFramebuff Stat}
    (unwaiting : (s.framebuffs idx).stat ≠ waiting) (unused : (s.framebuffs idx).stat ≠ inUser)
    (later_unwaiting : frame.stat ≠ waiting) (later_unused : frame.stat ≠ inUser) :
    ({ s with framebuffs := Function.update s.framebuffs idx frame } : RxCtx Stat).Conserved
      waiting inUser := by
  have same_slots :
      ({ s with framebuffs := Function.update s.framebuffs idx frame } : RxCtx Stat).holding
        waiting inUser = s.holding waiting inUser := by
    ext other
    by_cases same : other = idx
    · simp [mem_holding, same, unwaiting, unused, later_unwaiting, later_unused]
    · simp [mem_holding, same]
  have new : idx ∉ s.holding waiting inUser := by
    simp [mem_holding, unwaiting, unused]
  have kept : (s.holding waiting inUser).val.map
      (fun other => (Function.update s.framebuffs idx frame other).addr) = s.held waiting inUser := by
    apply Multiset.map_congr rfl
    intro other member
    have different : other ≠ idx := fun same => new (same ▸ member)
    simp [different]
  unfold RxCtx.Conserved RxCtx.held at *
  rw [same_slots, kept]
  exact conserved

theorem RxCtx.Conserved.giveBack
    (inside : idx < s.framebuffCnt) (here : (s.framebuffs idx).stat = inUser)
    (unwaiting : free ≠ waiting) (unused : free ≠ inUser) :
    (s.giveBack idx free).Conserved waiting inUser := by
  have member : idx ∈ s.holding waiting inUser := mem_holding.mpr ⟨inside, Or.inr here⟩
  have shrunk : (s.giveBack idx free).holding waiting inUser = (s.holding waiting inUser).erase idx := by
    ext other
    by_cases same : other = idx
    · simp [mem_holding, RxCtx.giveBack, RxCtx.setStat, same, unwaiting, unused]
    · simp [mem_holding, RxCtx.giveBack, RxCtx.setStat, same]
  have same_buffers : forall other, ((s.giveBack idx free).framebuffs other).addr =
      (s.framebuffs other).addr := by
    intro other
    by_cases same : other = idx
    · simp [RxCtx.giveBack, RxCtx.setStat, same]
    · simp [RxCtx.giveBack, RxCtx.setStat, same]
  have split : s.held waiting inUser = (s.framebuffs idx).addr ::ₘ
      ((s.holding waiting inUser).erase idx).val.map (fun other => (s.framebuffs other).addr) := by
    unfold RxCtx.held
    conv_lhs => rw [← Finset.insert_erase member]
    rw [Finset.insert_val_of_notMem (Finset.notMem_erase idx _), Multiset.map_cons]
  unfold RxCtx.Conserved at *
  rw [split] at conserved
  unfold RxCtx.held
  rw [shrunk]
  simp only [same_buffers]
  change ((s.givenBack ++ [(s.framebuffs idx).addr] : List Nat) : Multiset Nat) + _ = _
  rw [← Multiset.coe_add, add_assoc]
  exact conserved

end

/-! ## Runs -/

/-- A buffer is accepted into a frame behind all that wait, as the application sees them. -/
def RxCtx.InTurn (s : RxCtx Stat) (waiting : Stat) (idx : Nat) : Prop :=
  ∀ other < s.framebuffCnt, (s.framebuffs other).stat = waiting ->
    ahead s.framebuffCnt s.framebuffConsumerIdx other < ahead s.framebuffCnt s.framebuffConsumerIdx idx

instance (s : RxCtx Stat) (waiting : Stat) (idx : Nat) : Decidable (s.InTurn waiting idx) :=
  inferInstanceAs (Decidable (∀ other < s.framebuffCnt, _))

/-- What holds of a ring in every state: the order, the conservation of buffers, and the states its
frames can have. -/
structure RxCtx.Right (s : RxCtx Stat) (possible : Stat -> Prop) (waiting inUser : Stat) : Prop where
  ordered : s.Ordered waiting
  conserved : s.Conserved waiting inUser
  possible : forall idx, possible (s.framebuffs idx).stat
  outside : forall idx, s.framebuffCnt ≤ idx -> (s.framebuffs idx).stat ≠ inUser

variable {possible : Stat -> Prop}

theorem RxCtx.Right.counted (right : s.Right possible waiting inUser) (stats : RxPipelineStats) :
    ({ s with stats := stats } : RxCtx Stat).Right possible waiting inUser := by
  rcases right.ordered.queue with ⟨slots, queue⟩
  exact ⟨⟨right.ordered.producer, right.ordered.consumer, slots, queue.queued, queue.all, queue.order⟩,
    right.conserved, right.possible, right.outside⟩

omit [DecidableEq Stat] in
theorem possible_update {frame : RxFramebuff Stat} (all : forall place, possible (s.framebuffs place).stat)
    (here : possible frame.stat) (place : Nat) :
    possible (Function.update s.framebuffs idx frame place).stat := by
  by_cases same : place = idx
  · simpa [same] using here
  · simpa [same] using all place

omit [DecidableEq Stat] in
theorem outside_update {frame : RxFramebuff Stat}
    (all : forall place, s.framebuffCnt ≤ place -> (s.framebuffs place).stat ≠ inUser)
    (inside : idx < s.framebuffCnt) (place : Nat) (outside : s.framebuffCnt ≤ place) :
    (Function.update s.framebuffs idx frame place).stat ≠ inUser := by
  have different : place ≠ idx := by omega
  simpa [different] using all place outside

theorem RxCtx.Right.accept (right : s.Right possible waiting inUser) (inside : idx < s.framebuffCnt)
    (unused : (s.framebuffs idx).stat ≠ waiting) (unheld : (s.framebuffs idx).stat ≠ inUser)
    (turn : s.InTurn waiting idx) (waits : possible waiting) (addr : Nat) (fm : RxFrameMeta) :
    (s.accept idx waiting addr fm).Right possible waiting inUser :=
  ⟨right.ordered.accept inside unused turn addr fm, right.conserved.accept inside unused unheld addr fm,
    possible_update right.possible waits, outside_update right.outside inside⟩

theorem RxCtx.Right.getFrame {wanted : Stat} (right : s.Right possible waiting inUser)
    (same : possible wanted -> wanted = waiting) (apart : inUser ≠ waiting) (used : possible inUser) :
    (s.getFrame wanted inUser).1.Right possible waiting inUser := by
  unfold RxCtx.getFrame
  by_cases ready : (!s.ready) = true
  · rw [if_pos ready]
    exact right
  · rw [if_neg ready]
    have counted := right.counted { s.stats with getFrameTry := s.stats.getFrameTry + 1 }
    generalize ({ s with stats := { s.stats with getFrameTry := s.stats.getFrameTry + 1 } } :
      RxCtx Stat) = tried at counted
    dsimp only
    cases found : tried.nextAvailable tried.framebuffConsumerIdx wanted with
    | none => exact counted
    | some idx =>
      rcases nextAvailable_spec counted.ordered.consumer found with ⟨inside, here⟩
      have own : wanted = waiting := same (here ▸ counted.possible idx)
      subst own
      exact ⟨counted.ordered.take found apart, counted.conserved.take here,
        possible_update counted.possible used, outside_update counted.outside inside⟩

theorem RxCtx.Right.putFrame (right : s.Right possible waiting inUser) (apart : inUser ≠ waiting)
    (unwaiting : free ≠ waiting) (unused : free ≠ inUser) (freed : possible free) :
    (s.putFrame idx inUser free).1.Right possible waiting inUser := by
  unfold RxCtx.putFrame
  by_cases refused : (s.framebuffs idx).stat ≠ inUser
  · rw [if_pos refused]
    exact right
  · rw [if_neg refused]
    have here := not_not.mp refused
    have inside : idx < s.framebuffCnt := by
      by_contra beyond
      exact right.outside idx (Nat.not_lt.mp beyond) here
    have back : (s.giveBack idx free).Right possible waiting inUser := by
      refine ⟨?_, right.conserved.giveBack inside here unwaiting unused,
        possible_update right.possible freed, outside_update right.outside inside⟩
      have changed := @RxCtx.Ordered.setStat Stat s waiting idx right.ordered (here ▸ apart)
        { s.framebuffs idx with stat := free } unwaiting
      rcases changed.queue with ⟨slots, queue⟩
      exact ⟨changed.producer, changed.consumer, slots, queue.queued, queue.all, queue.order⟩
    exact back.counted _

theorem init_right {framebuffCnt : Nat} (framed : 0 < framebuffCnt) (unwaiting : free ≠ waiting)
    (unused : free ≠ inUser) (freed : possible free) :
    (RxCtx.init framebuffCnt free).Right possible waiting inUser := by
  refine ⟨⟨framed, framed, [], Queued.nil _ _, ?_, rfl⟩, ?_, fun _ => freed, fun _ _ => unused⟩
  · intro idx _
    simp [RxCtx.init, unwaiting]
  · simp [RxCtx.Conserved, RxCtx.held, RxCtx.holding, RxCtx.init, unwaiting, unused]

/-- The deliveries are the first accepted buffers in order, those that wait are next, each in one
frame, and what was accepted was given back or is in a frame. -/
def RxCtx.DeliversInOrder (s : RxCtx Stat) (waiting inUser : Stat) : Prop :=
  (Exists fun slots : List Nat => slots.Nodup ∧
    (forall idx, idx ∈ slots <-> idx < s.framebuffCnt ∧ (s.framebuffs idx).stat = waiting) ∧
    s.accepted = s.delivered ++ slots.map (fun idx => (s.framebuffs idx).addr)) ∧
  s.Conserved waiting inUser

theorem RxCtx.Right.delivers (right : s.Right possible waiting inUser) :
    s.DeliversInOrder waiting inUser := by
  rcases right.ordered.queue with ⟨slots, queue⟩
  refine ⟨⟨slots, ?_, fun idx => ?_, queue.order⟩, right.conserved⟩
  · refine queue.queued.1.imp ?_
    rintro first second closer rfl
    exact absurd closer (Nat.lt_irrefl _)
  · constructor
    · intro member
      have inside := queue.queued.2 idx member
      exact ⟨inside, (queue.all idx inside).mpr member⟩
    · rintro ⟨inside, waits⟩
      exact (queue.all idx inside).mp waits

/-! ## The two pipelines -/

def St20pRxConfig.Possible (cfg : St20pRxConfig) (stat : St20pRxFrameStatus) : Prop :=
  stat = .free ∨ stat = cfg.waiting ∨ stat = .inUser ∨ cfg.pktConvert = true ∧ stat = .inConverting

theorem St20pRxConfig.waiting_cases (cfg : St20pRxConfig) :
    cfg.waiting = .converted ∨ cfg.waiting = .ready ∧ cfg.pktConvert = false := by
  unfold St20pRxConfig.waiting
  cases cfg.derive <;> cases cfg.pktConvert <;> simp

theorem St20pRxConfig.wanted_eq (cfg : St20pRxConfig) (possible : cfg.Possible cfg.wanted) :
    cfg.wanted = cfg.waiting := by
  unfold St20pRxConfig.Possible St20pRxConfig.wanted St20pRxConfig.waiting at *
  cases internal : cfg.internalConverter with
  | true =>
    have kind := cfg.converts internal
    simp [kind]
  | false =>
    rw [internal] at possible
    cases kind : cfg.derive || cfg.pktConvert with
    | true => simp
    | false =>
      simp only [kind] at possible
      simp at possible

/-- The transport's next buffer goes into a frame behind all that wait; a converted frame is the one
whose packets came. -/
def St20pRxInTurn (cfg : St20pRxConfig) (s : St20pRxCtx) : St20pRxInput -> Prop
  | .frameReady _ fm _ =>
    match rxSt20pPick cfg s fm with
    | .none => True
    | .wrong => False
    | .slot idx => s.InTurn cfg.waiting idx
  | _ => True

instance (cfg : St20pRxConfig) (s : St20pRxCtx) (input : St20pRxInput) :
    Decidable (St20pRxInTurn cfg s input) := by
  unfold St20pRxInTurn
  split
  · split <;> infer_instance
  · infer_instance

def St30pRxInTurn (s : St30pRxCtx) : St30pRxInput -> Prop
  | .frameReady _ _ =>
    match s.nextAvailable s.framebuffProducerIdx .free with
    | none => True
    | some idx => s.InTurn .ready idx
  | _ => True

instance (s : St30pRxCtx) (input : St30pRxInput) : Decidable (St30pRxInTurn s input) := by
  unfold St30pRxInTurn
  split
  · split <;> infer_instance
  · infer_instance

/-! ## Steps of the video pipeline -/

theorem St20pRxConfig.waiting_ne_inUser (cfg : St20pRxConfig) : cfg.waiting ≠ .inUser := by
  rcases cfg.waiting_cases with here | ⟨here, -⟩ <;> simp [here]

theorem St20pRxConfig.waiting_ne_free (cfg : St20pRxConfig) : cfg.waiting ≠ .free := by
  rcases cfg.waiting_cases with here | ⟨here, -⟩ <;> simp [here]

theorem St20pRxConfig.waiting_ne_inConverting (cfg : St20pRxConfig) :
    cfg.waiting ≠ .inConverting := by
  rcases cfg.waiting_cases with here | ⟨here, -⟩ <;> simp [here]

variable {cfg : St20pRxConfig} {v : St20pRxCtx}

theorem rxSt20pConvertingFrame_spec {timestamp : Nat} (inside : v.framebuffProducerIdx < v.framebuffCnt)
    (picked : rxSt20pConvertingFrame v timestamp = .slot idx) :
    idx < v.framebuffCnt ∧ (v.framebuffs idx).stat = .inConverting := by
  unfold rxSt20pConvertingFrame at picked
  cases first : v.nextAvailable v.framebuffProducerIdx .inConverting with
  | none => simp [first] at picked
  | some guess =>
    have guessed := nextAvailable_spec inside first
    cases second : v.nextAvailable guess .inConverting with
    | none =>
      simp only [first, second, ite_not] at picked
      split at picked
      · cases picked
        exact guessed
      · cases picked
    | some other =>
      have found := nextAvailable_spec guessed.1 second
      simp only [first, second, ite_not] at picked
      split at picked
      · cases picked
        exact guessed
      · split at picked
        · cases picked
          exact found
        · cases picked

theorem rxSt20pPick_spec {fm : RxFrameMeta} (inside : v.framebuffProducerIdx < v.framebuffCnt)
    (picked : rxSt20pPick cfg v fm = .slot idx) :
    idx < v.framebuffCnt ∧ (v.framebuffs idx).stat ≠ cfg.waiting ∧ (v.framebuffs idx).stat ≠ .inUser := by
  unfold rxSt20pPick at picked
  by_cases kind : cfg.pktConvert = true
  · rw [if_pos kind] at picked
    have found := rxSt20pConvertingFrame_spec inside picked
    refine ⟨found.1, ?_, ?_⟩
    · rw [found.2]
      exact cfg.waiting_ne_inConverting.symm
    · simp [found.2]
  · rw [if_neg kind] at picked
    cases first : v.nextAvailable v.framebuffProducerIdx .free with
    | none => simp [first] at picked
    | some other =>
      simp only [first, RxPick.slot.injEq] at picked
      subst picked
      have found := nextAvailable_spec inside first
      refine ⟨found.1, ?_, ?_⟩
      · rw [found.2]
        exact cfg.waiting_ne_free.symm
      · simp [found.2]

abbrev St20pRight (cfg : St20pRxConfig) (v : St20pRxCtx) : Prop :=
  v.Right cfg.Possible cfg.waiting .inUser

theorem rxSt20pFrameReady_right (right : St20pRight cfg v) {addr : Nat} {fm : RxFrameMeta}
    {ext : Except Errno Unit} (turn : St20pRxInTurn cfg v (.frameReady addr fm ext)) :
    St20pRight cfg (rxSt20pFrameReady cfg v addr fm ext).1 := by
  unfold rxSt20pFrameReady
  by_cases created : (!v.ready) = true
  · rw [if_pos created]
    exact right
  · rw [if_neg created]
    unfold St20pRxInTurn at turn
    dsimp only at turn
    cases picked : rxSt20pPick cfg v fm with
    | none => exact right.counted _
    | wrong =>
      rw [picked] at turn
      exact turn.elim
    | slot idx =>
      rw [picked] at turn
      rcases rxSt20pPick_spec right.ordered.producer picked with ⟨inside, unused, unheld⟩
      have accepted : St20pRight cfg (v.accept idx cfg.waiting addr fm) :=
        right.accept inside unused unheld turn (Or.inr (Or.inl rfl)) addr fm
      dsimp only
      cases cfg.dynamicExtFrame && !cfg.derive with
      | false => exact accepted
      | true =>
        cases ext with
        | error code => exact right
        | ok _ => exact accepted

theorem rxSt20pPacketConvert_right (right : St20pRight cfg v) (kind : cfg.pktConvert = true)
    (first : Bool) (timestamp : Nat) : St20pRight cfg (rxSt20pPacketConvert v first timestamp).1 := by
  unfold rxSt20pPacketConvert
  cases first with
  | false =>
    simp only [Bool.false_eq_true, if_false]
    cases rxSt20pConvertingFrame v timestamp with
    | none => exact right.counted _
    | wrong => exact right
    | slot _ => exact right
  | true =>
    simp only [if_true]
    cases found : v.nextAvailable v.framebuffProducerIdx .free with
    | none => exact right.counted _
    | some idx =>
      rcases nextAvailable_spec right.ordered.producer found with ⟨inside, here⟩
      refine ⟨?_, ?_, ?_, ?_⟩
      · refine right.ordered.setStat ?_ cfg.waiting_ne_inConverting.symm
        rw [here]
        exact cfg.waiting_ne_free.symm
      · refine right.conserved.unheld ?_ ?_ ?_ ?_
        · rw [here]
          exact cfg.waiting_ne_free.symm
        · simp [here]
        · exact cfg.waiting_ne_inConverting.symm
        · simp
      · exact possible_update right.possible (Or.inr (Or.inr (Or.inr ⟨kind, rfl⟩)))
      · exact outside_update right.outside inside

theorem rxSt20pStep_right (right : St20pRight cfg v) {input : St20pRxInput}
    (turn : St20pRxInTurn cfg v input) : St20pRight cfg (rxSt20pStep cfg v input) := by
  cases input with
  | packet first timestamp =>
    unfold rxSt20pStep
    by_cases kind : cfg.pktConvert = true
    · simp only [kind, if_true]
      exact rxSt20pPacketConvert_right right kind first timestamp
    · simp only [kind]
      exact right
  | frameReady addr fm ext => exact rxSt20pFrameReady_right right turn
  | getFrame =>
    exact right.getFrame cfg.wanted_eq cfg.waiting_ne_inUser.symm (Or.inr (Or.inr (Or.inl rfl)))
  | putFrame idx =>
    exact right.putFrame cfg.waiting_ne_inUser.symm cfg.waiting_ne_free.symm (by simp) (Or.inl rfl)

/-! ## Steps of the audio pipeline -/

/-- What holds of an audio pipeline in every state; its frames can have all states. -/
abbrev St30pRight (a : St30pRxCtx) : Prop := a.Right (fun _ => True) .ready .inUser

variable {a : St30pRxCtx}

theorem rxSt30pFrameReady_right (right : St30pRight a) {addr : Nat} {fm : RxFrameMeta}
    (turn : St30pRxInTurn a (.frameReady addr fm)) : St30pRight (rxSt30pFrameReady a addr fm).1 := by
  unfold rxSt30pFrameReady
  by_cases created : (!a.ready) = true
  · rw [if_pos created]
    exact right
  · rw [if_neg created]
    unfold St30pRxInTurn at turn
    dsimp only at turn
    cases found : a.nextAvailable a.framebuffProducerIdx .free with
    | none => exact right.counted _
    | some idx =>
      rw [found] at turn
      rcases nextAvailable_spec right.ordered.producer found with ⟨inside, here⟩
      exact right.accept inside (by simp [here]) (by simp [here]) turn trivial addr fm

theorem rxSt30pStep_right (right : St30pRight a) {input : St30pRxInput} (turn : St30pRxInTurn a input) :
    St30pRight (rxSt30pStep a input) := by
  cases input with
  | frameReady addr fm => exact rxSt30pFrameReady_right right turn
  | getFrame => exact right.getFrame (fun _ => rfl) (by simp) trivial
  | putFrame idx => exact right.putFrame (by simp) (by simp) (by simp) trivial

/-! ## Runs of the pipelines -/

/-- As long as each buffer is accepted behind the frames that wait, the application gets the frames in
the order of acceptance, and the transport gets every buffer back once. -/
theorem rx_pipelines_deliver_in_order (cfg : St20pRxConfig) (inputs : List St20pRxInput) (framebuffCnt : Nat)
    (audioInputs : List St30pRxInput) :
    (Admitted (rxSt20pStep cfg) (St20pRxInTurn cfg) (rxSt20pInit cfg) inputs ->
      (run (rxSt20pStep cfg) (rxSt20pInit cfg) inputs).DeliversInOrder cfg.waiting .inUser) ∧
    (0 < framebuffCnt -> Admitted rxSt30pStep St30pRxInTurn (rxSt30pInit framebuffCnt) audioInputs ->
      (run rxSt30pStep (rxSt30pInit framebuffCnt) audioInputs).DeliversInOrder .ready .inUser) := by
  constructor
  · intro admitted
    have initially : St20pRight cfg (rxSt20pInit cfg) :=
      init_right cfg.framed cfg.waiting_ne_free.symm (by simp) (Or.inl rfl)
    exact (run_invariant _ _ (St20pRight cfg) (fun _ _ right turn => rxSt20pStep_right right turn)
      initially admitted).delivers
  · intro framed admitted
    have initially : St30pRight (rxSt30pInit framebuffCnt) :=
      init_right framed (by simp) (by simp) trivial
    exact (run_invariant _ _ St30pRight (fun _ _ right turn => rxSt30pStep_right right turn)
      initially admitted).delivers

/-- Three frames of the transport as they are. -/
def threeFrames : St20pRxConfig where
  framebuffCnt := 3
  derive := true
  pktConvert := false
  internalConverter := false
  dynamicExtFrame := false
  framed := Nat.succ_pos 2
  converts := by decide

def plainFrame (timestamp : Nat) : RxFrameMeta := ⟨timestamp, false⟩

/-- Four buffers on three frames: the second frame comes back before the first one, and each new buffer
is accepted behind the frames that wait. -/
def secondFrameFirst : List St20pRxInput :=
  [.frameReady 10 (plainFrame 1) (.ok ()), .frameReady 11 (plainFrame 2) (.ok ()), .getFrame, .getFrame,
    .putFrame 1, .frameReady 12 (plainFrame 3) (.ok ()), .putFrame 0, .getFrame,
    .frameReady 13 (plainFrame 4) (.ok ()), .putFrame 2, .getFrame]

def secondAudioFrameFirst : List St30pRxInput :=
  [.frameReady 10 (plainFrame 1), .frameReady 11 (plainFrame 2), .getFrame, .getFrame, .putFrame 1,
    .frameReady 12 (plainFrame 3), .putFrame 0, .getFrame, .frameReady 13 (plainFrame 4), .putFrame 2,
    .getFrame]

theorem frame_by_frame_delivers :
    ((run (rxSt20pStep threeFrames) (rxSt20pInit threeFrames) secondFrameFirst).DeliversInOrder
        .converted .inUser ∧
      (run rxSt30pStep (rxSt30pInit 3) secondAudioFrameFirst).DeliversInOrder .ready .inUser) ∧
      (run (rxSt20pStep threeFrames) (rxSt20pInit threeFrames) secondFrameFirst).delivered =
        [10, 11, 12, 13] ∧
      (run rxSt30pStep (rxSt30pInit 3) secondAudioFrameFirst).delivered = [10, 11, 12, 13] :=
  have inOrder := rx_pipelines_deliver_in_order threeFrames secondFrameFirst 3 secondAudioFrameFirst
  ⟨⟨inOrder.1 (by decide +kernel), inOrder.2 (by decide) (by decide +kernel)⟩,
    by decide +kernel, by decide +kernel⟩

/-- Of three frames the last one comes back first and takes the fourth buffer, then the first one
takes the fifth. -/
def lastFrameFirst : List St30pRxInput :=
  [.frameReady 10 (plainFrame 1), .frameReady 11 (plainFrame 2), .frameReady 12 (plainFrame 3),
    .getFrame, .getFrame, .getFrame, .putFrame 2, .frameReady 13 (plainFrame 4), .putFrame 0,
    .frameReady 14 (plainFrame 5), .getFrame]

def lastVideoFrameFirst : List St20pRxInput :=
  [.frameReady 10 (plainFrame 1) (.ok ()), .frameReady 11 (plainFrame 2) (.ok ()),
    .frameReady 12 (plainFrame 3) (.ok ()), .getFrame, .getFrame, .getFrame, .putFrame 2,
    .frameReady 13 (plainFrame 4) (.ok ()), .putFrame 0, .frameReady 14 (plainFrame 5) (.ok ()),
    .getFrame]

theorem RxCtx.DeliversInOrder.isPrefix (delivers : s.DeliversInOrder waiting inUser) :
    s.delivered <+: s.accepted := by
  rcases delivers.1 with ⟨slots, -, -, order⟩
  exact ⟨_, order.symm⟩

/-- The application gets the fifth frame before the fourth. -/
theorem fifth_frame_before_fourth :
    ¬ (forall (cfg : St20pRxConfig) (inputs : List St20pRxInput),
      (run (rxSt20pStep cfg) (rxSt20pInit cfg) inputs).DeliversInOrder cfg.waiting .inUser) ∧
    ¬ (forall (framebuffCnt : Nat) (inputs : List St30pRxInput), 0 < framebuffCnt ->
      (run rxSt30pStep (rxSt30pInit framebuffCnt) inputs).DeliversInOrder .ready .inUser) := by
  constructor
  · intro all
    have beginning := (all threeFrames lastVideoFrameFirst).isPrefix
    have out_of_order : ¬ [10, 11, 12, 14] <+: [10, 11, 12, 13, 14] := by decide
    exact out_of_order beginning
  · intro all
    have beginning := (all 3 lastFrameFirst (by decide)).isPrefix
    have out_of_order : ¬ [10, 11, 12, 14] <+: [10, 11, 12, 13, 14] := by decide
    exact out_of_order beginning

end MediaTransport.Pipeline
