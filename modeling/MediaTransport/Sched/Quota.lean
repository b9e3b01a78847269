import MediaTransport.Sched.Schedulers

namespace MediaTransport.Sched

open Library

/-!
# Quotas and counts of shared schedulers

A caller has its quota in the total of its scheduler from the step that adds it to the
step that returns it, and is counted from the increment to the decrement.  Nothing but
the moments at which a put stops and frees a scheduler, and at which the type of an
idle scheduler changes, stands against the accounts.
-/

variable (s : SchState)

variable {after sch : MtlSchImpl} {idx : Nat} {lock : Option Nat} {phase : SchPhase}

/-! ## Where a call stands -/

variable (call : SchCall)

/-- The call is in the part of a get that the manager's lock covers. -/
def SchPhase.inside : SchPhase -> Bool
  | .scan | .capable | .add | .request | .addFresh | .start | .undo | .count => true
  | _ => false

def SchPhase.entering : SchPhase -> Bool
  | .addFresh | .start | .count => true
  | _ => false

def SchPhase.adds : SchPhase -> Bool
  | .start | .count | .holding => true
  | _ => false

def SchPhase.counts : SchPhase -> Bool
  | .holding | .drop => true
  | _ => false

def SchPhase.opens : SchPhase -> Bool
  | .addFresh | .start => true
  | _ => false

def SchPhase.closes : SchPhase -> Bool
  | .stop | .free => true
  | _ => false

/-- The scheduler was found or made to be of the type that is asked for. -/
def SchPhase.tested : SchPhase -> Bool
  | .add | .addFresh | .start | .count | .holding => true
  | _ => false

def SchPhase.uses (phase : SchPhase) : Bool :=
  phase.entering || phase.counts || phase.closes

def SchCall.share (idx : Nat) (call : SchCall) : Int :=
  if call.phase.adds && decide (call.idx = idx) then call.request.quotaMbs else 0

/-- The call is one of those that `ref_cnt` of a scheduler counts. -/
def SchCall.counted (idx : Nat) (call : SchCall) : Bool :=
  call.phase.counts && decide (call.idx = idx)

def SchCall.still (idx : Nat) (call : SchCall) : Bool :=
  (call.phase.opens || decide (call.phase = .free)) && decide (call.idx = idx)

/-! ## What is promised -/

/-- The accounts of every active scheduler are right, its limit is passed only for a single quota that
passes it, quotas of one scheduler are of one type, and what is held is active and runs. -/
structure SchState.QuotaRight (s : SchState) : Prop where
  total : forall (idx : Nat) (sch : MtlSchImpl), s.schs[idx]? = some sch -> sch.active = true ->
    sch.dataQuotaMbsTotal = (s.calls.map (SchCall.share idx)).sum
  refs : forall (idx : Nat) (sch : MtlSchImpl), s.schs[idx]? = some sch -> sch.active = true ->
    sch.refCnt = s.calls.countP (SchCall.counted idx)
  limited : forall (idx : Nat) (sch : MtlSchImpl), s.schs[idx]? = some sch -> sch.active = true ->
    sch.dataQuotaMbsTotal = 0 ∨ sch.dataQuotaMbsTotal ≤ sch.dataQuotaMbsLimit ∨
      exists call, call ∈ s.calls ∧ call.phase.adds = true ∧ call.idx = idx ∧
        sch.dataQuotaMbsLimit < call.request.quotaMbs
  sameType : forall one other, one ∈ s.calls -> other ∈ s.calls -> one.phase.adds = true ->
    other.phase.adds = true -> one.idx = other.idx -> one.request.quotaMbs ≠ 0 ->
    other.request.quotaMbs ≠ 0 -> one.request.type = other.request.type
  kept : ∀ call ∈ s.calls, call.phase = .holding ->
    exists sch, s.schs[call.idx]? = some sch ∧ sch.active = true ∧
      (s.implStarted = true -> sch.started = true)

/-- No quota is added to a scheduler that the last put is about to free, nor beyond an `int`. -/
def SchState.AddSafe (call : SchCall) (sch : MtlSchImpl) : Prop :=
  sch.active = true -> sch.hasRoom call.request.quotaMbs ->
    (∀ other ∈ s.calls, other.phase.closes = true -> other.idx ≠ call.idx) ∧
      sch.dataQuotaMbsTotal + call.request.quotaMbs < 2147483648

/-- No put resets the type of a scheduler that a get has tested and has not added its quota to. -/
def SchState.PutSafe (call : SchCall) (sch : MtlSchImpl) : Prop :=
  (schFreeQuota sch call.request.quotaMbs).type ≠ sch.type ->
    ∀ other ∈ s.calls, other.phase = .add -> other.request.quotaMbs ≠ 0 -> other.idx ≠ call.idx

/-- No put drops the count to zero while a get has the scheduler and has not counted itself. -/
def SchState.DropSafe (call : SchCall) (sch : MtlSchImpl) : Prop :=
  sch.refCnt = 1 ->
    ∀ other ∈ s.calls, other.phase.entering = true -> other.idx ≠ call.idx

instance (s : SchState) (call : SchCall) (sch : MtlSchImpl) : Decidable (s.AddSafe call sch) :=
  inferInstanceAs (Decidable (_ -> _ -> _ ∧ _))

instance (s : SchState) (call : SchCall) (sch : MtlSchImpl) : Decidable (s.PutSafe call sch) :=
  inferInstanceAs (Decidable (_ -> _))

instance (s : SchState) (call : SchCall) (sch : MtlSchImpl) : Decidable (s.DropSafe call sch) :=
  inferInstanceAs (Decidable (_ -> _))

def SchState.StepSafe (call : SchCall) (sch : MtlSchImpl) : Prop :=
  (call.phase = .add -> s.AddSafe call sch) ∧ (call.phase = .drop -> s.DropSafe call sch)

instance (s : SchState) (call : SchCall) (sch : MtlSchImpl) : Decidable (s.StepSafe call sch) :=
  inferInstanceAs (Decidable (_ ∧ _))

def QuotaSafe (s : SchState) : QuotaInput -> Prop
  | .advance k =>
    ∀ call ∈ s.calls[k]?, ∀ sch ∈ s.schs[call.idx]?, s.StepSafe call sch
  | .put k =>
    ∀ call ∈ s.calls[k]?, ∀ sch ∈ s.schs[call.idx]?, s.PutSafe call sch
  | _ => True

instance (s : SchState) : (input : QuotaInput) -> Decidable (QuotaSafe s input)
  | .advance k =>
    inferInstanceAs (Decidable (∀ call ∈ s.calls[k]?,
      ∀ sch ∈ s.schs[call.idx]?, s.StepSafe call sch))
  | .put k =>
    inferInstanceAs (Decidable (∀ call ∈ s.calls[k]?,
      ∀ sch ∈ s.schs[call.idx]?, s.PutSafe call sch))
  | .get _ | .busy _ _ => inferInstanceAs (Decidable True)

/-! ## The invariant -/

def SchState.Alone (k idx : Nat) : Prop :=
  forall (j : Nat) (other : SchCall), j ≠ k -> s.calls[j]? = some other -> other.idx = idx ->
    other.phase.uses = false

/-- What the accounts rest on: a call that opens or closes a scheduler is alone on it. -/
structure SchState.Sound (s : SchState) : Prop where
  total : forall (idx : Nat) (sch : MtlSchImpl), s.schs[idx]? = some sch ->
    sch.dataQuotaMbsTotal = (s.calls.map (SchCall.share idx)).sum
  refs : forall (idx : Nat) (sch : MtlSchImpl), s.schs[idx]? = some sch ->
    sch.refCnt = s.calls.countP (SchCall.counted idx)
  bounded : forall (idx : Nat) (sch : MtlSchImpl), s.schs[idx]? = some sch ->
    sch.dataQuotaMbsTotal < 2147483648
  used : forall (k : Nat) (call : SchCall), s.calls[k]? = some call -> call.phase.uses = true ->
    exists sch, s.schs[call.idx]? = some sch ∧ sch.active = true
  alone : forall (k : Nat) (call : SchCall), s.calls[k]? = some call ->
    (call.phase.opens || call.phase.closes) = true -> s.Alone k call.idx
  locked : forall (k : Nat) (call : SchCall), s.calls[k]? = some call -> call.phase.inside = true ->
    s.mgrLock = some k
  limited : forall (idx : Nat) (sch : MtlSchImpl), s.schs[idx]? = some sch ->
    sch.dataQuotaMbsTotal = 0 ∨ sch.dataQuotaMbsTotal ≤ sch.dataQuotaMbsLimit ∨
      exists (k : Nat) (call : SchCall), s.calls[k]? = some call ∧ call.phase.adds = true ∧
        call.idx = idx ∧ (call.request.quotaMbs : Int) = sch.dataQuotaMbsTotal
  typed : forall (k : Nat) (call : SchCall) (sch : MtlSchImpl), s.calls[k]? = some call ->
    s.schs[call.idx]? = some sch -> call.phase.tested = true ->
    call.request.quotaMbs ≠ 0 -> sch.type = call.request.type
  started : forall (idx : Nat) (sch : MtlSchImpl), s.schs[idx]? = some sch ->
    (sch.started = true ↔ sch.active = true ∧ s.implStarted = true ∧
      forall (k : Nat) (call : SchCall), s.calls[k]? = some call -> call.still idx = false)
  fine : forall (k : Nat) (call : SchCall), s.calls[k]? = some call -> call.phase ≠ .undo

theorem SchState.Sound.init (count : Nat) (limit : Int) (implStarted : Bool) :
    (schInit count limit implStarted).Sound := by
  have blank : forall (idx : Nat) (sch : MtlSchImpl),
      (schInit count limit implStarted).schs[idx]? = some sch ->
      sch = ⟨.default, false, 0, 0, limit, false, false, 0, none⟩ := by
    intro idx sch present
    exact (List.mem_replicate.mp (List.mem_of_getElem? present)).2
  constructor
  · intro idx sch present
    rw [blank idx sch present]
    rfl
  · intro idx sch present
    rw [blank idx sch present]
    rfl
  · intro idx sch present
    rw [blank idx sch present]
    norm_num
  · intro k call found
    cases found
  · intro k call found
    cases found
  · intro k call found
    cases found
  · intro idx sch present
    rw [blank idx sch present]
    exact .inl rfl
  · intro k call sch found
    cases found
  · intro idx sch present
    rw [blank idx sch present]
    simp
  · intro k call found
    cases found

theorem tested_of_adds (adds : phase.adds = true) : phase.tested = true := by
  cases phase <;> simp [SchPhase.adds] at adds <;> rfl

theorem SchState.Sound.right {s : SchState} (sound : s.Sound) : s.QuotaRight := by
  constructor
  · intro idx sch present _
    exact sound.total idx sch present
  · intro idx sch present _
    exact sound.refs idx sch present
  · intro idx sch present _
    rcases sound.limited idx sch present with zero | within | ⟨k, call, found, adds, place, whole⟩
    · exact .inl zero
    · exact .inr (.inl within)
    · by_cases within : sch.dataQuotaMbsTotal ≤ sch.dataQuotaMbsLimit
      · exact .inr (.inl within)
      · exact .inr (.inr ⟨call, List.mem_of_getElem? found, adds, place, by omega⟩)
  · intro one other oneMember otherMember oneAdds otherAdds place oneQuota otherQuota
    rcases List.mem_iff_getElem?.mp oneMember with ⟨k, foundOne⟩
    rcases List.mem_iff_getElem?.mp otherMember with ⟨j, foundOther⟩
    have uses : one.phase.uses = true := by
      cases phase : one.phase <;> simp [phase, SchPhase.adds] at oneAdds <;> rfl
    rcases sound.used k one foundOne uses with ⟨sch, present, -⟩
    have first := sound.typed k one sch foundOne present (tested_of_adds oneAdds) oneQuota
    have second := sound.typed j other sch foundOther (place ▸ present) (tested_of_adds otherAdds) otherQuota
    exact first.symm.trans second
  · intro call member holding
    rcases List.mem_iff_getElem?.mp member with ⟨k, found⟩
    have uses : call.phase.uses = true := by rw [holding]; rfl
    rcases sound.used k call found uses with ⟨sch, present, active⟩
    refine ⟨sch, present, active, ?_⟩
    intro running
    apply (sound.started call.idx sch present).mpr
    refine ⟨active, running, ?_⟩
    intro j other foundOther
    by_contra still
    rw [Bool.not_eq_false] at still
    simp only [SchCall.still, Bool.and_eq_true, decide_eq_true_eq, Bool.or_eq_true] at still
    have solo := sound.alone j other foundOther (by
      rcases still.1 with opens | free
      · simp [opens]
      · simp [free, SchPhase.closes])
    have apart : k ≠ j := by
      intro same
      subst same
      obtain rfl : call = other := Option.some.inj (found.symm.trans foundOther)
      simp [holding, SchPhase.opens] at still
    rw [solo k call apart found still.2.symm] at uses
    cases uses


/-! ## What a call relies on -/

theorem uses_of_adds (adds : phase.adds = true) : phase.uses = true := by
  cases phase <;> simp [SchPhase.adds] at adds <;> rfl

theorem uses_of_counts (counts : phase.counts = true) : phase.uses = true := by
  simp [SchPhase.uses, counts]

theorem uses_of_opens_or_closes (ends : (phase.opens || phase.closes) = true) :
    phase.uses = true := by
  cases phase <;> simp [SchPhase.opens, SchPhase.closes] at ends <;> rfl

theorem SchCall.still_spec {call : SchCall} (still : call.still idx = true) :
    call.idx = idx ∧ (call.phase.opens || call.phase.closes) = true := by
  unfold SchCall.still at still
  rw [Bool.and_eq_true, decide_eq_true_eq, Bool.or_eq_true, decide_eq_true_eq] at still
  refine ⟨still.2, ?_⟩
  rcases still.1 with opens | free
  · rw [opens]
    rfl
  · rw [free]
    rfl

theorem SchCall.share_eq_zero (off : call.phase.uses = true -> call.idx ≠ idx) :
    call.share idx = 0 := by
  apply if_neg
  rw [Bool.and_eq_true, decide_eq_true_eq]
  rintro ⟨adds, place⟩
  exact off (uses_of_adds adds) place

theorem SchCall.counted_eq_false (off : call.phase.uses = true -> call.idx ≠ idx)
    : call.counted idx = false := by
  by_contra counted
  rw [Bool.not_eq_false] at counted
  unfold SchCall.counted at counted
  rw [Bool.and_eq_true, decide_eq_true_eq] at counted
  exact off (uses_of_counts counted.1) counted.2

theorem SchCall.still_eq_false {call : SchCall}
    (off : call.phase.uses = true -> call.idx ≠ idx) : call.still idx = false := by
  by_contra still
  rw [Bool.not_eq_false] at still
  rcases SchCall.still_spec still with ⟨place, ends⟩
  exact off (uses_of_opens_or_closes ends) place

/-! ## One step keeps the invariant -/

/-- What a step of a call on its scheduler has to answer for; nothing else changes. -/
structure SchState.Change (s : SchState) (k : Nat) (call : SchCall) (phase : SchPhase)
    (sch after : MtlSchImpl) (lock : Option Nat) : Prop where
  total : after.dataQuotaMbsTotal + call.share call.idx =
    sch.dataQuotaMbsTotal + SchCall.share call.idx { call with phase := phase }
  refs : after.refCnt + (call.counted call.idx).toNat =
    sch.refCnt + (SchCall.counted call.idx { call with phase := phase }).toNat
  bounded : after.dataQuotaMbsTotal < 2147483648
  active : after.active = true ∨ (phase.uses = false ∧ s.Alone k call.idx)
  joins : phase.uses = true -> forall (j : Nat) (other : SchCall), j ≠ k -> s.calls[j]? = some other ->
    other.idx = call.idx -> (other.phase.opens || other.phase.closes) = false
  alone : (phase.opens || phase.closes) = true -> s.Alone k call.idx
  locked : phase.inside = true -> lock = some k
  lock : lock = s.mgrLock ∨ call.phase.inside = true
  limited : after.dataQuotaMbsTotal = 0 ∨ after.dataQuotaMbsTotal ≤ after.dataQuotaMbsLimit ∨
    (phase.adds = true ∧ (call.request.quotaMbs : Int) = after.dataQuotaMbsTotal) ∨
    exists (j : Nat) (other : SchCall), j ≠ k ∧ s.calls[j]? = some other ∧ other.phase.adds = true ∧
      other.idx = call.idx ∧ (other.request.quotaMbs : Int) = after.dataQuotaMbsTotal
  typed : phase.tested = true -> call.request.quotaMbs ≠ 0 -> after.type = call.request.type
  retyped : after.type = sch.type ∨ forall (j : Nat) (other : SchCall), j ≠ k -> s.calls[j]? = some other ->
    other.idx = call.idx -> other.phase.tested = true -> other.request.quotaMbs = 0
  started : after.started = true ↔ after.active = true ∧ s.implStarted = true ∧
    SchCall.still call.idx { call with phase := phase } = false ∧
    forall (j : Nat) (other : SchCall), j ≠ k -> s.calls[j]? = some other -> other.still call.idx = false
  fine : phase ≠ .undo

section GoOn

variable {s : SchState} (sound : s.Sound) {k : Nat} {call : SchCall} (found : s.calls[k]? = some call)
  (present : s.schs[call.idx]? = some sch) (change : s.Change k call phase sch after lock)

include sound found present change

/-- The total of the own scheduler moves by the own share, and no other does. -/
theorem SchState.Sound.goOn_total (one : MtlSchImpl)
    (presentOne : (s.goOn k call after phase).schs[idx]? = some one) :
    one.dataQuotaMbsTotal = ((s.goOn k call after phase).calls.map (SchCall.share idx)).sum := by
  have moved := sum_replace (SchCall.share idx) found { call with phase := phase }
  show one.dataQuotaMbsTotal = ((s.calls.set k { call with phase := phase }).map (SchCall.share idx)).sum
  rcases getElem?_replace_cases present presentOne with ⟨rfl, rfl⟩ | ⟨apart, old⟩
  · have before := sound.total call.idx sch present
    have own := change.total
    omega
  · have before := sound.total idx one old
    rw [SchCall.share_eq_zero call (fun _ => Ne.symm apart),
      SchCall.share_eq_zero { call with phase := phase } (fun _ => Ne.symm apart)] at moved
    omega

/-- The same for the counts. -/
theorem SchState.Sound.goOn_refs (one : MtlSchImpl)
    (presentOne : (s.goOn k call after phase).schs[idx]? = some one) :
    one.refCnt = (s.goOn k call after phase).calls.countP (SchCall.counted idx) := by
  have moved := countP_replace (SchCall.counted idx) found { call with phase := phase }
  show one.refCnt = (s.calls.set k { call with phase := phase }).countP (SchCall.counted idx)
  rcases getElem?_replace_cases present presentOne with ⟨rfl, rfl⟩ | ⟨apart, old⟩
  · have before := sound.refs call.idx sch present
    have own := change.refs
    omega
  · have before := sound.refs idx one old
    rw [SchCall.counted_eq_false call (fun _ => Ne.symm apart),
      SchCall.counted_eq_false { call with phase := phase } (fun _ => Ne.symm apart)] at moved
    rw [before]
    exact_mod_cast moved.symm

variable {j : Nat} {other : SchCall} (foundOther : (s.goOn k call after phase).calls[j]? = some other)

include foundOther

theorem SchState.Sound.goOn_used (uses : other.phase.uses = true) :
    exists one, (s.goOn k call after phase).schs[other.idx]? = some one ∧ one.active = true := by
  show exists one, (s.schs.set call.idx after)[other.idx]? = some one ∧ one.active = true
  rw [getElem?_replace present]
  rcases getElem?_replace_cases found foundOther with ⟨rfl, rfl⟩ | ⟨apart, old⟩
  · refine ⟨after, if_pos rfl, ?_⟩
    rcases change.active with active | ⟨unused, -⟩
    · exact active
    · rw [show phase.uses = true from uses] at unused
      cases unused
  · by_cases same : other.idx = call.idx
    · refine ⟨after, if_pos same, ?_⟩
      rcases change.active with active | ⟨-, alone⟩
      · exact active
      · rw [alone j other apart old same] at uses
        cases uses
    · rw [if_neg same]
      exact sound.used j other old uses

omit present in
theorem SchState.Sound.goOn_alone (ends : (other.phase.opens || other.phase.closes) = true) :
    (s.goOn k call after phase).Alone j other.idx := by
  intro i third apartThird foundThird place
  rcases getElem?_replace_cases found foundOther with ⟨rfl, rfl⟩ | ⟨apart, old⟩
  · rcases getElem?_replace_cases found foundThird with ⟨same, -⟩ | ⟨-, oldThird⟩
    · exact absurd same apartThird
    · exact change.alone ends i third apartThird oldThird place
  · rcases getElem?_replace_cases found foundThird with ⟨rfl, rfl⟩ | ⟨-, oldThird⟩
    · by_contra uses
      rw [Bool.not_eq_false] at uses
      rw [change.joins uses j other apart old place.symm] at ends
      cases ends
    · exact sound.alone j other old ends i third apartThird oldThird place

omit present in
theorem SchState.Sound.goOn_locked (inside : other.phase.inside = true) : lock = some j := by
  rcases getElem?_replace_cases found foundOther with ⟨rfl, rfl⟩ | ⟨apart, old⟩
  · exact change.locked inside
  · have holder := sound.locked j other old inside
    rcases change.lock with same | mineInside
    · exact same.trans holder
    · have clash := (sound.locked k call found mineInside).symm.trans holder
      exact absurd (Option.some.inj clash).symm apart

theorem SchState.Sound.goOn_typed {one : MtlSchImpl}
    (presentOne : (s.goOn k call after phase).schs[other.idx]? = some one)
    (tested : other.phase.tested = true) (quota : other.request.quotaMbs ≠ 0) :
    one.type = other.request.type := by
  rcases getElem?_replace_cases found foundOther with ⟨rfl, rfl⟩ | ⟨apart, old⟩
  · rcases getElem?_replace_cases present presentOne with ⟨-, rfl⟩ | ⟨differs, -⟩
    · exact change.typed tested quota
    · exact absurd rfl differs
  · rcases getElem?_replace_cases present presentOne with ⟨same, rfl⟩ | ⟨-, oldOne⟩
    · rcases change.retyped with kept | idle
      · rw [kept]
        exact sound.typed j other sch old (same ▸ present) tested quota
      · exact absurd (idle j other apart old same tested) quota
    · exact sound.typed j other one old oldOne tested quota

omit foundOther

theorem SchState.Sound.goOn_limited (one : MtlSchImpl)
    (presentOne : (s.goOn k call after phase).schs[idx]? = some one) :
    one.dataQuotaMbsTotal = 0 ∨ one.dataQuotaMbsTotal ≤ one.dataQuotaMbsLimit ∨
      exists (j : Nat) (other : SchCall), (s.goOn k call after phase).calls[j]? = some other ∧
        other.phase.adds = true ∧ other.idx = idx ∧
        (other.request.quotaMbs : Int) = one.dataQuotaMbsTotal := by
  have mine : (s.calls.set k { call with phase := phase })[k]? = some { call with phase := phase } := by
    rw [getElem?_replace found, if_pos rfl]
  have others : forall (j : Nat) (other : SchCall), j ≠ k -> s.calls[j]? = some other ->
      (s.calls.set k { call with phase := phase })[j]? = some other :=
    fun j other apart old => (getElem?_replace found _ j).trans ((if_neg apart).trans old)
  rcases getElem?_replace_cases present presentOne with ⟨rfl, rfl⟩ | ⟨apart, old⟩
  · rcases change.limited with zero | within | ⟨adds, whole⟩ | ⟨j, other, other_ne, old, adds, place, whole⟩
    · exact .inl zero
    · exact .inr (.inl within)
    · exact .inr (.inr ⟨k, _, mine, adds, rfl, whole⟩)
    · exact .inr (.inr ⟨j, other, others j other other_ne old, adds, place, whole⟩)
  · rcases sound.limited idx one old with zero | within | ⟨j, other, foundOther, adds, place, whole⟩
    · exact .inl zero
    · exact .inr (.inl within)
    · have other_ne : j ≠ k := by
        intro same
        subst same
        obtain rfl : call = other := Option.some.inj (found.symm.trans foundOther)
        exact apart place.symm
      exact .inr (.inr ⟨j, other, others j other other_ne foundOther, adds, place, whole⟩)

/-- A scheduler runs from its start to its stop: the own one by what the step answers for, another one
because the call does not stop it. -/
theorem SchState.Sound.goOn_started (one : MtlSchImpl)
    (presentOne : (s.goOn k call after phase).schs[idx]? = some one) :
    one.started = true ↔ one.active = true ∧ s.implStarted = true ∧
      forall (j : Nat) (other : SchCall), (s.goOn k call after phase).calls[j]? = some other ->
        other.still idx = false := by
  have rest : (forall (j : Nat) (other : SchCall), (s.goOn k call after phase).calls[j]? = some other ->
      other.still idx = false) ↔ SchCall.still idx { call with phase := phase } = false ∧
        forall (j : Nat) (other : SchCall), j ≠ k -> s.calls[j]? = some other -> other.still idx = false := by
    constructor
    · intro all
      refine ⟨all k _ ((getElem?_replace found _ k).trans (if_pos rfl)), fun j other apart old => ?_⟩
      exact all j other ((getElem?_replace found _ j).trans ((if_neg apart).trans old))
    · rintro ⟨own, others⟩ j other foundOther
      rcases getElem?_replace_cases found foundOther with ⟨-, rfl⟩ | ⟨apart, old⟩
      · exact own
      · exact others j other apart old
  rw [rest]
  rcases getElem?_replace_cases present presentOne with ⟨rfl, rfl⟩ | ⟨apart, old⟩
  · exact change.started
  · have ownAfter : SchCall.still idx { call with phase := phase } = false :=
      SchCall.still_eq_false (fun _ => Ne.symm apart)
    rw [sound.started idx one old]
    refine and_congr_right fun _ => and_congr_right fun _ => ⟨fun all => ?_, fun both j other old => ?_⟩
    · exact ⟨ownAfter, fun j other _ old => all j other old⟩
    · by_cases same : j = k
      · subst same
        obtain rfl : call = other := Option.some.inj (found.symm.trans old)
        exact SchCall.still_eq_false (fun _ => Ne.symm apart)
      · exact both.2 j other same old

/-- A call that goes on keeps the invariant when it answers for its own step. -/
theorem SchState.Sound.goOn :
    SchState.Sound { s.goOn k call after phase with mgrLock := lock } where
  total idx one presentOne := sound.goOn_total found present change one presentOne
  refs idx one presentOne := sound.goOn_refs found present change one presentOne
  bounded idx one presentOne := by
    rcases getElem?_replace_cases present presentOne with ⟨-, rfl⟩ | ⟨-, old⟩
    · exact change.bounded
    · exact sound.bounded idx one old
  used j other foundOther := sound.goOn_used found present change foundOther
  alone j other foundOther := sound.goOn_alone found change foundOther
  locked j other foundOther := sound.goOn_locked found change foundOther
  limited idx one presentOne := sound.goOn_limited found present change one presentOne
  typed j other one foundOther presentOne := sound.goOn_typed found present change foundOther presentOne
  started idx one presentOne := sound.goOn_started found present change one presentOne
  fine j other foundOther := by
    rcases getElem?_replace_cases found foundOther with ⟨-, rfl⟩ | ⟨-, old⟩
    · exact change.fine
    · exact sound.fine j other old

end GoOn

/-- A phase in which a call weighs nothing on its scheduler and stops nobody else. -/
def SchPhase.light (phase : SchPhase) : Bool :=
  !phase.adds && !phase.counts && !phase.opens && !phase.closes

theorem SchPhase.light_spec (light : phase.light = true) :
    phase.adds = false ∧ phase.counts = false ∧ phase.opens = false ∧ phase.closes = false := by
  simpa [SchPhase.light, and_assoc] using light

/-- A phase in which a call has not taken to any scheduler. -/
def SchPhase.looks : SchPhase -> Bool
  | .waiting | .scan | .request | .refused => true
  | _ => false

theorem SchPhase.looks_spec (looks : phase.looks = true) :
    phase.light = true ∧ phase.uses = false ∧ phase.tested = false ∧ phase ≠ .undo := by
  revert looks
  cases phase <;> decide

theorem SchCall.weightless (light : call.phase.light = true) (idx : Nat) :
    call.share idx = 0 ∧ call.counted idx = false ∧ call.still idx = false := by
  rcases SchPhase.light_spec light with ⟨adds, counts, opens, closes⟩
  have open_ : call.phase ≠ .free := by
    intro free
    rw [free] at closes
    cases closes
  simp [SchCall.share, SchCall.counted, SchCall.still, adds, counts, opens, open_]

/-- Light calls may come and turn to other schedulers. -/
theorem SchState.Sound.lightly {s : SchState} (sound : s.Sound) {calls : List SchCall}
    (total : forall idx, (calls.map (SchCall.share idx)).sum = (s.calls.map (SchCall.share idx)).sum)
    (refs : forall idx, calls.countP (SchCall.counted idx) = s.calls.countP (SchCall.counted idx))
    (known : forall (j : Nat) (other : SchCall), calls[j]? = some other ->
      other.phase.looks = true ∨ s.calls[j]? = some other)
    (kept : forall (j : Nat) (other : SchCall), s.calls[j]? = some other ->
      other.phase.light = true ∨ calls[j]? = some other)
    (locked : forall (j : Nat) (other : SchCall), calls[j]? = some other -> other.phase.inside = true ->
      lock = some j) :
    SchState.Sound { s with calls := calls, mgrLock := lock } where
  total idx sch present := (sound.total idx sch present).trans (total idx).symm
  refs idx sch present := (sound.refs idx sch present).trans (congrArg _ (refs idx).symm)
  bounded := sound.bounded
  used j other found uses := by
    rcases known j other found with looks | old
    · rw [(SchPhase.looks_spec looks).2.1] at uses
      cases uses
    · exact sound.used j other old uses
  alone j other found ends i third apart foundThird place := by
    rcases known i third foundThird with looks | oldThird
    · exact (SchPhase.looks_spec looks).2.1
    · rcases known j other found with looks | old
      · have unused := (SchPhase.looks_spec looks).2.1
        rw [uses_of_opens_or_closes ends] at unused
        cases unused
      · exact sound.alone j other old ends i third apart oldThird place
  locked := locked
  limited idx sch present := by
    rcases sound.limited idx sch present with zero | within | ⟨j, other, old, adds, place, whole⟩
    · exact .inl zero
    · exact .inr (.inl within)
    · rcases kept j other old with light | found
      · rw [(SchPhase.light_spec light).1] at adds
        cases adds
      · exact .inr (.inr ⟨j, other, found, adds, place, whole⟩)
  typed j other sch found present tested quota := by
    rcases known j other found with looks | old
    · rw [(SchPhase.looks_spec looks).2.2.1] at tested
      cases tested
    · exact sound.typed j other sch old present tested quota
  started idx sch present := by
    rw [sound.started idx sch present]
    refine and_congr_right fun _ => and_congr_right fun _ =>
      ⟨fun rest j other found => ?_, fun rest j other old => ?_⟩
    · rcases known j other found with looks | old
      · exact (SchCall.weightless other (SchPhase.looks_spec looks).1 idx).2.2
      · exact rest j other old
    · rcases kept j other old with light | found
      · exact (SchCall.weightless other light idx).2.2
      · exact rest j other found
  fine j other found := by
    rcases known j other found with looks | old
    · exact (SchPhase.looks_spec looks).2.2.2
    · exact sound.fine j other old

/-- A light call that turns to another scheduler, or to none, keeps the invariant. -/
theorem SchState.Sound.lookAt {s : SchState} (sound : s.Sound) {k : Nat} {call : SchCall}
    (found : s.calls[k]? = some call) (light : call.phase.light = true)
    (looks : phase.looks = true) (locked : phase.inside = true -> lock = some k)
    (own : lock = s.mgrLock ∨ s.mgrLock = none ∨ call.phase.inside = true) :
    SchState.Sound { s.lookAt k call phase idx with mgrLock := lock } := by
  have calls : forall (j : Nat) (other : SchCall),
      (s.calls.set k { call with phase := phase, idx := idx })[j]? = some other ->
      (j = k ∧ other = { call with phase := phase, idx := idx }) ∨ (j ≠ k ∧ s.calls[j]? = some other) :=
    fun j other foundOther => getElem?_replace_cases found foundOther
  have before := SchCall.weightless call light
  have after := SchCall.weightless { call with phase := phase, idx := idx } (SchPhase.looks_spec looks).1
  apply sound.lightly
  · intro place
    have moved := sum_replace (SchCall.share place) found { call with phase := phase, idx := idx }
    rw [(before place).1, (after place).1] at moved
    exact (add_zero _).symm.trans (moved.trans (add_zero _))
  · intro place
    have moved := countP_replace (SchCall.counted place) found { call with phase := phase, idx := idx }
    rwa [(before place).2.1, (after place).2.1] at moved
  · intro j other foundOther
    rcases calls j other foundOther with ⟨-, rfl⟩ | ⟨-, old⟩
    · exact .inl looks
    · exact .inr old
  · intro j other old
    by_cases same : j = k
    · subst same
      obtain rfl : call = other := Option.some.inj (found.symm.trans old)
      exact .inl light
    · exact .inr ((getElem?_replace found _ j).trans ((if_neg same).trans old))
  · intro j other foundOther inside
    rcases calls j other foundOther with ⟨rfl, rfl⟩ | ⟨apart, old⟩
    · exact locked inside
    · have holder := sound.locked j other old inside
      rcases own with same | free | mineInside
      · exact same.trans holder
      · rw [free] at holder
        cases holder
      · have clash := (sound.locked k call found mineInside).symm.trans holder
        exact absurd (Option.some.inj clash).symm apart

/-! ## What the invariant says to one call -/

section Calls

variable {s : SchState} (sound : s.Sound) {k : Nat} {call : SchCall} (found : s.calls[k]? = some call)
  {sch : MtlSchImpl} (present : s.schs[call.idx]? = some sch)

include sound found

theorem SchState.Sound.calm (uses : call.phase.uses = true) (j : Nat) (other : SchCall) (apart : j ≠ k)
    (foundOther : s.calls[j]? = some other) (place : other.idx = call.idx) :
    (other.phase.opens || other.phase.closes) = false := by
  by_contra ends
  rw [Bool.not_eq_false] at ends
  have unused := sound.alone j other foundOther ends k call (Ne.symm apart) found place.symm
  rw [unused] at uses
  cases uses

theorem SchState.Sound.outside (inside : call.phase.inside = true) (j : Nat) (other : SchCall)
    (apart : j ≠ k) (foundOther : s.calls[j]? = some other) : other.phase.inside = false := by
  by_contra both
  rw [Bool.not_eq_false] at both
  have clash := (sound.locked k call found inside).symm.trans (sound.locked j other foundOther both)
  exact apart (Option.some.inj clash).symm

include present

theorem SchState.Sound.active (uses : call.phase.uses = true) : sch.active = true := by
  rcases sound.used k call found uses with ⟨one, presentOne, active⟩
  obtain rfl : sch = one := Option.some.inj (present.symm.trans presentOne)
  exact active

theorem SchState.Sound.total_rest :
    exists rest : Int, 0 ≤ rest ∧ sch.dataQuotaMbsTotal = call.share call.idx + rest ∧
      ((forall (j : Nat) (other : SchCall), j ≠ k -> s.calls[j]? = some other -> other.idx = call.idx ->
        other.phase.uses = false) -> rest = 0) ∧
      forall (j : Nat) (other : SchCall), j ≠ k -> s.calls[j]? = some other -> other.idx = call.idx ->
        other.phase.adds = true -> (other.request.quotaMbs : Int) ≤ rest := by
  have moved := sum_replace (SchCall.share call.idx) found { call with phase := .done }
  have gone : SchCall.share call.idx { call with phase := .done } = 0 := by
    simp [SchCall.share, SchPhase.adds]
  have total := sound.total call.idx sch present
  have weights : forall weight, weight ∈
      (s.calls.set k { call with phase := .done }).map (SchCall.share call.idx) -> (0 : Int) ≤ weight := by
    intro weight member
    rcases List.mem_map.mp member with ⟨other, -, rfl⟩
    unfold SchCall.share
    split
    · positivity
    · rfl
  refine ⟨((s.calls.set k { call with phase := .done }).map (SchCall.share call.idx)).sum,
    List.sum_nonneg weights, by omega, ?_, ?_⟩
  · intro alone
    apply List.sum_eq_zero
    intro weight member
    rcases List.mem_map.mp member with ⟨other, otherMember, rfl⟩
    rcases List.mem_iff_getElem?.mp otherMember with ⟨j, foundOther⟩
    rcases getElem?_replace_cases found foundOther with ⟨-, rfl⟩ | ⟨apart, old⟩
    · exact gone
    · apply SchCall.share_eq_zero
      intro uses place
      rw [alone j other apart old place] at uses
      cases uses
  · intro j other apart foundOther place adds
    have member : other ∈ s.calls.set k { call with phase := .done } := by
      apply List.mem_of_getElem? (i := j)
      rw [getElem?_replace found, if_neg apart]
      exact foundOther
    have own : other.share call.idx = other.request.quotaMbs := by
      simp [SchCall.share, adds, place]
    rw [← own]
    exact List.single_le_sum weights _ (List.mem_map.mpr ⟨other, member, rfl⟩)

theorem SchState.Sound.idle (idle : sch.dataQuotaMbsTotal = call.share call.idx) (j : Nat)
    (other : SchCall) (apart : j ≠ k) (foundOther : s.calls[j]? = some other)
    (place : other.idx = call.idx) (adds : other.phase.adds = true) : other.request.quotaMbs = 0 := by
  rcases sound.total_rest found present with ⟨rest, -, total, -, weighs⟩
  have weight := weighs j other apart foundOther place adds
  omega

theorem SchState.Sound.passed :
    sch.dataQuotaMbsTotal = 0 ∨ sch.dataQuotaMbsTotal ≤ sch.dataQuotaMbsLimit ∨
      (call.phase.adds = true ∧ (call.request.quotaMbs : Int) = sch.dataQuotaMbsTotal) ∨
      exists (j : Nat) (other : SchCall), j ≠ k ∧ s.calls[j]? = some other ∧ other.phase.adds = true ∧
        other.idx = call.idx ∧ (other.request.quotaMbs : Int) = sch.dataQuotaMbsTotal := by
  rcases sound.limited call.idx sch present with zero | within | ⟨j, other, foundOther, adds, place, whole⟩
  · exact .inl zero
  · exact .inr (.inl within)
  · by_cases same : j = k
    · subst same
      obtain rfl : call = other := Option.some.inj (found.symm.trans foundOther)
      exact .inr (.inr (.inl ⟨adds, whole⟩))
    · exact .inr (.inr (.inr ⟨j, other, same, foundOther, adds, place, whole⟩))

theorem SchState.Sound.runs :
    sch.started = true ↔ sch.active = true ∧ s.implStarted = true ∧ call.still call.idx = false ∧
      forall (j : Nat) (other : SchCall), j ≠ k -> s.calls[j]? = some other ->
        other.still call.idx = false := by
  rw [sound.started call.idx sch present]
  constructor
  · rintro ⟨active, running, rest⟩
    exact ⟨active, running, rest k call found, fun j other _ foundOther => rest j other foundOther⟩
  · rintro ⟨active, running, own, rest⟩
    refine ⟨active, running, ?_⟩
    intro j other foundOther
    by_cases same : j = k
    · subst same
      obtain rfl : call = other := Option.some.inj (found.symm.trans foundOther)
      exact own
    · exact rest j other same foundOther

end Calls

theorem SchState.Sound.unused {s : SchState} (sound : s.Sound) (present : s.schs[idx]? = some sch)
    (inactive : sch.active = false) (k : Nat) : s.Alone k idx := by
  intro j other apart foundOther place
  by_contra uses
  rw [Bool.not_eq_false] at uses
  have active := sound.active foundOther (place ▸ present) uses
  rw [inactive] at active
  cases active

/-! ## The steps -/

theorem tested_cases (tested : phase.tested = true) :
    phase = .add ∨ phase.opens = true ∨ phase.adds = true := by
  revert tested
  cases phase <;> decide

theorem holding_of_tested (tested : phase.tested = true) (outside : phase.inside = false) :
    phase = .holding := by
  revert tested outside
  cases phase <;> decide

/-- What the capability test finds or makes: a scheduler of the type, unless no quota is asked for. -/
theorem schIsCapable_true {quotaMbs : Nat} {type : MtSchType}
    (capable : schIsCapable sch quotaMbs type = (after, true)) :
    after = { sch with type := after.type } ∧ (after.type = sch.type ∨ sch.dataQuotaMbsTotal = 0) ∧
      (quotaMbs ≠ 0 -> after.type = type) := by
  unfold schIsCapable at capable
  split_ifs at capable with zero idle
  · obtain rfl : sch = after := (Prod.mk.inj capable).1
    exact ⟨rfl, .inl rfl, fun some => absurd zero some⟩
  · rw [← (Prod.mk.inj capable).1]
    exact ⟨rfl, .inr idle.2.2, fun _ => idle.1.symm⟩
  · obtain rfl : sch = after := (Prod.mk.inj capable).1
    exact ⟨rfl, .inl rfl, fun _ => of_decide_eq_true (Prod.mk.inj capable).2⟩

theorem mtSchAddQuota_ok {quotaMbs : Nat} {answer : Unit}
    (added : mtSchAddQuota sch quotaMbs = (after, .ok answer)) :
    sch.active = true ∧ sch.hasRoom quotaMbs ∧
      after = { sch with dataQuotaMbsTotal := int32 (sch.dataQuotaMbsTotal + quotaMbs) } := by
  unfold mtSchAddQuota at added
  split_ifs at added with inactive room
  · cases (Prod.mk.inj added).2
  · simp only [Bool.not_eq_true', Bool.not_eq_false] at inactive
    exact ⟨inactive, room, (Prod.mk.inj added).1.symm⟩
  · cases (Prod.mk.inj added).2

section Steps

variable {s : SchState} (sound : s.Sound) {k : Nat} {call : SchCall} (found : s.calls[k]? = some call)
  {sch : MtlSchImpl} (present : s.schs[call.idx]? = some sch)

include sound found present

theorem SchState.Sound.change_of_quota_kept {next : SchPhase}
    (quota : after.dataQuotaMbsTotal = sch.dataQuotaMbsTotal ∧
      after.dataQuotaMbsLimit = sch.dataQuotaMbsLimit ∧ after.type = sch.type)
    (move : next.adds = call.phase.adds ∧ next ≠ .undo ∧
      (next.tested = true -> call.phase.tested = true) ∧
      (next.uses = true -> call.phase.uses = true) ∧ (next.inside = true -> call.phase.inside = true))
    (refs : after.refCnt + (call.counted call.idx).toNat =
      sch.refCnt + (SchCall.counted call.idx { call with phase := next }).toNat)
    (active : after.active = true ∨ (next.uses = false ∧ s.Alone k call.idx))
    (alone : (next.opens || next.closes) = true -> s.Alone k call.idx)
    (held : lock = s.mgrLock ∨ call.phase.inside = true ∧ next.inside = false)
    (started : after.started = true ↔ after.active = true ∧ s.implStarted = true ∧
      SchCall.still call.idx { call with phase := next } = false ∧
      forall (j : Nat) (other : SchCall), j ≠ k -> s.calls[j]? = some other ->
        other.still call.idx = false) :
    s.Change k call next sch after lock where
  total := by rw [quota.1, SchCall.share, SchCall.share, move.1]
  refs := refs
  bounded := by
    rw [quota.1]
    exact sound.bounded call.idx sch present
  active := active
  joins uses := sound.calm found (move.2.2.2.1 uses)
  alone := alone
  locked inside := by
    rcases held with same | ⟨-, outside⟩
    · exact same.trans (sound.locked k call found (move.2.2.2.2 inside))
    · rw [outside] at inside
      cases inside
  lock := held.imp_right And.left
  limited := by
    rw [quota.1, quota.2.1, move.1]
    exact sound.passed found present
  typed tested some := by
    rw [quota.2.2]
    exact sound.typed k call sch found present (move.2.2.1 tested) some
  retyped := .inl quota.2.2
  started := started
  fine := move.2.1

theorem SchState.Sound.scan_change (phase : call.phase = .scan) (passes : call.passes sch = true) :
    s.Change k call .capable sch sch s.mgrLock := by
  have active : sch.active = true := by
    simp only [SchCall.passes, Bool.and_eq_true] at passes
    exact passes.1.2
  have runs := sound.runs found present
  apply sound.change_of_quota_kept found present
  case quota => exact ⟨rfl, rfl, rfl⟩
  case move => rw [phase]; decide
  case refs => simp [SchCall.counted, phase, SchPhase.counts]
  case active => exact .inl active
  case alone => intro ends; cases ends
  case held => exact .inl rfl
  case started => simpa [SchCall.still, phase, SchPhase.opens] using runs

theorem SchState.Sound.capable_change (phase : call.phase = .capable)
    (capable : schIsCapable sch call.request.quotaMbs call.request.type = (after, true)) :
    s.Change k call .add sch after s.mgrLock := by
  have inside : call.phase.inside = true := by rw [phase]; rfl
  have own : call.share call.idx = 0 := by simp [SchCall.share, phase, SchPhase.adds]
  rcases schIsCapable_true capable with ⟨shape, retyped, typed⟩
  rw [shape]
  constructor
  case total => simp [SchCall.share, phase, SchPhase.adds]
  case refs => simp [SchCall.counted, phase, SchPhase.counts]
  case bounded => exact sound.bounded call.idx sch present
  case active =>
    by_cases active : sch.active = true
    · exact .inl active
    · rw [Bool.not_eq_true] at active
      exact .inr ⟨rfl, sound.unused present active k⟩
  case joins => intro unused; cases unused
  case alone => intro ends; cases ends
  case locked => intro _; exact sound.locked k call found inside
  case lock => exact .inl rfl
  case limited =>
    have passed := sound.passed found present
    simpa [phase, SchPhase.adds] using passed
  case typed => intro _ quota; exact typed quota
  case retyped =>
    rcases retyped with kept | zero
    · exact .inl kept
    · right
      intro j other apart foundOther place tested
      have holds := holding_of_tested tested (sound.outside found inside j other apart foundOther)
      have adds : other.phase.adds = true := by rw [holds]; rfl
      exact sound.idle found present (zero.trans own.symm) j other apart foundOther place adds
  case started =>
    have runs := sound.runs found present
    simpa [SchCall.still, phase, SchPhase.opens] using runs
  case fine => intro same; cases same

theorem SchState.Sound.add_change (phase : call.phase = .add) {answer : Unit}
    (added : mtSchAddQuota sch call.request.quotaMbs = (after, .ok answer)) (safe : s.StepSafe call sch) :
    s.Change k call .count sch after s.mgrLock := by
  have inside : call.phase.inside = true := by rw [phase]; rfl
  have own : call.share call.idx = 0 := by simp [SchCall.share, phase, SchPhase.adds]
  rcases sound.total_rest found present with ⟨rest, low, total, -, -⟩
  rcases mtSchAddQuota_ok added with ⟨active, room, rfl⟩
  rcases safe.1 phase active room with ⟨closed, fits⟩
  have sum : int32 (sch.dataQuotaMbsTotal + call.request.quotaMbs) =
      sch.dataQuotaMbsTotal + call.request.quotaMbs :=
    int32_of_fits (by omega) fits
  rw [MtlSchImpl.hasRoom, sum] at room
  rw [sum]
  constructor
  case total => simp [SchCall.share, phase, SchPhase.adds]
  case refs => simp [SchCall.counted, phase, SchPhase.counts]
  case bounded => exact fits
  case active => exact .inl active
  case joins =>
    intro _ j other apart foundOther place
    have outside := sound.outside found inside j other apart foundOther
    cases phaseOther : other.phase <;> simp [phaseOther, SchPhase.inside] at outside <;>
      simp [SchPhase.opens, SchPhase.closes]
    · exact closed other (List.mem_of_getElem? foundOther) (by rw [phaseOther]; rfl) place
    · exact closed other (List.mem_of_getElem? foundOther) (by rw [phaseOther]; rfl) place
  case alone => intro ends; cases ends
  case locked => intro _; exact sound.locked k call found inside
  case lock => exact .inl rfl
  case limited =>
    rcases room with zero | within
    · exact .inr (.inr (.inl ⟨rfl, by simp [zero]⟩))
    · exact .inr (.inl within)
  case typed => intro _ quota; exact sound.typed k call sch found present (by rw [phase]; rfl) quota
  case retyped => exact .inl rfl
  case started =>
    have runs := sound.runs found present
    simpa [SchCall.still, phase, SchPhase.opens] using runs
  case fine => intro same; cases same

theorem SchState.Sound.request_change (phase : call.phase = .request) (finds : call.finds sch = true) :
    s.Change k call .addFresh sch (sch.requested call.request.type call.request.socket) s.mgrLock := by
  have inside : call.phase.inside = true := by rw [phase]; rfl
  have inactive : sch.active = false := by
    simp only [SchCall.finds, Bool.and_eq_true, Bool.not_eq_true'] at finds
    exact finds.2
  have alone := sound.unused present inactive k
  have quiet : forall (j : Nat) (other : SchCall), j ≠ k -> s.calls[j]? = some other ->
      other.idx = call.idx -> (other.phase.opens || other.phase.closes) = false := by
    intro j other apart foundOther place
    by_contra ends
    rw [Bool.not_eq_false] at ends
    have uses := uses_of_opens_or_closes ends
    rw [alone j other apart foundOther place] at uses
    cases uses
  constructor
  case total => simp [SchCall.share, phase, SchPhase.adds, MtlSchImpl.requested]
  case refs => simp [SchCall.counted, phase, SchPhase.counts, MtlSchImpl.requested]
  case bounded => exact sound.bounded call.idx sch present
  case active => exact .inl rfl
  case joins => intro _; exact quiet
  case alone => intro _; exact alone
  case locked => intro _; exact sound.locked k call found inside
  case lock => exact .inl rfl
  case limited =>
    have passed := sound.passed found present
    simpa [phase, SchPhase.adds, MtlSchImpl.requested] using passed
  case typed => intro _ _; rfl
  case retyped =>
    right
    intro j other apart foundOther place tested
    have unused := alone j other apart foundOther place
    rw [holding_of_tested tested (sound.outside found inside j other apart foundOther)] at unused
    cases unused
  case started =>
    have runs := sound.started call.idx sch present
    simpa [SchCall.still, SchPhase.opens, MtlSchImpl.requested, inactive] using runs
  case fine => intro same; cases same

theorem SchState.Sound.addFresh_change (phase : call.phase = .addFresh) :
    exists after answer, mtSchAddQuota sch call.request.quotaMbs = (after, .ok answer) ∧
      s.Change k call .start sch after s.mgrLock := by
  have inside : call.phase.inside = true := by rw [phase]; rfl
  have uses : call.phase.uses = true := by rw [phase]; rfl
  have opens : (call.phase.opens || call.phase.closes) = true := by rw [phase]; rfl
  have own : call.share call.idx = 0 := by simp [SchCall.share, phase, SchPhase.adds]
  have active := sound.active found present uses
  have alone := sound.alone k call found opens
  rcases sound.total_rest found present with ⟨rest, low, total, none, -⟩
  have zero : sch.dataQuotaMbsTotal = 0 := by
    rw [total, own, none alone]
    rfl
  have fits := call.request.fits
  have added : mtSchAddQuota sch call.request.quotaMbs =
      ({ sch with dataQuotaMbsTotal := call.request.quotaMbs }, .ok ()) := by
    unfold mtSchAddQuota
    rw [if_neg (by simp [active]), if_pos (.inl zero), zero, zero_add,
      int32_of_fits (by omega) (by omega)]
  refine ⟨_, _, added, ?_⟩
  constructor
  case total => simp [SchCall.share, phase, SchPhase.adds, zero]
  case refs => simp [SchCall.counted, phase, SchPhase.counts]
  case bounded => show (call.request.quotaMbs : Int) < 2147483648; omega
  case active => exact .inl active
  case joins => intro _; exact sound.calm found uses
  case alone => intro _; exact alone
  case locked => intro _; exact sound.locked k call found inside
  case lock => exact .inl rfl
  case limited => exact .inr (.inr (.inl ⟨rfl, rfl⟩))
  case typed => intro _ quota; exact sound.typed k call sch found present (by rw [phase]; rfl) quota
  case retyped => exact .inl rfl
  case started =>
    have runs := sound.runs found present
    simpa [SchCall.still, phase, SchPhase.opens] using runs
  case fine => intro same; cases same

theorem SchState.Sound.start_change (phase : call.phase = .start) (running : s.implStarted = true) :
    exists after answer, schStart sch = (after, .ok answer) ∧ s.Change k call .count sch after s.mgrLock := by
  have uses : call.phase.uses = true := by rw [phase]; rfl
  have opens : (call.phase.opens || call.phase.closes) = true := by rw [phase]; rfl
  have active := sound.active found present uses
  have alone := sound.alone k call found opens
  have stopped : sch.started = false := by
    by_contra started
    rw [Bool.not_eq_false] at started
    have own := ((sound.runs found present).mp started).2.2.1
    simp [SchCall.still, phase, SchPhase.opens] at own
  have starts : schStart sch = ({ sch with cpuBusy := false, started := true }, .ok ()) := by
    simp [schStart, stopped]
  refine ⟨_, _, starts, ?_⟩
  apply sound.change_of_quota_kept found present
  case quota => exact ⟨rfl, rfl, rfl⟩
  case move => rw [phase]; decide
  case refs => simp [SchCall.counted, phase, SchPhase.counts]
  case active => exact .inl active
  case alone => intro ends; cases ends
  case held => exact .inl rfl
  case started =>
    refine ⟨fun _ => ⟨active, running, rfl, ?_⟩, fun _ => rfl⟩
    intro j other apart foundOther
    apply SchCall.still_eq_false
    intro usesOther place
    rw [alone j other apart foundOther place] at usesOther
    cases usesOther

theorem SchState.Sound.skip_change (phase : call.phase = .start) (running : s.implStarted = false) :
    s.Change k call .count sch sch s.mgrLock := by
  have uses : call.phase.uses = true := by rw [phase]; rfl
  have active := sound.active found present uses
  apply sound.change_of_quota_kept found present
  case quota => exact ⟨rfl, rfl, rfl⟩
  case move => rw [phase]; decide
  case refs => simp [SchCall.counted, phase, SchPhase.counts]
  case active => exact .inl active
  case alone => intro ends; cases ends
  case held => exact .inl rfl
  case started =>
    have runs := sound.runs found present
    simpa [running] using runs

theorem SchState.Sound.count_change (phase : call.phase = .count) :
    s.Change k call .holding sch { sch with refCnt := sch.refCnt + 1 } none := by
  have inside : call.phase.inside = true := by rw [phase]; rfl
  have uses : call.phase.uses = true := by rw [phase]; rfl
  have active := sound.active found present uses
  apply sound.change_of_quota_kept found present
  case quota => exact ⟨rfl, rfl, rfl⟩
  case move => rw [phase]; decide
  case refs => simp [SchCall.counted, phase, SchPhase.counts]
  case active => exact .inl active
  case alone => intro ends; cases ends
  case held => exact .inr ⟨inside, rfl⟩
  case started =>
    have runs := sound.runs found present
    simpa [SchCall.still, phase, SchPhase.opens] using runs

/-- A put returns what its get added; the type changes when nobody has any quota left. -/
theorem SchState.Sound.put_change (phase : call.phase = .holding) (safe : s.PutSafe call sch) :
    s.Change k call .drop sch (schFreeQuota sch call.request.quotaMbs) s.mgrLock := by
  have uses : call.phase.uses = true := by rw [phase]; rfl
  have own : call.share call.idx = call.request.quotaMbs := by
    simp [SchCall.share, phase, SchPhase.adds]
  have active := sound.active found present uses
  rcases sound.total_rest found present with ⟨rest, low, total, -, -⟩
  have bounded := sound.bounded call.idx sch present
  have left : int32 (sch.dataQuotaMbsTotal - call.request.quotaMbs) =
      sch.dataQuotaMbsTotal - call.request.quotaMbs :=
    int32_of_fits (by omega) (by omega)
  have freed : schFreeQuota sch call.request.quotaMbs = { sch with
      dataQuotaMbsTotal := sch.dataQuotaMbsTotal - call.request.quotaMbs
      type := if sch.dataQuotaMbsTotal - call.request.quotaMbs = 0 then .default else sch.type } := by
    unfold schFreeQuota
    rw [if_neg (by simp [active]), left]
    split_ifs with zero
    · rw [zero]
    · rfl
  rw [freed]
  constructor
  case total =>
    show sch.dataQuotaMbsTotal - call.request.quotaMbs + call.share call.idx = sch.dataQuotaMbsTotal + 0
    rw [own]
    ring
  case refs => simp [SchCall.counted, phase, SchPhase.counts]
  case bounded => show sch.dataQuotaMbsTotal - call.request.quotaMbs < 2147483648; omega
  case active => exact .inl active
  case joins => intro _; exact sound.calm found uses
  case alone => intro ends; cases ends
  case locked => intro inside; cases inside
  case lock => exact .inl rfl
  case limited =>
    show sch.dataQuotaMbsTotal - call.request.quotaMbs = 0 ∨
      sch.dataQuotaMbsTotal - call.request.quotaMbs ≤ sch.dataQuotaMbsLimit ∨ _
    rcases sound.passed found present with
      zero | within | ⟨-, whole⟩ | ⟨j, other, apart, foundOther, adds, place, whole⟩
    · left
      omega
    · right
      left
      omega
    · left
      omega
    · -- the other one has it all, so that nothing was returned
      rcases sound.total_rest found present with ⟨rest, -, sum, -, weighs⟩
      have weight := weighs j other apart foundOther place adds
      have all : (other.request.quotaMbs : Int) = sch.dataQuotaMbsTotal - call.request.quotaMbs := by omega
      exact .inr (.inr (.inr ⟨j, other, apart, foundOther, adds, place, all⟩))
  case typed => intro weighs; cases weighs
  case retyped =>
    by_cases kept : (schFreeQuota sch call.request.quotaMbs).type = sch.type
    · rw [freed] at kept
      exact .inl kept
    · right
      intro j other apart foundOther place tested
      have calm := sound.calm found uses j other apart foundOther place
      rw [Bool.or_eq_false_iff] at calm
      have zero : sch.dataQuotaMbsTotal - call.request.quotaMbs = 0 := by
        by_contra some
        rw [freed] at kept
        exact kept (if_neg some)
      rcases tested_cases tested with adding | opens | adds
      · by_contra some
        exact safe kept other (List.mem_of_getElem? foundOther) adding some place
      · rw [calm.1] at opens
        cases opens
      · exact sound.idle found present (by omega) j other apart foundOther place adds
  case started =>
    have runs := sound.runs found present
    simpa [SchCall.still, phase, SchPhase.opens] using runs
  case fine => intro same; cases same

theorem SchState.Sound.last (phase : call.phase = .drop) (one : sch.refCnt = 1)
    (safe : s.StepSafe call sch) : s.Alone k call.idx := by
  have uses : call.phase.uses = true := by rw [phase]; rfl
  have refs := sound.refs call.idx sch present
  have moved := countP_replace (SchCall.counted call.idx) found { call with phase := .done }
  have own : call.counted call.idx = true := by simp [SchCall.counted, phase, SchPhase.counts]
  have gone : SchCall.counted call.idx { call with phase := .done } = false := by
    simp [SchCall.counted, SchPhase.counts]
  rw [own, gone, Bool.toNat_true, Bool.toNat_false] at moved
  have none : (s.calls.set k { call with phase := .done }).countP (SchCall.counted call.idx) = 0 := by
    omega
  intro j other apart foundOther place
  have member : other ∈ s.calls.set k { call with phase := .done } := by
    apply List.mem_of_getElem? (i := j)
    rw [getElem?_replace found, if_neg apart]
    exact foundOther
  have uncounted := List.countP_eq_zero.mp none other member
  have entering : other.phase.entering = false := by
    by_contra entering
    rw [Bool.not_eq_false] at entering
    exact safe.2 phase one other (List.mem_of_getElem? foundOther) entering place
  have calm := sound.calm found uses j other apart foundOther place
  rw [Bool.or_eq_false_iff] at calm
  have counts : other.phase.counts = false := by
    simpa [SchCall.counted, place] using uncounted
  simp [SchPhase.uses, entering, counts, calm.2]

theorem SchState.Sound.drop_change (phase : call.phase = .drop) (safe : s.StepSafe call sch) :
    s.Change k call (if sch.refCnt - 1 = 0 then .stop else .done) sch
      { sch with refCnt := sch.refCnt - 1 } s.mgrLock := by
  have uses : call.phase.uses = true := by rw [phase]; rfl
  have active := sound.active found present uses
  have runs := sound.runs found present
  by_cases zero : sch.refCnt - 1 = 0
  · have alone := sound.last found present phase (by omega) safe
    rw [if_pos zero]
    apply sound.change_of_quota_kept found present
    case quota => exact ⟨rfl, rfl, rfl⟩
    case move => rw [phase]; decide
    case refs => simp [SchCall.counted, phase, SchPhase.counts]
    case active => exact .inl active
    case alone => intro _; exact alone
    case held => exact .inl rfl
    case started => simpa [SchCall.still, phase, SchPhase.opens] using runs
  · rw [if_neg zero]
    apply sound.change_of_quota_kept found present
    case quota => exact ⟨rfl, rfl, rfl⟩
    case move => rw [phase]; decide
    case refs => simp [SchCall.counted, phase, SchPhase.counts]
    case active => exact .inl active
    case alone => intro ends; cases ends
    case held => exact .inl rfl
    case started => simpa [SchCall.still, phase, SchPhase.opens] using runs

theorem SchState.Sound.stop_change (phase : call.phase = .stop) :
    s.Change k call .free sch (schStop sch) s.mgrLock := by
  have uses : call.phase.uses = true := by rw [phase]; rfl
  have ends : (call.phase.opens || call.phase.closes) = true := by rw [phase]; rfl
  have active := sound.active found present uses
  have alone := sound.alone k call found ends
  have shape : schStop sch = { sch with started := false, cpuBusy := (schStop sch).cpuBusy } := by
    unfold schStop
    split_ifs with stopped
    · simp only [Bool.not_eq_true'] at stopped
      rw [← stopped]
    · rfl
  rw [shape]
  apply sound.change_of_quota_kept found present
  case quota => exact ⟨rfl, rfl, rfl⟩
  case move => rw [phase]; decide
  case refs => simp [SchCall.counted, phase, SchPhase.counts]
  case active => exact .inl active
  case alone => intro _; exact alone
  case held => exact .inl rfl
  case started => simp [SchCall.still]

theorem SchState.Sound.free_change (phase : call.phase = .free) :
    s.Change k call .done sch (schFree sch) s.mgrLock := by
  have ends : (call.phase.opens || call.phase.closes) = true := by rw [phase]; rfl
  have alone := sound.alone k call found ends
  have runs := sound.runs found present
  apply sound.change_of_quota_kept found present
  case quota => exact ⟨rfl, rfl, rfl⟩
  case move => rw [phase]; decide
  case refs => simp [SchCall.counted, phase, SchPhase.counts, schFree]
  case active => exact .inr ⟨rfl, alone⟩
  case alone => intro ends; cases ends
  case held => exact .inl rfl
  case started => simpa [SchCall.still, phase, schFree] using runs

omit present in
theorem SchState.Sound.next (inside : call.phase.inside = true)
    (light : call.phase.light = true) (looks : phase = .scan ∨ phase = .request) (idx : Nat) :
    (s.lookAt k call phase idx).Sound := by
  have locked := sound.locked k call found inside
  rcases looks with rfl | rfl
  · exact sound.lookAt found light rfl (fun _ => locked) (.inl rfl)
  · exact sound.lookAt found light rfl (fun _ => locked) (.inl rfl)

/-- Every step of a call on its scheduler keeps the invariant. -/
theorem SchState.Sound.advanceOn (safe : s.StepSafe call sch) : (s.advanceOn k call sch).Sound := by
  unfold SchState.advanceOn
  cases phase : call.phase with
  | waiting => exact sound
  | refused => exact sound
  | holding => exact sound
  | done => exact sound
  | scan =>
    have inside : call.phase.inside = true := by rw [phase]; rfl
    have light : call.phase.light = true := by rw [phase]; rfl
    by_cases passes : call.passes sch = true
    · simp only [if_pos passes]
      exact sound.goOn found present (sound.scan_change found present phase passes)
    · simp only [if_neg passes]
      exact sound.next found inside light (.inl rfl) _
  | capable =>
    have inside : call.phase.inside = true := by rw [phase]; rfl
    have light : call.phase.light = true := by rw [phase]; rfl
    dsimp only
    split
    · rename_i after capable
      exact sound.goOn found present (sound.capable_change found present phase capable)
    · exact sound.next found inside light (.inl rfl) _
  | add =>
    have inside : call.phase.inside = true := by rw [phase]; rfl
    have light : call.phase.light = true := by rw [phase]; rfl
    dsimp only
    split
    · rename_i after answer added
      exact sound.goOn found present (sound.add_change found present phase added safe)
    · exact sound.next found inside light (.inl rfl) _
  | request =>
    have inside : call.phase.inside = true := by rw [phase]; rfl
    have light : call.phase.light = true := by rw [phase]; rfl
    by_cases finds : call.finds sch = true
    · simp only [if_pos finds]
      exact sound.goOn found present (sound.request_change found present phase finds)
    · simp only [if_neg finds]
      exact sound.next found inside light (.inr rfl) _
  | addFresh =>
    rcases sound.addFresh_change found present phase with ⟨after, answer, added, change⟩
    simp only [added]
    exact sound.goOn found present change
  | start =>
    by_cases running : s.implStarted = true
    · rcases sound.start_change found present phase running with ⟨after, answer, started, change⟩
      simp only [running, Bool.not_true, Bool.false_eq_true, if_false, started]
      exact sound.goOn found present change
    · rw [Bool.not_eq_true] at running
      simp only [running, Bool.not_false, if_true]
      exact sound.goOn found present (sound.skip_change found present phase running)
  | undo => exact absurd phase (sound.fine k call found)
  | count => exact sound.goOn found present (sound.count_change found present phase)
  | drop => exact sound.goOn found present (sound.drop_change found present phase safe)
  | stop => exact sound.goOn found present (sound.stop_change found present phase)
  | free => exact sound.goOn found present (sound.free_change found present phase)

end Steps

theorem SchState.Sound.advance {s : SchState} (sound : s.Sound) {k : Nat} {call : SchCall}
    (found : s.calls[k]? = some call)
    (safe : forall sch, s.schs[call.idx]? = some sch -> s.StepSafe call sch) : (s.advance k call).Sound := by
  have onTable : forall sch, s.schs[call.idx]? = some sch -> (s.advanceOn k call sch).Sound :=
    fun sch present => sound.advanceOn found present (safe sch present)
  unfold SchState.advance
  by_cases waiting : call.phase = .waiting
  · simp only [waiting]
    cases lock : s.mgrLock with
    | some holder => exact sound
    | none =>
      have light : call.phase.light = true := by rw [waiting]; rfl
      exact sound.lookAt found light rfl (fun _ => rfl) (.inr (.inl lock))
  · cases present : s.schs[call.idx]? with
    | some sch => simpa [waiting] using onTable sch present
    | none =>
      cases phase : call.phase with
      | scan =>
        have inside : call.phase.inside = true := by rw [phase]; rfl
        have light : call.phase.light = true := by rw [phase]; rfl
        exact sound.lookAt found light rfl
          (fun _ => sound.locked k call found inside) (.inl rfl)
      | request =>
        have inside : call.phase.inside = true := by rw [phase]; rfl
        have light : call.phase.light = true := by rw [phase]; rfl
        exact sound.lookAt found light rfl (by intro held; cases held)
          (.inr (.inr inside))
      | waiting => exact absurd phase waiting
      | _ => simpa [phase] using sound

/-- A new call weighs nothing. -/
theorem SchState.Sound.get {s : SchState} (sound : s.Sound) (request : SchRequest) :
    SchState.Sound { s with calls := s.calls ++ [⟨request, .waiting, 0⟩] } := by
  have calls : forall (j : Nat) (other : SchCall), (s.calls ++ [⟨request, .waiting, 0⟩])[j]? = some other ->
      other = ⟨request, .waiting, 0⟩ ∨ s.calls[j]? = some other := by
    intro j other foundOther
    rcases Nat.lt_or_ge j s.calls.length with inside | outside
    · rw [List.getElem?_append_left inside] at foundOther
      exact .inr foundOther
    · rw [List.getElem?_append_right outside] at foundOther
      exact .inl (List.mem_singleton.mp (List.mem_of_getElem? foundOther))
  have weightless := SchCall.weightless ⟨request, .waiting, 0⟩ rfl
  apply sound.lightly
  · intro idx
    simp [(weightless idx).1]
  · intro idx
    simp [(weightless idx).2.1]
  · intro j other foundOther
    rcases calls j other foundOther with rfl | old
    · exact .inl rfl
    · exact .inr old
  · intro j other foundOther
    rw [List.getElem?_append_left (List.getElem?_eq_some_iff.mp foundOther).1]
    exact .inr foundOther
  · intro j other foundOther inside
    rcases calls j other foundOther with rfl | old
    · cases inside
    · exact sound.locked j other old inside

theorem SchState.Sound.busy {s : SchState} (sound : s.Sound)
    (present : s.schs[idx]? = some sch) (flag : Bool) :
    SchState.Sound { s with schs := s.schs.set idx { sch with cpuBusy := flag } } := by
  have schs : forall (place : Nat) (one : MtlSchImpl),
      (s.schs.set idx { sch with cpuBusy := flag })[place]? = some one ->
      exists old shown, s.schs[place]? = some old ∧ one = { old with cpuBusy := shown } := by
    intro place one presentOne
    rcases getElem?_replace_cases present presentOne with ⟨rfl, rfl⟩ | ⟨-, old⟩
    · exact ⟨sch, flag, present, rfl⟩
    · exact ⟨one, one.cpuBusy, old, rfl⟩
  constructor
  · intro place one presentOne
    rcases schs place one presentOne with ⟨old, shown, presentOld, rfl⟩
    exact sound.total place old presentOld
  · intro place one presentOne
    rcases schs place one presentOne with ⟨old, shown, presentOld, rfl⟩
    exact sound.refs place old presentOld
  · intro place one presentOne
    rcases schs place one presentOne with ⟨old, shown, presentOld, rfl⟩
    exact sound.bounded place old presentOld
  · intro j call found uses
    rcases sound.used j call found uses with ⟨old, presentOld, active⟩
    show exists one, (s.schs.set idx { sch with cpuBusy := flag })[call.idx]? = some one ∧ one.active = true
    rw [getElem?_replace present]
    by_cases same : call.idx = idx
    · rw [same] at presentOld
      obtain rfl : sch = old := Option.some.inj (present.symm.trans presentOld)
      exact ⟨_, if_pos same, active⟩
    · exact ⟨old, by rw [if_neg same]; exact presentOld, active⟩
  · exact sound.alone
  · exact sound.locked
  · intro place one presentOne
    rcases schs place one presentOne with ⟨old, shown, presentOld, rfl⟩
    exact sound.limited place old presentOld
  · intro j call one found presentOne weighs quota
    rcases schs call.idx one presentOne with ⟨old, shown, presentOld, rfl⟩
    exact sound.typed j call old found presentOld weighs quota
  · intro place one presentOne
    rcases schs place one presentOne with ⟨old, shown, presentOld, rfl⟩
    exact sound.started place old presentOld
  · exact sound.fine

theorem SchState.Sound.step {s : SchState} (sound : s.Sound) {input : QuotaInput} (safe : QuotaSafe s input) :
    (quotaStep s input).Sound := by
  cases input with
  | get request => exact sound.get request
  | advance k =>
    simp only [quotaStep]
    cases found : s.calls[k]? with
    | none => exact sound
    | some call => exact sound.advance found (fun sch present => safe call found sch present)
  | put k =>
    simp only [quotaStep]
    cases found : s.calls[k]? with
    | none => exact sound
    | some call =>
      by_cases holding : call.phase = .holding
      · cases present : s.schs[call.idx]? with
        | none => simpa [holding, present] using sound
        | some sch =>
          have after : (s.goOn k call (schFreeQuota sch call.request.quotaMbs) .drop).Sound :=
            sound.goOn found present (sound.put_change found present holding (safe call found sch present))
          simpa [holding, present] using after
      · simpa [holding] using sound
  | busy idx flag =>
    simp only [quotaStep]
    cases present : s.schs[idx]? with
    | none => exact sound
    | some sch => exact sound.busy present flag

/-- In every interleaving of gets and puts the accounts are right in every state, as long as no quota is
added to a scheduler that is about to be freed, no put resets the type of a scheduler between the test of a
get and its addition, and no put drops a count to zero while a get has its scheduler and has not counted
itself. -/
theorem quota_right (count : Nat) (limit : Int) (implStarted : Bool) (inputs : List QuotaInput)
    (safe : Admitted quotaStep QuotaSafe (schInit count limit implStarted) inputs) :
    (run quotaStep (schInit count limit implStarted) inputs).QuotaRight := by
  have sound := run_invariant quotaStep QuotaSafe SchState.Sound
    (fun _ _ sound safe => sound.step safe) (.init count limit implStarted) safe
  exact sound.right

/-- A session without quota gets the first scheduler; one that receives video makes it its own, so that a
third session with a quota has to take the second scheduler; then the first session puts it. -/
def sharedScheduler : List QuotaInput :=
  .get ⟨0, (by decide : 0 < 2 ^ 31), .default, 3, 0⟩ :: List.replicate 8 (.advance 0) ++
    .get ⟨40, (by decide : 40 < 2 ^ 31), .rxVideoOnly, 3, 0⟩ :: List.replicate 5 (.advance 1) ++
    .get ⟨30, (by decide : 30 < 2 ^ 31), .default, 3, 0⟩ :: List.replicate 11 (.advance 2) ++
    [.put 0, .advance 0]

theorem shared_scheduler_right :
    (run quotaStep (schInit 2 100 true) sharedScheduler).QuotaRight ∧
      (run quotaStep (schInit 2 100 true) sharedScheduler).schs.map
        (fun sch => (sch.active, sch.type, sch.dataQuotaMbsTotal, sch.refCnt)) =
        [(true, .rxVideoOnly, 40, 1), (true, .default, 30, 1)] :=
  ⟨quota_right 2 100 true sharedScheduler (by decide +kernel), by decide +kernel⟩

/-- Two sessions without quota on one scheduler; the first puts it while the second has not counted itself. -/
def lastPut : List QuotaInput :=
  [.get ⟨0, (by decide : 0 < 2 ^ 31), .default, 1, 0⟩, .advance 0, .advance 0, .advance 0, .advance 0,
    .advance 0, .advance 0, .advance 0,
    .get ⟨0, (by decide : 0 < 2 ^ 31), .default, 1, 0⟩, .advance 1, .advance 1, .advance 1, .advance 1,
    .put 0, .advance 0, .advance 0, .advance 0, .advance 1]

/-- The second session holds a scheduler that was stopped and freed. -/
theorem held_scheduler_freed : ¬ (run quotaStep (schInit 1 100 true) lastPut).QuotaRight := by
  intro right
  have freed : (run quotaStep (schInit 1 100 true) lastPut).schs.map MtlSchImpl.active = [false] := by
    decide
  have held : ⟨⟨0, by decide, .default, 1, 0⟩, .holding, 0⟩ ∈
      (run quotaStep (schInit 1 100 true) lastPut).calls := by
    decide
  rcases right.kept _ held rfl with ⟨sch, present, active, -⟩
  have member := List.mem_map_of_mem (f := MtlSchImpl.active) (List.mem_of_getElem? present)
  rw [freed, List.mem_singleton, active] at member
  cases member

end MediaTransport.Sched
