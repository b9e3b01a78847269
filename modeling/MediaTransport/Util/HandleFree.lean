import MediaTransport.Util.HandleGuard

namespace MediaTransport.Util

open Library

/-!
# Freeing the wrapper after the drain

The destroyer frees the wrapper as soon as its drain returned, and the memory can
then be used for something else.  The drain sees a caller only from its increment
on.  A call that came before the destroyer and has not incremented the count yet is
missed, and its next steps are on freed memory.
-/

variable {input : HandleInput} {s : WrapperState} {stage : CallerStage}

/-- A handle, how many calls had come when its destroyer set the flag, and whether the wrapper is freed. -/
structure WrapperState where
  guard : HandleState
  early : Option Nat
  freed : Bool
  deriving DecidableEq

/-- A step of a caller or of a destroyer, the free of the wrapper, or another use of the freed memory. -/
inductive WrapperInput where
  | step (input : HandleInput)
  | free
  | reuse (fields : HandleFields)
  deriving DecidableEq

/-- The input is the compare-and-swap that sets `lc_destroying`. -/
def HandleState.claims (s : HandleState) : HandleInput -> Bool
  | .destroyer idx =>
    decide (s.destroyers[idx]? = some .claim) && decide (s.fields.lcDestroying = 0)
  | _ => false

def wrapperStep (s : WrapperState) : WrapperInput -> WrapperState
  | .step input =>
    { s with
      guard := handleStep s.guard input
      early :=
        if s.guard.claims input && s.early.isNone then some s.guard.callers.length else s.early }
  | .free =>
    if DestroyerStage.drained ∈ s.guard.destroyers then { s with freed := true } else s
  | .reuse fields =>
    if s.freed then { s with guard := { s.guard with fields := fields } } else s

def wrapperInit (type : MtHandleType) : WrapperState := ⟨handleInit type, none, false⟩

/-! ## What is touched, and when -/

/-- The next step of the caller is on `lc_destroying` or `lc_refcnt`. -/
def CallerStage.touches : CallerStage -> Bool
  | .checkType _ => false
  | .returned _ => false
  | _ => true

/-- The caller is inside `mt_handle_acquire` and has not incremented the count. -/
def CallerStage.entering : CallerStage -> Bool
  | .checkType _ => true
  | .checkDestroying => true
  | .addRef => true
  | _ => false

def WrapperState.earlyCallers (s : WrapperState) : List CallerStage :=
  s.guard.callers.take (s.early.getD 0)

/-- After the drain, a call from before the destroyer takes a step on one of the two variables. -/
def WrapperState.lateTouch (s : WrapperState) : WrapperInput -> Bool
  | .step (.caller idx) =>
    decide (DestroyerStage.drained ∈ s.guard.destroyers) &&
      (s.earlyCallers[idx]?.map CallerStage.touches).getD false
  | _ => false

def HandleState.drainReturns (s : HandleState) : HandleInput -> Bool
  | .destroyer idx => decide (s.destroyers[idx]? = some .drain) && decide (s.fields.lcRefcnt = 0)
  | _ => false

def Untouched (s : WrapperState) (input : WrapperInput) : Prop :=
  s.lateTouch input = false

def FewInside (s : WrapperState) : WrapperInput -> Prop
  | .step input => FewCallers s.guard input
  | _ => True

/-- Every call from before the destroyer has incremented the count or has returned. -/
def WrapperState.AllEntered (s : WrapperState) : Prop :=
  ∀ stage ∈ s.earlyCallers, stage.entering = false

/-- Few are inside, and the drain returns only when no call from before the destroyer has yet to increment
the count. -/
def EntersFirst (s : WrapperState) (input : WrapperInput) : Prop :=
  FewInside s input ∧
  (forall step, input = .step step -> s.guard.drainReturns step = true -> s.AllEntered)

instance (s : WrapperState) (input : WrapperInput) : Decidable (Untouched s input) := by
  unfold Untouched
  infer_instance

instance (s : WrapperState) (input : WrapperInput) : Decidable (FewInside s input) := by
  cases input <;> unfold FewInside <;> infer_instance

instance (s : WrapperState) : Decidable s.AllEntered := by
  unfold WrapperState.AllEntered
  infer_instance

instance (s : WrapperState) (input : WrapperInput) : Decidable (EntersFirst s input) := by
  cases input with
  | step step =>
    exact decidable_of_iff
      (FewInside s (.step step) ∧ (s.guard.drainReturns step = true -> s.AllEntered))
      ⟨fun ⟨few, entered⟩ => ⟨few, fun _ same => (WrapperInput.step.inj same) ▸ entered⟩,
        fun ⟨few, entered⟩ => ⟨few, entered step rfl⟩⟩
  | free =>
    exact decidable_of_iff True
      ⟨fun _ => ⟨trivial, fun _ same => by cases same⟩, fun _ => trivial⟩
  | reuse fields =>
    exact decidable_of_iff True
      ⟨fun _ => ⟨trivial, fun _ same => by cases same⟩, fun _ => trivial⟩

/-! ## Counting the calls from before the destroyer -/

/-- A destroyer that drains has counted the calls, and all that it counted had come. -/
structure WrapperState.Counted (s : WrapperState) : Prop where
  known : DestroyerStage.drain ∈ s.guard.destroyers -> s.early.isSome = true
  within : s.early.getD 0 ≤ s.guard.callers.length

theorem handleStep_length (s : HandleState) (input : HandleInput) :
    s.callers.length ≤ (handleStep s input).callers.length := by
  cases input with
  | call want => simp [handleStep]
  | destroy want => exact Nat.le_refl _
  | caller idx =>
    cases present : s.callers[idx]? with
    | none => rw [handleStep_caller_none present]
    | some stage => simp [handleStep_caller present]
  | destroyer idx =>
    cases present : s.destroyers[idx]? with
    | none => rw [handleStep_destroyer_none present]
    | some stage => simp [handleStep_destroyer present]

theorem exists_destroyer {s : HandleState} {target : DestroyerStage}
    (later : forall want, target ≠ .checkType want) (before : target ∉ s.destroyers)
    (after : target ∈ (handleStep s input).destroyers) :
    exists idx stage, input = .destroyer idx ∧ s.destroyers[idx]? = some stage ∧
      target = (mtHandleDestroy s.fields stage).2 := by
  cases input with
  | call want => exact absurd after before
  | destroy want =>
    rcases List.mem_append.mp after with old | new
    · exact absurd old before
    · exact absurd (List.mem_singleton.mp new) (later want)
  | caller idx =>
    cases present : s.callers[idx]? with
    | none =>
      rw [handleStep_caller_none present] at after
      exact absurd after before
    | some stage =>
      rw [handleStep_caller present] at after
      exact absurd after before
  | destroyer idx =>
    cases present : s.destroyers[idx]? with
    | none =>
      rw [handleStep_destroyer_none present] at after
      exact absurd after before
    | some stage =>
      rw [handleStep_destroyer present] at after
      rcases List.mem_or_eq_of_mem_set after with old | new
      · exact absurd old before
      · exact ⟨idx, stage, rfl, present, new⟩

theorem claims_of_drain {s : HandleState}
    (before : DestroyerStage.drain ∉ s.destroyers)
    (after : DestroyerStage.drain ∈ (handleStep s input).destroyers) : s.claims input = true := by
  rcases exists_destroyer (fun _ => by simp) before after with ⟨idx, stage, rfl, present, moved⟩
  cases stage with
  | checkType want =>
    by_cases same : s.fields.type = want <;> simp [mtHandleDestroy, same] at moved
  | claim =>
    by_cases alive : s.fields.lcDestroying = 0
    · simp [HandleState.claims, present, alive]
    · simp [mtHandleDestroy, alive] at moved
  | drain => exact absurd (List.mem_of_getElem? present) before
  | drained => simp [mtHandleDestroy] at moved
  | failed errno => simp [mtHandleDestroy] at moved

theorem WrapperState.Counted.step {s : WrapperState} (counted : s.Counted) (input : WrapperInput) :
    (wrapperStep s input).Counted := by
  cases input with
  | step input =>
    have longer := handleStep_length s.guard input
    constructor
    · intro drains
      by_cases before : DestroyerStage.drain ∈ s.guard.destroyers
      · have known := counted.known before
        cases early : s.early with
        | none => simp [early] at known
        | some number => simp [wrapperStep, early]
      · have claims := claims_of_drain before drains
        cases early : s.early <;> simp [wrapperStep, claims, early]
    · simp only [wrapperStep]
      split
      · exact longer
      · exact counted.within.trans longer
  | free =>
    simp only [wrapperStep]
    split <;> exact ⟨counted.known, counted.within⟩
  | reuse fields =>
    simp only [wrapperStep]
    split <;> exact ⟨counted.known, counted.within⟩

/-! ## Up to the drain -/

/-- Before the drain returned, the guard keeps its invariant. -/
structure WrapperState.Draining (s : WrapperState) : Prop where
  sound : s.guard.Sound
  running : DestroyerStage.drained ∉ s.guard.destroyers
  unfreed : s.freed = false

theorem WrapperState.Draining.init (type : MtHandleType) : (wrapperInit type).Draining where
  sound := .init type
  running := by simp [wrapperInit, handleInit]
  unfreed := rfl

theorem WrapperState.Counted.init (type : MtHandleType) : (wrapperInit type).Counted where
  known drains := by simp [wrapperInit, handleInit] at drains
  within := Nat.le_refl _

theorem drainReturns_of_drained {s : HandleState}
    (before : DestroyerStage.drained ∉ s.destroyers)
    (after : DestroyerStage.drained ∈ (handleStep s input).destroyers) :
    s.drainReturns input = true := by
  rcases exists_destroyer (fun _ => by simp) before after with ⟨idx, stage, rfl, present, moved⟩
  cases stage with
  | checkType want =>
    by_cases same : s.fields.type = want <;> simp [mtHandleDestroy, same] at moved
  | claim =>
    by_cases alive : s.fields.lcDestroying = 0 <;> simp [mtHandleDestroy, alive] at moved
  | drain =>
    by_cases zero : s.fields.lcRefcnt = 0
    · simp [HandleState.drainReturns, present, zero]
    · simp [mtHandleDestroy, Nat.pos_of_ne_zero zero] at moved
  | drained => exact absurd (List.mem_of_getElem? present) before
  | failed errno => simp [mtHandleDestroy] at moved

theorem WrapperState.Draining.step {s : WrapperState} (draining : s.Draining) {input : WrapperInput}
    (few : FewInside s input)
    (running : DestroyerStage.drained ∉ (wrapperStep s input).guard.destroyers) :
    (wrapperStep s input).Draining := by
  cases input with
  | step input => exact ⟨draining.sound.step input few, running, draining.unfreed⟩
  | free =>
    have same : wrapperStep s .free = s := if_neg draining.running
    rw [same]
    exact draining
  | reuse fields =>
    have same : wrapperStep s (.reuse fields) = s := by simp [wrapperStep, draining.unfreed]
    rw [same]
    exact draining

theorem HandleState.Sound.outside {s : HandleState} (sound : s.Sound) (zero : s.fields.lcRefcnt = 0)
    (member : stage ∈ s.callers) :
    stage.entering = true ∨ exists result, stage = .returned result := by
  have none : s.callers.countP CallerStage.refers = 0 := by rw [← sound.counted, zero]
  have unreferred := List.countP_eq_zero.mp none stage member
  cases stage with
  | checkType want => exact .inl rfl
  | checkDestroying => exact .inl rfl
  | addRef => exact .inl rfl
  | recheck => exact absurd rfl unreferred
  | undo => exact absurd rfl unreferred
  | holding => exact absurd rfl unreferred
  | returned result => exact .inr ⟨result, rfl⟩

/-! ## After the drain -/

/-- The drain has returned, and so have the calls from before the destroyer. -/
structure WrapperState.Quiet (s : WrapperState) : Prop where
  drained : DestroyerStage.drained ∈ s.guard.destroyers
  known : s.early.isSome = true
  returned : ∀ stage ∈ s.earlyCallers, exists result, stage = .returned result

theorem handleStep_early {s : HandleState} {number : Nat} (within : number ≤ s.callers.length)
    (returned : ∀ stage ∈ s.callers.take number, exists result, stage = .returned result)
    (input : HandleInput) :
    (handleStep s input).callers.take number = s.callers.take number := by
  cases input with
  | call want => exact List.take_append_of_le_length within
  | destroy want => rfl
  | destroyer idx =>
    cases present : s.destroyers[idx]? with
    | none => rw [handleStep_destroyer_none present]
    | some stage => rw [handleStep_destroyer present]
  | caller idx =>
    cases present : s.callers[idx]? with
    | none => rw [handleStep_caller_none present]
    | some stage =>
      rw [handleStep_caller present]
      show (s.callers.set idx _).take number = _
      by_cases early : idx < number
      · -- the caller has returned, and its step changes nothing
        have member : stage ∈ s.callers.take number := by
          apply List.mem_of_getElem? (i := idx)
          rw [List.getElem?_take_of_lt early]
          exact present
        rcases returned stage member with ⟨result, rfl⟩
        have same : s.callers.set idx (.returned result) = s.callers := by
          rcases List.getElem?_eq_some_iff.mp present with ⟨bound, value⟩
          rw [← value, List.set_getElem_self]
        rw [mtHandleCall, same]
      · rw [List.take_set_of_le (Nat.le_of_not_lt early)]

theorem WrapperState.Quiet.step {s : WrapperState} (quiet : s.Quiet) (counted : s.Counted)
    (input : WrapperInput) : (wrapperStep s input).Quiet := by
  cases input with
  | step input =>
    rcases Option.isSome_iff_exists.mp quiet.known with ⟨number, early⟩
    have same : (wrapperStep s (.step input)).early = some number := by
      simp [wrapperStep, early]
    have callers := handleStep_early counted.within quiet.returned input
    refine ⟨drained_step quiet.drained input, by simp [same], ?_⟩
    intro stage member
    apply quiet.returned stage
    unfold WrapperState.earlyCallers at member ⊢
    rw [same] at member
    rw [early] at callers ⊢
    exact callers ▸ member
  | free =>
    simp only [wrapperStep]
    split <;> exact ⟨quiet.drained, quiet.known, quiet.returned⟩
  | reuse fields =>
    simp only [wrapperStep]
    split <;> exact ⟨quiet.drained, quiet.known, quiet.returned⟩

theorem HandleState.drainReturns_iff {s : HandleState} :
    s.drainReturns input = true ↔
      exists idx, input = .destroyer idx ∧ s.destroyers[idx]? = some .drain ∧
        s.fields.lcRefcnt = 0 := by
  cases input <;> simp [HandleState.drainReturns]

theorem WrapperState.Counted.returns (counted : s.Counted)
    (returns : s.guard.drainReturns input = true) :
    DestroyerStage.drained ∈ (wrapperStep s (.step input)).guard.destroyers ∧
    (wrapperStep s (.step input)).early.isSome = true ∧
    (wrapperStep s (.step input)).earlyCallers = s.earlyCallers := by
  rcases HandleState.drainReturns_iff.mp returns with ⟨idx, rfl, present, zero⟩
  have next : handleStep s.guard (.destroyer idx) =
      { s.guard with destroyers := s.guard.destroyers.set idx .drained } := by
    rw [handleStep_destroyer present]
    simp [mtHandleDestroy, zero]
  have known := counted.known (List.mem_of_getElem? present)
  have early : (wrapperStep s (.step (.destroyer idx))).early = s.early := by
    rcases Option.isSome_iff_exists.mp known with ⟨number, early⟩
    simp [wrapperStep, early]
  refine ⟨?_, early ▸ known, ?_⟩
  · show DestroyerStage.drained ∈ (handleStep s.guard (.destroyer idx)).destroyers
    rw [next]
    exact List.mem_set (List.getElem?_eq_some_iff.mp present).1 _
  · unfold WrapperState.earlyCallers
    rw [early]
    simp [wrapperStep, next]

theorem WrapperState.Draining.returns (draining : s.Draining) (counted : s.Counted)
    (returns : s.guard.drainReturns input = true) (entered : s.AllEntered) :
    (wrapperStep s (.step input)).Quiet := by
  rcases counted.returns returns with ⟨drained, known, same⟩
  rcases HandleState.drainReturns_iff.mp returns with ⟨idx, rfl, present, zero⟩
  refine ⟨drained, known, ?_⟩
  intro stage member
  rw [same] at member
  rcases draining.sound.outside zero (List.mem_of_mem_take member) with entering | returned
  · exact absurd (entered stage member) (by simp [entering])
  · exact returned

theorem WrapperState.Quiet.untouched (quiet : s.Quiet) (input : WrapperInput) :
    Untouched s input := by
  cases input with
  | free => rfl
  | reuse fields => rfl
  | step input =>
    cases input with
    | call want => rfl
    | destroy want => rfl
    | destroyer idx => rfl
    | caller idx =>
      unfold Untouched WrapperState.lateTouch
      cases present : s.earlyCallers[idx]? with
      | none => simp [present]
      | some stage =>
        rcases quiet.returned stage (List.mem_of_getElem? present) with ⟨result, rfl⟩
        simp [present, CallerStage.touches]

theorem WrapperState.Draining.untouched (draining : s.Draining)
    (input : WrapperInput) : Untouched s input := by
  cases input with
  | free => rfl
  | reuse fields => rfl
  | step input =>
    cases input with
    | call want => rfl
    | destroy want => rfl
    | destroyer idx => rfl
    | caller idx => simp [Untouched, WrapperState.lateTouch, draining.running]

/-! ## Runs -/

theorem WrapperState.drained_step
    (drained : DestroyerStage.drained ∈ s.guard.destroyers) (input : WrapperInput) :
    DestroyerStage.drained ∈ (wrapperStep s input).guard.destroyers := by
  cases input with
  | step input => exact Util.drained_step drained input
  | free =>
    simp only [wrapperStep]
    split <;> exact drained
  | reuse fields =>
    simp only [wrapperStep]
    split <;> exact drained

theorem WrapperState.drained_run
    (drained : DestroyerStage.drained ∈ s.guard.destroyers) (inputs : List WrapperInput) :
    DestroyerStage.drained ∈ (run wrapperStep s inputs).guard.destroyers := by
  induction inputs generalizing s with
  | nil => exact drained
  | cons input rest ih => exact ih (WrapperState.drained_step drained input)

theorem WrapperState.Draining.run (draining : s.Draining)
    {inputs : List WrapperInput} (few : Admitted wrapperStep FewInside s inputs)
    (running : DestroyerStage.drained ∉ (Library.run wrapperStep s inputs).guard.destroyers) :
    (Library.run wrapperStep s inputs).Draining ∧ Admitted wrapperStep Untouched s inputs := by
  induction inputs generalizing s with
  | nil => exact ⟨draining, trivial⟩
  | cons input rest ih =>
    have soon : DestroyerStage.drained ∉ (wrapperStep s input).guard.destroyers :=
      fun drained => running (WrapperState.drained_run drained rest)
    have later := ih (draining.step few.1 soon) few.2 running
    exact ⟨later.1, draining.untouched input, later.2⟩

theorem WrapperState.Counted.run (counted : s.Counted)
    (inputs : List WrapperInput) : (Library.run wrapperStep s inputs).Counted := by
  induction inputs generalizing s with
  | nil => exact counted
  | cons input rest ih => exact ih (counted.step input)

theorem WrapperState.Quiet.run (quiet : s.Quiet) (counted : s.Counted)
    (inputs : List WrapperInput) : Admitted wrapperStep Untouched s inputs := by
  induction inputs generalizing s with
  | nil => trivial
  | cons input rest ih =>
    exact ⟨quiet.untouched input, ih (quiet.step counted input) (counted.step input)⟩

/-- What a run keeps in which the calls enter before the drain returns. -/
def WrapperState.Safe (s : WrapperState) : Prop :=
  s.Counted ∧ (s.Draining ∨ s.Quiet)

theorem WrapperState.Safe.step {s : WrapperState} (safe : s.Safe) {input : WrapperInput}
    (enters : EntersFirst s input) : (wrapperStep s input).Safe := by
  rcases safe with ⟨counted, draining | quiet⟩
  · refine ⟨counted.step input, ?_⟩
    by_cases drained : DestroyerStage.drained ∈ (wrapperStep s input).guard.destroyers
    · right
      cases input with
      | step input =>
        have returns := drainReturns_of_drained draining.running drained
        exact draining.returns counted returns (enters.2 input rfl returns)
      | free =>
        have same : wrapperStep s .free = s := if_neg draining.running
        exact absurd (same ▸ drained) draining.running
      | reuse fields =>
        have same : wrapperStep s (.reuse fields) = s := by simp [wrapperStep, draining.unfreed]
        exact absurd (same ▸ drained) draining.running
    · exact .inl (draining.step enters.1 drained)
  · exact ⟨counted.step input, .inr (quiet.step counted input)⟩

theorem WrapperState.Safe.untouched (safe : s.Safe) (input : WrapperInput) :
    Untouched s input := by
  rcases safe.2 with draining | quiet
  · exact draining.untouched input
  · exact quiet.untouched input

/-! ## A call that the drain misses -/

theorem touched_late (drained : DestroyerStage.drained ∈ s.guard.destroyers)
    {idx : Nat} (present : s.earlyCallers[idx]? = some stage)
    (touches : stage.touches = true) : ¬ Untouched s (.step (.caller idx)) := by
  simp [Untouched, WrapperState.lateTouch, drained, present, touches]

theorem earlyCallers_some {idx : Nat}
    (present : s.earlyCallers[idx]? = some stage) :
    idx < s.early.getD 0 ∧ s.guard.callers[idx]? = some stage := by
  unfold WrapperState.earlyCallers at present
  rw [List.getElem?_take] at present
  split at present
  · exact ⟨‹_›, present⟩
  · cases present

theorem entering_touches (drained : DestroyerStage.drained ∈ s.guard.destroyers)
    (member : stage ∈ s.earlyCallers) (entering : stage.entering = true) :
    exists after, ¬ Admitted wrapperStep Untouched s after := by
  rcases List.mem_iff_getElem?.mp member with ⟨idx, present⟩
  cases stage with
  | checkDestroying => exact ⟨[.step (.caller idx)], fun all => touched_late drained present rfl all.1⟩
  | addRef => exact ⟨[.step (.caller idx)], fun all => touched_late drained present rfl all.1⟩
  | checkType want =>
    -- whatever the freed memory is used for may look like a handle of the type
    refine ⟨[.free, .reuse ⟨want, 0, 0⟩, .step (.caller idx), .step (.caller idx)], ?_⟩
    rintro ⟨-, -, -, touched, -⟩
    rcases earlyCallers_some present with ⟨early, caller⟩
    refine touched_late ?_ (?_ : _ = some CallerStage.checkDestroying) rfl touched
    · simp [wrapperStep, drained, handleStep, caller]
    · unfold WrapperState.earlyCallers
      rw [List.getElem?_take_of_lt (by simpa [wrapperStep, drained, HandleState.claims] using early)]
      rcases List.getElem?_eq_some_iff.mp caller with ⟨bound, value⟩
      simp [wrapperStep, drained, handleStep, mtHandleCall, bound, value]
  | recheck => cases entering
  | undo => cases entering
  | holding => cases entering
  | returned result => cases entering

/-- In every run in which the calls that came before the destroyer have incremented the count, or have
returned, when the drain returns, none of them takes a further step on `lc_destroying` or `lc_refcnt`;
and where the drain returns before that, the run has a continuation in which one of them does. -/
theorem freed_handle_untouched_iff (type : MtHandleType) :
    (forall inputs, Admitted wrapperStep EntersFirst (wrapperInit type) inputs ->
      Admitted wrapperStep Untouched (wrapperInit type) inputs) ∧
    (forall before input, Admitted wrapperStep FewInside (wrapperInit type) before ->
      DestroyerStage.drained ∉ (run wrapperStep (wrapperInit type) before).guard.destroyers ->
      (run wrapperStep (wrapperInit type) before).guard.drainReturns input = true ->
      ((forall after, Admitted wrapperStep Untouched (wrapperInit type)
          (before ++ .step input :: after)) ↔
        (run wrapperStep (wrapperInit type) before).AllEntered)) := by
  constructor
  · intro inputs enters
    exact admitted_of_invariant wrapperStep EntersFirst WrapperState.Safe
      (fun _ _ safe enters => safe.step enters) (fun _ input safe _ => safe.untouched input)
      ⟨.init type, .inl (.init type)⟩ enters
  · intro before input few running returns
    rcases (WrapperState.Draining.init type).run few running with ⟨draining, sofar⟩
    have counted := (WrapperState.Counted.init type).run before
    constructor
    · intro untouched stage member
      by_contra entering
      rw [Bool.not_eq_false] at entering
      rcases counted.returns returns with ⟨drained, -, same⟩
      rcases entering_touches drained (same ▸ member) entering with ⟨after, touched⟩
      have admitted := untouched after
      rw [admitted_append] at admitted
      exact touched admitted.2.2
    · intro entered after
      rw [admitted_append]
      refine ⟨sofar, draining.untouched _, ?_⟩
      exact (draining.returns counted returns entered).run (counted.step _) after

/-- A call that passed the type check is overtaken by the destroyer, which frees the wrapper; then it
reads `lc_destroying`. -/
def overtakenFree : List WrapperInput :=
  [.step (.call .txVideo), .step (.caller 0), .step (.destroy .txVideo), .step (.destroyer 0),
    .step (.destroyer 0), .step (.destroyer 0), .free, .step (.caller 0)]

theorem freed_handle_touched :
    (run wrapperStep (wrapperInit .txVideo) overtakenFree).freed = true ∧
    ¬ Admitted wrapperStep Untouched (wrapperInit .txVideo) overtakenFree := by
  decide

/-- A call that the drain waits for, and then does not touch the freed wrapper. -/
theorem freed_handle_untouched_waited :
    Admitted wrapperStep Untouched (wrapperInit .txVideo)
      [.step (.call .txVideo), .step (.caller 0), .step (.caller 0), .step (.caller 0),
        .step (.destroy .txVideo), .step (.destroyer 0), .step (.destroyer 0), .step (.destroyer 0),
        .step (.caller 0), .step (.caller 0), .step (.destroyer 0), .free, .step (.caller 0)] :=
  (freed_handle_untouched_iff .txVideo).1 _ (by decide)

end MediaTransport.Util
