import MediaTransport.Library.Run
import MediaTransport.Library.Table
import MediaTransport.Library.Word
import MediaTransport.Util.Errno

namespace MediaTransport.Util

open Library

/-!
# The session handle guard

Callers of the public API take a reference on a handle before they touch it, and
a destroyer waits until all references are gone.  Both sides use two variables
of the handle only, and every access to one of them is one atomic step.  Steps of
any number of callers and destroyers come in any order.
-/

/-- `enum mt_handle_type` -/
inductive MtHandleType where
  | unknown
  | main
  | txVideo
  | txAudio
  | txAnc
  | rxVideo
  | rxAudio
  | rxAnc
  | rxVideoR
  | st22TxVideo
  | st22RxVideo
  | st22PipelineTx
  | st22PipelineRx
  | st22PipelineEncode
  | st22PipelineDecode
  | st20PipelineTx
  | st20PipelineRx
  | st20PipelineConvert
  | st22DevEncode
  | st22DevDecode
  | st20DevConvert
  | st30PipelineTx
  | st30PipelineRx
  | st40PipelineTx
  | st40PipelineRx
  | udma
  | udp
  deriving DecidableEq, Repr

/-- The fields of a session handle that the guard uses. -/
structure HandleFields where
  type : MtHandleType
  lcDestroying : Nat
  lcRefcnt : Nat
  deriving DecidableEq, Repr

/-! ## One atomic step -/

/-- The next step of a caller in `mt_handle_acquire` and `mt_handle_release`, or what it returned with. -/
inductive CallerStage where
  | checkType (want : MtHandleType)
  | checkDestroying
  | addRef
  | recheck
  | undo
  | holding
  | returned (result : Except Errno Unit)
  deriving DecidableEq

/-- The next step of a destroyer in `mt_handle_begin_destroy` and `mt_handle_drain`, or its end. -/
inductive DestroyerStage where
  | checkType (want : MtHandleType)
  | claim
  | drain
  | drained
  | failed (errno : Errno)
  deriving DecidableEq

/-- `atomic_fetch_add_explicit` on `lc_refcnt` -/
def HandleFields.addRef (fields : HandleFields) : HandleFields :=
  { fields with lcRefcnt := u32 (fields.lcRefcnt + 1) }

/-- `atomic_fetch_sub_explicit` on `lc_refcnt` -/
def HandleFields.subRef (fields : HandleFields) : HandleFields :=
  { fields with lcRefcnt := u32 (fields.lcRefcnt - 1) }

/-- The steps of `mt_handle_acquire`; in `holding` the caller is between it and `mt_handle_release`. -/
def mtHandleCall (fields : HandleFields) : CallerStage -> HandleFields × CallerStage
  | .checkType want =>
    (fields, if fields.type ≠ want then .returned (.error .io) else .checkDestroying)
  | .checkDestroying =>
    (fields, if fields.lcDestroying ≠ 0 then .returned (.error .io) else .addRef)
  | .addRef => (fields.addRef, .recheck)
  | .recheck => (fields, if fields.lcDestroying ≠ 0 then .undo else .holding)
  | .undo => (fields.subRef, .returned (.error .io))
  | .holding => (fields.subRef, .returned (.ok ()))
  | .returned result => (fields, .returned result)

/-- The steps of `mt_handle_begin_destroy` and of its winner in `mt_handle_drain`. -/
def mtHandleDestroy (fields : HandleFields) : DestroyerStage -> HandleFields × DestroyerStage
  | .checkType want =>
    (fields, if fields.type ≠ want then .failed .io else .claim)
  | .claim =>
    if fields.lcDestroying = 0 then ({ fields with lcDestroying := 1 }, .drain)
    else (fields, .failed .busy)
  | .drain => (fields, if fields.lcRefcnt > 0 then .drain else .drained)
  | .drained => (fields, .drained)
  | .failed errno => (fields, .failed errno)

/-! ## Interleavings -/

/-- A handle with everyone who ever called or destroyed it. -/
structure HandleState where
  fields : HandleFields
  callers : List CallerStage
  destroyers : List DestroyerStage
  deriving DecidableEq

variable {s : HandleState}

/-- Someone comes, or takes the next step. -/
inductive HandleInput where
  | call (want : MtHandleType)
  | caller (idx : Nat)
  | destroy (want : MtHandleType)
  | destroyer (idx : Nat)
  deriving DecidableEq

def handleStep (s : HandleState) : HandleInput -> HandleState
  | .call want => { s with callers := s.callers ++ [.checkType want] }
  | .caller idx =>
    match s.callers[idx]? with
    | none => s
    | some stage =>
      let moved := mtHandleCall s.fields stage
      { s with fields := moved.1, callers := s.callers.set idx moved.2 }
  | .destroy want => { s with destroyers := s.destroyers ++ [.checkType want] }
  | .destroyer idx =>
    match s.destroyers[idx]? with
    | none => s
    | some stage =>
      let moved := mtHandleDestroy s.fields stage
      { s with fields := moved.1, destroyers := s.destroyers.set idx moved.2 }

def handleInit (type : MtHandleType) : HandleState where
  fields := ⟨type, 0, 0⟩
  callers := []
  destroyers := []

def CallerStage.inside : CallerStage -> Bool
  | .returned _ => false
  | _ => true

def CallerStage.refers : CallerStage -> Bool
  | .recheck => true
  | .undo => true
  | .holding => true
  | _ => false

/-- `mt_handle_begin_destroy` returned 0 to this destroyer. -/
def DestroyerStage.won : DestroyerStage -> Bool
  | .drain => true
  | .drained => true
  | _ => false

def FewCallers (s : HandleState) (input : HandleInput) : Prop :=
  (handleStep s input).callers.countP CallerStage.inside < 4294967296

instance (s : HandleState) (input : HandleInput) : Decidable (FewCallers s input) := by
  unfold FewCallers
  infer_instance

/-! ## The invariant -/

/-- The reference count and the flag count what they stand for, and after a drain nobody holds. -/
structure HandleState.Sound (s : HandleState) : Prop where
  few : s.callers.countP CallerStage.inside < 4294967296
  counted : s.fields.lcRefcnt = s.callers.countP CallerStage.refers
  claimed : s.destroyers.countP DestroyerStage.won = s.fields.lcDestroying
  single : s.fields.lcDestroying ≤ 1
  gone : DestroyerStage.drained ∈ s.destroyers -> CallerStage.holding ∉ s.callers

theorem refers_le_inside (callers : List CallerStage) :
    callers.countP CallerStage.refers ≤ callers.countP CallerStage.inside := by
  apply List.countP_mono_left
  intro stage _ refers
  cases stage <;> simp_all [CallerStage.refers, CallerStage.inside]

theorem HandleState.Sound.init (type : MtHandleType) : (handleInit type).Sound where
  few := by simp [handleInit]
  counted := rfl
  claimed := rfl
  single := Nat.zero_le 1
  gone drained := by simp [handleInit] at drained

theorem mtHandleCall_spec (fields : HandleFields) (stage : CallerStage) :
    (mtHandleCall fields stage).1.lcDestroying = fields.lcDestroying ∧
    ((mtHandleCall fields stage).1.lcRefcnt : Int) =
      (if (mtHandleCall fields stage).2.refers = stage.refers then (fields.lcRefcnt : Int)
       else u32 (fields.lcRefcnt + (mtHandleCall fields stage).2.refers.toNat - stage.refers.toNat)) ∧
    ((mtHandleCall fields stage).2 = .holding -> fields.lcDestroying = 0) := by
  cases stage with
  | checkType want =>
    by_cases same : fields.type = want <;> simp [mtHandleCall, same, CallerStage.refers]
  | checkDestroying =>
    by_cases alive : fields.lcDestroying = 0 <;> simp [mtHandleCall, alive, CallerStage.refers]
  | recheck =>
    by_cases alive : fields.lcDestroying = 0 <;> simp [mtHandleCall, alive, CallerStage.refers]
  | addRef => simp [mtHandleCall, HandleFields.addRef, CallerStage.refers]
  | undo => simp [mtHandleCall, HandleFields.subRef, CallerStage.refers]
  | holding => simp [mtHandleCall, HandleFields.subRef, CallerStage.refers]
  | returned result => simp [mtHandleCall, CallerStage.refers]

section

variable {s : HandleState} {idx : Nat}

theorem handleStep_caller {stage : CallerStage}
    (present : s.callers[idx]? = some stage) :
    handleStep s (.caller idx) =
      { s with
        fields := (mtHandleCall s.fields stage).1
        callers := s.callers.set idx (mtHandleCall s.fields stage).2 } := by
  simp only [handleStep, present]

theorem handleStep_caller_none (absent : s.callers[idx]? = none) :
    handleStep s (.caller idx) = s := by
  simp only [handleStep, absent]

theorem handleStep_destroyer {stage : DestroyerStage}
    (present : s.destroyers[idx]? = some stage) :
    handleStep s (.destroyer idx) =
      { s with
        fields := (mtHandleDestroy s.fields stage).1
        destroyers := s.destroyers.set idx (mtHandleDestroy s.fields stage).2 } := by
  simp only [handleStep, present]

theorem handleStep_destroyer_none
    (absent : s.destroyers[idx]? = none) : handleStep s (.destroyer idx) = s := by
  simp only [handleStep, absent]

end

theorem HandleState.Sound.destroying (sound : s.Sound) (drained : DestroyerStage.drained ∈ s.destroyers)
    : s.fields.lcDestroying ≠ 0 := by
  have positive : 0 < s.destroyers.countP DestroyerStage.won :=
    List.countP_pos_iff.mpr ⟨.drained, drained, rfl⟩
  rw [← sound.claimed]
  exact Nat.pos_iff_ne_zero.mp positive

theorem HandleState.Sound.caller {s : HandleState} (sound : s.Sound) (idx : Nat)
    (few : FewCallers s (.caller idx)) : (handleStep s (.caller idx)).Sound := by
  unfold FewCallers at few
  cases present : s.callers[idx]? with
  | none =>
    rw [handleStep_caller_none present]
    exact sound
  | some stage =>
    rw [handleStep_caller present] at few ⊢
    rcases mtHandleCall_spec s.fields stage with ⟨flag, count, holds⟩
    refine ⟨few, ?_, sound.claimed.trans flag.symm, flag ▸ sound.single, ?_⟩
    · show (mtHandleCall s.fields stage).1.lcRefcnt =
        (s.callers.set idx (mtHandleCall s.fields stage).2).countP CallerStage.refers
      have moved := countP_replace CallerStage.refers present (mtHandleCall s.fields stage).2
      have bound : (s.callers.set idx (mtHandleCall s.fields stage).2).countP CallerStage.refers <
          4294967296 := lt_of_le_of_lt (refers_le_inside _) few
      rw [sound.counted] at count
      by_cases same : (mtHandleCall s.fields stage).2.refers = stage.refers
      · rw [if_pos same] at count
        rw [same] at moved
        omega
      · rw [if_neg same, u32_eq] at count
        omega
    · intro drained member
      rcases List.mem_or_eq_of_mem_set member with old | new
      · exact sound.gone drained old
      · -- to come to hold the flag must be clear, but the winner has set it
        exact sound.destroying drained (holds new.symm)

theorem mtHandleDestroy_spec (fields : HandleFields) (stage : DestroyerStage)
    (single : fields.lcDestroying ≤ 1) :
    (mtHandleDestroy fields stage).1.lcRefcnt = fields.lcRefcnt ∧
    (mtHandleDestroy fields stage).1.lcDestroying + stage.won.toNat =
      fields.lcDestroying + (mtHandleDestroy fields stage).2.won.toNat ∧
    (mtHandleDestroy fields stage).1.lcDestroying ≤ 1 ∧
    ((mtHandleDestroy fields stage).2 = .drained -> stage = .drained ∨ fields.lcRefcnt = 0) := by
  cases stage with
  | checkType want =>
    by_cases same : fields.type = want <;> simp [mtHandleDestroy, same, DestroyerStage.won, single]
  | claim =>
    by_cases alive : fields.lcDestroying = 0 <;>
      simp [mtHandleDestroy, alive, DestroyerStage.won, single]
  | drain =>
    by_cases zero : fields.lcRefcnt = 0
    · simp [mtHandleDestroy, zero, DestroyerStage.won, single]
    · simp [mtHandleDestroy, Nat.pos_of_ne_zero zero, DestroyerStage.won, single]
  | drained => simp [mtHandleDestroy, single]
  | failed errno => simp [mtHandleDestroy, single]

theorem HandleState.Sound.destroyer {s : HandleState} (sound : s.Sound) (idx : Nat) :
    (handleStep s (.destroyer idx)).Sound := by
  cases present : s.destroyers[idx]? with
  | none =>
    rw [handleStep_destroyer_none present]
    exact sound
  | some stage =>
    rw [handleStep_destroyer present]
    rcases mtHandleDestroy_spec s.fields stage sound.single with ⟨count, flag, single, drains⟩
    have moved := countP_replace DestroyerStage.won present (mtHandleDestroy s.fields stage).2
    have claimed := sound.claimed
    refine ⟨sound.few, count.trans sound.counted, ?_, single, ?_⟩
    · show (s.destroyers.set idx (mtHandleDestroy s.fields stage).2).countP DestroyerStage.won =
        (mtHandleDestroy s.fields stage).1.lcDestroying
      omega
    · intro drained holding
      rcases List.mem_or_eq_of_mem_set drained with old | new
      · exact sound.gone old holding
      · rcases drains new.symm with before | zero
        · subst before
          exact sound.gone (List.mem_of_getElem? present) holding
        · -- the drain read zero, so no caller refers to the handle
          have positive : 0 < s.callers.countP CallerStage.refers :=
            List.countP_pos_iff.mpr ⟨.holding, holding, rfl⟩
          rw [← sound.counted, zero] at positive
          exact absurd positive (Nat.lt_irrefl 0)

theorem HandleState.Sound.step (sound : s.Sound) (input : HandleInput) (few : FewCallers s input)
    : (handleStep s input).Sound := by
  cases input with
  | call want =>
    refine ⟨few, ?_, sound.claimed, sound.single, ?_⟩
    · simpa [handleStep, List.countP_append, CallerStage.refers] using sound.counted
    · simpa [handleStep] using sound.gone
  | caller idx => exact sound.caller idx few
  | destroy want =>
    refine ⟨sound.few, sound.counted, ?_, sound.single, ?_⟩
    · simpa [handleStep, List.countP_append, DestroyerStage.won] using sound.claimed
    · simpa [handleStep] using sound.gone
  | destroyer idx => exact sound.destroyer idx

/-! ## Runs -/

theorem handle_sound (type : MtHandleType) (inputs : List HandleInput)
    (few : Admitted handleStep FewCallers (handleInit type) inputs) :
    (run handleStep (handleInit type) inputs).Sound :=
  run_invariant handleStep FewCallers HandleState.Sound
    (fun _ input sound few => sound.step input few) (.init type) few

theorem drained_step (drained : DestroyerStage.drained ∈ s.destroyers) (input : HandleInput)
    : DestroyerStage.drained ∈ (handleStep s input).destroyers := by
  cases input with
  | call want => exact drained
  | caller idx =>
    cases present : s.callers[idx]? with
    | none => rwa [handleStep_caller_none present]
    | some stage => rwa [handleStep_caller present]
  | destroy want => exact List.mem_append_left _ drained
  | destroyer idx =>
    cases present : s.destroyers[idx]? with
    | none => rwa [handleStep_destroyer_none present]
    | some stage =>
      rw [handleStep_destroyer present]
      by_cases same : stage = .drained
      · subst same
        apply List.mem_iff_getElem?.mpr
        exact ⟨idx, by simp [mtHandleDestroy, (List.getElem?_eq_some_iff.mp present).1]⟩
      · rcases List.mem_iff_getElem?.mp drained with ⟨place, found⟩
        apply List.mem_iff_getElem?.mpr
        refine ⟨place, ?_⟩
        have other : idx ≠ place := by
          intro equal
          rw [equal, found] at present
          exact same (Option.some.inj present).symm
        rw [List.getElem?_set_ne other]
        exact found

theorem drained_run (drained : DestroyerStage.drained ∈ s.destroyers) (inputs : List HandleInput)
    : DestroyerStage.drained ∈ (run handleStep s inputs).destroyers := by
  induction inputs generalizing s with
  | nil => exact drained
  | cons input rest ih => exact ih (drained_step drained input)

/-- In every interleaving at most one destroyer wins and `lc_refcnt` is the number of callers that hold
or tentatively hold a reference; after the winner's drain returned no caller holds one, and the next
step of no caller acquires one. -/
theorem handle_guarded (type : MtHandleType) (before after : List HandleInput)
    (few : Admitted handleStep FewCallers (handleInit type) (before ++ after)) :
    let returned := run handleStep (handleInit type) before
    let later := run handleStep (handleInit type) (before ++ after)
    later.destroyers.countP DestroyerStage.won ≤ 1 ∧
    later.fields.lcRefcnt = later.callers.countP CallerStage.refers ∧
    (DestroyerStage.drained ∈ returned.destroyers ->
      CallerStage.holding ∉ later.callers ∧
      ∀ stage ∈ later.callers, (mtHandleCall later.fields stage).2 ≠ .holding) := by
  intro returned later
  have sound := handle_sound type (before ++ after) few
  refine ⟨sound.claimed.trans_le sound.single, sound.counted, ?_⟩
  intro drained
  have stays : DestroyerStage.drained ∈ later.destroyers := by
    show DestroyerStage.drained ∈ (run handleStep (handleInit type) (before ++ after)).destroyers
    rw [run_append]
    exact drained_run drained after
  refine ⟨sound.gone stays, ?_⟩
  intro stage _ holds
  exact sound.destroying stays ((mtHandleCall_spec later.fields stage).2.2 holds)

/-- A caller that passed the first check is overtaken by the destroyer, and gives up. -/
theorem handle_guarded_overtaken :
    let before : List HandleInput :=
      [.call .txVideo, .caller 0, .caller 0, .destroy .txVideo, .destroyer 0, .destroyer 0, .destroyer 0]
    let after : List HandleInput := [.caller 0, .caller 0, .destroy .txVideo, .destroyer 1, .destroyer 1]
    let returned := run handleStep (handleInit .txVideo) before
    let later := run handleStep (handleInit .txVideo) (before ++ after)
    DestroyerStage.drained ∈ returned.destroyers ∧
    later.callers = [.undo] ∧ later.destroyers = [.drained, .failed .busy] ∧
    later.fields.lcRefcnt = later.callers.countP CallerStage.refers ∧
    CallerStage.holding ∉ later.callers := by
  intro before after returned later
  have drained : DestroyerStage.drained ∈ returned.destroyers := by decide
  have guarded := handle_guarded .txVideo before after (by decide)
  exact ⟨drained, by decide, by decide, guarded.2.1, (guarded.2.2 drained).1⟩

end MediaTransport.Util
