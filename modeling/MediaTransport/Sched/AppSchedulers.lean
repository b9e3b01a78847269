import MediaTransport.Sched.Schedulers

namespace MediaTransport.Sched

open Library

/-!
# Schedulers of the application

The application creates a scheduler in the table that library sessions share, and is
the only one to start, stop and free it, unless a session without quota comes to be
given it.
-/

variable (s : SchState) (sch : MtlSchImpl) (quotaMbs : Nat)

/-- A step of the library, a step of one of its calls that gets no memory, lcore or thread, or a call of the
application on a scheduler that it created, which can fail for the same reasons. -/
inductive AppInput where
  | library (input : QuotaInput)
  | unserved (k : Nat)
  | create (socket : Nat) (allocated : Bool)
  | start (idx : Nat) (launched : Bool)
  | stop (idx : Nat)
  | free (idx : Nat)
  deriving DecidableEq, Repr

/-- The scheduler that `sch_request` finds with the mask of all schedulers. -/
def SchState.firstFree : Option Nat :=
  s.schs.findIdx? (fun sch => !sch.active)

/-- What `sch_start` leaves where there is no lcore or thread. -/
def schStartFails : MtlSchImpl :=
  if sch.started then sch else { sch with cpuBusy := false }

/-- `mtl_sch_create`; `sch_request` writes the type before it allocates the tasklets. -/
def mtlSchCreate (socket : Nat) (allocated : Bool) : MtlSchImpl :=
  if !allocated then { sch with type := .app }
  else { sch.requested .app socket with app := some false }

/-- `mtl_sch_start` -/
def mtlSchStart (launched : Bool) : MtlSchImpl :=
  if !launched then
    schStartFails sch
  else
    match schStart sch with
    | (sch, .ok _) => { sch with app := some true }
    | (sch, .error _) => sch

/-- `mtl_sch_stop` -/
def mtlSchStop : MtlSchImpl :=
  { schStop sch with app := some false }

/-- `mtl_sch_free`, which stops the scheduler where the application did not. -/
def mtlSchFree : MtlSchImpl :=
  { schFree (if sch.started then schStop sch else sch) with app := none }

def SchState.byApp (idx : Nat) (call : MtlSchImpl -> MtlSchImpl) : SchState :=
  match s.schs[idx]? with
  | none => s
  | some sch => if sch.app.isSome then { s with schs := s.schs.set idx (call sch) } else s

/-- The steps of `mt_sch_get_by_socket` that allocate or start, when that fails. -/
def SchState.unservedOn (k : Nat) (call : SchCall) : SchState :=
  match call.phase with
  | .request =>
    if call.finds sch then (s.goOn k call { sch with type := call.request.type } .refused).unlock else s
  | .start => if s.implStarted then s.goOn k call (schStartFails sch) .undo else s
  | _ => s

/-- Steps of the library and of the application. -/
def appStep : AppInput -> SchState
  | .library input => quotaStep s input
  | .unserved k =>
    match s.calls[k]? with
    | none => s
    | some call =>
      match s.schs[call.idx]? with
      | none => s
      | some sch => s.unservedOn sch k call
  | .create socket allocated =>
    match s.firstFree with
    | none => s
    | some idx =>
      match s.schs[idx]? with
      | none => s
      | some sch => { s with schs := s.schs.set idx (mtlSchCreate sch socket allocated) }
  | .start idx launched => s.byApp idx (fun sch => mtlSchStart sch launched)
  | .stop idx => s.byApp idx mtlSchStop
  | .free idx => s.byApp idx mtlSchFree

/-! ## What is promised -/

def SchPhase.given : SchPhase -> Bool
  | .add | .addFresh | .start | .undo | .count | .holding | .drop | .stop | .free => true
  | _ => false

/-- The scheduler is as the application left it. -/
structure MtlSchImpl.OfApp (sch : MtlSchImpl) (ran : Bool) : Prop where
  type : sch.type = .app
  active : sch.active = true
  started : ran = true -> sch.started = true

/-- What the application created and has not freed keeps its type, is active and runs when the application
started it, and no get is given it. -/
def SchState.AppKept : Prop :=
  forall (idx : Nat) (sch : MtlSchImpl) (ran : Bool), s.schs[idx]? = some sch -> sch.app = some ran ->
    sch.OfApp ran ∧ ∀ call ∈ s.calls, call.idx = idx -> call.phase.given = false

/-- Every get that comes to test a scheduler of the application asks for a quota and for a type of the
library, and the scheduler that the application is given is given to no session. -/
def AppSafe : AppInput -> Prop
  | .library (.advance k) =>
    ∀ call ∈ s.calls[k]?, ∀ sch ∈ s.schs[call.idx]?, call.phase = .capable ->
      sch.app.isSome = true -> call.request.quotaMbs ≠ 0 ∧ call.request.type ≠ .app
  | .create _ true =>
    ∀ idx ∈ s.firstFree, ∀ call ∈ s.calls, call.idx = idx ->
      call.phase.given = false
  | _ => True

/-! ## Steps of the library -/

theorem schIsCapable_app (type : MtSchType) : (schIsCapable sch quotaMbs type).1.app = sch.app := by
  unfold schIsCapable
  split_ifs <;> rfl

theorem mtSchAddQuota_app : (mtSchAddQuota sch quotaMbs).1.app = sch.app := by
  unfold mtSchAddQuota
  split_ifs <;> rfl

theorem schFreeQuota_app : (schFreeQuota sch quotaMbs).app = sch.app := by
  unfold schFreeQuota
  split_ifs <;> rfl

theorem schStart_app : (schStart sch).1.app = sch.app := by
  unfold schStart
  split_ifs <;> rfl

theorem schStartFails_app : (schStartFails sch).app = sch.app := by
  unfold schStartFails
  split_ifs <;> rfl

theorem schStop_app : (schStop sch).app = sch.app := by
  unfold schStop
  split_ifs <;> rfl

theorem SchCall.inactive_of_finds {sch : MtlSchImpl} {call : SchCall} (finds : call.finds sch = true) :
    sch.active = false := by
  unfold SchCall.finds at finds
  rw [Bool.and_eq_true, Bool.not_eq_true'] at finds
  exact finds.2

section

variable {s : SchState} (kept : s.AppKept) (k : Nat) (call : SchCall)

include kept

theorem SchState.AppKept.lookAt
    {phase : SchPhase} (free : phase.given = false) (idx : Nat) (lock : Option Nat) :
    SchState.AppKept { s.lookAt k call phase idx with mgrLock := lock } := by
  intro place sch ran present owned
  rcases kept place sch ran present owned with ⟨same, ungiven⟩
  refine ⟨same, ?_⟩
  intro other member here
  rcases List.mem_or_eq_of_mem_set member with old | rfl
  · exact ungiven other old here
  · exact free

theorem SchState.AppKept.goOn
    {sch after : MtlSchImpl} (present : s.schs[call.idx]? = some sch) (phase : SchPhase)
    (free : after.app = none) (lock : Option Nat) :
    SchState.AppKept { s.goOn k call after phase with mgrLock := lock } := by
  intro place one ran presentOne owned
  rcases getElem?_replace_cases present presentOne with ⟨-, rfl⟩ | ⟨apart, old⟩
  · rw [free] at owned
    cases owned
  · rcases kept place one ran old owned with ⟨same, ungiven⟩
    refine ⟨same, ?_⟩
    intro other member here
    rcases List.mem_or_eq_of_mem_set member with oldCall | rfl
    · exact ungiven other oldCall here
    · exact absurd here.symm apart

theorem SchState.AppKept.pass {sch : MtlSchImpl} (present : s.schs[call.idx]? = some sch) :
    (s.goOn k call sch .capable).AppKept := by
  intro place one ran presentOne owned
  have old : s.schs[place]? = some one := by
    rcases getElem?_replace_cases present presentOne with ⟨rfl, rfl⟩ | ⟨-, old⟩
    · exact present
    · exact old
  rcases kept place one ran old owned with ⟨same, ungiven⟩
  refine ⟨same, ?_⟩
  intro other member here
  rcases List.mem_or_eq_of_mem_set member with oldCall | rfl
  · exact ungiven other oldCall here
  · rfl

end

section Steps

variable {s : SchState} (kept : s.AppKept) {k : Nat} {call : SchCall} (found : s.calls[k]? = some call)
  {sch : MtlSchImpl} (present : s.schs[call.idx]? = some sch)

include kept found present

theorem SchState.AppKept.not_app (given : call.phase.given = true) : sch.app = none := by
  cases owned : sch.app with
  | none => rfl
  | some ran =>
    have ungiven := (kept call.idx sch ran present owned).2 call (List.mem_of_getElem? found) rfl
    rw [given] at ungiven
    cases ungiven

omit found in
theorem SchState.AppKept.not_active (inactive : sch.active = false) : sch.app = none := by
  cases owned : sch.app with
  | none => rfl
  | some ran =>
    have active := (kept call.idx sch ran present owned).1.active
    rw [inactive] at active
    cases active

/-- Every step of a call on its scheduler leaves the application's schedulers alone, when the test for a
scheduler of the application asks for a quota and a type of the library. -/
theorem SchState.AppKept.advanceOn
    (safe : call.phase = .capable -> sch.app.isSome = true ->
      call.request.quotaMbs ≠ 0 ∧ call.request.type ≠ .app) : (s.advanceOn k call sch).AppKept := by
  unfold SchState.advanceOn
  cases phase : call.phase with
  | waiting => exact kept
  | refused => exact kept
  | holding => exact kept
  | done => exact kept
  | scan =>
    by_cases passes : call.passes sch = true
    · simp only [if_pos passes]
      exact kept.pass k call present
    · simp only [if_neg passes]
      exact kept.lookAt k call rfl _ _
  | capable =>
    have frame := schIsCapable_app sch call.request.quotaMbs call.request.type
    dsimp only
    split
    · rename_i after capable
      rw [capable] at frame
      have free : sch.app = none := by
        cases owned : sch.app with
        | none => rfl
        | some ran =>
          -- the test is for a type that an application's scheduler does not have
          rcases safe phase (by rw [owned]; rfl) with ⟨quota, type⟩
          have own := (kept call.idx sch ran present owned).1.type
          simp [schIsCapable, quota, own, Ne.symm type] at capable
      exact kept.goOn k call present .add (frame.trans free) _
    · exact kept.lookAt k call rfl _ _
  | add =>
    have free := kept.not_app found present (by rw [phase]; rfl)
    have frame := mtSchAddQuota_app sch call.request.quotaMbs
    dsimp only
    split
    · rename_i after answer added
      rw [added] at frame
      exact kept.goOn k call present .count (frame.trans free) _
    · exact kept.lookAt k call rfl _ _
  | request =>
    by_cases finds : call.finds sch = true
    · simp only [if_pos finds]
      have free : sch.app = none := kept.not_active present (SchCall.inactive_of_finds finds)
      have after : (sch.requested call.request.type call.request.socket).app = none := free
      exact kept.goOn k call present .addFresh after _
    · simp only [if_neg finds]
      exact kept.lookAt k call rfl _ _
  | addFresh =>
    have free := kept.not_app found present (by rw [phase]; rfl)
    have frame := mtSchAddQuota_app sch call.request.quotaMbs
    dsimp only
    split
    · rename_i after answer added
      rw [added] at frame
      exact kept.goOn k call present .start (frame.trans free) _
    · exact kept.goOn k call present .undo free _
  | start =>
    have free := kept.not_app found present (by rw [phase]; rfl)
    have frame := schStart_app sch
    dsimp only
    split
    · exact kept.goOn k call present .count free _
    · split
      · rename_i after answer started
        rw [started] at frame
        exact kept.goOn k call present .count (frame.trans free) _
      · exact kept.goOn k call present .undo free _
  | undo =>
    have owner := kept.not_app found present (by rw [phase]; rfl)
    have free : (schFree sch).app = none := owner
    exact kept.goOn k call present .refused free _
  | count =>
    have owner := kept.not_app found present (by rw [phase]; rfl)
    have free : ({ sch with refCnt := sch.refCnt + 1 } : MtlSchImpl).app = none := owner
    exact kept.goOn k call present .holding free _
  | drop =>
    have owner := kept.not_app found present (by rw [phase]; rfl)
    have free : ({ sch with refCnt := sch.refCnt - 1 } : MtlSchImpl).app = none := owner
    exact kept.goOn k call present _ free _
  | stop =>
    have free := kept.not_app found present (by rw [phase]; rfl)
    exact kept.goOn k call present .free ((schStop_app sch).trans free) _
  | free =>
    have owner := kept.not_app found present (by rw [phase]; rfl)
    have free : (schFree sch).app = none := owner
    exact kept.goOn k call present .done free _

theorem SchState.AppKept.unservedOn : (s.unservedOn sch k call).AppKept := by
  unfold SchState.unservedOn
  cases phase : call.phase with
  | request =>
    by_cases finds : call.finds sch = true
    · simp only [if_pos finds]
      have free : sch.app = none := kept.not_active present (SchCall.inactive_of_finds finds)
      have after : ({ sch with type := call.request.type } : MtlSchImpl).app = none := free
      exact kept.goOn k call present .refused after _
    · simpa only [if_neg finds] using kept
  | start =>
    have free := kept.not_app found present (by rw [phase]; rfl)
    dsimp only
    split
    · exact kept.goOn k call present .undo ((schStartFails_app sch).trans free) _
    · exact kept
  | _ => exact kept

end Steps

theorem SchState.AppKept.advance {s : SchState} (kept : s.AppKept) {k : Nat} {call : SchCall}
    (found : s.calls[k]? = some call)
    (safe : forall sch, s.schs[call.idx]? = some sch -> call.phase = .capable -> sch.app.isSome = true ->
      call.request.quotaMbs ≠ 0 ∧ call.request.type ≠ .app) : (s.advance k call).AppKept := by
  have onTable : forall sch, s.schs[call.idx]? = some sch -> (s.advanceOn k call sch).AppKept :=
    fun sch present => kept.advanceOn found present (safe sch present)
  unfold SchState.advance
  by_cases waiting : call.phase = .waiting
  · simp only [waiting]
    cases s.mgrLock with
    | some holder => exact kept
    | none => exact kept.lookAt k call rfl _ _
  · cases present : s.schs[call.idx]? with
    | some sch => simpa [waiting] using onTable sch present
    | none =>
      cases phase : call.phase with
      | scan => exact kept.lookAt k call rfl _ _
      | request => exact kept.lookAt k call rfl _ _
      | waiting => exact absurd phase waiting
      | _ => simpa [phase] using kept

theorem SchState.AppKept.library {s : SchState} (kept : s.AppKept) {input : QuotaInput}
    (safe : AppSafe s (.library input)) : (quotaStep s input).AppKept := by
  cases input with
  | get request =>
    intro idx sch ran present owned
    rcases kept idx sch ran present owned with ⟨same, ungiven⟩
    refine ⟨same, ?_⟩
    intro call member here
    rcases List.mem_append.mp member with old | new
    · exact ungiven call old here
    · rw [List.mem_singleton.mp new]
      rfl
  | advance k =>
    simp only [quotaStep]
    cases found : s.calls[k]? with
    | none => exact kept
    | some call => exact kept.advance found (fun sch present => safe call found sch present)
  | put k =>
    simp only [quotaStep]
    cases found : s.calls[k]? with
    | none => exact kept
    | some call =>
      by_cases holding : call.phase = .holding
      · cases present : s.schs[call.idx]? with
        | none => simpa [holding, present] using kept
        | some sch =>
          have free := kept.not_app found present (by rw [holding]; rfl)
          have frame := (schFreeQuota_app sch call.request.quotaMbs).trans free
          have after : (s.goOn k call (schFreeQuota sch call.request.quotaMbs) .drop).AppKept :=
            kept.goOn k call present .drop frame _
          simpa [holding, present] using after
      · simpa [holding] using kept
  | busy idx flag =>
    simp only [quotaStep]
    cases present : s.schs[idx]? with
    | none => exact kept
    | some sch =>
      intro place one ran presentOne owned
      rcases getElem?_replace_cases present presentOne with ⟨rfl, rfl⟩ | ⟨-, old⟩
      · rcases kept place sch ran present owned with ⟨same, ungiven⟩
        exact ⟨⟨same.type, same.active, same.started⟩, ungiven⟩
      · exact kept place one ran old owned

/-! ## Calls of the application -/

theorem SchState.AppKept.byApp {s : SchState} (kept : s.AppKept) (idx : Nat)
    {call : MtlSchImpl -> MtlSchImpl}
    (own : forall (sch : MtlSchImpl) (ran after : Bool), sch.OfApp ran -> sch.app = some ran ->
      (call sch).app = some after -> (call sch).OfApp after) : (s.byApp idx call).AppKept := by
  unfold SchState.byApp
  cases present : s.schs[idx]? with
  | none => exact kept
  | some sch =>
    cases owned : sch.app with
    | none => simpa [owned] using kept
    | some ran =>
      simp only [owned, Option.isSome_some, if_true]
      intro place one after presentOne ownedOne
      rcases getElem?_replace_cases present presentOne with ⟨rfl, rfl⟩ | ⟨-, old⟩
      · rcases kept place sch ran present owned with ⟨same, ungiven⟩
        exact ⟨own sch ran after same owned ownedOne, ungiven⟩
      · exact kept place one after old ownedOne

theorem mtlSchStart_ofApp (launched ran after : Bool) (same : sch.OfApp ran)
    (owned : sch.app = some ran) (ownedAfter : (mtlSchStart sch launched).app = some after) :
    (mtlSchStart sch launched).OfApp after := by
  unfold mtlSchStart schStartFails schStart at ownedAfter ⊢
  cases launched with
  | false =>
    by_cases started : sch.started = true
    · simp only [started, Bool.not_false, if_true] at ownedAfter ⊢
      obtain rfl : ran = after := Option.some.inj (owned.symm.trans ownedAfter)
      exact same
    · simp only [started, Bool.not_false, if_true] at ownedAfter ⊢
      obtain rfl : ran = after := Option.some.inj (owned.symm.trans ownedAfter)
      exact ⟨same.type, same.active, fun isTrue => absurd (same.started isTrue) started⟩
  | true =>
    by_cases started : sch.started = true
    · simp only [started, Bool.not_true, if_true] at ownedAfter ⊢
      obtain rfl : ran = after := Option.some.inj (owned.symm.trans ownedAfter)
      exact same
    · simp only [started, Bool.not_true] at ownedAfter ⊢
      exact ⟨same.type, same.active, fun _ => rfl⟩

theorem mtlSchStop_ofApp (ran after : Bool) (same : sch.OfApp ran) (_owned : sch.app = some ran)
    (ownedAfter : (mtlSchStop sch).app = some after) :
    (mtlSchStop sch).OfApp after := by
  obtain rfl : false = after := Option.some.inj ownedAfter
  have kept : (schStop sch).type = sch.type ∧ (schStop sch).active = sch.active := by
    unfold schStop
    split_ifs <;> exact ⟨rfl, rfl⟩
  exact ⟨kept.1.trans same.type, kept.2.trans same.active, by intro ran; cases ran⟩

theorem SchState.AppKept.create {s : SchState} (kept : s.AppKept) {idx : Nat} {sch : MtlSchImpl}
    (present : s.schs[idx]? = some sch) (socket : Nat)
    (ungiven : ∀ call ∈ s.calls, call.idx = idx -> call.phase.given = false) :
    SchState.AppKept { s with schs := s.schs.set idx (mtlSchCreate sch socket true) } := by
  intro place one ran presentOne owned
  rcases getElem?_replace_cases present presentOne with ⟨rfl, rfl⟩ | ⟨-, old⟩
  · obtain rfl : false = ran := Option.some.inj owned
    exact ⟨⟨rfl, rfl, by intro ran; cases ran⟩, ungiven⟩
  · exact kept place one ran old owned

/-- A creation that fails has written its type to a scheduler that is not active. -/
theorem SchState.AppKept.createFails {s : SchState} (kept : s.AppKept) {idx : Nat} {sch : MtlSchImpl}
    (present : s.schs[idx]? = some sch) (inactive : sch.active = false) (socket : Nat) :
    SchState.AppKept { s with schs := s.schs.set idx (mtlSchCreate sch socket false) } := by
  intro place one ran presentOne owned
  rcases getElem?_replace_cases present presentOne with ⟨rfl, rfl⟩ | ⟨-, old⟩
  · have active := (kept place sch ran present owned).1.active
    rw [inactive] at active
    cases active
  · exact kept place one ran old owned

theorem SchState.firstFree_inactive {s : SchState} {idx : Nat} {sch : MtlSchImpl}
    (first : s.firstFree = some idx) (present : s.schs[idx]? = some sch) : sch.active = false := by
  rcases List.findIdx?_eq_some_iff_getElem.mp first with ⟨bound, free, -⟩
  obtain rfl := Option.some.inj ((List.getElem?_eq_getElem bound).symm.trans present)
  simpa using free

theorem SchState.AppKept.step {s : SchState} (kept : s.AppKept) {input : AppInput} (safe : AppSafe s input) :
    (appStep s input).AppKept := by
  cases input with
  | library input => exact kept.library safe
  | unserved k =>
    simp only [appStep]
    cases found : s.calls[k]? with
    | none => exact kept
    | some call =>
      cases present : s.schs[call.idx]? with
      | none => simpa [present] using kept
      | some sch => simpa [present] using kept.unservedOn found present
  | create socket allocated =>
    simp only [appStep]
    cases first : s.firstFree with
    | none => exact kept
    | some idx =>
      cases present : s.schs[idx]? with
      | none => simpa [present] using kept
      | some sch =>
        cases allocated with
        | false => simpa [present] using kept.createFails present (s.firstFree_inactive first present) socket
        | true => simpa [present] using kept.create present socket (safe idx first)
  | start idx launched =>
    exact kept.byApp idx (fun sch ran after => mtlSchStart_ofApp sch launched ran after)
  | stop idx => exact kept.byApp idx mtlSchStop_ofApp
  | free idx =>
    apply kept.byApp idx
    intro sch ran after _ _ owned
    cases owned

theorem appSafe_of_kept {s : SchState} (kept : s.AppKept) {input : AppInput}
    (keptAfter : (appStep s input).AppKept) : AppSafe s input := by
  cases input with
  | start idx launched => trivial
  | stop idx => trivial
  | free idx => trivial
  | unserved k => trivial
  | create socket allocated =>
    cases allocated with
    | false => trivial
    | true =>
      intro idx first call member here
      rcases List.findIdx?_eq_some_iff_getElem.mp first with ⟨bound, -⟩
      rcases List.getElem?_eq_some_iff.mpr ⟨bound, rfl⟩ with present
      generalize s.schs[idx] = sch at present
      have created : appStep s (.create socket true) =
          { s with schs := s.schs.set idx (mtlSchCreate sch socket true) } := by
        simp only [appStep, show s.firstFree = some idx from first, present]
      rw [created] at keptAfter
      have own : (s.schs.set idx (mtlSchCreate sch socket true))[idx]? =
          some (mtlSchCreate sch socket true) := by
        rw [getElem?_replace present, if_pos rfl]
      exact (keptAfter idx _ false own rfl).2 call member here
  | library input =>
    cases input with
    | get request => trivial
    | put k => trivial
    | busy idx flag => trivial
    | advance k =>
      intro call found sch present phase owned
      rcases Option.isSome_iff_exists.mp owned with ⟨ran, app⟩
      have own := (kept call.idx sch ran present app).1.type
      by_contra clash
      have capable : schIsCapable sch call.request.quotaMbs call.request.type = (sch, true) := by
        unfold schIsCapable
        by_cases quota : call.request.quotaMbs = 0
        · rw [if_pos quota]
        · have type : call.request.type = .app := by
            by_contra type
            exact clash ⟨quota, type⟩
          rw [if_neg quota, if_neg (by rw [type]; simp), own, type]
          rfl
      have given : appStep s (.library (.advance k)) = s.goOn k call sch .add := by
        simp only [appStep, quotaStep, show s.calls[k]? = some call from found, SchState.advance, phase,
          show s.schs[call.idx]? = some sch from present, SchState.advanceOn, capable]
      rw [given] at keptAfter
      have still : (s.schs.set call.idx sch)[call.idx]? = some sch := by
        rw [getElem?_replace present, if_pos rfl]
      have ungiven := (keptAfter call.idx sch ran still app).2 { call with phase := .add }
        (List.mem_set (List.getElem?_eq_some_iff.mp found).1 _) rfl
      cases ungiven

theorem SchState.AppKept.init (count : Nat) (limit : Int) (implStarted : Bool) :
    (schInit count limit implStarted).AppKept := by
  intro idx sch ran present owned
  have blank := (List.mem_replicate.mp (List.mem_of_getElem? present)).2
  rw [blank] at owned
  cases owned

/-- In every interleaving of library sessions and calls of the application, what the application created
stays its own after each step exactly if no get that tests a scheduler of the application comes without a
quota or for the application's type, and the application is never given a scheduler that a session is still
given. -/
theorem app_kept_iff (count : Nat) (limit : Int) (implStarted : Bool) (inputs : List AppInput) :
    Admitted appStep (fun s input => (appStep s input).AppKept) (schInit count limit implStarted) inputs ↔
      Admitted appStep AppSafe (schInit count limit implStarted) inputs := by
  constructor
  · intro kept
    exact admitted_of_invariant appStep (fun s input => (appStep s input).AppKept) SchState.AppKept
      (fun _ _ _ after => after) (fun _ _ before after => appSafe_of_kept before after)
      (.init count limit implStarted) kept
  · intro safe
    exact admitted_of_invariant appStep AppSafe SchState.AppKept
      (fun _ _ kept safe => kept.step safe) (fun _ _ kept safe => kept.step safe)
      (.init count limit implStarted) safe

/-- The application creates and starts a scheduler; a session without quota is given it, and puts it. -/
def borrowedScheduler : List AppInput :=
  [.create 0 true, .start 0 true, .library (.get ⟨0, by decide, .default, 1, 0⟩), .library (.advance 0),
    .library (.advance 0), .library (.advance 0), .library (.advance 0), .library (.advance 0),
    .library (.put 0), .library (.advance 0), .library (.advance 0), .library (.advance 0)]

/-- The scheduler of the application has lost its type, and is stopped and freed. -/
theorem borrowed_scheduler_freed :
    (run appStep (schInit 1 100 true) borrowedScheduler).schs =
        [⟨.default, false, 0, 0, 100, false, false, 0, some true⟩] ∧
      ¬ (run appStep (schInit 1 100 true) borrowedScheduler).AppKept := by
  have freed : (run appStep (schInit 1 100 true) borrowedScheduler).schs =
      [⟨.default, false, 0, 0, 100, false, false, 0, some true⟩] := by decide
  refine ⟨freed, ?_⟩
  intro kept
  have active := (kept 0 ⟨.default, false, 0, 0, 100, false, false, 0, some true⟩ true
    (by rw [freed]; rfl) rfl).1.active
  cases active

end MediaTransport.Sched
