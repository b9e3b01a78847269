import MediaTransport.Sched.Lcores
import MediaTransport.Sched.Schedulers

namespace MediaTransport.Sched

open Library

/-!
# Starting a scheduler

A scheduler that is started takes an lcore and has its loop launched there, or has a
thread created for the loop.  A get that finds no scheduler for its quota requests a
free one, adds the quota and starts it.  What one call leaves of the accounts is looked
at here, for any answers of the system.
-/

/-- What the process holds of the lcores: the shared table, `local_lcores_active` and `lcore_cnt`. -/
structure SchLcores where
  shm : LcoreShm
  localLcoresActive : List Nat
  lcoreCnt : Int
  deriving DecidableEq, Repr

/-- `struct mt_sch_mgr` with what a start reads of its instance; `launched` are the schedulers whose loop was
launched, for an observer. -/
structure MtSchMgr where
  schs : List MtlSchImpl
  schCnt : Int
  lcores : SchLcores
  runInThread : Bool
  implStarted : Bool
  launched : List Nat
  deriving DecidableEq, Repr

/-- The answers of the system during one call: whether there is memory for the tasklets, which lcores the
manager grants where one is connected, what `sch_get_lcore` finds in the shared table, whether the file lock
is taken and given back, and the error of the launch, zero where the loop was launched. -/
structure SchSystem where
  tasklets : Bool
  manager : Option (Nat -> Bool)
  kill : Nat -> Bool
  info : MtUserInfo
  owner : Nat
  lcores : List (Nat × Nat)
  notBindNuma : Bool
  acrossNumaCore : Bool
  locked : Bool
  unlocked : Bool
  launchErrno : Nat

/-! ## The lcore of a scheduler -/

variable (mgr : MtSchMgr) (sys : SchSystem) (idx : Nat)

def SchLcores.grant (lcores : SchLcores) (shm : LcoreShm) (lcore : Nat) : SchLcores where
  shm := shm
  localLcoresActive := lcore :: lcores.localLcoresActive
  lcoreCnt := lcores.lcoreCnt + 1

def SchSystem.request (socket : Nat) : LcoreRequest :=
  ⟨sys.lcores, socket, sys.notBindNuma, sys.acrossNumaCore⟩

/-- `mt_sch_get_lcore`, by the manager or by the shared table; the lcore stays taken when the file lock cannot
be given back. -/
def mtSchGetLcore (socket : Nat) (lcores : SchLcores) : SchLcores × Except Errno Nat :=
  match sys.manager with
  | some grants =>
    match (sys.request socket).offered.find? grants with
    | some lcore => (lcores.grant lcores.shm lcore, .ok lcore)
    | none => (lcores, .error .io)
  | none =>
    if !sys.locked then
      (lcores, .error .io)
    else
      match schGetLcore sys.kill sys.info sys.owner (sys.request socket) lcores.shm with
      | (shm, .ok lcore) =>
        (lcores.grant shm lcore, if sys.unlocked then .ok lcore else .error .io)
      | (shm, .error errno) => ({ lcores with shm := shm }, .error errno)

/-! ## Starts -/

/-- What `rte_eal_remote_launch` returns, or `pthread_create`, which returns its error as a positive value. -/
def SchSystem.launchRet (runInThread : Bool) : Int :=
  if runInThread then sys.launchErrno else -sys.launchErrno

/-- The launch, with the checks after it. -/
def MtSchMgr.launch (idx : Nat) (sch : MtlSchImpl) : MtSchMgr × Except Errno Unit :=
  if sys.launchRet mgr.runInThread < 0 then
    (mgr, .error .busy)
  else
    ({ mgr with
        schs := mgr.schs.set idx { sch with cpuBusy := false, started := true }
        launched := if sys.launchErrno = 0 then idx :: mgr.launched else mgr.launched }, .ok ())

/-- `sch_start` -/
def MtSchMgr.schStart (idx : Nat) (sch : MtlSchImpl) : MtSchMgr × Except Errno Unit :=
  if sch.started then
    (mgr, .error .io)
  else
    let mgr := { mgr with schs := mgr.schs.set idx { sch with cpuBusy := false } }
    if !mgr.runInThread then
      match mtSchGetLcore sys sch.socketId mgr.lcores with
      | (lcores, .error errno) => ({ mgr with lcores := lcores }, .error errno)
      | (lcores, .ok _) => { mgr with lcores := lcores }.launch sys idx sch
    else
      mgr.launch sys idx sch

/-- `mtl_sch_start` -/
def MtSchMgr.mtlSchStart (idx : Nat) : MtSchMgr × Option Nat :=
  match mgr.schs[idx]? with
  | none => (mgr, none)
  | some sch =>
    match mgr.schStart sys idx sch with
    | (mgr, .error _) => (mgr, none)
    | (mgr, .ok _) => (mgr, some idx)

/-! ## A get -/

/-- The loop of `mt_sch_get_by_socket` over the schedulers from `idx` on. -/
def schGetFrom (request : SchRequest) (idx : Nat) : List MtlSchImpl -> List MtlSchImpl × Option Nat
  | [] => ([], none)
  | sch :: rest =>
    let later := schGetFrom request (idx + 1) rest
    if (SchCall.mk request .scan idx).passes sch then
      match schIsCapable sch request.quotaMbs request.type with
      | (sch, false) => (sch :: later.1, later.2)
      | (sch, true) =>
        match mtSchAddQuota sch request.quotaMbs with
        | (sch, .error _) => (sch :: later.1, later.2)
        | (sch, .ok _) => ({ sch with refCnt := sch.refCnt + 1 } :: rest, some idx)
    else
      (sch :: later.1, later.2)

/-- The scheduler that `sch_request` finds free. -/
def MtSchMgr.firstFree (request : SchRequest) : Option (MtlSchImpl × Nat) :=
  mgr.schs.zipIdx.find? (fun pair => (SchCall.mk request .request pair.2).finds pair.1)

/-- `sch_request` has found a scheduler; without memory for the tasklets only its type is written. -/
def MtSchMgr.schRequest (request : SchRequest) (idx : Nat) (sch : MtlSchImpl)
    : MtSchMgr × Option MtlSchImpl :=
  if !sys.tasklets then
    ({ mgr with schs := mgr.schs.set idx { sch with type := request.type } }, none)
  else
    ({ mgr with
        schs := mgr.schs.set idx (sch.requested request.type request.socket)
        schCnt := mgr.schCnt + 1 }, some (sch.requested request.type request.socket))

/-- `sch_free` -/
def MtSchMgr.schFree (mgr : MtSchMgr) (idx : Nat) : MtSchMgr :=
  match mgr.schs[idx]? with
  | none => mgr
  | some sch => { mgr with schs := mgr.schs.set idx (Sched.schFree sch), schCnt := mgr.schCnt - 1 }

def MtSchMgr.count (idx : Nat) : MtSchMgr :=
  match mgr.schs[idx]? with
  | none => mgr
  | some sch => { mgr with schs := mgr.schs.set idx { sch with refCnt := sch.refCnt + 1 } }

/-- The start of the scheduler of a get, which is freed again when it fails. -/
def MtSchMgr.getStarted (idx : Nat) (sch : MtlSchImpl) : MtSchMgr × Option Nat :=
  match mgr.schStart sys idx sch with
  | (mgr, .error _) => (mgr.schFree idx, none)
  | (mgr, .ok _) => (mgr.count idx, some idx)

/-- `mt_sch_get_by_socket` after its `sch_request`: the quota, the start and the count -/
def MtSchMgr.getFresh (request : SchRequest) (idx : Nat) (sch : MtlSchImpl) : MtSchMgr × Option Nat :=
  match mtSchAddQuota sch request.quotaMbs with
  | (_, .error _) => (mgr.schFree idx, none)
  | (sch, .ok _) =>
    let mgr := { mgr with schs := mgr.schs.set idx sch }
    if !mgr.implStarted then
      (mgr.count idx, some idx)
    else
      mgr.getStarted sys idx sch

/-- `mt_sch_get_by_socket` from its `sch_request` on, for the scheduler that is found free. -/
def MtSchMgr.getRequested (request : SchRequest) (idx : Nat) (sch : MtlSchImpl)
    : MtSchMgr × Option Nat :=
  match mgr.schRequest sys request idx sch with
  | (mgr, none) => (mgr, none)
  | (mgr, some sch) => mgr.getFresh sys request idx sch

/-- `mt_sch_get_by_socket` -/
def MtSchMgr.mtSchGetBySocket (request : SchRequest) : MtSchMgr × Option Nat :=
  match schGetFrom request 0 mgr.schs with
  | (schs, some idx) => ({ mgr with schs := schs }, some idx)
  | (schs, none) =>
    let mgr := { mgr with schs := schs }
    match mgr.firstFree request with
    | none => (mgr, none)
    | some (sch, idx) => mgr.getRequested sys request idx sch

/-! ## What is promised -/

/-- The calls that start a scheduler. -/
inductive SchStartCall where
  | get (request : SchRequest)
  | start (idx : Nat)
  deriving DecidableEq, Repr

def MtSchMgr.answer : SchStartCall -> MtSchMgr × Option Nat
  | .get request => mgr.mtSchGetBySocket sys request
  | .start idx => mgr.mtlSchStart sys idx

/-- What a scheduler is accounted by. -/
structure SchAccount where
  type : MtSchType
  active : Bool
  dataQuotaMbsTotal : Int
  refCnt : Int
  deriving DecidableEq, Repr

def MtlSchImpl.account (sch : MtlSchImpl) : SchAccount :=
  ⟨sch.type, sch.active, sch.dataQuotaMbsTotal, sch.refCnt⟩

/-- The accounts of all schedulers and lcores are the same. -/
structure MtSchMgr.SameAccounts (mgr before : MtSchMgr) : Prop where
  schs : mgr.schs.map MtlSchImpl.account = before.schs.map MtlSchImpl.account
  schCnt : mgr.schCnt = before.schCnt
  lcores : mgr.lcores = before.lcores

/-- The call has to start the scheduler that it returns: one that was not active, of an instance that is
started. -/
def MtSchMgr.Starts (idx : Nat) : SchStartCall -> Prop
  | .get _ => mgr.implStarted = true ∧ forall sch, mgr.schs[idx]? = some sch -> sch.active = false
  | .start _ => True

/-- A call that fails leaves every account as it was, and one that starts a scheduler has launched its
loop. -/
def MtSchMgr.StartRight (call : SchStartCall) : Prop :=
  match mgr.answer sys call with
  | (after, none) => after.SameAccounts mgr
  | (after, some idx) => mgr.Starts idx call -> after.launched = idx :: mgr.launched

/-! ## When it holds -/

/-- The lcore that the manager grants, or that is free or can be freed in the table. -/
def SchSystem.finds (socket : Nat) (shm : LcoreShm) : Option Nat :=
  match sys.manager with
  | some grants => (sys.request socket).offered.find? grants
  | none =>
    if sys.locked then (sys.request socket).offered.find? (shm.grantable sys.kill sys.info) else none

/-- `sch_start` gives up before it takes anything: the scheduler is started, or there is no lcore. -/
def MtSchMgr.Stops (started : Bool) (socket : Nat) : Prop :=
  started = true ∨ (mgr.runInThread = false ∧ sys.finds socket mgr.lcores.shm = none)

instance (mgr : MtSchMgr) (sys : SchSystem) (started : Bool) (socket : Nat) :
    Decidable (mgr.Stops sys started socket) :=
  inferInstanceAs (Decidable (_ ∨ _))

/-- What it takes is enough: the loop is launched, and the lock of the table is given back. -/
def MtSchMgr.Launches : Prop :=
  sys.launchErrno = 0 ∧ (mgr.runInThread = true ∨ sys.manager ≠ none ∨ sys.unlocked = true)

/-- The scheduler is one that the get may look at, of the type and with the room that it asks for. -/
def SchRequest.Takes (request : SchRequest) (idx : Nat) (sch : MtlSchImpl) : Prop :=
  (SchCall.mk request .scan idx).passes sch = true ∧
    (schIsCapable sch request.quotaMbs request.type).2 = true ∧ sch.hasRoom request.quotaMbs

def MtSchMgr.Offers (request : SchRequest) : Prop :=
  exists (idx : Nat) (sch : MtlSchImpl), mgr.schs[idx]? = some sch ∧ request.Takes idx sch

/-- A get that has to give up a free scheduler asks for the type that it had, and for no quota if it comes as
far as the start; and what a start takes is enough. -/
def MtSchMgr.FreshSafe (request : SchRequest) (sch : MtlSchImpl) : Prop :=
  if sys.tasklets = false ∨ ¬ sch.hasRoom request.quotaMbs then
    sch.type = request.type
  else if mgr.implStarted = false then
    True
  else if mgr.Stops sys sch.started request.socket then
    sch.type = request.type ∧ request.quotaMbs = 0 ∧ int32 sch.dataQuotaMbsTotal = sch.dataQuotaMbsTotal
  else
    mgr.Launches sys

def MtSchMgr.StartSafe : SchStartCall -> Prop
  | .get request =>
    mgr.Offers request ∨ forall sch idx, mgr.firstFree request = some (sch, idx) ->
      mgr.FreshSafe sys request sch
  | .start idx =>
    forall sch, mgr.schs[idx]? = some sch -> mgr.Stops sys sch.started sch.socketId ∨ mgr.Launches sys

/-! ## What a start does -/

theorem mtSchGetLcore_none {sys : SchSystem} {socket : Nat} {lcores : SchLcores}
    (nothing : sys.finds socket lcores.shm = none) :
    mtSchGetLcore sys socket lcores = (lcores, .error .io) := by
  unfold SchSystem.finds at nothing
  unfold mtSchGetLcore
  cases managed : sys.manager with
  | some grants =>
    rw [managed] at nothing
    simp only [nothing]
  | none =>
    rw [managed] at nothing
    by_cases locked : sys.locked = true
    · simp only [locked, if_true] at nothing
      simp [locked, schGetLcore_spec, nothing]
    · simp [locked]

theorem mtSchGetLcore_some {sys : SchSystem} {socket lcore : Nat} {lcores : SchLcores}
    (found : sys.finds socket lcores.shm = some lcore) :
    exists shm, mtSchGetLcore sys socket lcores =
      (lcores.grant shm lcore,
        if sys.manager ≠ none ∨ sys.unlocked = true then .ok lcore else .error .io) := by
  unfold SchSystem.finds at found
  unfold mtSchGetLcore
  cases managed : sys.manager with
  | some grants =>
    rw [managed] at found
    exact ⟨lcores.shm, by simp only [found]; simp⟩
  | none =>
    rw [managed] at found
    by_cases locked : sys.locked = true
    · simp only [locked, if_true] at found
      exact ⟨lcores.shm.take sys.info sys.owner lcore, by simp [locked, schGetLcore_spec, found]⟩
    · simp [locked] at found

section
variable {mgr : MtSchMgr} {sys : SchSystem} {idx : Nat} {sch : MtlSchImpl}

theorem MtSchMgr.schStart_stops (present : mgr.schs[idx]? = some sch)
    (stops : mgr.Stops sys sch.started sch.socketId) :
    exists (after : MtlSchImpl) (errno : Errno), after.account = sch.account ∧
      mgr.schStart sys idx sch = ({ mgr with schs := mgr.schs.set idx after }, .error errno) := by
  unfold MtSchMgr.schStart
  by_cases started : sch.started = true
  · refine ⟨sch, .io, rfl, ?_⟩
    rcases List.getElem?_eq_some_iff.mp present with ⟨bound, rfl⟩
    rw [if_pos started, List.set_getElem_self]
  · rcases stops with impossible | ⟨onLcore, nothing⟩
    · exact absurd impossible started
    · refine ⟨{ sch with cpuBusy := false }, .io, rfl, ?_⟩
      simp [started, onLcore, mtSchGetLcore_none nothing]

theorem MtSchMgr.schStart_launches (going : ¬ mgr.Stops sys sch.started sch.socketId)
    (launches : mgr.Launches sys) :
    exists after : MtSchMgr, mgr.schStart sys idx sch = (after, .ok ()) ∧
      after.launched = idx :: mgr.launched := by
  rcases launches with ⟨launched, kept⟩
  unfold MtSchMgr.Stops at going
  push Not at going
  rcases going with ⟨fresh, onLcore⟩
  unfold MtSchMgr.schStart
  rw [if_neg fresh]
  by_cases thread : mgr.runInThread = true
  · simp [thread, MtSchMgr.launch, SchSystem.launchRet, launched]
  · have lcore : mgr.runInThread = false := by simpa using thread
    rcases Option.ne_none_iff_exists'.mp (onLcore lcore) with ⟨core, found⟩
    rcases mtSchGetLcore_some found with ⟨shm, taken⟩
    have given : sys.manager ≠ none ∨ sys.unlocked = true := kept.resolve_left thread
    rw [if_pos given] at taken
    simp [lcore, taken, MtSchMgr.launch, SchSystem.launchRet, launched]

theorem MtSchMgr.schStart_fails (going : ¬ mgr.Stops sys sch.started sch.socketId)
    (fails : ¬ mgr.Launches sys) :
    (exists (after : MtSchMgr) (errno : Errno), mgr.schStart sys idx sch = (after, .error errno) ∧
      after.lcores.lcoreCnt = mgr.lcores.lcoreCnt + 1) ∨
    (exists after : MtSchMgr, mgr.schStart sys idx sch = (after, .ok ()) ∧
      after.launched = mgr.launched) := by
  unfold MtSchMgr.Stops at going
  push Not at going
  rcases going with ⟨fresh, onLcore⟩
  unfold MtSchMgr.schStart
  rw [if_neg fresh]
  by_cases thread : mgr.runInThread = true
  · have broken : sys.launchErrno ≠ 0 := fun fine => fails ⟨fine, .inl thread⟩
    have positive : ¬ ((sys.launchErrno : Int) < 0) := by omega
    right
    simp [thread, MtSchMgr.launch, SchSystem.launchRet, broken, positive]
  · have lcore : mgr.runInThread = false := by simpa using thread
    rcases Option.ne_none_iff_exists'.mp (onLcore lcore) with ⟨core, found⟩
    rcases mtSchGetLcore_some found with ⟨shm, taken⟩
    left
    by_cases given : sys.manager ≠ none ∨ sys.unlocked = true
    · have broken : 0 < sys.launchErrno := by
        have apart : sys.launchErrno ≠ 0 := fun fine => fails ⟨fine, .inr given⟩
        omega
      rw [if_pos given] at taken
      simp [lcore, taken, MtSchMgr.launch, SchSystem.launchRet, broken, SchLcores.grant]
    · rw [if_neg given] at taken
      simp [lcore, taken, SchLcores.grant]

end

/-! ## What a get does -/

theorem SchCall.active_of_passes {call : SchCall} {sch : MtlSchImpl} (passes : call.passes sch = true) :
    sch.active = true := by
  unfold SchCall.passes at passes
  simp only [Bool.and_eq_true] at passes
  exact passes.1.2

theorem schIsCapable_type (sch : MtlSchImpl) (quotaMbs : Nat) (type : MtSchType) :
    exists other, (schIsCapable sch quotaMbs type).1 = { sch with type := other } := by
  unfold schIsCapable
  split_ifs
  · exact ⟨sch.type, rfl⟩
  · exact ⟨.rxVideoOnly, rfl⟩
  · exact ⟨sch.type, rfl⟩

theorem schIsCapable_false {sch after : MtlSchImpl} {quotaMbs : Nat} {type : MtSchType}
    (answer : schIsCapable sch quotaMbs type = (after, false)) : after = sch := by
  unfold schIsCapable at answer
  split_ifs at answer
  · cases answer
  · cases answer
  · exact (Prod.ext_iff.mp answer).1.symm

theorem schIsCapable_full {sch after : MtlSchImpl} {quotaMbs : Nat} {type : MtSchType} {capable : Bool}
    (answer : schIsCapable sch quotaMbs type = (after, capable)) (full : ¬ sch.hasRoom quotaMbs) :
    after = sch := by
  unfold schIsCapable at answer
  split_ifs at answer with free change
  · exact (Prod.ext_iff.mp answer).1.symm
  · exact absurd (.inl change.2.2) full
  · exact (Prod.ext_iff.mp answer).1.symm

theorem mtSchAddQuota_active {sch : MtlSchImpl} (active : sch.active = true) (quotaMbs : Nat) :
    mtSchAddQuota sch quotaMbs =
      if sch.hasRoom quotaMbs then
        ({ sch with dataQuotaMbsTotal := int32 (sch.dataQuotaMbsTotal + quotaMbs) }, .ok ())
      else (sch, .error .nomem) := by
  unfold mtSchAddQuota
  rw [if_neg (by simp [active])]

/-- The loop takes a scheduler that it may take, or changes nothing when there is none. -/
theorem schGetFrom_spec (request : SchRequest) (idx : Nat) (schs : List MtlSchImpl) :
    match schGetFrom request idx schs with
    | (after, none) => after = schs ∧
        forall (place : Nat) (sch : MtlSchImpl), schs[place]? = some sch -> ¬ request.Takes (idx + place) sch
    | (_, some found) => exists (place : Nat) (sch : MtlSchImpl), found = idx + place ∧
        schs[place]? = some sch ∧ request.Takes found sch := by
  induction schs generalizing idx with
  | nil => simp [schGetFrom]
  | cons head rest ih =>
    have skipped (refused : ¬ request.Takes idx head)
        (step : schGetFrom request idx (head :: rest) =
          (head :: (schGetFrom request (idx + 1) rest).1, (schGetFrom request (idx + 1) rest).2)) :
        match schGetFrom request idx (head :: rest) with
        | (after, none) => after = head :: rest ∧
            forall (place : Nat) (sch : MtlSchImpl), (head :: rest)[place]? = some sch ->
              ¬ request.Takes (idx + place) sch
        | (_, some found) => exists (place : Nat) (sch : MtlSchImpl), found = idx + place ∧
            (head :: rest)[place]? = some sch ∧ request.Takes found sch := by
      have later := ih (idx + 1)
      rw [step]
      rcases answer : schGetFrom request (idx + 1) rest with ⟨after, _ | found⟩
      · rw [answer] at later
        refine ⟨by rw [later.1], ?_⟩
        intro place sch present
        cases place with
        | zero =>
          obtain rfl := Option.some.inj present
          exact refused
        | succ place =>
          have shifted := later.2 place sch present
          rwa [Nat.add_assoc, Nat.add_comm 1] at shifted
      · rw [answer] at later
        rcases later with ⟨place, sch, same, present, takes⟩
        exact ⟨place + 1, sch, by omega, present, takes⟩
    by_cases passes : (SchCall.mk request .scan idx).passes head = true
    · have active := SchCall.active_of_passes passes
      rcases capable : schIsCapable head request.quotaMbs request.type with ⟨typed, _ | _⟩
      · refine skipped (fun takes => ?_) ?_
        · have impossible := takes.2.1
          rw [capable] at impossible
          cases impossible
        · simp only [schGetFrom, passes, if_true, capable, schIsCapable_false capable]
      · rcases schIsCapable_type head request.quotaMbs request.type with ⟨other, same⟩
        rw [capable] at same
        dsimp only at same
        have added := @mtSchAddQuota_active typed (by rw [same]; exact active) request.quotaMbs
        have sameRoom : typed.hasRoom request.quotaMbs ↔ head.hasRoom request.quotaMbs := by
          rw [same]
          rfl
        by_cases room : head.hasRoom request.quotaMbs
        · rw [if_pos (sameRoom.mpr room)] at added
          have step : schGetFrom request idx (head :: rest) =
              ({ typed with
                  dataQuotaMbsTotal := int32 (typed.dataQuotaMbsTotal + request.quotaMbs)
                  refCnt := typed.refCnt + 1 } :: rest, some idx) := by
            simp only [schGetFrom, passes, if_true, capable, added]
          rw [step]
          exact ⟨0, head, rfl, rfl, passes, by rw [capable], room⟩
        · rw [if_neg (fun full => room (sameRoom.mp full)), schIsCapable_full capable room] at added
          refine skipped (fun takes => room takes.2.2) ?_
          rw [schIsCapable_full capable room] at capable
          simp only [schGetFrom, passes, if_true, capable, added]
    · refine skipped (fun takes => passes takes.1) ?_
      simp only [schGetFrom, passes, if_false, Bool.false_eq_true]

section
variable {mgr : MtSchMgr} {idx : Nat} {sch : MtlSchImpl}

theorem MtSchMgr.sameAccounts_set_iff (present : mgr.schs[idx]? = some sch) (after : MtlSchImpl)
    (launched : List Nat) :
    MtSchMgr.SameAccounts
        ⟨mgr.schs.set idx after, mgr.schCnt, mgr.lcores, mgr.runInThread, mgr.implStarted, launched⟩ mgr ↔
      after.account = sch.account := by
  constructor
  · intro same
    have here := congrArg (fun accounts => accounts[idx]?) same.schs
    dsimp only at here
    rw [List.getElem?_map, List.getElem?_map, getElem?_replace present, if_pos rfl, present] at here
    exact Option.some.inj here
  · intro same
    exact ⟨map_replace MtlSchImpl.account present same, rfl, rfl⟩

theorem MtSchMgr.schFree_eq (present : mgr.schs[idx]? = some sch) :
    mgr.schFree idx =
      { mgr with schs := mgr.schs.set idx (Sched.schFree sch), schCnt := mgr.schCnt - 1 } := by
  unfold MtSchMgr.schFree
  rw [present]

theorem MtSchMgr.schFree_lcores : (mgr.schFree idx).lcores = mgr.lcores := by
  unfold MtSchMgr.schFree
  split <;> rfl

theorem MtSchMgr.count_launched : (mgr.count idx).launched = mgr.launched := by
  unfold MtSchMgr.count
  split <;> rfl

theorem MtSchMgr.firstFree_spec {request : SchRequest} (found : mgr.firstFree request = some (sch, idx)) :
    mgr.schs[idx]? = some sch ∧ sch.active = false := by
  have member := List.mem_of_find?_eq_some found
  have test := List.find?_some found
  refine ⟨List.mem_zipIdx_iff_getElem?.mp member, ?_⟩
  unfold SchCall.finds at test
  simpa using (Bool.and_eq_true_iff.mp test).2

end

theorem int32_add_quota_iff (request : SchRequest) (total : Int) :
    int32 (total + request.quotaMbs) = total ↔ request.quotaMbs = 0 ∧ int32 total = total := by
  have fits := request.fits
  unfold int32
  rw [u32_eq, u32_eq]
  split_ifs <;> omega

section
variable {mgr : MtSchMgr} {sys : SchSystem} {request : SchRequest} {idx : Nat} {sch : MtlSchImpl}

/-- The start and its undoing, for a scheduler that was free and is written as `taken`. -/
theorem MtSchMgr.getStarted_right_iff (present : mgr.schs[idx]? = some sch) (free : sch.active = false)
    (running : mgr.implStarted = true) (taken : MtlSchImpl) :
    (match ({ mgr with schs := mgr.schs.set idx taken, schCnt := mgr.schCnt + 1 } : MtSchMgr).getStarted sys
        idx taken with
      | (after, none) => after.SameAccounts mgr
      | (after, some found) => mgr.Starts found (.get request) -> after.launched = found :: mgr.launched) ↔
      if mgr.Stops sys taken.started taken.socketId then { taken with active := false }.account = sch.account
      else mgr.Launches sys := by
  generalize same : ({ mgr with schs := mgr.schs.set idx taken, schCnt := mgr.schCnt + 1 } : MtSchMgr) =
    before
  have there : before.schs[idx]? = some taken := by
    rw [← same, getElem?_replace present, if_pos rfl]
  have lcores : before.lcores = mgr.lcores := by rw [← same]
  have launched : before.launched = mgr.launched := by rw [← same]
  have sameStops : before.Stops sys taken.started taken.socketId ↔
      mgr.Stops sys taken.started taken.socketId := by
    rw [← same]
    rfl
  have sameLaunches : before.Launches sys ↔ mgr.Launches sys := by
    rw [← same]
    rfl
  have starts : mgr.Starts idx (.get request) := by
    refine ⟨running, ?_⟩
    intro other found
    rw [present] at found
    obtain rfl := Option.some.inj found
    exact free
  unfold MtSchMgr.getStarted
  by_cases stops : mgr.Stops sys taken.started taken.socketId
  · rw [if_pos stops]
    rcases MtSchMgr.schStart_stops there (sameStops.mpr stops) with ⟨after, errno, kept, result⟩
    have written : (before.schs.set idx after)[idx]? = some after := by
      rw [getElem?_replace there, if_pos rfl]
    rw [result]
    dsimp only
    rw [MtSchMgr.schFree_eq written, ← same]
    simp only [List.set_set, Int.add_sub_cancel]
    rw [MtSchMgr.sameAccounts_set_iff present]
    have account : (Sched.schFree after).account = { taken with active := false }.account := by
      simp only [MtlSchImpl.account, SchAccount.mk.injEq] at kept
      simp [MtlSchImpl.account, Sched.schFree, kept]
    rw [account]
  · rw [if_neg stops]
    have going := fun early => stops (sameStops.mp early)
    by_cases launches : mgr.Launches sys
    · rcases MtSchMgr.schStart_launches going (sameLaunches.mpr launches) with ⟨after, result, there⟩
      rw [result]
      dsimp only
      rw [MtSchMgr.count_launched, there, launched]
      exact ⟨fun _ => launches, fun _ _ => rfl⟩
    · rcases MtSchMgr.schStart_fails going (fun fine => launches (sameLaunches.mp fine)) with
        ⟨after, errno, result, leaked⟩ | ⟨after, result, silent⟩
      · rw [result]
        refine ⟨fun kept => ?_, fun fine => absurd fine launches⟩
        have back := congrArg SchLcores.lcoreCnt kept.lcores
        rw [MtSchMgr.schFree_lcores, leaked, lcores] at back
        omega
      · rw [result]
        refine ⟨fun right => ?_, fun fine => absurd fine launches⟩
        have impossible := right starts
        rw [MtSchMgr.count_launched, silent, launched] at impossible
        exact absurd impossible.symm (List.cons_ne_self idx mgr.launched)

theorem MtSchMgr.getRequested_right_iff (present : mgr.schs[idx]? = some sch) (free : sch.active = false) :
    (match mgr.getRequested sys request idx sch with
      | (after, none) => after.SameAccounts mgr
      | (after, some found) => mgr.Starts found (.get request) -> after.launched = found :: mgr.launched) ↔
      mgr.FreshSafe sys request sch := by
  have added := @mtSchAddQuota_active (sch.requested request.type request.socket) rfl request.quotaMbs
  have there (new : MtlSchImpl) : (mgr.schs.set idx new)[idx]? = some new := by
    rw [getElem?_replace present, if_pos rfl]
  have sameRoom : (sch.requested request.type request.socket).hasRoom request.quotaMbs ↔
      sch.hasRoom request.quotaMbs := Iff.rfl
  unfold MtSchMgr.getRequested MtSchMgr.schRequest MtSchMgr.FreshSafe
  by_cases memory : sys.tasklets = true
  · by_cases room : sch.hasRoom request.quotaMbs
    · rw [if_pos (sameRoom.mpr room)] at added
      rw [if_neg (by simp [memory]), if_neg (by simp [memory, room])]
      unfold MtSchMgr.getFresh
      dsimp only
      rw [added]
      simp only [List.set_set]
      by_cases running : mgr.implStarted = true
      · simp only [running, Bool.not_true, Bool.false_eq_true, if_false, Bool.true_eq_false]
        have right := @MtSchMgr.getStarted_right_iff mgr sys request idx sch present free running
          { sch.requested request.type request.socket with
            dataQuotaMbsTotal := int32 (sch.dataQuotaMbsTotal + request.quotaMbs) }
        rw [running] at right
        refine right.trans (Iff.of_eq (if_congr Iff.rfl (propext ?_) rfl))
        rw [<- int32_add_quota_iff]
        simp [MtlSchImpl.account, MtlSchImpl.requested, free, eq_comm]
      · simp [MtSchMgr.Starts, running]
    · rw [if_neg (fun full => room (sameRoom.mp full))] at added
      rw [if_neg (by simp [memory]), if_pos (.inr room)]
      unfold MtSchMgr.getFresh
      dsimp only
      rw [added]
      dsimp only
      rw [MtSchMgr.schFree_eq (there _)]
      simp only [List.set_set, Int.add_sub_cancel]
      rw [MtSchMgr.sameAccounts_set_iff present]
      simp [MtlSchImpl.account, Sched.schFree, MtlSchImpl.requested, free, eq_comm]
  · rw [if_pos (by simpa using memory), if_pos (.inl (by simpa using memory))]
    refine (MtSchMgr.sameAccounts_set_iff present _ _).trans ?_
    simp [MtlSchImpl.account, eq_comm]

end

theorem MtSchMgr.get_right_iff (request : SchRequest) :
    mgr.StartRight sys (.get request) ↔ mgr.StartSafe sys (.get request) := by
  have scan := schGetFrom_spec request 0 mgr.schs
  unfold MtSchMgr.StartRight MtSchMgr.StartSafe MtSchMgr.answer MtSchMgr.mtSchGetBySocket
  dsimp only
  rcases result : schGetFrom request 0 mgr.schs with ⟨after, _ | found⟩
  · rw [result] at scan
    rcases scan with ⟨same, refused⟩
    have nothing : ¬ mgr.Offers request := by
      rintro ⟨place, sch, present, takes⟩
      exact refused place sch present (by rwa [Nat.zero_add])
    dsimp only
    rw [same, or_iff_right nothing]
    cases free : mgr.firstFree request with
    | none => exact ⟨fun _ sch idx impossible => (by cases impossible), fun _ => ⟨rfl, rfl, rfl⟩⟩
    | some pair =>
      rcases MtSchMgr.firstFree_spec free with ⟨present, idle⟩
      refine (MtSchMgr.getRequested_right_iff present idle).trans ?_
      constructor
      · intro safe sch idx there
        obtain rfl := Option.some.inj there
        exact safe
      · intro safe
        exact safe pair.1 pair.2 rfl
  · rw [result] at scan
    rcases scan with ⟨place, sch, same, present, takes⟩
    rw [Nat.zero_add] at same
    subst same
    have offered : mgr.Offers request := ⟨found, sch, present, takes⟩
    refine ⟨fun _ => .inl offered, fun _ starts => ?_⟩
    have impossible := starts.2 sch present
    rw [SchCall.active_of_passes takes.1] at impossible
    cases impossible

theorem MtSchMgr.start_right_iff :
    mgr.StartRight sys (.start idx) ↔ mgr.StartSafe sys (.start idx) := by
  unfold MtSchMgr.StartRight MtSchMgr.StartSafe MtSchMgr.answer MtSchMgr.mtlSchStart
  dsimp only
  cases present : mgr.schs[idx]? with
  | none => exact ⟨fun _ sch impossible => (by cases impossible), fun _ => ⟨rfl, rfl, rfl⟩⟩
  | some sch =>
    dsimp only
    by_cases stops : mgr.Stops sys sch.started sch.socketId
    · rcases MtSchMgr.schStart_stops present stops with ⟨after, errno, kept, result⟩
      rw [result]
      refine ⟨fun _ other there => ?_, fun _ => ?_⟩
      · obtain rfl := Option.some.inj there
        exact .inl stops
      · exact (MtSchMgr.sameAccounts_set_iff present after mgr.launched).mpr kept
    · have only : (forall other, some sch = some other ->
          mgr.Stops sys other.started other.socketId ∨ mgr.Launches sys) ↔ mgr.Launches sys := by
        constructor
        · intro safe
          exact (safe sch rfl).resolve_left stops
        · intro launches other there
          exact .inr launches
      rw [only]
      by_cases launches : mgr.Launches sys
      · rcases @MtSchMgr.schStart_launches _ _ idx _ stops launches with ⟨after, result, there⟩
        rw [result]
        exact ⟨fun _ => launches, fun _ _ => there⟩
      · rcases @MtSchMgr.schStart_fails _ _ idx _ stops launches with
          ⟨after, errno, result, leaked⟩ | ⟨after, result, silent⟩
        · rw [result]
          refine ⟨fun kept => ?_, fun fine => absurd fine launches⟩
          have back := congrArg SchLcores.lcoreCnt kept.lcores
          rw [leaked] at back
          omega
        · rw [result]
          refine ⟨fun right => ?_, fun fine => absurd fine launches⟩
          have impossible := right trivial
          rw [silent] at impossible
          exact absurd impossible.symm (List.cons_ne_self idx mgr.launched)

/-- From every state and for all answers of the system, a failed get or start leaves the accounts as they
were, and a successful one has launched the loop of the scheduler that it had to start, exactly when the
call meets the condition. -/
theorem failed_start_right_iff (mgr : MtSchMgr) (sys : SchSystem) (call : SchStartCall) :
    mgr.StartRight sys call ↔ mgr.StartSafe sys call := by
  cases call with
  | get request => exact mgr.get_right_iff sys request
  | start idx => exact mgr.start_right_iff sys idx

def busyLcore : SchSystem :=
  ⟨true, none, fun _ => true, ⟨"host", "user", 10⟩, 0, [(1, 0)], false, false, true, true, 16⟩

def oneFreeSch : MtSchMgr :=
  ⟨[⟨.default, false, 0, 0, 10000, false, false, 0, none⟩], 0,
    ⟨⟨0, [⟨⟨"", "", 0⟩, false, 0⟩, ⟨⟨"", "", 0⟩, false, 0⟩]⟩, [], 0⟩, false, true, []⟩

/-- The get that could not start its scheduler leaves the quota, the type and the lcore behind. -/
theorem failed_launch_keeps_lcore :
    ¬ oneFreeSch.StartRight busyLcore (.get ⟨1000, by decide, .rxVideoOnly, 1, 0⟩) := by
  intro right
  have kept : MtSchMgr.SameAccounts
      (oneFreeSch.mtSchGetBySocket busyLcore ⟨1000, by decide, .rxVideoOnly, 1, 0⟩).1 oneFreeSch := right
  exact absurd kept.lcores (by decide)

end MediaTransport.Sched
