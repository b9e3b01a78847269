import MediaTransport.Library.Run
import MediaTransport.Library.Table
import MediaTransport.Util.Errno

namespace MediaTransport.Sched

/-!
# The shared table of lcores

Processes that find no manager share out the lcores by a table in shared memory,
each call under the file lock.  An entry is left behind when its process dies, and
a later call of the same user cleans it.
-/

/-- The fields of `struct mt_user_info` that entries are compared by. -/
structure MtUserInfo where
  hostname : String
  user : String
  pid : Nat
  deriving DecidableEq, Repr

/-- `struct mt_lcore_shm_entry`; `owner` is the number of the process that was granted the lcore, for an
observer. -/
structure LcoreShmEntry where
  uInfo : MtUserInfo
  active : Bool
  owner : Nat
  deriving DecidableEq, Repr

/-- `struct mt_lcore_shm` -/
structure LcoreShm where
  used : Int
  lcoresInfo : List LcoreShmEntry
  deriving DecidableEq, Repr

/-- What `sch_get_lcore` asks with: the lcores that `rte_get_next_lcore` gives, with their sockets, the
socket that is wanted, and two flags of the user. -/
structure LcoreRequest where
  lcores : List (Nat × Nat)
  socket : Nat
  notBindNuma : Bool
  acrossNumaCore : Bool
  deriving DecidableEq, Repr

/-! ## Gets and puts -/

/-- `lcore_shm_check_and_clean`; `kill` says of a pid whether a signal could be sent. -/
def lcoreShmCheckAndClean (kill : Nat -> Bool) (info : MtUserInfo) (entry : LcoreShmEntry) :
    LcoreShmEntry :=
  if !entry.active then
    entry
  else if entry.uInfo.hostname ≠ info.hostname then
    entry
  else if entry.uInfo.user ≠ info.user then
    entry
  else if !kill entry.uInfo.pid then
    { entry with active := false }
  else
    entry

/-- `sch_get_lcore` takes the lcore. -/
def LcoreShm.take (shm : LcoreShm) (info : MtUserInfo) (owner lcore : Nat) : LcoreShm where
  used := shm.used + 1
  lcoresInfo := shm.lcoresInfo.set lcore ⟨info, true, owner⟩

/-- The loop of `sch_get_lcore`; an entry that stays active was not changed. -/
def schGetLcoreFrom (kill : Nat -> Bool) (info : MtUserInfo) (owner socket : Nat) (skipNumaCheck : Bool)
    (shm : LcoreShm) : List (Nat × Nat) -> LcoreShm × Except Errno Nat
  | [] => (shm, .error .io)
  | (lcore, cpuSocket) :: rest =>
    if skipNumaCheck || decide (cpuSocket = socket) then
      match shm.lcoresInfo[lcore]? with
      | none => schGetLcoreFrom kill info owner socket skipNumaCheck shm rest
      | some entry =>
        if (lcoreShmCheckAndClean kill info entry).active then
          schGetLcoreFrom kill info owner socket skipNumaCheck shm rest
        else
          (shm.take info owner lcore, .ok lcore)
    else
      schGetLcoreFrom kill info owner socket skipNumaCheck shm rest

/-- `sch_get_lcore` -/
def schGetLcore (kill : Nat -> Bool) (info : MtUserInfo) (owner : Nat) (request : LcoreRequest)
    (shm : LcoreShm) : LcoreShm × Except Errno Nat :=
  match schGetLcoreFrom kill info owner request.socket request.notBindNuma shm request.lcores with
  | (taken, .ok lcore) => (taken, .ok lcore)
  | (shm, .error errno) =>
    if !request.notBindNuma && request.acrossNumaCore then
      schGetLcoreFrom kill info owner request.socket true shm request.lcores
    else
      (shm, .error errno)

def LcoreShm.release (shm : LcoreShm) (lcore : Nat) (entry : LcoreShmEntry) : LcoreShm :=
  { shm with lcoresInfo := shm.lcoresInfo.set lcore { entry with active := false } }

/-- `sch_put_lcore` -/
def schPutLcore (shm : LcoreShm) (lcore : Nat) : LcoreShm × Except Errno Unit :=
  match shm.lcoresInfo[lcore]? with
  | none => (shm, .error .io)
  | some entry =>
    if !entry.active then (shm, .error .io)
    else ({ shm.release lcore entry with used := shm.used - 1 }, .ok ())

/-! ## Administrative cleaners -/

/-- `lcore_shm_clean_auto_pid` counts the entries of dead processes, and leaves them as they are. -/
def lcoreShmCleanAutoPid (kill : Nat -> Bool) (info : MtUserInfo) (shm : LcoreShm) : LcoreShm × Nat :=
  (shm, shm.lcoresInfo.countP (fun entry =>
    entry.active && decide (entry.uInfo.hostname = info.hostname) &&
      decide (entry.uInfo.user = info.user) && !kill entry.uInfo.pid))

/-- `lcore_shm_clean_id` -/
def lcoreShmCleanId (shm : LcoreShm) (lcore : Nat) : LcoreShm × Except Errno Unit :=
  match shm.lcoresInfo[lcore]? with
  | none => (shm, .error .inval)
  | some entry =>
    if !entry.active then (shm, .error .inval) else (shm.release lcore entry, .ok ())

/-! ## Processes -/

/-- A process; `localLcoresActive` are the lcores that it was granted and has not given back. -/
structure LcoreProcess where
  info : MtUserInfo
  alive : Bool
  attached : Bool
  localLcoresActive : List Nat
  deriving DecidableEq, Repr

/-- The table with every process that ever was. -/
structure LcoreState where
  shm : LcoreShm
  processes : List LcoreProcess
  deriving DecidableEq

variable (s : LcoreState)

/-- A process starts, attaches to the table, calls, detaches or dies, or a cleaner runs. -/
inductive LcoreInput where
  | start (info : MtUserInfo)
  | attach (idx : Nat)
  | get (idx : Nat) (request : LcoreRequest)
  | put (idx lcore : Nat)
  | detach (idx : Nat)
  | die (idx : Nat)
  | cleanAutoPid (info : MtUserInfo)
  | cleanLcore (lcore : Nat)
  deriving DecidableEq

variable (idx : Nat)

/-- `kill` with signal 0 succeeds: a live process of the pid is of the user who asks, or it is root who asks. -/
def LcoreState.kill (user : String) (pid : Nat) : Bool :=
  s.processes.any (fun process => process.alive && decide (process.info.pid = pid) &&
    (decide (process.info.user = user) || decide (user = "root")))

def LcoreState.pidTaken (pid : Nat) : Bool :=
  s.processes.any (fun process => process.alive && decide (process.info.pid = pid))

/-- The table as `memset` leaves it. -/
def LcoreShm.clear (shm : LcoreShm) : LcoreShm where
  used := 0
  lcoresInfo := shm.lcoresInfo.map (fun _ => ⟨⟨"", "", 0⟩, false, 0⟩)

/-- `sch_init_lcores`: the first to attach clears the table. -/
def LcoreState.attach (process : LcoreProcess) : LcoreState where
  shm := if s.processes.any LcoreProcess.attached then s.shm else s.shm.clear
  processes := s.processes.set idx { process with attached := true }

/-- `sch_get_lcore` of a process -/
def LcoreState.getLcore (process : LcoreProcess) (request : LcoreRequest) : LcoreState :=
  match schGetLcore (s.kill process.info.user) process.info idx request s.shm with
  | (_, .error _) => s
  | (taken, .ok lcore) =>
    { shm := taken
      processes := s.processes.set idx
        { process with localLcoresActive := lcore :: process.localLcoresActive } }

/-- `sch_put_lcore` of a process, for an lcore that it was granted. -/
def LcoreState.putLcore (process : LcoreProcess) (lcore : Nat) : LcoreState :=
  match schPutLcore s.shm lcore with
  | (_, .error _) => s
  | (given, .ok _) =>
    { shm := given
      processes := s.processes.set idx
        { process with
          localLcoresActive := process.localLcoresActive.filter (fun other => decide (other ≠ lcore)) } }

def LcoreState.caller : Option LcoreProcess :=
  (s.processes[idx]?).filter (fun process => process.alive && process.attached)

/-- A process detaches when it has given back what it was granted, as `sch_uinit_lcores` does first. -/
def lcoreStep : LcoreInput -> LcoreState
  | .start info =>
    if s.pidTaken info.pid then s
    else { s with processes := s.processes ++ [⟨info, true, false, []⟩] }
  | .attach idx =>
    match s.processes[idx]? with
    | none => s
    | some process => if process.alive && !process.attached then s.attach idx process else s
  | .get idx request =>
    match s.caller idx with
    | none => s
    | some process => s.getLcore idx process request
  | .put idx lcore =>
    match s.caller idx with
    | none => s
    | some process =>
      if lcore ∈ process.localLcoresActive then s.putLcore idx process lcore else s
  | .detach idx =>
    match s.caller idx with
    | none => s
    | some process =>
      if process.localLcoresActive = [] then
        { s with processes := s.processes.set idx { process with attached := false } }
      else
        s
  | .die idx =>
    match s.processes[idx]? with
    | none => s
    | some process =>
      { s with processes := s.processes.set idx { process with alive := false, attached := false } }
  | .cleanAutoPid info => { s with shm := (lcoreShmCleanAutoPid (s.kill info.user) info s.shm).1 }
  | .cleanLcore lcore => { s with shm := (lcoreShmCleanId s.shm lcore).1 }

def lcoreInit (maxLcore : Nat) : LcoreState :=
  ⟨⟨0, List.replicate maxLcore ⟨⟨"", "", 0⟩, false, 0⟩⟩, []⟩

/-! ## What is promised -/

def LcoreRequest.offered (request : LcoreRequest) : List Nat :=
  ((request.lcores.filter
      (fun pair => request.notBindNuma || decide (pair.2 = request.socket))).map Prod.fst) ++
    if !request.notBindNuma && request.acrossNumaCore then request.lcores.map Prod.fst else []

/-- The entry is free, or is one that `lcore_shm_check_and_clean` frees. -/
def LcoreShm.grantable (shm : LcoreShm) (kill : Nat -> Bool) (info : MtUserInfo) (lcore : Nat) : Bool :=
  match shm.lcoresInfo[lcore]? with
  | none => false
  | some entry => !(lcoreShmCheckAndClean kill info entry).active

/-- No lcore is granted to two live processes, every get that is offered an lcore of a dead process of the
same user succeeds, and `used` counts the active entries. -/
structure LcoreState.Safe (s : LcoreState) : Prop where
  exclusive : forall (first second : Nat) (one other : LcoreProcess) (lcore : Nat),
    s.processes[first]? = some one -> s.processes[second]? = some other -> one.alive = true -> other.alive = true ->
    lcore ∈ one.localLcoresActive -> lcore ∈ other.localLcoresActive -> first = second
  reclaimed : forall (lcore : Nat) (entry : LcoreShmEntry) (owner : LcoreProcess),
    s.shm.lcoresInfo[lcore]? = some entry -> entry.active = true ->
    s.processes[entry.owner]? = some owner -> owner.alive = false ->
    forall (info : MtUserInfo) (idx : Nat) (request : LcoreRequest),
      info.hostname = owner.info.hostname -> info.user = owner.info.user -> lcore ∈ request.offered ->
      exists granted, (schGetLcore (s.kill info.user) info idx request s.shm).2 = .ok granted
  counted : s.shm.used = s.shm.lcoresInfo.countP LcoreShmEntry.active

/-- No get takes over an entry that is still active, no active entry is cleaned by its id, and no process
starts under the pid of an active entry whose owner could then be taken for alive. -/
def OwnersClean : LcoreInput -> Prop
  | .start info =>
    s.pidTaken info.pid = true ∨
      ∀ entry ∈ s.shm.lcoresInfo, entry.active = true -> entry.uInfo.pid = info.pid ->
        ¬ (info.user = entry.uInfo.user ∨ entry.uInfo.user = "root")
  | .get idx request =>
    forall process lcore entry, s.caller idx = some process ->
      request.offered.find? (s.shm.grantable (s.kill process.info.user) process.info) = some lcore ->
      s.shm.lcoresInfo[lcore]? = some entry -> entry.active = false
  | .cleanLcore lcore =>
    forall entry, s.shm.lcoresInfo[lcore]? = some entry -> entry.active = false
  | _ => True

/-! ## One spec for a get -/

theorem schGetLcoreFrom_spec (kill : Nat -> Bool) (info : MtUserInfo) (owner socket : Nat)
    (skipNumaCheck : Bool) (shm : LcoreShm) (lcores : List (Nat × Nat)) :
    schGetLcoreFrom kill info owner socket skipNumaCheck shm lcores =
      match ((lcores.filter (fun pair => skipNumaCheck || decide (pair.2 = socket))).map
          Prod.fst).find? (shm.grantable kill info) with
      | none => (shm, .error .io)
      | some lcore => (shm.take info owner lcore, .ok lcore) := by
  induction lcores with
  | nil => rfl
  | cons pair rest ih =>
    rcases pair with ⟨lcore, cpuSocket⟩
    unfold schGetLcoreFrom
    by_cases near : (skipNumaCheck || decide (cpuSocket = socket)) = true
    · have kept : ((lcore, cpuSocket) :: rest).filter
          (fun pair => skipNumaCheck || decide (pair.2 = socket)) = (lcore, cpuSocket) ::
            rest.filter (fun pair => skipNumaCheck || decide (pair.2 = socket)) :=
        List.filter_cons_of_pos near
      rw [if_pos near, kept, List.map_cons]
      cases present : shm.lcoresInfo[lcore]? with
      | none =>
        have closed : ¬ shm.grantable kill info lcore = true := by
          simp [LcoreShm.grantable, present]
        rw [List.find?_cons_of_neg closed]
        exact ih
      | some entry =>
        by_cases active : (lcoreShmCheckAndClean kill info entry).active = true
        · have closed : ¬ shm.grantable kill info lcore = true := by
            simp [LcoreShm.grantable, present, active]
          rw [List.find?_cons_of_neg closed]
          simpa [active] using ih
        · have isOpen : shm.grantable kill info lcore = true := by
            simpa [LcoreShm.grantable, present] using active
          rw [List.find?_cons_of_pos isOpen]
          simp [active]
    · have skipped : ((lcore, cpuSocket) :: rest).filter
          (fun pair => skipNumaCheck || decide (pair.2 = socket)) =
            rest.filter (fun pair => skipNumaCheck || decide (pair.2 = socket)) :=
        List.filter_cons_of_neg near
      rw [if_neg near, skipped]
      exact ih

theorem schGetLcore_spec (kill : Nat -> Bool) (info : MtUserInfo) (owner : Nat) (request : LcoreRequest)
    (shm : LcoreShm) :
    schGetLcore kill info owner request shm =
      match request.offered.find? (shm.grantable kill info) with
      | none => (shm, .error .io)
      | some lcore => (shm.take info owner lcore, .ok lcore) := by
  unfold schGetLcore LcoreRequest.offered
  rw [schGetLcoreFrom_spec, List.find?_append]
  cases ((request.lcores.filter (fun pair => request.notBindNuma || decide (pair.2 = request.socket))).map
      Prod.fst).find? (shm.grantable kill info) with
  | some lcore => rfl
  | none =>
    by_cases across : (!request.notBindNuma && request.acrossNumaCore) = true
    · simp only [if_pos across, Option.none_or]
      rw [schGetLcoreFrom_spec]
      simp
    · simp only [if_neg across, List.find?_nil, Option.none_or]

theorem checkAndClean_active (kill : Nat -> Bool) (info : MtUserInfo) (entry : LcoreShmEntry) :
    (lcoreShmCheckAndClean kill info entry).active = false ↔
      entry.active = false ∨ (entry.uInfo.hostname = info.hostname ∧ entry.uInfo.user = info.user ∧
        kill entry.uInfo.pid = false) := by
  unfold lcoreShmCheckAndClean
  by_cases active : entry.active = true
  · by_cases host : entry.uInfo.hostname = info.hostname
    · by_cases user : entry.uInfo.user = info.user
      · by_cases dead : kill entry.uInfo.pid = true <;> simp [active, host, user, dead]
      · simp [active, host, user]
    · simp [active, host]
  · simp [active]

end MediaTransport.Sched
