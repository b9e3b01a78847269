import MediaTransport.Library.Run
import MediaTransport.Library.Table
import MediaTransport.Library.Word
import MediaTransport.Util.Errno

namespace MediaTransport.Sched

open Library

/-!
# The table of schedulers

Library sessions share the schedulers of one table by the quota they need, and an
application can take a scheduler for itself.  A get holds the manager's lock from
its first look to its last; a put never takes it.
-/

/-- `enum mt_sch_type` -/
inductive MtSchType where
  | default
  | rxVideoOnly
  | app
  | system
  deriving DecidableEq, Repr

/-- The part of `struct mtl_sch_impl` that gets and puts read; `app` says for an observer that the
application created the scheduler and has not freed it, and whether it last started or stopped it. -/
structure MtlSchImpl where
  type : MtSchType
  active : Bool
  socketId : Nat
  dataQuotaMbsTotal : Int
  dataQuotaMbsLimit : Int
  cpuBusy : Bool
  started : Bool
  refCnt : Int
  app : Option Bool
  deriving DecidableEq, Repr

variable (sch : MtlSchImpl)

/-- What `mt_sch_get_by_socket` is called with; a quota is an `int` that is not negative. -/
structure SchRequest where
  quotaMbs : Nat
  fits : quotaMbs < 2147483648
  type : MtSchType
  mask : Nat
  socket : Nat
  deriving DecidableEq, Repr

/-! ## What is done to one scheduler under its lock -/

/-- Either the first quota request, or the quota is within the limit. -/
def MtlSchImpl.hasRoom (quotaMbs : Nat) : Prop :=
  sch.dataQuotaMbsTotal = 0 ∨ int32 (sch.dataQuotaMbsTotal + quotaMbs) ≤ sch.dataQuotaMbsLimit

instance (sch : MtlSchImpl) (quotaMbs : Nat) : Decidable (sch.hasRoom quotaMbs) :=
  inferInstanceAs (Decidable (_ ∨ _))

/-- `mt_sch_add_quota` -/
def mtSchAddQuota (quotaMbs : Nat) : MtlSchImpl × Except Errno Unit :=
  if !sch.active then
    (sch, .error .nomem)
  else if sch.hasRoom quotaMbs then
    ({ sch with dataQuotaMbsTotal := int32 (sch.dataQuotaMbsTotal + quotaMbs) }, .ok ())
  else
    (sch, .error .nomem)

/-- `sch_free_quota` -/
def schFreeQuota (quotaMbs : Nat) : MtlSchImpl :=
  if !sch.active then
    sch
  else if int32 (sch.dataQuotaMbsTotal - quotaMbs) = 0 then
    { sch with dataQuotaMbsTotal := 0, type := .default }
  else
    { sch with dataQuotaMbsTotal := int32 (sch.dataQuotaMbsTotal - quotaMbs) }

/-- `sch_is_capable` -/
def schIsCapable (quotaMbs : Nat) (type : MtSchType) : MtlSchImpl × Bool :=
  if quotaMbs = 0 then
    (sch, true)
  else if type = .rxVideoOnly ∧ sch.type = .default ∧ sch.dataQuotaMbsTotal = 0 then
    ({ sch with type := .rxVideoOnly }, true)
  else
    (sch, decide (sch.type = type))

/-- What `sch_request` writes to the scheduler that it finds free. -/
def MtlSchImpl.requested (type : MtSchType) (socket : Nat) : MtlSchImpl :=
  { sch with type := type, active := true, socketId := socket }

/-- `sch_start`, where there is an lcore or a thread for it. -/
def schStart : MtlSchImpl × Except Errno Unit :=
  if sch.started then (sch, .error .io)
  else ({ sch with cpuBusy := false, started := true }, .ok ())

/-- `sch_stop` -/
def schStop : MtlSchImpl :=
  if !sch.started then sch else { sch with started := false, cpuBusy := false }

/-- `sch_free`, which fails for a scheduler that is not active. -/
def schFree : MtlSchImpl :=
  { sch with active := false }

/-! ## Calls in progress -/

/-- How far a call is between its locked steps.  A get waits for the manager's lock, looks at one scheduler
after another, tests it, adds its quota and counts itself; or requests a new one, adds its quota and starts
it.  A put has returned the quota, has dropped the count to zero and stops, or has stopped and frees. -/
inductive SchPhase where
  | waiting
  | scan
  | capable
  | add
  | request
  | addFresh
  | start
  | undo
  | count
  | refused
  | holding
  | drop
  | stop
  | free
  | done
  deriving DecidableEq, Repr

/-- A get and its put; `idx` is the scheduler that it looks at or was given. -/
structure SchCall where
  request : SchRequest
  phase : SchPhase
  idx : Nat
  deriving DecidableEq, Repr

/-- The schedulers, the calls so far and who has the manager's lock. -/
structure SchState where
  schs : List MtlSchImpl
  calls : List SchCall
  mgrLock : Option Nat
  implStarted : Bool
  deriving DecidableEq, Repr

variable (s : SchState)

/-- A session asks for a scheduler, a call takes its next step, a session puts what it was given, or the
busy flag of a scheduler changes. -/
inductive QuotaInput where
  | get (request : SchRequest)
  | advance (k : Nat)
  | put (k : Nat)
  | busy (idx : Nat) (flag : Bool)
  deriving DecidableEq, Repr

def SchState.goOn (k : Nat) (call : SchCall) (sch : MtlSchImpl) (phase : SchPhase) : SchState :=
  { s with schs := s.schs.set call.idx sch, calls := s.calls.set k { call with phase := phase } }

def SchState.lookAt (k : Nat) (call : SchCall) (phase : SchPhase) (idx : Nat) : SchState :=
  { s with calls := s.calls.set k { call with phase := phase, idx := idx } }

def SchState.unlock : SchState :=
  { s with mgrLock := none }

/-- The socket, mask, active and busy checks of `mt_sch_get_by_socket`. -/
def SchCall.passes (call : SchCall) (sch : MtlSchImpl) : Bool :=
  decide (sch.socketId = call.request.socket) && call.request.mask.testBit call.idx && sch.active &&
    !sch.cpuBusy

/-- The checks of `sch_request`. -/
def SchCall.finds (call : SchCall) (sch : MtlSchImpl) : Bool :=
  call.request.mask.testBit call.idx && !sch.active

/-- The steps of `mt_sch_get_by_socket` and `mt_sch_put` that concern a scheduler of the table. -/
def SchState.advanceOn (k : Nat) (call : SchCall) (sch : MtlSchImpl) : SchState :=
  match call.phase with
  | .scan =>
    if call.passes sch then s.goOn k call sch .capable
    else s.lookAt k call .scan (call.idx + 1)
  | .capable =>
    match schIsCapable sch call.request.quotaMbs call.request.type with
    | (sch, true) => s.goOn k call sch .add
    | (_, false) => s.lookAt k call .scan (call.idx + 1)
  | .add =>
    match mtSchAddQuota sch call.request.quotaMbs with
    | (sch, .ok _) => s.goOn k call sch .count
    | (_, .error _) => s.lookAt k call .scan (call.idx + 1)
  | .request =>
    if call.finds sch then
      s.goOn k call (sch.requested call.request.type call.request.socket) .addFresh
    else
      s.lookAt k call .request (call.idx + 1)
  | .addFresh =>
    match mtSchAddQuota sch call.request.quotaMbs with
    | (sch, .ok _) => s.goOn k call sch .start
    | (_, .error _) => s.goOn k call sch .undo
  | .start =>
    if !s.implStarted then s.goOn k call sch .count
    else
      match schStart sch with
      | (sch, .ok _) => s.goOn k call sch .count
      | (_, .error _) => s.goOn k call sch .undo
  | .undo => (s.goOn k call (schFree sch) .refused).unlock
  | .count => (s.goOn k call { sch with refCnt := sch.refCnt + 1 } .holding).unlock
  | .drop =>
    s.goOn k call { sch with refCnt := sch.refCnt - 1 } (if sch.refCnt - 1 = 0 then .stop else .done)
  | .stop => s.goOn k call (schStop sch) .free
  | .free => s.goOn k call (schFree sch) .done
  | _ => s

/-- The next step of a call: it takes the manager's lock when that is free, and comes to the end of the
table. -/
def SchState.advance (k : Nat) (call : SchCall) : SchState :=
  match call.phase with
  | .waiting =>
    match s.mgrLock with
    | none => { s.lookAt k call .scan 0 with mgrLock := some k }
    | some _ => s
  | _ =>
    match s.schs[call.idx]? with
    | some sch => s.advanceOn k call sch
    | none =>
      match call.phase with
      | .scan => s.lookAt k call .request 0
      | .request => (s.lookAt k call .refused call.idx).unlock
      | _ => s

/-- Gets and puts; a put begins with `sch_free_quota`. -/
def quotaStep : QuotaInput -> SchState
  | .get request => { s with calls := s.calls ++ [⟨request, .waiting, 0⟩] }
  | .advance k =>
    match s.calls[k]? with
    | none => s
    | some call => s.advance k call
  | .put k =>
    match s.calls[k]? with
    | none => s
    | some call =>
      if call.phase = .holding then
        match s.schs[call.idx]? with
        | none => s
        | some sch => s.goOn k call (schFreeQuota sch call.request.quotaMbs) .drop
      else
        s
  | .busy idx flag =>
    match s.schs[idx]? with
    | none => s
    | some sch => { s with schs := s.schs.set idx { sch with cpuBusy := flag } }

/-- `mt_sch_mrg_init` for a table of this many schedulers. -/
def schInit (count : Nat) (dataQuotaMbsLimit : Int) (implStarted : Bool) : SchState where
  schs := List.replicate count ⟨.default, false, 0, 0, dataQuotaMbsLimit, false, false, 0, none⟩
  calls := []
  mgrLock := none
  implStarted := implStarted

end MediaTransport.Sched
