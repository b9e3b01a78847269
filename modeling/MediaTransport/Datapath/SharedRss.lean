import MediaTransport.Datapath.Demux
import MediaTransport.Library.Run

namespace MediaTransport.Datapath

/-!
# Shared RSS while entries come and go

Handlers receive bursts while entries are got and put.  Each list of entries has a lock: a
handler keeps that of the list it looks in until it needs another, and a get or a put takes
its list's lock twice.  The system queue's entry is read without a lock.
-/

/-- `struct mt_srss_entry`: what it is matched with, its number, and whether it is in its list. -/
structure MtSrssEntry where
  flow : MtRxqFlow
  idx : Nat
  inserted : Bool
  deriving DecidableEq, Repr

/-- Where a handler stands with the packet at hand: it looks for the list or the entry, waits for the lock of a
list, tests the system entry, reads it again, or hands the packet to what it read. -/
inductive HandlerPhase where
  | look
  | lock (list : Nat)
  | testCni
  | readCni
  | enqueueCni (entry : Option Nat)
  | finished
  deriving DecidableEq, Repr

/-- The local variables of `srss_sch_tasklet_handler`: the rest of the burst at hand, and the bursts of the
queues that are still to come. -/
structure SrssHandler where
  pkts : List Mbuf
  queues : List (List Mbuf)
  lastList : Option Nat
  lastEntry : Option Nat
  matchedPkts : List Mbuf
  phase : HandlerPhase
  deriving DecidableEq, Repr

/-- Where a get stands. After the check it also tells how many entries there had been by then. -/
inductive GetPhase where
  | check
  | create (checked : Nat)
  | insert (checked : Nat)
  | returned (entry : Nat)
  | failed
  deriving DecidableEq, Repr

/-- Where a put stands. -/
inductive PutPhase where
  | check
  | clear
  | remove
  | free
  | finished
  | unknown
  deriving DecidableEq, Repr

/-- A call of `mt_srss_get` with the number it has read at its start, or of `mt_srss_put`. -/
inductive SrssCall where
  | get (flow : MtRxqFlow) (idx : Nat) (phase : GetPhase)
  | put (entry : Nat) (phase : PutPhase)
  deriving DecidableEq, Repr

/-- An entry was removed from its list, or packets were handed to `srss_entry_pkts_enqueue`. -/
inductive SrssEvent where
  | removed (entry : Nat)
  | enqueued (entry : Nat) (pkts : List Mbuf)
  deriving DecidableEq, Repr

/-- `struct mt_srss_impl` with the entries of all lists in the order in which they came, the numbers in the
names of the rings there are, and what handlers and calls are doing. -/
structure SrssState where
  listsSz : Nat
  entries : List MtSrssEntry
  cniEntry : Option Nat
  entryIdx : Nat
  rings : List Nat
  handlers : List SrssHandler
  calls : List SrssCall
  log : List SrssEvent
  deriving DecidableEq, Repr

variable (s : SrssState)

/-- After `mt_srss_init` -/
def mtSrssInit (listsSz : Nat) : SrssState :=
  ⟨listsSz, [], none, 0, [], [], [], []⟩

/-- A handler starts on its bursts or goes on, a get or a put starts, or a call goes on; its allocations
can fail. -/
inductive SrssInput where
  | rx (bursts : List (List Mbuf))
  | handle (k : Nat)
  | get (flow : MtRxqFlow)
  | put (entry : Nat)
  | call (k : Nat) (allocated : Bool)
  deriving DecidableEq, Repr

/-- `srss_list_by_udp_port` -/
def SrssState.listByUdpPort (port : Nat) : Nat :=
  port % s.listsSz

def SrssState.unlocked (list : Nat) : Bool :=
  s.handlers.all (fun handler => decide (handler.lastList ≠ some list))

/-! ## Handlers -/

def SrssState.setHandler (k : Nat) (handler : SrssHandler) : SrssState :=
  { s with handlers := s.handlers.set k handler }

/-- `srss_entry_pkts_enqueue` -/
def SrssState.enqueue (entry : Nat) (pkts : List Mbuf) : SrssState :=
  { s with log := s.log ++ [.enqueued entry pkts] }

/-- What `UPDATE_ENTRY` hands over. -/
def SrssState.flush (handler : SrssHandler) : SrssState :=
  match handler.lastEntry with
  | some last => if handler.matchedPkts = [] then s else s.enqueue last handler.matchedPkts
  | none => s

/-- What `UPDATE_ENTRY` sets. -/
def SrssHandler.updateEntry (handler : SrssHandler) (entry : Option Nat) : SrssHandler :=
  { handler with lastEntry := entry, matchedPkts := [] }

def SrssState.findIn (list : Nat) (hdr : MtUdpHdr) : Option Nat :=
  s.entries.findIdx? (fun entry =>
    entry.inserted && decide (s.listByUdpPort entry.flow.dstPort = list) && mtUdpMatched entry.flow hdr)

/-- The end of a burst: what is gathered is handed over, then the next queue's burst is received, and in the
end the lock is released. -/
def SrssState.endBurst (k : Nat) (handler : SrssHandler) : SrssState :=
  if handler.matchedPkts ≠ [] then (s.flush handler).setHandler k (handler.updateEntry none)
  else
    match handler.queues with
    | [] => s.setHandler k { handler with lastList := none, phase := .finished }
    | burst :: rest =>
      s.setHandler k { handler with pkts := burst, queues := rest, lastEntry := none, matchedPkts := [] }

/-- A packet whose list is locked. -/
def SrssState.matchPkt (k : Nat) (handler : SrssHandler) (list : Nat) (pkt : Mbuf) (rest : List Mbuf)
    : SrssState :=
  match s.findIn list pkt.hdr with
  | some entry =>
    if handler.lastEntry = some entry then
      s.setHandler k { handler with pkts := rest, matchedPkts := handler.matchedPkts ++ [pkt] }
    else
      (s.flush handler).setHandler k
        { handler with pkts := rest, lastEntry := some entry, matchedPkts := [pkt] }
  | none => (s.flush handler).setHandler k { handler.updateEntry none with phase := .testCni }

/-- What a handler does next with the packet at hand. -/
def SrssState.look (k : Nat) (handler : SrssHandler) : SrssState :=
  match handler.pkts with
  | [] => s.endBurst k handler
  | pkt :: rest =>
    if !pkt.hdr.isUdp then
      (s.flush handler).setHandler k { handler.updateEntry none with phase := .testCni }
    else
      let list := s.listByUdpPort pkt.hdr.dstPort
      if handler.lastList = some list then s.matchPkt k handler list pkt rest
      else s.setHandler k { handler with lastList := none, phase := .lock list }

/-- A step of a handler. With a null pointer for an entry it goes no further. -/
def SrssState.handle (k : Nat) (handler : SrssHandler) : SrssState :=
  match handler.phase with
  | .look => s.look k handler
  | .lock list =>
    if s.unlocked list then s.setHandler k { handler with lastList := some list, phase := .look } else s
  | .testCni =>
    match s.cniEntry with
    | none => s.setHandler k { handler with pkts := handler.pkts.tail, phase := .look }
    | some _ => s.setHandler k { handler with phase := .readCni }
  | .readCni => s.setHandler k { handler with phase := .enqueueCni s.cniEntry }
  | .enqueueCni (some entry) =>
    (s.enqueue entry (handler.pkts.take 1)).setHandler k
      { handler with pkts := handler.pkts.tail, phase := .look }
  | .enqueueCni none => s
  | .finished => s

/-! ## Gets and puts -/

def SrssState.setCall (k : Nat) (call : SrssCall) : SrssState :=
  { s with calls := s.calls.set k call }

/-- The entry is in a list and has the port and the address of the flow. -/
def MtSrssEntry.has (entry : MtSrssEntry) (flow : MtRxqFlow) : Bool :=
  entry.inserted && decide (entry.flow.dstPort = flow.dstPort) && decide (entry.flow.dipAddr = flow.dipAddr)

/-- A step of `mt_srss_get`. A ring whose name is taken is not created. -/
def SrssState.getStep (k : Nat) (flow : MtRxqFlow) (idx : Nat) (phase : GetPhase) (allocated : Bool)
    : SrssState :=
  let list := s.listByUdpPort flow.dstPort
  match phase with
  | .check =>
    if !s.unlocked list then s
    else if s.entries.any (fun entry => entry.has flow) then s.setCall k (.get flow idx .failed)
    else s.setCall k (.get flow idx (.create s.entries.length))
  | .create checked =>
    if !allocated || decide (idx ∈ s.rings) then s.setCall k (.get flow idx .failed)
    else { s.setCall k (.get flow idx (.insert checked)) with rings := idx :: s.rings }
  | .insert _ =>
    if !s.unlocked list then s
    else
      { s.setCall k (.get flow idx (.returned s.entries.length)) with
        entries := s.entries ++ [⟨flow, idx, true⟩]
        cniEntry := if flow.sysQueue then some s.entries.length else s.cniEntry
        entryIdx := s.entryIdx + 1 }
  | .returned _ => s
  | .failed => s

/-- A step of `mt_srss_put` -/
def SrssState.putStep (k idx : Nat) (entry : MtSrssEntry) (phase : PutPhase) : SrssState :=
  let list := s.listByUdpPort entry.flow.dstPort
  match phase with
  | .check =>
    if !s.unlocked list then s
    else if entry.inserted then s.setCall k (.put idx .clear)
    else s.setCall k (.put idx .unknown)
  | .clear =>
    { s.setCall k (.put idx .remove) with
      cniEntry := if s.cniEntry = some idx then none else s.cniEntry }
  | .remove =>
    if !s.unlocked list then s
    else
      { s.setCall k (.put idx .free) with
        entries := s.entries.set idx { entry with inserted := false }
        log := s.log ++ [.removed idx] }
  | .free => { s.setCall k (.put idx .finished) with rings := s.rings.erase entry.idx }
  | .finished => s
  | .unknown => s

def SrssCall.puts (call : SrssCall) (idx : Nat) : Bool :=
  match call with
  | .put entry phase => decide (entry = idx) && decide (phase ≠ .finished) && decide (phase ≠ .unknown)
  | .get _ _ _ => false

/-- A step of the machine. What a get has returned is put by one caller at a time. -/
def srssStep : SrssInput -> SrssState
  | .rx bursts =>
    { s with handlers := s.handlers ++ [⟨[], bursts, none, none, [], .look⟩] }
  | .handle k =>
    match s.handlers[k]? with
    | none => s
    | some handler => s.handle k handler
  | .get flow => { s with calls := s.calls ++ [.get flow s.entryIdx .check] }
  | .put idx =>
    if s.entries.length ≤ idx || s.calls.any (fun call => call.puts idx) then s
    else { s with calls := s.calls ++ [.put idx .check] }
  | .call k allocated =>
    match s.calls[k]? with
    | none => s
    | some (.get flow idx phase) => s.getStep k flow idx phase allocated
    | some (.put idx phase) =>
      match s.entries[idx]? with
      | none => s
      | some entry => s.putStep k idx entry phase

end MediaTransport.Datapath
