import MediaTransport.Library.Table

namespace MediaTransport.Datapath

open Library

/-!
# Demultiplexing of received bursts

Shared queues and shared RSS hand each packet of a burst to the ring of the entry whose
flow it matches.  Packets of the same entry are gathered while they follow one another,
and go to the ring together or not at all.
-/

/-- The part of `struct mt_rxq_flow` that packets are matched with; the address is as in memory. -/
structure MtRxqFlow where
  dipAddr : Nat
  dstPort : Nat
  noIp : Bool
  noPort : Bool
  sysQueue : Bool
  deriving DecidableEq, Repr

/-- The fields of `struct mt_udp_hdr` that are looked at; addresses as in memory, the others in host order. -/
structure MtUdpHdr where
  etherType : Nat
  nextProtoId : Nat
  srcAddr : Nat
  dstAddr : Nat
  dstPort : Nat
  deriving DecidableEq, Repr

/-- A received mbuf. -/
structure Mbuf where
  id : Nat
  hdr : MtUdpHdr
  deriving DecidableEq, Repr

/-- `mt_is_multicast_ip` -/
def mtIsMulticastIp (ip : Nat) : Bool :=
  decide (224 ≤ ip % 256) && decide (ip % 256 ≤ 239)

/-- `mt_udp_matched` -/
def mtUdpMatched (flow : MtRxqFlow) (hdr : MtUdpHdr) : Bool :=
  let ipMatched :=
    if flow.noIp then true
    else if mtIsMulticastIp flow.dipAddr then decide (hdr.dstAddr = flow.dipAddr)
    else decide (hdr.srcAddr = flow.dipAddr)
  let portMatched := if flow.noPort then true else decide (hdr.dstPort = flow.dstPort)
  ipMatched && portMatched

/-- An entry with what its ring holds, and how much more it takes. -/
structure RxEntry where
  flow : MtRxqFlow
  ring : List Mbuf
  room : Nat
  deriving DecidableEq, Repr

/-- What was done with mbufs: some went to the ring of an entry, some were freed because they did not fit
there, and one was freed because nobody wants it. -/
inductive RxEvent where
  | enqueued (entry : Nat) (pkts : List Mbuf)
  | full (entry : Nat) (pkts : List Mbuf)
  | dropped (pkt : Mbuf)
  deriving DecidableEq, Repr

/-- The local variables of a handler with the entries, the mbufs that were freed, and what was done. -/
structure RxState where
  entries : List RxEntry
  lastEntry : Option Nat
  matchedPkts : List Mbuf
  freed : List Mbuf
  log : List RxEvent
  deriving DecidableEq, Repr

/-! ## The loop -/

variable (s : RxState) (idx : Nat)

/-- `rsq_entry_pkts_enqueue` and `srss_entry_pkts_enqueue` -/
def RxState.enqueue (pkts : List Mbuf) : RxState :=
  match s.entries[idx]? with
  | none => s
  | some entry =>
    if pkts.length ≤ entry.room then
      { s with
        entries := s.entries.set idx
          { entry with ring := entry.ring ++ pkts, room := entry.room - pkts.length }
        log := s.log ++ [.enqueued idx pkts] }
    else
      { s with freed := s.freed ++ pkts, log := s.log ++ [.full idx pkts] }

/-- `UPDATE_ENTRY` -/
def RxState.updateEntry (entry : Option Nat) : RxState :=
  let flushed :=
    match s.lastEntry with
    | some last => if s.matchedPkts = [] then s else s.enqueue last s.matchedPkts
    | none => s
  { flushed with lastEntry := entry, matchedPkts := [] }

/-- What nobody matches goes to the system queue's entry; where there is none, one of the two handlers frees
it. -/
def RxState.toCni (cniEntry : Option Nat) (freeUnmatched : Bool) (pkt : Mbuf) : RxState :=
  match cniEntry with
  | some cni => s.enqueue cni [pkt]
  | none =>
    if freeUnmatched then { s with freed := s.freed ++ [pkt], log := s.log ++ [.dropped pkt] } else s

/-- One turn of the loop; `find` gives the first entry that the packet matches. -/
def demuxPkt (find : Mbuf -> Option Nat) (cniEntry : Option Nat) (freeUnmatched : Bool) (s : RxState)
    (pkt : Mbuf) : RxState :=
  match find pkt with
  | some entry =>
    let s := if s.lastEntry = some entry then s else s.updateEntry (some entry)
    { s with matchedPkts := s.matchedPkts ++ [pkt] }
  | none => (s.updateEntry none).toCni cniEntry freeUnmatched pkt

/-! ## The two handlers -/

/-- The system queue's entry is one of the entries, and was asked for as such. -/
def SystemEntry (entries : List RxEntry) (cniEntry : Option Nat) : Prop :=
  forall idx, cniEntry = some idx -> exists entry, entries[idx]? = some entry ∧ entry.flow.sysQueue = true

/-- `struct mt_rsq_queue`, its list from the head. -/
structure MtRsqQueue where
  entries : List RxEntry
  cniEntry : Option Nat
  system : SystemEntry entries cniEntry

/-- The first entry of the list that `rsq_rx` matches the packet with. -/
def MtRsqQueue.find (queue : MtRsqQueue) (pkt : Mbuf) : Option Nat :=
  queue.entries.findIdx? (fun entry => mtUdpMatched entry.flow pkt.hdr)

/-- `rsq_rx` of a burst -/
def rsqRx (queue : MtRsqQueue) (pkts : List Mbuf) : RxState :=
  (pkts.foldl (demuxPkt queue.find queue.cniEntry false) ⟨queue.entries, none, [], [], []⟩).updateEntry none

/-- `struct mt_srss_impl` with the entries of all lists in the order in which they came; an entry is in the
list of its port. -/
structure MtSrssImpl where
  entries : List RxEntry
  cniEntry : Option Nat
  listsSz : Nat
  system : SystemEntry entries cniEntry

/-- The entry is in the list of a packet's port, by `srss_list_by_udp_port`. -/
def MtSrssImpl.inList (srss : MtSrssImpl) (entry : RxEntry) (hdr : MtUdpHdr) : Bool :=
  decide (entry.flow.dstPort % srss.listsSz = hdr.dstPort % srss.listsSz)

def MtUdpHdr.isUdp (hdr : MtUdpHdr) : Bool :=
  decide (hdr.etherType = 0x0800) && decide (hdr.nextProtoId = 17)

/-- The first entry of the port's list that `srss_sch_tasklet_handler` matches the packet with. -/
def MtSrssImpl.find (srss : MtSrssImpl) (pkt : Mbuf) : Option Nat :=
  if !pkt.hdr.isUdp then none
  else srss.entries.findIdx? (fun entry => srss.inList entry pkt.hdr && mtUdpMatched entry.flow pkt.hdr)

/-- One queue of `srss_sch_tasklet_handler` -/
def srssRxQueue (srss : MtSrssImpl) (s : RxState) (pkts : List Mbuf) : RxState :=
  if pkts = [] then s
  else
    (pkts.foldl (demuxPkt srss.find srss.cniEntry true)
      { s with lastEntry := none, matchedPkts := [] }).updateEntry none

/-- `srss_sch_tasklet_handler` for the bursts of its queues -/
def srssSchTaskletHandler (srss : MtSrssImpl) (bursts : List (List Mbuf)) : RxState :=
  bursts.foldl (srssRxQueue srss) ⟨srss.entries, none, [], [], []⟩

/-! ## What is promised -/

def RxEvent.pkts : RxEvent -> List Mbuf
  | .enqueued _ pkts => pkts
  | .full _ pkts => pkts
  | .dropped pkt => [pkt]

def RxEvent.sentTo : RxEvent -> List Mbuf
  | .enqueued entry pkts => if entry = idx then pkts else []
  | .full entry pkts => if entry = idx then pkts else []
  | .dropped _ => []

def RxEvent.enqueuedTo : RxEvent -> List Mbuf
  | .enqueued entry pkts => if entry = idx then pkts else []
  | _ => []

def RxEvent.freedPkts : RxEvent -> List Mbuf
  | .enqueued _ _ => []
  | .full _ pkts => pkts
  | .dropped pkt => [pkt]

def RxEvent.droppedPkts : RxEvent -> List Mbuf
  | .dropped pkt => [pkt]
  | _ => []

/-- Each mbuf is disposed of once: it is meant for an entry whose flow matches it if there is one, else for
the system queue's entry if there is one, in the order of arrival for each entry; it goes to that ring, or is
freed where the ring has no room; and what nobody wants is freed. -/
structure Demuxed (matched : RxEntry -> Mbuf -> Bool) (entries : List RxEntry) (cniEntry : Option Nat)
    (pkts : List Mbuf) (after : RxState) : Prop where
  once : (after.log.flatMap RxEvent.pkts).Perm pkts
  ordered : forall idx, (after.log.flatMap (RxEvent.sentTo idx)).Sublist pkts
  routed : forall idx pkt, pkt ∈ after.log.flatMap (RxEvent.sentTo idx) ->
    (exists entry, entries[idx]? = some entry ∧ matched entry pkt = true) ∨
      ((∀ entry ∈ entries, matched entry pkt = false) ∧ cniEntry = some idx)
  unwanted : ∀ pkt ∈ after.log.flatMap RxEvent.droppedPkts,
    (∀ entry ∈ entries, matched entry pkt = false) ∧ cniEntry = none
  rings : forall (idx : Nat) (entry : RxEntry), entries[idx]? = some entry ->
    exists last, after.entries[idx]? = some last ∧
      last.ring = entry.ring ++ after.log.flatMap (RxEvent.enqueuedTo idx)
  freed : after.freed = after.log.flatMap RxEvent.freedPkts
  noRoom : forall (idx : Nat) (lost : List Mbuf), RxEvent.full idx lost ∈ after.log ->
    exists last, after.entries[idx]? = some last ∧ last.room < lost.length

/-! ## The rings -/

/-- The rings and the freed mbufs are what the log says. -/
structure RxState.Ledger (entries : List RxEntry) (s : RxState) : Prop where
  length : s.entries.length = entries.length
  rings : forall (idx : Nat) (entry : RxEntry), entries[idx]? = some entry ->
    exists last, s.entries[idx]? = some last ∧
      last.ring = entry.ring ++ s.log.flatMap (RxEvent.enqueuedTo idx)
  freed : s.freed = s.log.flatMap RxEvent.freedPkts
  noRoom : forall (idx : Nat) (lost : List Mbuf), RxEvent.full idx lost ∈ s.log ->
    exists last, s.entries[idx]? = some last ∧ last.room < lost.length

theorem RxState.enqueue_log {s : RxState} {idx : Nat} (bound : idx < s.entries.length) (pkts : List Mbuf) :
    (s.enqueue idx pkts).lastEntry = s.lastEntry ∧ (s.enqueue idx pkts).matchedPkts = s.matchedPkts ∧
      exists event, (s.enqueue idx pkts).log = s.log ++ [event] ∧ event.pkts = pkts ∧
        event.droppedPkts = [] ∧ forall other, event.sentTo other = if idx = other then pkts else [] := by
  unfold RxState.enqueue
  rw [List.getElem?_eq_getElem bound]
  dsimp only
  split_ifs
  · exact ⟨rfl, rfl, .enqueued idx pkts, rfl, rfl, rfl, fun _ => rfl⟩
  · exact ⟨rfl, rfl, .full idx pkts, rfl, rfl, rfl, fun _ => rfl⟩

theorem RxState.Ledger.enqueue {entries : List RxEntry} {s : RxState} (ledger : s.Ledger entries) {idx : Nat}
    (bound : idx < s.entries.length) (pkts : List Mbuf) : (s.enqueue idx pkts).Ledger entries := by
  have present : s.entries[idx]? = some s.entries[idx] := List.getElem?_eq_getElem bound
  generalize s.entries[idx] = own at present
  unfold RxState.enqueue
  rw [present]
  dsimp only
  split_ifs with fits
  · constructor
    · rw [List.length_set]
      exact ledger.length
    · intro place entry was
      rcases ledger.rings place entry was with ⟨last, now, ring⟩
      dsimp only
      rw [getElem?_replace present]
      by_cases same : place = idx
      · subst same
        obtain rfl : own = last := Option.some.inj (present.symm.trans now)
        refine ⟨_, if_pos rfl, ?_⟩
        simp [ring, RxEvent.enqueuedTo]
      · refine ⟨last, by rw [if_neg same]; exact now, ?_⟩
        simp [ring, RxEvent.enqueuedTo, Ne.symm same]
    · simp [ledger.freed, RxEvent.freedPkts]
    · intro place lost member
      rcases List.mem_append.mp member with old | new
      · rcases ledger.noRoom place lost old with ⟨last, now, room⟩
        dsimp only
        rw [getElem?_replace present]
        by_cases same : place = idx
        · subst same
          obtain rfl : own = last := Option.some.inj (present.symm.trans now)
          refine ⟨_, if_pos rfl, ?_⟩
          show own.room - pkts.length < lost.length
          omega
        · exact ⟨last, by rw [if_neg same]; exact now, room⟩
      · cases List.mem_singleton.mp new
  · constructor
    · exact ledger.length
    · intro place entry was
      rcases ledger.rings place entry was with ⟨last, now, ring⟩
      exact ⟨last, now, by simp [ring, RxEvent.enqueuedTo]⟩
    · simp [ledger.freed, RxEvent.freedPkts]
    · intro place lost member
      rcases List.mem_append.mp member with old | new
      · exact ledger.noRoom place lost old
      · cases List.mem_singleton.mp new
        exact ⟨own, present, by omega⟩

end MediaTransport.Datapath
